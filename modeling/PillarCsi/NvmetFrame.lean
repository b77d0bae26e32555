import PillarCsi.Nvmet

/-!
What the operations on one NVMe-oF target leave alone: the subsystem of every
other target, with its namespace and allowed hosts, and its links to ports.
-/

namespace PillarCsi.Nvmet

open FalliblePrograms ItemTree Configfs Program SeparatedNames

/-- The subsystem named `nqn`, and its links in the ports. -/
def nvmetRegion (k : Kernel) (nqn : Name) : Region := fun q node =>
  decide (k.root ++ [.of "nvmet", .of "subsystems", nqn] <+: q) ||
    (node.isLink &&
      decide (∃ id ∈ q, k.root ++ [.of "nvmet", .of "ports", id, .of "subsystems", nqn] <+: q))

namespace NvmetTarget

/-- The steps on a path, and on the way to it, keep an invariant. -/
structure Bears (k : Kernel) (I : Tree → Prop) (p : Path) : Prop where
  mkdir : ∀ q, q <+: p → ∀ t t', I t → t.mkdir k.defaults q = some t' → I t'
  write : ∀ value t t', I t → t.write p value = some t' → I t'
  symlink : ∀ target t t', I t → t.symlink target p = some t' → I t'
  unlink : ∀ t t', I t → t.unlink p = some t' → I t'

section Invariants

variable {host : Host} {t : NvmetTarget} {I : Tree → Prop} {hostNQN : String} {port : Name}
  {path : Path}

theorem Bears.mkdirAll_parent {parent : Path} (h : Bears host.kernel I path)
    (hparent : parent <+: path) : Preserves I (mkdirAll host.kernel parent) :=
  invariant_mkdirAll fun q hq => h.mkdir q (hq.trans hparent)

theorem Bears.writeFile (h : Bears host.kernel I path) (value : String) :
    Preserves I (writeFile path value) :=
  invariant_writeFile (h.write value)

theorem Bears.symlinkTo (h : Bears host.kernel I path) (target : Path) :
    Preserves I (Configfs.symlink target path) :=
  invariant_symlink (h.symlink target)

theorem invariant_desiredIdentity : Preserves I (t.desiredIdentity host) := by
  unfold desiredIdentity
  split
  · exact .pure _
  · exact .ite (.pure _) .fail

theorem invariant_requireNamespace : Preserves I (t.requireNamespace host) :=
  Preserves.query.bind fun _ => .ite .fail (.pure _)

theorem invariant_liveIdentity : Preserves I (t.liveIdentity host) :=
  invariant_readAttr.bind fun _ => invariant_readAttr.bind fun _ =>
    .ite (.pure _)
      (invariant_readAttr.bind fun _ => invariant_readAttr.bind fun _ => .pure _)

theorem invariant_hostReferenced (subsystems : List (Name × Node)) :
    Preserves I (hostReferenced host hostNQN subsystems) := by
  induction subsystems with
  | nil => exact .pure _
  | cons entry rest ih => exact Preserves.query.bind fun _ => .ite (.pure _) ih

theorem invariant_pruneHostLocked
    (hrmdir : ∀ t t', I t → t.rmdir (hostDir host hostNQN) = some t' → I t') :
    Preserves I (pruneHostLocked host hostNQN) := by
  refine Preserves.query.bind fun _ => .ite (.pure _) ?_
  refine Preserves.query.bind fun subsystems => ?_
  refine (invariant_hostReferenced subsystems).bind fun _ => .ite (.pure _) ?_
  exact invariant_removeDirVerified (invariant_removeDir hrmdir)

theorem invariant_restoreLink {target : Path} (h : Bears host.kernel I path) :
    Preserves I (restoreLink host target path) :=
  (h.mkdirAll_parent (List.dropLast_prefix path)).bind fun _ => h.symlinkTo target

theorem invariant_denyHost (hlink : Bears host.kernel I (t.allowedHostLink host hostNQN))
    (hrmdir : ∀ t t', I t → t.rmdir (hostDir host hostNQN) = some t' → I t') :
    Preserves I (t.denyHost host hostNQN) := by
  refine Preserves.query.bind fun _ => (invariant_removeSymlink hlink.unlink).bind fun _ => ?_
  refine (invariant_pruneHostLocked hrmdir).attempt.bind fun pruned => ?_
  match pruned with
  | .ok () => exact .pure _
  | .error _ => exact (invariant_restoreLink hlink).ignore.when.bind fun _ => .fail

theorem invariant_portHasSubsystems : Preserves I (portHasSubsystems host port) :=
  Preserves.query.bind fun _ => .pure _

section Ports

variable {spec : PortSpec}
  (hattr : ∀ attr, Bears host.kernel I (portDir host spec.id ++ [attr]))
include hattr

theorem invariant_ensureInlineDataSizeLocked :
    Preserves I (ensureInlineDataSizeLocked host spec) := by
  refine invariant_readAttr.bind fun _ => invariant_portHasSubsystems.bind fun linked => ?_
  match linked, spec.inlineDataSize with
  | true, none => exact .pure _
  | true, some _ => exact .ite (.pure _) .fail
  | false, none | false, some _ => exact .ite (.pure _) ((hattr _).writeFile _)

theorem invariant_ensureMDTSLocked : Preserves I (ensureMDTSLocked host spec) := by
  refine Preserves.query.bind fun _ => .ite (.pure _) ?_
  refine invariant_readAttr.bind fun _ => invariant_portHasSubsystems.bind fun _ => ?_
  refine .ite (.ite (.pure _) .fail) ?_
  exact .ite (.pure _) ((hattr _).writeFile _)

theorem invariant_ensurePortLocked : Preserves I (ensurePortLocked host spec) := by
  refine ((hattr spec.id).mkdirAll_parent (List.prefix_append _ _)).bind fun _ => ?_
  refine (Preserves.forEach fun attr _ => ?_).bind fun _ => ?_
  · exact invariant_ensureAttr ((hattr attr.1).write attr.2)
  · exact (invariant_ensureInlineDataSizeLocked hattr).bind fun _ =>
      invariant_ensureMDTSLocked hattr

end Ports

theorem invariant_prunePortLocked
    (hrmdir : ∀ t t', I t → t.rmdir (portDir host port) = some t' → I t') :
    Preserves I (prunePortLocked host port) := by
  refine Preserves.query.bind fun _ => .ite (.pure _) ?_
  refine Preserves.query.bind fun _ => .ite (.pure _) ?_
  exact invariant_removeDirVerified (invariant_removeDir hrmdir)

theorem invariant_linkSubsystemToPort {spec : PortSpec}
    (hattr : ∀ attr, Bears host.kernel I (portDir host spec.id ++ [attr]))
    (hlink : Bears host.kernel I (t.portSubsystemLink host spec.id))
    (hrmdir : ∀ t t', I t → t.rmdir (portDir host spec.id) = some t' → I t') :
    Preserves I (t.linkSubsystemToPort host spec) := by
  refine .bind (.attempt ?_) fun linked => ?_
  · refine (invariant_ensurePortLocked hattr).bind fun _ => ?_
    exact (hlink.mkdirAll_parent (List.dropLast_prefix _)).bind fun _ => hlink.symlinkTo _
  · match linked with
    | .ok () => exact .pure _
    | .error _ => exact (invariant_prunePortLocked hrmdir).ignore.bind fun _ => .fail

theorem invariant_unlinkFromPort (hlink : Bears host.kernel I (t.portSubsystemLink host port))
    (hrmdir : ∀ t t', I t → t.rmdir (portDir host port) = some t' → I t') :
    Preserves I (t.unlinkFromPort host port) := by
  refine Preserves.query.bind fun _ => .ite (.pure _) ?_
  refine (invariant_removeSymlink hlink.unlink).bind fun _ => ?_
  refine (invariant_prunePortLocked hrmdir).attempt.bind fun pruned => ?_
  match pruned with
  | .ok () => exact .pure _
  | .error _ => exact (invariant_restoreLink hlink).ignore.bind fun _ => .fail

theorem invariant_portSpec : Preserves I (t.portSpec host) := by
  unfold portSpec
  dsimp only
  split
  · exact .fail
  · exact .ite .fail (.pure _)

theorem invariant_verifyAttr {want : String} : Preserves I (verifyAttr path want) :=
  invariant_readAttr.bind fun _ => .ite (.pure _) .fail

theorem yields_verifyAttr {P : Tree → Prop} (hI : ∀ tree, P tree → I tree)
    {want : String} : Yields P (verifyAttr path want) (fun _ tree => P tree ∧ Reads tree path want) I :=
  (yields_readAttr hI).bind fun _ =>
    .ite (fun hgot => .pure _ fun _ h => ⟨h.1, hgot ▸ h.2⟩) fun _ => .fail fun tree h => hI tree h.1

theorem yields_verifyPrepared {id : Identity} : Yields I (t.verifyPrepared host id)
    (fun _ tree => I tree ∧ Reads tree (t.subsystemDir host ++ [.of "attr_serial"]) id.serial) I := by
  refine invariant_verifyAttr.seq fun _ => (yields_verifyAttr fun _ h => h).bind fun _ => ?_
  -- The rest is only read.
  refine Triple.returns (invariant_verifyAttr.bind fun _ => invariant_verifyAttr.bind fun _ => ?_)
    fun _ h => h.1
  refine invariant_verifyAttr.bind fun _ => invariant_verifyAttr.bind fun _ => .forEach fun _ _ => ?_
  exact Preserves.query.bind fun _ => .ite (.pure _) .fail

end Invariants

section Places

variable {k : Kernel} {other : Name}

theorem apart_iff {q : Path} : Apart (nvmetRegion k other) q ↔
    ¬k.root ++ [.of "nvmet", .of "subsystems", other] <+: q ∧
      ∀ id ∈ q, ¬k.root ++ [.of "nvmet", .of "ports", id, .of "subsystems", other] <+: q := by
  constructor
  · intro h
    have hlink := h (.link [])
    simpa [nvmetRegion, Node.isLink] using hlink
  · rintro ⟨hsubsystem, hport⟩ node
    simp only [nvmetRegion, hsubsystem, decide_false, Bool.false_or, Bool.and_eq_false_iff,
      decide_eq_false_iff_not]
    right
    rintro ⟨id, hid, hunder⟩
    exact hport id hid hunder

theorem foreign_of_diverge {rest : Path}
    (hsubsystem : ¬[.of "nvmet", .of "subsystems", other] <+: rest ∧
      ¬rest <+: [.of "nvmet", .of "subsystems", other])
    (hport : ∀ id, ¬[.of "nvmet", .of "ports", id, .of "subsystems", other] <+: rest ∧
      ¬rest <+: [.of "nvmet", .of "ports", id, .of "subsystems", other]) :
    Foreign (nvmetRegion k other) (k.root ++ rest) := by
  intro q hq
  rw [apart_iff]
  exact ⟨not_prefix_of_diverge hsubsystem.1 hsubsystem.2 hq,
    fun id _ => not_prefix_of_diverge (hport id).1 (hport id).2 hq⟩

theorem framed : Framed k (nvmetRegion k other) where
  below p q hpq hq := by
    rw [apart_iff] at hq ⊢
    exact ⟨fun h => hq.1 (h.trans hpq), fun id hid h => hq.2 id (hpq.subset hid) (h.trans hpq)⟩
  defaults p hp e he := by
    obtain ⟨r, rfl, hobject⟩ := k.mem_defaults he
    rw [apart_iff] at hp ⊢
    simp only [List.append_assoc, List.prefix_append_right_inj] at hp ⊢
    refine ⟨fun h => hp.1 (k.isPrefix_of_part hobject h (.inl (by simp))), fun id _ h => ?_⟩
    have hunder := k.isPrefix_of_part hobject h (.inr (.inr ⟨_, rfl, by simp⟩))
    exact hp.2 id (List.mem_append_right _ (hunder.subset (by simp))) hunder

end Places

/-- Nothing of the target lies in the region, nor do the hosts and ports that it
shares with others; what the kernel refuses to remove under a link stays. -/
structure ApartFrom (host : Host) (t : NvmetTarget) (r : Region) : Prop where
  framed : Framed host.kernel r
  subsystem : Foreign r (t.subsystemDir host)
  hostDir : ∀ hostNQN : String, IsName hostNQN.toList → Foreign r (hostDir host hostNQN)
  portLink : ∀ port, Foreign r (t.portSubsystemLink host port)
  portAttr : ∀ port attr, Apart r (portDir host port ++ [attr])
  portRemoved : ∀ port (tree tree' : Tree), tree.rmdir (portDir host port) = some tree' →
    view r tree' = view r tree

theorem apart_portDir_attr (host : Host) (other port attr : Name) :
    Apart (nvmetRegion host.kernel other) (portDir host port ++ [attr]) := by
  rw [apart_iff]
  unfold portDir portsDir nvmetRoot
  simp [List.prefix_append_right_inj, List.cons_prefix_cons]

/-- A port goes only when no subsystem is linked to it: the kernel refuses to
remove it under a link. -/
theorem view_rmdir_portDir {host : Host} {port other : Name} {tree tree' : Tree}
    (h : tree.rmdir (portDir host port) = some tree') :
    view (nvmetRegion host.kernel other) tree' = view (nvmetRegion host.kernel other) tree := by
  have hapart : Apart (nvmetRegion host.kernel other) (portDir host port) :=
    framed.below _ _ (List.prefix_append _ _) (apart_portDir_attr host other port port)
  refine view_rmdir hapart (fun q node hq hregion => ?_) h
  have hsubsystem : ¬host.kernel.root ++ [.of "nvmet", .of "subsystems", other] <+: q := by
    intro h
    unfold portDir portsDir nvmetRoot at hq
    simp only [List.append_assoc, List.cons_append, List.nil_append] at hq
    rcases List.prefix_or_prefix_of_prefix hq h with hplace | hplace <;>
      simp [List.prefix_append_right_inj, List.cons_prefix_cons] at hplace
  simp only [nvmetRegion, hsubsystem, decide_false, Bool.false_or, Bool.and_eq_true] at hregion
  cases node with
  | link target => rfl
  | group | item | attr value => cases hregion.1

theorem apartFrom {host : Host} {t : NvmetTarget} {mine other : Name}
    (hnqn : t.subsystemNQN = mine.text) (hne : mine ≠ other) :
    ApartFrom host t (nvmetRegion host.kernel other) where
  framed := framed
  subsystem := by
    have hdir : t.subsystemDir host =
        host.kernel.root ++ [.of "nvmet", .of "subsystems", mine] := by
      simp [subsystemDir, nvmetRoot, hnqn, join_name]
    rw [hdir]
    apply foreign_of_diverge
    · simp [List.cons_prefix_cons, hne, Ne.symm hne]
    · simp [List.cons_prefix_cons]
  hostDir hostNQN hname := by
    unfold NvmetTarget.hostDir nvmetRoot
    rw [join_of_isName _ hname, List.append_assoc, List.append_assoc]
    apply foreign_of_diverge <;> simp [List.cons_prefix_cons]
  portLink port := by
    have hlink : t.portSubsystemLink host port =
        host.kernel.root ++ [.of "nvmet", .of "ports", port, .of "subsystems", mine] := by
      simp [portSubsystemLink, portDir, portsDir, nvmetRoot, hnqn, join_name]
    rw [hlink]
    apply foreign_of_diverge
    · simp [List.cons_prefix_cons]
    · simp [List.cons_prefix_cons, hne, Ne.symm hne]
  portAttr := apart_portDir_attr host other
  portRemoved _ _ _ := view_rmdir_portDir

section Operations

variable {host : Host} {t : NvmetTarget} {r : Region} {before : List (Path × Node)}
  {hostNQN : String}

variable (h : ApartFrom host t r) (hname : IsName hostNQN.toList)

include h

theorem ApartFrom.bears_of_apart {p : Path} (hp : Apart r p) :
    Bears host.kernel (Same r before) p where
  mkdir q hq _ _ ht hmkdir := by
    have hparent := h.framed.below q p hq hp
    exact (view_mkdir hparent (h.framed.defaults q hparent) hmkdir).trans ht
  write _ _ _ ht hwrite := (view_write hp hwrite).trans ht
  symlink _ _ _ ht hlink := (view_symlink hp hlink).trans ht
  unlink _ _ ht hunlink := (view_unlink hp hunlink).trans ht

theorem ApartFrom.namespaceDir : Foreign r (t.namespaceDir host) :=
  h.subsystem.append _

theorem ApartFrom.namespaceAttr (attr : Name) : Apart r (t.namespaceDir host ++ [attr]) :=
  (h.namespaceDir.append [attr]).apart

theorem ApartFrom.createSubsystem : Preserves (Same r before) (t.createSubsystem host) := by
  refine invariant_desiredIdentity.bind fun id => ?_
  refine (preserves_mkdirAll h.framed h.subsystem.apart).bind fun _ => ?_
  refine (preserves_writeFile (h.subsystem.append _).apart).bind fun _ => ?_
  exact preserves_ensureAttr (h.subsystem.append _).apart

theorem ApartFrom.disableNamespace : Preserves (Same r before) (t.disableNamespace host) :=
  preserves_readAttr.bind fun _ => .ite (.pure _) (preserves_writeFile (h.namespaceAttr _))

theorem ApartFrom.enableNamespace : Preserves (Same r before) (t.enableNamespace host) := by
  refine preserves_readAttr.bind fun _ => .ite (.pure _) ?_
  refine preserves_readAttr.bind fun _ => ?_
  refine (Preserves.when .query).bind fun _ => ?_
  refine (preserves_writeFile (h.namespaceAttr _)).attempt.bind fun written => ?_
  refine (Preserves.when .query).attempt.bind fun released => ?_
  match written, released with
  | .ok (), .ok () => exact .pure _
  | .error _, _ | .ok (), .error _ => exact .fail

theorem ApartFrom.ensureIdentifier (enabled : String) (attr : Name)
    (want : String) : Preserves (Same r before) (t.ensureIdentifier host enabled attr want) :=
  .ite (preserves_ensureAttr (h.namespaceAttr attr))
    (preserves_readAttr.bind fun _ => .ite (.pure _) .fail)

theorem ApartFrom.createNamespace : Preserves (Same r before) (t.createNamespace host) := by
  refine invariant_desiredIdentity.bind fun id => ?_
  refine (preserves_mkdirAll h.framed h.namespaceDir.apart).bind fun _ => ?_
  refine h.disableNamespace.when.bind fun _ => ?_
  refine (preserves_ensureAttr (h.namespaceAttr _)).bind fun _ => ?_
  refine .bind ?_ fun _ => h.enableNamespace.when
  refine preserves_readAttr.bind fun enabled => ?_
  exact (h.ensureIdentifier enabled _ _).bind fun _ => h.ensureIdentifier enabled _ _

theorem ApartFrom.DisableNamespace : Preserves (Same r before) (t.DisableNamespace host) := by
  refine invariant_requireNamespace.bind fun _ => h.disableNamespace.bind fun _ => ?_
  exact preserves_readAttr.bind fun _ => .ite .fail (.pure _)

theorem ApartFrom.EnableNamespace : Preserves (Same r before) (t.EnableNamespace host) :=
  invariant_requireNamespace.bind fun _ => h.enableNamespace

-- The host NQN of a request is a path element; the frame needs it to be one entry.
include hname in
theorem ApartFrom.allowedHostLink : Foreign r (t.allowedHostLink host hostNQN) := by
  unfold NvmetTarget.allowedHostLink allowedHostsDir
  rw [join_of_isName _ hname, List.append_assoc]
  exact h.subsystem.append _

include hname in
theorem ApartFrom.allowHost : Preserves (Same r before) (t.allowHost host hostNQN) := by
  refine (preserves_mkdirAll h.framed (h.hostDir _ hname).apart).bind fun _ => ?_
  refine (preserves_mkdirAll h.framed (h.subsystem.append _).apart).bind fun _ => ?_
  exact preserves_symlink (h.allowedHostLink hname).apart

include hname in
theorem ApartFrom.denyHost : Preserves (Same r before) (t.denyHost host hostNQN) := by
  refine invariant_denyHost (h.bears_of_apart (h.allowedHostLink hname).apart) ?_
  intro tree tree' htree hrmdir
  exact (view_rmdir_of_foreign (h.hostDir _ hname) hrmdir).trans htree

theorem ApartFrom.revokeHostsExcept (keep : List String) :
    Preserves (Same r before) (t.revokeHostsExcept host keep) :=
  Preserves.query.bind fun _ => .forEach fun entry _ => (h.denyHost entry.1.isName).when

theorem ApartFrom.linkSubsystemToPort (spec : PortSpec) :
    Preserves (Same r before) (t.linkSubsystemToPort host spec) := by
  refine invariant_linkSubsystemToPort (fun attr => ?_) ?_ fun tree tree' htree hrmdir => ?_
  · exact h.bears_of_apart (h.portAttr spec.id attr)
  · exact h.bears_of_apart (h.portLink spec.id).apart
  · exact (h.portRemoved _ _ _ hrmdir).trans htree

theorem ApartFrom.unlinkFromPort (port : Name) :
    Preserves (Same r before) (t.unlinkFromPort host port) := by
  refine invariant_unlinkFromPort ?_ fun tree tree' htree hrmdir => ?_
  · exact h.bears_of_apart (h.portLink port).apart
  · exact (h.portRemoved _ _ _ hrmdir).trans htree

theorem ApartFrom.prepare (hhosts : ∀ hostNQN ∈ t.allowedHosts, IsName hostNQN.toList) :
    Preserves (Same r before) (t.prepare host) := by
  refine invariant_portSpec.bind fun port => invariant_desiredIdentity.bind fun id => ?_
  refine h.createSubsystem.bind fun _ => ?_
  refine (Preserves.forEach fun hostNQN hmem => h.allowHost (hhosts hostNQN hmem)).bind fun _ => ?_
  exact h.createNamespace.bind fun _ => Preserves.pure _

theorem ApartFrom.link (prepared : PreparedTarget) :
    Preserves (Same r before) (t.link host prepared) :=
  Yields.always (yields_verifyPrepared.bind fun _ => ((h.linkSubsystemToPort prepared.port).returns
    fun _ h => h).pre (fun _ h => h.1)) fun _ _ h => h

theorem ApartFrom.apply (hhosts : ∀ hostNQN ∈ t.allowedHosts, IsName hostNQN.toList) :
    Preserves (Same r before) (t.apply host) :=
  (h.prepare hhosts).bind fun prepared => h.link prepared

theorem ApartFrom.remove : Preserves (Same r before) (t.remove host) := by
  refine (Preserves.query.bind fun _ => .forEach fun entry _ =>
    h.unlinkFromPort entry.1).bind fun _ => ?_
  refine (Preserves.call fun tree tree' hkept hwrite => ?_).ignore.bind fun _ => ?_
  · exact (view_write (h.namespaceAttr _) hwrite).trans hkept
  refine (preserves_removeDir h.namespaceDir).bind fun _ => ?_
  exact (h.revokeHostsExcept []).bind fun _ => preserves_removeDir h.subsystem

end Operations

end NvmetTarget

end PillarCsi.Nvmet
