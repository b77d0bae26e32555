import PillarCsi.Lio

/-!
What the operations on one iSCSI target leave alone: every other target with
its portal group, LUN and node ACLs, and every other backstore.
-/

namespace PillarCsi.Lio

open FalliblePrograms ItemTree Configfs Program

def lioRegion (k : Kernel) (iqn backstore : Name) : Region := fun q _ =>
  decide (k.root ++ [.of "target", .of "iscsi", iqn] <+: q) ||
    decide (k.root ++ [.of "target", .of "core", .of "iblock_3260", backstore] <+: q)

namespace Target

section Places

variable {k : Kernel} {iqn backstore : Name}

theorem apart_iff {q : Path} : Apart (lioRegion k iqn backstore) q ↔
    ¬k.root ++ [.of "target", .of "iscsi", iqn] <+: q ∧
      ¬k.root ++ [.of "target", .of "core", .of "iblock_3260", backstore] <+: q := by
  constructor
  · exact fun h => by simpa [lioRegion] using h .group
  · exact fun h node => by simp [lioRegion, h.1, h.2]

theorem foreign_of_diverge {rest : Path} (htarget : ¬[.of "target", .of "iscsi", iqn] <+: rest ∧
      ¬rest <+: [.of "target", .of "iscsi", iqn])
    (hbackstore : ¬[.of "target", .of "core", .of "iblock_3260", backstore] <+: rest ∧
      ¬rest <+: [.of "target", .of "core", .of "iblock_3260", backstore]) :
    Foreign (lioRegion k iqn backstore) (k.root ++ rest) := by
  intro q hq
  rw [apart_iff]
  exact ⟨not_prefix_of_diverge htarget.1 htarget.2 hq,
    not_prefix_of_diverge hbackstore.1 hbackstore.2 hq⟩

theorem framed : Framed k (lioRegion k iqn backstore) where
  below p q hpq hq := by
    rw [apart_iff] at hq ⊢
    exact ⟨fun h => hq.1 (h.trans hpq), fun h => hq.2 (h.trans hpq)⟩
  defaults p hp e he := by
    obtain ⟨r, rfl, hobject⟩ := k.mem_defaults he
    rw [apart_iff] at hp ⊢
    simp only [List.append_assoc, List.prefix_append_right_inj] at hp ⊢
    exact ⟨fun h => hp.1 (k.isPrefix_of_part hobject h (.inl (by simp))),
      fun h => hp.2 (k.isPrefix_of_part hobject h (.inr (.inl ⟨_, rfl, by simp⟩)))⟩

end Places

/-- Nothing of the target lies in the region. -/
structure ApartFrom (host : Host) (t : Target) (r : Region) : Prop where
  framed : Framed host.kernel r
  fabric : Apart r (iscsiDir host)
  hba : Apart r (hbaDir host)
  target : Foreign r (t.targetDir host)
  backstore : Foreign r (t.backstoreDir host)

theorem apartFrom {host : Host} {t : Target} {mine mineStore iqn backstore : Name}
    (hiqn : t.iqn = mine.text) (hstore : backstoreNameForIQN t.iqn = mineStore.text)
    (hne : mine ≠ iqn) (hneStore : mineStore ≠ backstore) :
    ApartFrom host t (lioRegion host.kernel iqn backstore) where
  framed := framed
  fabric := by
    rw [apart_iff]
    unfold iscsiDir
    simp [List.prefix_append_right_inj, List.cons_prefix_cons]
  hba := by
    rw [apart_iff]
    unfold hbaDir
    simp [List.prefix_append_right_inj, List.cons_prefix_cons]
  target := by
    have hdir : t.targetDir host = host.kernel.root ++ [.of "target", .of "iscsi", mine] := by
      simp [targetDir, iscsiDir, hiqn, join_name]
    rw [hdir]
    apply foreign_of_diverge
    · simp [List.cons_prefix_cons, hne, Ne.symm hne]
    · simp [List.cons_prefix_cons]
  backstore := by
    have hdir : t.backstoreDir host =
        host.kernel.root ++ [.of "target", .of "core", .of "iblock_3260", mineStore] := by
      simp [backstoreDir, hbaDir, hstore, join_name]
    rw [hdir]
    apply foreign_of_diverge
    · simp [List.cons_prefix_cons]
    · simp [List.cons_prefix_cons, hneStore, Ne.symm hneStore]

section Operations

variable {host : Host} {t : Target} {r : Region} {before : List (Path × Node)}
  {I : Tree → Prop} {initiator : String} {dir : Path}

theorem kept_subdirs : Preserves I (subdirs dir) :=
  Preserves.query.bind fun _ => .pure _

theorem kept_symlinks : Preserves I (symlinks dir) :=
  Preserves.query.bind fun _ => .pure _

theorem kept_lunBound : Preserves I (t.lunBound host) :=
  kept_symlinks.bind fun _ => .pure _

theorem kept_requireTPG : Preserves I (t.requireTPG host) :=
  Preserves.query.bind fun _ => .ite .fail (.pure _)

theorem kept_portal : Preserves I (t.portal host) := by
  unfold portal
  split
  · exact .fail
  · exact .ite (.pure _) .fail

theorem kept_validate : Preserves I (t.validate host) :=
  .ite (kept_portal.bind fun _ => .pure _) .fail

theorem kept_removeLUNDirs (h : Foreign r dir)
    (names : List Name) : Preserves (Same r before) (removeLUNDirs dir names) := by
  refine .forEach fun name _ => .bind ?_ fun _ => ?_
  · exact kept_symlinks.bind fun _ => .forEach fun link _ =>
      preserves_removeSymlink ((h.append [name]).append [link.1]).apart
  · exact preserves_removeDirVerified (preserves_removeDir (h.append [name]))

theorem kept_removeMappedLUNs (h : Foreign r dir) :
    Preserves (Same r before) (removeMappedLUNs dir) :=
  kept_subdirs.bind fun _ => kept_removeLUNDirs h _

theorem kept_ensureSecretAttr {path : Path} {value : String} (h : Apart r path) :
    Preserves (Same r before) (ensureSecretAttr path value) := by
  refine Preserves.query.bind fun existing => ?_
  match existing with
  | some (.attr _) => exact .ite (.pure _) (preserves_writeFile h)
  | none | some .group | some .item | some (.link _) => exact .fail

variable (h : ApartFrom host t r) (hname : SeparatedNames.IsName initiator.toList)

include h

theorem ApartFrom.tpgDir : Foreign r (t.tpgDir host) :=
  h.target.append _

theorem ApartFrom.lunRoot : Foreign r (t.lunRoot host) :=
  h.tpgDir.append _

include hname in
theorem ApartFrom.aclDir : Foreign r (t.aclDir host initiator) := by
  unfold Target.aclDir aclsDir
  rw [join_of_isName _ hname, List.append_assoc]
  exact h.tpgDir.append _

theorem ApartFrom.ensureISCSIFabric : Preserves (Same r before) (ensureISCSIFabric host) :=
  Preserves.query.bind fun _ => .ite .fail (preserves_ensureDir h.framed h.fabric)

theorem ApartFrom.ensureThinProvisioning :
    Preserves (Same r before) (t.ensureThinProvisioning host) :=
  preserves_readAttr.bind fun _ => .ite (.pure _) (preserves_writeFile (h.backstore.append _).apart)

theorem ApartFrom.ensureUnitSerial : Preserves (Same r before) (t.ensureUnitSerial host) := by
  refine preserves_readAttr.bind fun _ => .ite (.pure _) ?_
  refine kept_lunBound.bind fun _ => .ite .fail ?_
  exact preserves_writeFile (h.backstore.append _).apart

theorem ApartFrom.configureBackstore : Preserves (Same r before) (t.configureBackstore host) := by
  refine Preserves.query.bind fun _ => Preserves.query.bind fun _ => ?_
  refine (preserves_writeFile (h.backstore.append _).apart).bind fun _ => ?_
  refine (preserves_writeFile (h.backstore.append _).apart).bind fun _ => ?_
  refine (preserves_writeFile (h.backstore.append _).apart).bind fun _ => ?_
  exact h.ensureThinProvisioning

theorem ApartFrom.removeBackstore :
    Preserves (Same r before) (removeDirVerified (t.backstoreDir host)) :=
  preserves_removeDirVerified (preserves_removeDir h.backstore)

theorem ApartFrom.ensureBackstore : Preserves (Same r before) (t.ensureBackstore host) := by
  have hparent : Apart r (hbaDir host).dropLast :=
    h.framed.below _ _ (List.dropLast_prefix _) h.hba
  refine (preserves_ensureDir h.framed hparent).bind fun _ => ?_
  refine (preserves_ensureDir h.framed h.hba).bind fun _ => Preserves.query.bind fun _ => ?_
  refine (preserves_ensureDir h.framed h.backstore.apart).bind fun _ => ?_
  refine preserves_readAttr.bind fun _ => .ite ?_ ?_
  · refine preserves_readAttr.bind fun _ => .ite .fail ?_
    exact h.ensureThinProvisioning.bind fun _ => h.ensureUnitSerial
  · refine h.configureBackstore.attempt.bind fun configured => ?_
    match configured with
    | .ok () => exact h.ensureUnitSerial
    | .error _ => exact h.removeBackstore.when.bind fun _ => .fail

theorem ApartFrom.ensureLUN : Preserves (Same r before) (t.ensureLUN host) := by
  have hlun := h.lunRoot.append [.of "lun_0"]
  refine (preserves_ensureDir h.framed h.lunRoot.apart).bind fun _ => ?_
  refine (preserves_ensureDir h.framed hlun.apart).bind fun _ => kept_symlinks.bind fun links => ?_
  match links with
  | [] => exact preserves_symlink (hlun.append _).apart
  | _ :: _ => exact .ite (.pure _) .fail

include hname in
theorem ApartFrom.ensureMappedLUN :
    Preserves (Same r before) (t.ensureMappedLUN host initiator) :=
  (preserves_ensureDir h.framed ((h.aclDir hname).append _).apart).bind fun _ =>
    preserves_symlink ((h.aclDir hname).append _).apart

theorem ApartFrom.removeLUNs : Preserves (Same r before) (t.removeLUNs host) :=
  kept_subdirs.bind fun _ => kept_removeLUNDirs h.lunRoot _

theorem ApartFrom.attachLUN : Preserves (Same r before) (t.attachLUN host) := by
  refine h.ensureBackstore.bind fun _ => h.ensureLUN.bind fun _ => ?_
  exact kept_subdirs.bind fun _ => .forEach fun acl _ => h.ensureMappedLUN acl.isName

theorem ApartFrom.disableTPG : Preserves (Same r before) (t.disableTPG host) :=
  preserves_ensureAttr (h.tpgDir.append _).apart

theorem ApartFrom.detachLUN : Preserves (Same r before) (t.detachLUN host) := by
  refine Preserves.query.bind fun _ => .bind (.when ?_) fun _ => ?_
  · refine h.disableTPG.bind fun _ => kept_subdirs.bind fun _ => ?_
    exact (Preserves.forEach fun acl _ => kept_removeMappedLUNs (h.aclDir acl.isName)).bind
      fun _ => h.removeLUNs
  · refine Preserves.query.bind fun _ => .ite (.pure _) ?_
    exact preserves_readAttr.bind fun _ => h.removeBackstore.bind fun _ => .pure _

include hname in
theorem ApartFrom.ensureACLAuth : Preserves (Same r before) (t.ensureACLAuth host initiator) := by
  have hacl := h.aclDir hname
  refine (preserves_ensureAttr (hacl.append _).apart).bind fun _ => ?_
  match t.chap with
  | none => exact .pure _
  | some chap =>
    have hsecret : ∀ (attr : Name) (value : String), Preserves (Same r before)
        (ensureSecretAttr (t.aclDir host initiator ++ [.of "auth"] ++ [attr]) value) :=
      fun attr value => kept_ensureSecretAttr ((hacl.append _).append _).apart
    exact (hsecret _ _).bind fun _ => (hsecret _ _).bind fun _ => (hsecret _ _).bind fun _ =>
      hsecret _ _

include hname in
theorem ApartFrom.allowInitiator :
    Preserves (Same r before) (t.allowInitiator host initiator) := by
  refine (preserves_ensureDir h.framed (h.tpgDir.append _).apart).bind fun _ => ?_
  refine (preserves_ensureDir h.framed (h.aclDir hname).apart).bind fun _ => ?_
  refine (h.ensureACLAuth hname).bind fun _ => Preserves.query.bind fun _ => ?_
  exact (h.ensureMappedLUN hname).when

include hname in
theorem ApartFrom.removeACL : Preserves (Same r before) (t.removeACL host initiator) :=
  (kept_removeMappedLUNs (h.aclDir hname)).bind fun _ =>
    preserves_removeDirVerified (preserves_removeDir (h.aclDir hname))

theorem ApartFrom.AllowInitiator : Preserves (Same r before) (t.AllowInitiator host initiator) :=
  Triple.ite (fun hvalid => kept_requireTPG.bind fun _ =>
    h.allowInitiator (isName_of_validateIQN hvalid.1)) fun _ => Preserves.fail

theorem ApartFrom.DenyInitiator : Preserves (Same r before) (t.DenyInitiator host initiator) :=
  Triple.ite (fun hvalid => h.removeACL (isName_of_validateIQN hvalid)) fun _ => Preserves.fail

theorem ApartFrom.revokeInitiatorsExcept (keep : List String) :
    Preserves (Same r before) (t.revokeInitiatorsExcept host keep) :=
  kept_subdirs.bind fun _ => .forEach fun acl _ => (h.removeACL acl.isName).when

theorem ApartFrom.ensureTPGAttribs : Preserves (Same r before) (t.ensureTPGAttribs host) := by
  have hattrib : ∀ (attr : Name) (value : String), Preserves (Same r before)
      (ensureAttr (t.tpgDir host ++ [.of "attrib"] ++ [attr]) value) :=
    fun attr value => preserves_ensureAttr ((h.tpgDir.append _).append _).apart
  refine (hattrib _ _).bind fun _ => .ite (hattrib _ _) ?_
  exact (hattrib _ _).bind fun _ => (hattrib _ _).bind fun _ => hattrib _ _

theorem ApartFrom.prepare : Preserves (Same r before) (t.prepare host) := by
  by_cases hinitiators : ∀ initiator ∈ t.allowedInitiators, validateIQN initiator = true
  · refine kept_validate.bind fun _ => h.ensureISCSIFabric.bind fun _ => ?_
    refine (preserves_ensureDir h.framed h.target.apart).bind fun _ => ?_
    refine (preserves_ensureDir h.framed h.tpgDir.apart).bind fun _ => ?_
    refine .bind ?_ fun _ => h.ensureTPGAttribs.bind fun _ => ?_
    · exact .ite (h.detachLUN.bind fun _ => .pure _) h.attachLUN
    refine (Preserves.forEach fun initiator hmem => h.allowInitiator
      (isName_of_validateIQN (hinitiators initiator hmem))).bind fun _ => ?_
    exact kept_subdirs.bind fun _ => Preserves.forEach fun acl _ => h.ensureACLAuth acl.isName
  · have hrefused : t.validate host = fail .invalidArgument := by
      unfold Target.validate
      rw [if_neg]
      rintro ⟨-, -, hall, -⟩
      exact hinitiators fun initiator hmem => List.all_eq_true.mp hall initiator hmem
    unfold Target.prepare
    rw [hrefused, fail_bind]
    exact .fail

theorem ApartFrom.activate : Preserves (Same r before) (t.activate host) := by
  have hportals := h.tpgDir.append [.of "np"]
  refine kept_portal.bind fun portal => kept_requireTPG.bind fun _ => ?_
  refine (preserves_ensureDir h.framed hportals.apart).bind fun _ => ?_
  refine (preserves_ensureDir h.framed (hportals.append [portal]).apart).bind fun _ => ?_
  refine kept_subdirs.bind fun _ => ?_
  refine (Preserves.forEach fun other _ => (preserves_removeDirVerified
    (preserves_removeDir (hportals.append [other]))).when).bind fun _ => ?_
  refine Preserves.ite h.disableTPG (kept_lunBound.bind fun _ => ?_)
  exact .ite (preserves_ensureAttr (h.tpgDir.append _).apart) .fail

theorem ApartFrom.apply : Preserves (Same r before) (t.apply host) :=
  h.prepare.bind fun _ => h.activate

theorem ApartFrom.enterLocalAttach : Preserves (Same r before) (t.enterLocalAttach host) := by
  refine kept_requireTPG.bind fun _ => h.detachLUN.bind fun _ => ?_
  exact .ite (.pure _)
    (Preserves.query.bind fun _ => Preserves.query.bind fun _ => .pure _)

theorem ApartFrom.leaveLocalAttach : Preserves (Same r before) (t.leaveLocalAttach host) := by
  refine kept_requireTPG.bind fun _ => .ite .fail ?_
  exact h.attachLUN.bind fun _ => preserves_ensureAttr (h.tpgDir.append _).apart

theorem ApartFrom.removeTPG : Preserves (Same r before) (t.removeTPG host) := by
  refine h.disableTPG.bind fun _ => kept_subdirs.bind fun _ => ?_
  refine (Preserves.forEach fun acl _ => h.removeACL acl.isName).bind fun _ => ?_
  refine kept_subdirs.bind fun _ => (Preserves.forEach fun portal _ =>
    preserves_removeDirVerified (preserves_removeDir (h.tpgDir.append _ |>.append [portal]))).bind
      fun _ => ?_
  exact h.removeLUNs.bind fun _ => preserves_removeDirVerified (preserves_removeDir h.tpgDir)

theorem ApartFrom.remove : Preserves (Same r before) (t.remove host) := by
  refine .ite (Preserves.query.bind fun _ => ?_) .fail
  refine h.removeTPG.when.bind fun _ => ?_
  exact (preserves_removeDirVerified (preserves_removeDir h.target)).bind fun _ => h.removeBackstore

end Operations

end Target

end PillarCsi.Lio
