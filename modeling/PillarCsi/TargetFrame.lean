import PillarCsi.CheckedComputations
import PillarCsi.ProtocolHandlers

/-!
The handlers of one volume leave the export of every other volume alone, as
long as the target IDs of the two can be told apart.
-/

namespace PillarCsi.TargetFrame

open FalliblePrograms ItemTree Configfs TargetNames SeparatedNames Nvmet ProtocolHandlers Program
open CheckedComputations Lio VolumeNames

def iscsiTarget (volumeID : String) : Target := { iqn := ownedIQNPrefix ++ dotted volumeID }

/-- The objects of a volume's export: subsystem with namespace and allowed hosts
and its links in the ports, or target with portal group, LUN and node ACLs and
its backstore. -/
def owned (server : Server) (protocol : BlockProtocol) (volumeID : String) : Region :=
  match protocol with
  | .nvmeofTCP => fun q node =>
    decide ((nvmeTargetForVolume volumeID).subsystemDir server.nvmet <+: q) ||
      (node.isLink && decide
        (∃ port ∈ q, (nvmeTargetForVolume volumeID).portSubsystemLink server.nvmet port <+: q))
  | .iscsi => fun q _ =>
    decide ((iscsiTarget volumeID).targetDir server.lio <+: q) ||
      decide ((iscsiTarget volumeID).backstoreDir server.lio <+: q)

variable {t : Target}

section Regions

variable {server : Server} {volumeID other : String}

theorem owned_nvmeofTCP :
    owned server .nvmeofTCP other = nvmetRegion server.nvmet.kernel (nqnName other) := by
  have hnqn : (nvmeTargetForVolume other).subsystemNQN = (nqnName other).text := rfl
  funext q node
  simp [owned, nvmetRegion, NvmetTarget.subsystemDir, NvmetTarget.portSubsystemLink,
    NvmetTarget.portDir, NvmetTarget.portsDir, NvmetTarget.nvmetRoot, hnqn, join_name]

theorem owned_iscsi (h : IsName (dotted other).toList) : owned server .iscsi other =
    lioRegion server.lio.kernel (iqnName other) (.of (dotted other) h) := by
  have hiqn : (iscsiTarget other).iqn = (iqnName other).text := rfl
  have hstore : backstoreNameForIQN (iscsiTarget other).iqn =
      (Name.of (dotted other) h).text := backstoreNameForIQN_eq _
  have htarget : (iscsiTarget other).targetDir server.lio =
      server.lio.kernel.root ++ [.of "target", .of "iscsi", iqnName other] := by
    simp [Target.targetDir, Target.iscsiDir, hiqn, join_name]
  have hbackstore : (iscsiTarget other).backstoreDir server.lio = server.lio.kernel.root ++
      [.of "target", .of "core", .of "iblock_3260", .of (dotted other) h] := by
    unfold Target.backstoreDir
    rw [hstore, join_name]
    simp [Target.hbaDir]
  funext q node
  simp only [owned, htarget, hbackstore, lioRegion]

/-- Another volume, with the objects of its export and an agent's state. -/
structure Bystander where
  volumeID : String
  region : Region
  before : AgentState

/-- The export of the other volume is as before. -/
def Untouched (o : Bystander) (s : AgentState) : Prop :=
  view o.region s.tree = view o.region o.before.tree ∧
    s.identities o.volumeID = o.before.identities o.volumeID

/-- The volume's targets have nothing in common with the export of the other. -/
structure ApartNVMe (server : Server) (volumeID : String) (o : Bystander) : Prop where
  ne : volumeID ≠ o.volumeID
  target : ∀ t : NvmetTarget, t.subsystemNQN = (nvmeTargetForVolume volumeID).subsystemNQN →
    NvmetTarget.ApartFrom server.nvmet t o.region

def ApartISCSI (server : Server) (volumeID : String) (o : Bystander) : Prop :=
  ∀ t, iscsiTargetForVolume volumeID = .ok t → ∀ u : Target, u.iqn = t.iqn →
    Target.ApartFrom server.lio u o.region

theorem nvme_apartFrom (hnqn : nqnName volumeID ≠ nqnName other) (s : AgentState) :
    ApartNVMe server volumeID ⟨other, nvmetRegion server.nvmet.kernel (nqnName other), s⟩ where
  ne h := hnqn (congrArg nqnName h)
  target _ ht := NvmetTarget.apartFrom ht hnqn

theorem targetID_of_iscsiTargetForVolume (h : iscsiTargetForVolume volumeID = .ok t) :
    volumeTargetID .iscsi volumeID = .ok t.iqn := by
  unfold iscsiTargetForVolume at h
  split at h
  · rename_i iqn _ hiqn
    obtain rfl := Except.ok.inj h
    exact hiqn
  · cases h

theorem iscsi_apartFrom (hvolume : IsName (dotted volumeID).toList)
    (hother : IsName (dotted other).toList)
    (hdiffer : ¬ ∃ target, volumeTargetID .iscsi volumeID = .ok target ∧
      volumeTargetID .iscsi other = .ok target) (s : AgentState) :
    ApartISCSI server volumeID ⟨other, owned server .iscsi other, s⟩ := by
  intro t ht u hu
  rw [owned_iscsi hother]
  have htarget := targetID_of_iscsiTargetForVolume ht
  obtain ⟨hiqn, hlength⟩ := volumeTargetID_iscsi.mp htarget
  have hne : dotted volumeID ≠ dotted other := by
    intro heq
    rw [heq] at hiqn
    exact hdiffer ⟨t.iqn, htarget, volumeTargetID_iscsi.mpr ⟨hiqn, hlength⟩⟩
  have hstore : backstoreNameForIQN u.iqn = (Name.of (dotted volumeID) hvolume).text := by
    rw [hu, hiqn]
    exact backstoreNameForIQN_eq _
  have hname : u.iqn = (iqnName volumeID).text := hu.trans hiqn
  refine Target.apartFrom hname hstore (fun heq => hne ?_) fun heq => hne (Name.of_inj.mp heq)
  exact (String.append_right_inj _).mp (congrArg Name.text heq)

end Regions

variable {desired : ExportDesiredState}

section Handlers

variable {server : Server} {volumeID : String} {o : Bystander} {α : Type}
  {params : ExportParams} {β : Type} {entry : ExportDesiredState × Except Failure NvmetTarget} {request : Request}

theorem untouched_onTree {p : Op α}
    (h : Preserves (Same o.region (view o.region o.before.tree)) p) :
    Preserves (Untouched o) (onTree p) := by
  refine .zoom fun s hs => ?_
  exact .weaken h (fun tree htree => htree ▸ hs.1) fun _ tree htree => ⟨htree, hs.2⟩

theorem untouched_fenced {admitted : Bool} {p : Agent α} (h : Preserves (Untouched o) p) :
    Preserves (Untouched o) (fenced admitted p) :=
  .ite h .fail

theorem untouched_orFail (result : Except Failure α) :
    Preserves (Untouched o) (orFail result) := by
  cases result with
  | ok a => exact .pure a
  | error failure => exact .fail

theorem untouched_setIdentityRecord (hne : volumeID ≠ o.volumeID) (new : Option IdentityRecord) :
    Preserves (Untouched o) (setIdentityRecord volumeID new) := by
  refine .call fun s s' hs hset => ?_
  cases hset
  refine ⟨hs.1, ?_⟩
  rw [← hs.2]
  exact Function.update_of_ne (Ne.symm hne) _ _

theorem untouched_resolveNVMeIdentity (hne : volumeID ≠ o.volumeID) (volumeUID : String)
    (target : NvmetTarget) :
    Preserves (Untouched o) (resolveNVMeIdentity server volumeID volumeUID target) := by
  refine Preserves.query.bind fun stored => .bind (untouched_onTree ?_) fun live => ?_
  · exact NvmetTarget.invariant_liveIdentity
  refine .ite .fail ?_
  refine (untouched_setIdentityRecord hne none).when.bind fun _ => ?_
  exact (untouched_setIdentityRecord hne _).when.bind fun _ => .pure _

theorem untouched_nvmeExport (h : ApartNVMe server params.volumeID o) :
    Preserves (Untouched o) (nvmeExport server params) := by
  refine (untouched_orFail _).bind fun endpoint => (untouched_orFail _).bind fun _ => ?_
  refine (untouched_orFail _).bind fun devicePath => Preserves.query.bind fun _ => ?_
  refine (untouched_fenced ?_).bind fun _ => .pure _
  refine (untouched_resolveNVMeIdentity h.ne _ _).bind fun identity => ?_
  have hnone : ∀ hostNQN ∈ ([] : List String), IsName hostNQN.toList := by simp
  refine untouched_onTree (NvmetTarget.ApartFrom.apply ?_ hnone)
  exact h.target _ rfl

theorem untouched_nvmePrepareExport (h : ApartNVMe server desired.volumeID o) {t : NvmetTarget}
    (ht : t.subsystemNQN = (nvmeTargetForVolume desired.volumeID).subsystemNQN)
    (hhosts : ∀ hostNQN ∈ t.allowedHosts, IsName hostNQN.toList) :
    Preserves (Untouched o) (nvmePrepareExport server desired t) := by
  refine untouched_fenced (Preserves.query.bind fun _ => ?_)
  refine (untouched_resolveNVMeIdentity h.ne _ _).bind fun identity => ?_
  have hapart := h.target { t with identity := some identity } ht
  refine (untouched_onTree (hapart.prepare hhosts)).bind fun prepared => ?_
  exact (Preserves.when (untouched_onTree (hapart.revokeHostsExcept _))).bind fun _ => .pure _

theorem orFail_ok_bind (a : α) (f : α → Agent β) : orFail (.ok a) >>= f = f a := rfl

theorem nvmeReconcileTarget_eq_ok {t : NvmetTarget}
    (h : nvmeReconcileTarget server desired = .ok t) :
    t.subsystemNQN = (nvmeTargetForVolume desired.volumeID).subsystemNQN ∧
      ∀ hostNQN ∈ t.allowedHosts, hostNQN ∈ desired.allowedInitiators := by
  unfold nvmeReconcileTarget at h
  obtain ⟨endpoint, -, h⟩ := exists_of_bind_eq_ok h
  obtain ⟨devicePath, -, h⟩ := exists_of_bind_eq_ok h
  obtain rfl := Except.ok.inj h
  refine ⟨rfl, fun hostNQN hmem => ?_⟩
  dsimp only at hmem
  split at hmem
  · exact hmem
  · cases hmem

theorem zip_map_self (f : α → β) (items : List α) :
    items.zip (items.map f) = items.map fun a => (a, f a) := by
  induction items with
  | nil => rfl
  | cons a items ih => simp [ih]

theorem nvmeReconcile_entry {desired : List ExportDesiredState}
    (hentry : entry ∈ desired.zip (setPortMDTSFloors (desired.map (nvmeReconcileTarget server)))) :
    entry.1 ∈ desired ∧ ∀ t, entry.2 = .ok t →
      t.subsystemNQN = (nvmeTargetForVolume entry.1.volumeID).subsystemNQN ∧
        ∀ hostNQN ∈ t.allowedHosts, hostNQN ∈ entry.1.allowedInitiators := by
  unfold setPortMDTSFloors at hentry
  rw [List.map_map, zip_map_self] at hentry
  obtain ⟨d, hd, rfl⟩ := List.mem_map.mp hentry
  refine ⟨hd, fun t ht => ?_⟩
  cases htarget : nvmeReconcileTarget server d with
  | error failure =>
    simp only [Function.comp_apply, htarget] at ht
    cases ht
  | ok u =>
    simp only [Function.comp_apply, htarget] at ht
    have hu := nvmeReconcileTarget_eq_ok htarget
    obtain rfl := Except.ok.inj ht
    exact hu

theorem untouched_prepareEntry (h : ApartNVMe server entry.1.volumeID o)
    (hok : ∀ t, entry.2 = .ok t →
      t.subsystemNQN = (nvmeTargetForVolume entry.1.volumeID).subsystemNQN ∧
        ∀ hostNQN ∈ t.allowedHosts, hostNQN ∈ entry.1.allowedInitiators)
    (hinitiators : ∀ hostNQN ∈ entry.1.allowedInitiators, IsName hostNQN.toList) :
    Preserves (Untouched o) (attempt do
        let target ← orFail entry.2
        nvmePrepareExport server entry.1 target) := by
  refine .attempt ?_
  cases htarget : entry.2 with
  | error failure => exact .fail
  | ok t =>
    obtain ⟨ht, hhosts⟩ := hok t htarget
    exact untouched_nvmePrepareExport h ht fun hostNQN hhost =>
      hinitiators hostNQN (hhosts hostNQN hhost)

theorem untouched_linkEntry {target : Except Failure NvmetTarget}
    {prepared : Except Failure (Identity × NvmetTarget.PreparedTarget)}
    (h : ApartNVMe server desired.volumeID o) (hok : ∀ t, target = .ok t →
      t.subsystemNQN = (nvmeTargetForVolume desired.volumeID).subsystemNQN) :
    Preserves (Untouched o) (attempt do
        let target ← orFail target
        let (identity, prepared) ← orFail prepared
        fenced desired.fence.rechecked
          (onTree (NvmetTarget.link server.nvmet { target with identity := some identity }
            prepared))) := by
  refine .attempt ?_
  cases htarget : target with
  | error failure => exact .fail
  | ok t =>
    rw [orFail_ok_bind]
    refine (untouched_orFail _).bind fun result => untouched_fenced (untouched_onTree ?_)
    exact NvmetTarget.ApartFrom.link (h.target _ (hok t htarget)) _

theorem untouched_nvmeReconcile {desired : List ExportDesiredState}
    (hvolumes : ∀ d ∈ desired, ApartNVMe server d.volumeID o)
    (hinitiators : ∀ d ∈ desired, ∀ hostNQN ∈ d.allowedInitiators, IsName hostNQN.toList) :
    Preserves (Untouched o) (nvmeReconcile server desired) := by
  refine .bind (.mapEach fun entry hentry => ?_) fun prepared => .mapEach fun entry hentry => ?_
  · obtain ⟨hmem, hok⟩ := nvmeReconcile_entry hentry
    exact untouched_prepareEntry (hvolumes entry.1 hmem) hok (hinitiators entry.1 hmem)
  · obtain ⟨hmem, hok⟩ := nvmeReconcile_entry (List.of_mem_zip hentry).1
    exact untouched_linkEntry (hvolumes entry.1.1 hmem) fun t ht => (hok t ht).1

theorem untouched_handleNVMe (hvolumes : ∀ id ∈ request.volumes, ApartNVMe server id o)
    (hinitiators : ∀ initiator ∈ request.initiators, IsName initiator.toList) :
    Preserves (Untouched o) (handleNVMe server request) := by
  cases request with
  | exportVolume params =>
    exact (untouched_nvmeExport (hvolumes _ (.head _))).bind fun _ => .pure _
  | unexportVolume volumeID fence =>
    refine .bind (untouched_fenced ?_) fun _ => .pure _
    refine (untouched_onTree ?_).bind fun _ =>
      untouched_setIdentityRecord (hvolumes _ (.head _)).ne none
    exact ((hvolumes _ (.head _)).target _ rfl).remove
  | allowInitiator volumeID initiatorID params fence =>
    refine .bind (untouched_fenced (untouched_onTree ?_)) fun _ => .pure _
    exact ((hvolumes _ (.head _)).target _ rfl).allowHost (hinitiators _ (.head _))
  | denyInitiator volumeID initiatorID fence =>
    refine .bind (untouched_fenced (untouched_onTree ?_)) fun _ => .pure _
    exact ((hvolumes _ (.head _)).target _ rfl).denyHost (hinitiators _ (.head _))
  | setLocalAttach volumeID local_ fence =>
    refine .bind (untouched_fenced (.ite ?_ ?_)) fun _ => .pure _
    · exact untouched_onTree ((hvolumes _ (.head _)).target _ rfl).DisableNamespace
    · refine (untouched_onTree ?_).bind fun _ => .pure _
      exact ((hvolumes _ (.head _)).target _ rfl).EnableNamespace
  | reconcile desired =>
    refine (untouched_nvmeReconcile ?_ ?_).bind fun _ => .pure _
    · exact fun d hd => hvolumes d.volumeID (List.mem_map.mpr ⟨d, hd, rfl⟩)
    · exact fun d hd hostNQN hmem => hinitiators hostNQN (List.mem_flatMap.mpr ⟨d, hd, hmem⟩)

theorem iqn_of_iscsiReconcileTarget (h : iscsiReconcileTarget server desired = .ok t) :
    ∃ plain, iscsiTargetForVolume desired.volumeID = .ok plain ∧ t.iqn = plain.iqn := by
  unfold iscsiReconcileTarget at h
  obtain ⟨endpoint, -, h⟩ := exists_of_bind_eq_ok h
  obtain ⟨devicePath, -, h⟩ := exists_of_bind_eq_ok h
  obtain ⟨plain, hplain, h⟩ := exists_of_bind_eq_ok h
  obtain ⟨chap, -, h⟩ := exists_of_bind_eq_ok h
  obtain rfl := Except.ok.inj h
  exact ⟨plain, hplain, rfl⟩

theorem untouched_withTarget {p : Target → Agent α} (hp : ∀ t,
      iscsiTargetForVolume volumeID = .ok t → Preserves (Untouched o) (p t)) :
    Preserves (Untouched o) (orFail (iscsiTargetForVolume volumeID) >>= p) := by
  cases htarget : iscsiTargetForVolume volumeID with
  | error failure => exact .fail
  | ok t => exact hp t htarget

theorem untouched_iscsiExport (hvolume : ApartISCSI server params.volumeID o) :
    Preserves (Untouched o) (iscsiExport server params) := by
  refine (untouched_orFail _).bind fun endpoint => (untouched_orFail _).bind fun devicePath => ?_
  refine Preserves.query.bind fun _ => (untouched_orFail _).bind fun chap => ?_
  refine untouched_withTarget fun t ht => ?_
  refine .bind (untouched_fenced (untouched_onTree ?_)) fun _ => .pure _
  exact Target.ApartFrom.apply (hvolume t ht _ rfl)

theorem untouched_iscsiSetLocalAttach (hvolume : ApartISCSI server volumeID o)
    (local_ : Bool) (fence : Fence) : Preserves (Untouched o)
      (iscsiSetLocalAttach server volumeID local_ fence) := by
  refine untouched_withTarget fun t ht => untouched_fenced (.ite ?_ ?_)
  · refine .bind (untouched_onTree ?_) fun devicePath => .ite (untouched_orFail _) (.pure _)
    exact (hvolume t ht t rfl).enterLocalAttach
  · refine (untouched_orFail _).bind fun devicePath => ?_
    refine .bind (untouched_onTree ?_) fun _ => .pure _
    exact Target.ApartFrom.leaveLocalAttach (hvolume t ht _ rfl)

theorem untouched_iscsiReconcile {desired : List ExportDesiredState}
    (hvolumes : ∀ d ∈ desired, ApartISCSI server d.volumeID o) :
    Preserves (Untouched o) (iscsiReconcile server desired) := by
  have htargets : ∀ entry ∈ desired.zip (desired.map (iscsiReconcileTarget server)),
      ∀ t, entry.2 = .ok t → Target.ApartFrom server.lio t o.region := by
    intro entry hentry t ht
    rw [zip_map_self] at hentry
    obtain ⟨d, hd, rfl⟩ := List.mem_map.mp hentry
    obtain ⟨plain, hplain, hiqn⟩ := iqn_of_iscsiReconcileTarget ht
    exact hvolumes d hd plain hplain t hiqn
  refine .bind (.mapEach fun entry hentry => ?_) fun prepared => .mapEach fun entry hentry => ?_
  · have hapart := htargets entry hentry
    refine .attempt ?_
    cases htarget : entry.2 with
    | error failure => exact .fail
    | ok t =>
      rw [orFail_ok_bind]
      refine untouched_fenced (.bind (.when .query) fun _ => ?_)
      refine (untouched_onTree (hapart t htarget).prepare).bind fun _ => .when ?_
      exact untouched_onTree ((hapart t htarget).revokeInitiatorsExcept _)
  · have hapart := htargets entry.1 (List.of_mem_zip hentry).1
    refine .attempt ?_
    cases htarget : entry.1.2 with
    | error failure => exact .fail
    | ok t =>
      rw [orFail_ok_bind]
      refine (untouched_orFail _).bind fun _ => untouched_fenced (untouched_onTree ?_)
      exact (hapart t htarget).activate

theorem untouched_handleISCSI (hvolumes : ∀ id ∈ request.volumes, ApartISCSI server id o) :
    Preserves (Untouched o) (handleISCSI server request) := by
  cases request with
  | exportVolume params =>
    exact (untouched_iscsiExport (hvolumes _ (.head _))).bind fun _ => .pure _
  | unexportVolume volumeID fence =>
    refine .bind (untouched_withTarget fun t ht => ?_) fun _ => .pure _
    exact untouched_fenced (untouched_onTree (hvolumes _ (.head _) t ht t rfl).remove)
  | allowInitiator volumeID initiatorID params fence =>
    refine .bind (.ite ?_ .fail) fun _ => .pure _
    refine (untouched_orFail _).bind fun chap => untouched_withTarget fun t ht => ?_
    refine untouched_fenced (untouched_onTree (Target.ApartFrom.AllowInitiator ?_))
    exact hvolumes _ (.head _) t ht _ rfl
  | denyInitiator volumeID initiatorID fence =>
    refine .bind (.ite ?_ .fail) fun _ => .pure _
    refine untouched_withTarget fun t ht => untouched_fenced (untouched_onTree ?_)
    exact (hvolumes _ (.head _) t ht t rfl).DenyInitiator
  | setLocalAttach volumeID local_ fence =>
    exact (untouched_iscsiSetLocalAttach (hvolumes _ (.head _)) local_ fence).bind
      fun _ => .pure _
  | reconcile desired =>
    refine (untouched_iscsiReconcile ?_).bind fun _ => .pure _
    exact fun d hd => hvolumes d.volumeID (List.mem_map.mpr ⟨d, hd, rfl⟩)

end Handlers

/-- Both volumes have a target ID, the same one. -/
def SharesTarget (protocol : BlockProtocol) (volumeID other : String) : Prop :=
  ∃ target, volumeTargetID protocol.type volumeID = .ok target ∧
    volumeTargetID protocol.type other = .ok target

section Collision

variable {server : Server} {volumeID other : String} {dir : Path}

def switchedOn (dir : Path) : AgentState where
  tree := { entries := [(dir, .item), (dir ++ [.of "enable"], .attr "1")] }
  identities _ := none

def switchedOff (dir : Path) : AgentState :=
  { switchedOn dir with tree := (switchedOn dir).tree.put (dir ++ [.of "enable"]) (.attr "0") }

theorem runs_onTree {α : Type} {p : Op α} {s : AgentState} {tree : Tree}
    {outcomes rest : List Outcome} {r : Except (Stop Failure) α}
    (h : Runs p ⟨s.tree, outcomes⟩ r ⟨tree, rest⟩) :
    Runs (onTree p) ⟨s, outcomes⟩ r ⟨{ s with tree := tree }, rest⟩ :=
  Runs.zoom h

theorem lookup_switchedOn (dir : Path) : (switchedOn dir).tree.lookup dir = some .item ∧
    (switchedOn dir).tree.lookup (dir ++ [.of "enable"]) = some (.attr "1") := by
  have hne : (dir ++ [.of "enable"] == dir) = false := by simp
  constructor
  · simp [switchedOn, Tree.lookup]
  · simp [switchedOn, Tree.lookup, List.lookup_cons, hne]

theorem view_of_switch {region : Region} {α : Type} {p : Agent α} {outcomes : List Outcome}
    {r : Except (Stop Failure) α} (hregion : ∀ node, region (dir ++ [.of "enable"]) node = true)
    (hruns : Runs p ⟨switchedOn dir, outcomes⟩ r ⟨switchedOff dir, []⟩) :
    view region (p.after outcomes (switchedOn dir)).tree ≠ view region (switchedOn dir).tree := by
  intro hview
  have hlookup := lookup_of_view hview hregion
  rw [hruns.after, switchedOff, Tree.lookup_put_self, (lookup_switchedOn dir).2] at hlookup
  exact absurd hlookup (by decide)

theorem nvme_collides (h : SharesTarget .nvmeofTCP volumeID other) :
    ∃ outcomes s, view (owned server .nvmeofTCP other)
        ((handle server .nvmeofTCP (.setLocalAttach volumeID true {})).after outcomes s).tree ≠
      view (owned server .nvmeofTCP other) s.tree := by
  obtain ⟨target, hvolume, hother⟩ := h
  have hsame : nqnPrefix ++ dotted volumeID = nqnPrefix ++ dotted other :=
    Except.ok.inj (hvolume.trans hother.symm)
  let dir := (nvmeTargetForVolume volumeID).namespaceDir server.nvmet
  obtain ⟨hdir, hswitch⟩ := lookup_switchedOn dir
  have hruns : Runs ((nvmeTargetForVolume volumeID).DisableNamespace server.nvmet)
      ⟨(switchedOn dir).tree, [.done, .done, .lost]⟩ (.error (.failed .configfs))
      ⟨(switchedOff dir).tree, []⟩ := by
    refine ((runs_stat hdir).bind rfl : Runs (NvmetTarget.requireNamespace _ _) _ _ _).bind ?_
    exact Runs.stop ((runs_readAttr hswitch).bind (runs_writeFile_lost hswitch))
  have hhandled : Runs (handle server .nvmeofTCP (.setLocalAttach volumeID true {}))
      ⟨switchedOn dir, [.done, .done, .lost]⟩ (.error (.failed .configfs))
      ⟨switchedOff dir, []⟩ := by
    refine Runs.stop (p := nvmeSetLocalAttach server volumeID true {}) ?_
    rw [nvmeSetLocalAttach, fenced, if_pos rfl, if_pos rfl]
    exact runs_onTree hruns
  refine ⟨_, _, view_of_switch (fun node => ?_) hhandled⟩
  simp [dir, owned, nvmeTargetForVolume, NvmetTarget.namespaceDir, NvmetTarget.subsystemDir, hsame]

theorem iscsi_collides {pool : String} (hpool : poolFromVolumeID volumeID = .ok pool)
    (h : SharesTarget .iscsi volumeID other) : ∃ outcomes s, view (owned server .iscsi other)
        ((handle server .iscsi (.setLocalAttach volumeID true {})).after outcomes s).tree ≠
      view (owned server .iscsi other) s.tree := by
  obtain ⟨target, hvolume, hother⟩ := h
  have htarget : iscsiTargetForVolume volumeID = .ok { iqn := target } := by
    rw [iscsiTargetForVolume, hpool, show volumeTargetID .iscsi volumeID = _ from hvolume]
  have hsame : target = (iscsiTarget other).iqn := (volumeTargetID_iscsi.mp hother).1
  let dir := ({ iqn := target } : Target).tpgDir server.lio
  obtain ⟨hdir, hswitch⟩ := lookup_switchedOn dir
  have hruns : Runs (({ iqn := target } : Target).enterLocalAttach server.lio)
      ⟨(switchedOn dir).tree, [.done, .done, .done, .lost]⟩ (.error (.failed .configfs))
      ⟨(switchedOff dir).tree, []⟩ := by
    refine ((runs_stat hdir).bind rfl : Runs (Target.requireTPG _ _) _ _ _).bind (Runs.stop ?_)
    exact (runs_stat hdir).bind (Runs.stop (Runs.stop
      ((runs_readAttr hswitch).bind (runs_writeFile_lost hswitch))))
  have hhandled : Runs (handle server .iscsi (.setLocalAttach volumeID true {}))
      ⟨switchedOn dir, [.done, .done, .done, .lost]⟩ (.error (.failed .configfs))
      ⟨switchedOff dir, []⟩ := by
    refine Runs.stop (p := iscsiSetLocalAttach server volumeID true {}) ?_
    rw [iscsiSetLocalAttach, htarget, orFail_ok_bind, fenced, if_pos rfl, if_pos rfl]
    exact Runs.stop (runs_onTree hruns)
  refine ⟨_, _, view_of_switch (fun node => ?_) hhandled⟩
  simp [dir, owned, Target.tpgDir, Target.targetDir, hsame]

end Collision

/-- The requests of some volumes, all accepted, leave the export of `other` alone
exactly if none of them has its target ID; and the backstore names of two
volumes are equal exactly if their target IDs are. -/
theorem targets_framed (server : Server) (protocol : BlockProtocol) (other : String)
    (ids : List String) (haccepted : ∀ id ∈ other :: ids, ∃ pool, poolFromVolumeID id = .ok pool)
    (hdots : protocol = .iscsi → "./" ∉ other :: ids) :
    ((∀ request : Request, (∀ id ∈ request.volumes, id ∈ ids) →
        (protocol = .nvmeofTCP → ∀ initiator ∈ request.initiators, IsName initiator.toList) →
        ∀ outcomes s, view (owned server protocol other)
              ((handle server protocol request).after outcomes s).tree =
            view (owned server protocol other) s.tree ∧
          ((handle server protocol request).after outcomes s).identities other =
            s.identities other) ↔ ∀ id ∈ ids, ¬ SharesTarget protocol id other) ∧
      ∀ id ∈ ids, ∀ target target', volumeTargetID .iscsi id = .ok target →
        volumeTargetID .iscsi other = .ok target' →
          (backstoreNameForIQN target = backstoreNameForIQN target' ↔ target = target') := by
  refine ⟨⟨fun hframe id hid hshares => ?_, fun hdiffer request hvolumes hinitiators outcomes s => ?_⟩,
    fun id _ target target' htarget htarget' => ?_⟩
  · -- a local attach of the one switches the export of the other off
    have hrequest := hframe (.setLocalAttach id true {}) (by simpa [Request.volumes] using hid)
      (by simp [Request.initiators])
    cases protocol with
    | nvmeofTCP =>
      obtain ⟨outcomes, s, hview⟩ := @nvme_collides server id other hshares
      exact hview (hrequest outcomes s).1
    | iscsi =>
      obtain ⟨pool, hpool⟩ := haccepted id (.tail _ hid)
      obtain ⟨outcomes, s, hview⟩ := @iscsi_collides server id other pool hpool hshares
      exact hview (hrequest outcomes s).1
  · cases protocol with
    | nvmeofTCP =>
      have hapart : ∀ id ∈ request.volumes,
          ApartNVMe server id ⟨other, owned server .nvmeofTCP other, s⟩ := by
        intro id hid
        rw [owned_nvmeofTCP]
        refine nvme_apartFrom (fun heq => hdiffer id (hvolumes id hid) ?_) s
        exact ⟨_, rfl, congrArg Except.ok (congrArg Name.text heq).symm⟩
      simpa only [Untouched, handle] using
        (untouched_handleNVMe hapart (hinitiators rfl)).after ⟨rfl, rfl⟩ outcomes
    | iscsi =>
      have hname : ∀ id ∈ other :: ids, IsName (dotted id).toList := by
        intro id hid
        obtain ⟨pool, hpool⟩ := haccepted id hid
        exact isName_dotted hpool fun heq => hdots rfl (heq ▸ hid)
      have hother := hname other (.head _)
      have hapart : ∀ id ∈ request.volumes,
          ApartISCSI server id ⟨other, owned server .iscsi other, s⟩ := by
        intro id hid
        have hmem := hvolumes id hid
        exact iscsi_apartFrom (hname id (.tail _ hmem)) hother (hdiffer id hmem) s
      simpa only [Untouched, handle] using (untouched_handleISCSI hapart).after ⟨rfl, rfl⟩ outcomes
  · rw [(volumeTargetID_iscsi.mp htarget).1, (volumeTargetID_iscsi.mp htarget').1,
      backstoreNameForIQN_eq, backstoreNameForIQN_eq]
    exact (String.append_right_inj _).symm

def storageNode : Server where
  kernel := { root := [.of "config"] }
  parseIP _ := some .ipv4
  deriveIdentity _ :=
    { uuid := "00000000-0000-0000-0000-000000000001"
      nguid := "00000000-0000-0000-0000-000000000002"
      serial := "3" }
  deriveUnitSerial iqn := iqn
  discard _ := true
  devicePath volumeID := some ("/dev/zvol/" ++ volumeID)

/-- Nothing is exported. -/
def booted : AgentState where
  tree := { entries :=
    [([.of "config"], .group), ([.of "config", .of "nvmet"], .group),
      ([.of "config", .of "nvmet", .of "subsystems"], .group),
      ([.of "config", .of "nvmet", .of "hosts"], .group),
      ([.of "config", .of "nvmet", .of "ports"], .group)] }
  identities _ := none

def exportNVMe (volumeID : String) : Request :=
  .exportVolume
    { volumeID, aclEnabled := true, fence := { volumeUID := "uid-1" }
      protocolParams := { nvmeofTCP := some { bindAddress := "10.0.0.1" } } }

def served (requests : List Request) : AgentState :=
  requests.foldl (fun s request => (handle storageNode .nvmeofTCP request).after [] s) booted

theorem targets_framed_unexport : view (owned storageNode .nvmeofTCP "tank.x/b")
          ((handle storageNode .nvmeofTCP (.unexportVolume "tank.x/a" {})).after []
            (served [exportNVMe "tank.x/a", exportNVMe "tank.x/b"])).tree =
        view (owned storageNode .nvmeofTCP "tank.x/b")
          (served [exportNVMe "tank.x/a", exportNVMe "tank.x/b"]).tree ∧
      view (owned storageNode .nvmeofTCP "tank.x/b")
        (served [exportNVMe "tank.x/a", exportNVMe "tank.x/b"]).tree ≠ [] := by
  have hframed := targets_framed storageNode .nvmeofTCP "tank.x/b" ["tank.x/a"]
    (by simpa using ⟨⟨"tank.x", by decide⟩, "tank.x", by decide⟩) (by simp)
  refine ⟨(hframed.1.mpr ?_ (.unexportVolume "tank.x/a" {}) (by simp [Request.volumes])
    (by simp [Request.initiators]) [] _).1, by decide +kernel⟩
  rintro id hid ⟨target, hvolume, hother⟩
  rw [List.mem_singleton.mp hid] at hvolume
  exact absurd (hvolume.trans hother.symm) (by decide)

/-- Two accepted volumes with one target ID: unexporting one removes the export
of the other.  And an initiator that is a path: denying it to one volume takes
the grant of another away. -/
theorem exports_collide : (poolFromVolumeID "tank.x/pvc" = .ok "tank.x" ∧
        poolFromVolumeID "tank/x.pvc" = .ok "tank" ∧
        volumeTargetID .nvmeofTCP "tank.x/pvc" = volumeTargetID .nvmeofTCP "tank/x.pvc" ∧
        volumeTargetID .iscsi "tank.x/pvc" = volumeTargetID .iscsi "tank/x.pvc" ∧
        view (owned storageNode .nvmeofTCP "tank/x.pvc")
          (served [exportNVMe "tank/x.pvc"]).tree ≠ [] ∧
        view (owned storageNode .nvmeofTCP "tank/x.pvc")
          (served [exportNVMe "tank/x.pvc", .unexportVolume "tank.x/pvc" {}]).tree = []) ∧
      ((nvmeTargetForVolume "tank/b").allowedHostLink storageNode.nvmet "nqn.host" ∈
          (view (owned storageNode .nvmeofTCP "tank/b") (served [exportNVMe "tank/b",
            .allowInitiator "tank/b" "nqn.host" {} {}]).tree).map Prod.fst ∧
        (nvmeTargetForVolume "tank/b").allowedHostLink storageNode.nvmet "nqn.host" ∉
          (view (owned storageNode .nvmeofTCP "tank/b") (served [exportNVMe "tank/b",
            .allowInitiator "tank/b" "nqn.host" {} {}, .denyInitiator "tank/a"
              "../../nqn.2026-01.com.bhyoo.pillar-csi:tank.b/allowed_hosts/nqn.host" {}]).tree).map
            Prod.fst) := by
  decide +kernel

end PillarCsi.TargetFrame
