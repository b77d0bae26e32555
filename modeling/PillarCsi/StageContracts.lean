import PillarCsi.NodeContracts

/-!
What `NodeStageVolume` and `NodeUnstageVolume` may do, and what they leave.

A stage attaches, mounts and records; it writes a record only of the attachment
it made.  An unstage takes an attachment away only once nothing is mounted
where the record says the volume is staged.
-/

namespace PillarCsi.StageContracts

open FalliblePrograms.Program EffectPrograms StageRecord NodeHost NodeStaging
open NodeContracts

variable (node : NodeServer)

def attachSession (req : StageRequest) : Option Session :=
  match req.protocolType with
  | .nvmeofTCP => some (.nvme req.attachParams.connectionID)
  | .iscsi => (parseISCSIAttachParams node req.attachParams).toOption.map (·.session)
  | _ => none

def AttachedAs (params : AttachParams) (result : AttachResult) : Prop :=
  match params.protocolType with
  | .nvmeofTCP => result.state = .nvmeof params.connectionID params.address params.port
  | .iscsi => ∃ spec, parseISCSIAttachParams node params = .ok spec ∧
      result.state = .iscsi spec.targetIQN spec.address (toString spec.port) spec.lun
        spec.loginTimeout spec.chap
  | .nfs => ∃ state, result.state = .nfs state
  | .other _ => False

/-- A record that tells how to undo the request's attachment. -/
structure StagedAs (node : NodeServer) (req : StageRequest) (localDevice : Option String)
    (new : NodeStageState) : Prop where
  accessType : new.accessType = some req.accessType
  label : new.volumeID = req.volumeID
  file : new.file = false
  claimed : localDevice.isSome → new.attachMode = .local ∧
    new.localState.map (·.dmName) = some (node.localDMName req.volumeID)
  connected : localDevice = none → new.attachMode = .protocol ∧
    ∃ result, AttachedAs node req.attachParams result ∧ new.toProtocolState = .ok result.state

variable {state : NodeStageState}

theorem StagedAs.of_alike {node : NodeServer} {req : StageRequest} {localDevice : Option String}
    {new : NodeStageState} (h : StagedAs node req localDevice state)
    (halike : Alike new state) : StagedAs node req localDevice new := by
  rw [halike]
  exact ⟨h.accessType, h.label, h.file, h.claimed, h.connected⟩

def StageContract (req : StageRequest) (localDevice : Option String) : Event → Host → Prop
  | .readRecord key, _ => key = stateFileKey req.volumeID
  | .writeRecord key new, h => key = stateFileKey req.volumeID ∧
      (RewritesIn req.volumeID h new ∨
        StagedAs node req localDevice new ∧
          (Pinned req.volumeID h → new.preserveOriginal = true))
  | .removeRecord key, _ => key = stateFileKey req.volumeID ∧ localDevice.isSome
  | .mount m, _ => m.target = req.surface
  | .unmount target, _ => target = req.surface ∨ target = req.stagingPath
  | .connect session, _ | .disconnect session, _ =>
    localDevice = none ∧ attachSession node req = some session
  | .createClaim name _, _ | .removeClaim name, _ =>
    localDevice.isSome ∧ name = node.localDMName req.volumeID
  | .mkfs _ _, h | .fsck _, h => ¬ Pinned req.volumeID h
  | .probe _, _ => True
  | _, _ => False

/-- After a stage the volume has a record, pinned if the request said so. -/
def StageDone (req : StageRequest) (h : Host) : Prop :=
  ∃ recorded, recordOf h req.volumeID = some recorded ∧
    (req.preserveKey = true → recorded.preserveOriginal = true)

theorem toProtocolState_limitState (size : Int) (state : NodeStageState) :
    (limitState size state).toProtocolState = state.toProtocolState := by
  unfold NodeStageState.toProtocolState limitState
  cases state.nvmeof <;> rfl

theorem rewrites_limitState {volumeID : String} (size : Int) (state : NodeStageState) :
    Rewrites volumeID state (limitState size state) :=
  ⟨rfl, toProtocolState_limitState size state, rfl, rfl, rfl, rfl, .inl rfl, fun hpin => hpin⟩

variable {what devicePath : String} {preserve : Bool} {fs : StagedFilesystem}
  {result : Option AttachResult}

section Stage

variable {node : NodeServer} {req : StageRequest} {localDevice : Option String}
  {existing : Option NodeStageState} {P : Host → Prop} {α : Type} {R : α → Host → Prop} {cause : NodeError}

/-- The stage has read the volume's record and keeps what it read. -/
abbrev Stages (node : NodeServer) (req : StageRequest) (localDevice : Option String)
    (existing : Option NodeStageState) (p : Node α) (R : α → Host → Prop) : Prop :=
  Returns (StageContract node req localDevice) (Found req.volumeID existing) p R

theorem permitsRecord_stageContract :
    PermitsRecord (StageContract node req localDevice) req.volumeID :=
  ⟨fun _ => rfl, fun _ _ hrewrites => ⟨rfl, .inl hrewrites⟩⟩

theorem accepts_found {event : Event} (hkeeps : Event.keepsFiles event = true)
    (hallow : ∀ h, Found req.volumeID existing h → StageContract node req localDevice event h) :
    Accepts (StageContract node req localDevice) (Found req.volumeID existing) event :=
  fun h hfound => ⟨hallow h hfound, found_apply hkeeps hfound⟩

theorem abortLocal_spec (hlocal : localDevice.isSome) :
    Returns (StageContract node req localDevice) P (abortLocal node req cause) R := by
  have hrollback : Keeps (StageContract node req localDevice) (fun _ => True)
      (rollbackLocal node req) := by
    refine (keeps_unmount fun h _ => ⟨.inl rfl, trivial⟩).bind fun _ => ?_
    refine (Keeps.perform fun h _ => ⟨⟨hlocal, rfl⟩, trivial⟩).bind fun _ => ?_
    exact Keeps.perform fun h _ => ⟨⟨rfl, hlocal⟩, trivial⟩
  refine .weaken (P := fun _ => True) ?_ (fun _ _ => trivial) fun _ _ h => h
  exact hrollback.attempt.proceeds.bind fun _ => .fail

theorem failStaged_spec :
    Returns (StageContract node req localDevice) P
      (failStaged node req localDevice cause) R := by
  refine .ite (fun hlocal => abortLocal_spec hlocal) fun _ => .ite (fun _ => ?_) fun _ =>
    Returns.fail
  refine .weaken (P := fun _ => True) ?_ (fun _ _ => trivial) fun _ _ h => h
  have hunmount : Keeps (StageContract node req localDevice) (fun _ => True)
      (attempt (unmount (internal "NFS stage cleanup") req.stagingPath)) :=
    (keeps_unmount fun h _ => ⟨.inr rfl, trivial⟩).attempt
  exact hunmount.proceeds.bind fun _ => .fail

theorem orFailStaged_spec {p : Node α}
    (hp : Returns (StageContract node req localDevice) P p R) :
    Returns (StageContract node req localDevice) P
      (orFailStaged node req localDevice p) R := by
  refine .bind (R := fun result h => ∀ a, result = .ok a → R a h)
    (.attempt hp ?_ ?_ fun _ _ => trivial) fun result => ?_
  · rintro a h hR _ ⟨⟩
    exact hR
  · exact fun error h _ a heq => nomatch heq
  · cases result with
    | ok a => exact .pure _ fun h hR => hR a rfl
    | error e => exact failStaged_spec

theorem attachLocal_spec {device : String} :
    Stages node req (some device) existing (attachLocal node req device)
      fun _ => Found req.volumeID existing := by
  have hclaim : ∀ unavailable error, Keeps (StageContract node req (some device))
      (Found req.volumeID existing)
      (ensureLinear unavailable error (node.localDMName req.volumeID) device) :=
    fun _ _ => keeps_ensureLinear (accepts_found rfl fun _ _ => ⟨rfl, rfl⟩)
  refine (hclaim _ _).proceeds.bind fun dmPath => ?_
  refine (orFailStaged_spec Keeps.query.proceeds).bind fun enabled => ?_
  exact .ite (fun _ => .pure _ fun _ hfound => hfound) fun _ => abortLocal_spec rfl

theorem attachNVMeoF_spec (hnvme : req.protocolType = .nvmeofTCP) :
    Stages node req none existing (attachNVMeoF node what req.attachParams) fun result h =>
      Found req.volumeID existing h ∧ AttachedAs node req.attachParams result := by
  have hsession : attachSession node req = some (.nvme req.attachParams.connectionID) := by
    unfold attachSession
    rw [hnvme]
  have hattached : ∀ devicePath, AttachedAs node req.attachParams
      { devicePath := devicePath, mountSource := "",
        state := .nvmeof req.attachParams.connectionID req.attachParams.address
          req.attachParams.port } := by
    intro devicePath
    unfold AttachedAs
    rw [show req.attachParams.protocolType = .nvmeofTCP from hnvme]
  have hconnect : Accepts (StageContract node req none) (Found req.volumeID existing)
      (.connect (.nvme req.attachParams.connectionID)) := accepts_found rfl fun _ _ => ⟨rfl, hsession⟩
  unfold attachNVMeoF
  split
  · exact .fail
  · refine (Keeps.perform hconnect).proceeds.bind fun _ => Keeps.query.proceeds.bind fun _ => ?_
    refine Keeps.fail.when.proceeds.bind fun _ => Keeps.query.proceeds.bind fun _ => ?_
    exact .pure _ fun h hfound => ⟨hfound, hattached _⟩

theorem attachISCSI_spec (hiscsi : req.protocolType = .iscsi) :
    Stages node req none existing (attachISCSI node what req.attachParams) fun result h =>
      Found req.volumeID existing h ∧ AttachedAs node req.attachParams result := by
  unfold attachISCSI
  split
  · exact .fail
  rename_i spec hspec
  have hsession : attachSession node req = some spec.session := by
    unfold attachSession
    rw [hiscsi, hspec]
    rfl
  have hconnect : Accepts (StageContract node req none) (Found req.volumeID existing)
      (.connect spec.session) := accepts_found rfl fun _ _ => ⟨rfl, hsession⟩
  have hdisconnect : Accepts (StageContract node req none)
      (Found req.volumeID existing) (.disconnect spec.session) :=
    accepts_found rfl fun _ _ => ⟨rfl, hsession⟩
  have hdevice : Keeps (StageContract node req none) (Found req.volumeID existing)
      (deviceForLUN what spec) :=
    Keeps.query.bind fun _ => Keeps.fail.when.bind fun _ => .pure _
  refine (Keeps.perform hconnect).proceeds.bind fun _ => hdevice.attempt.proceeds.bind fun device => ?_
  cases device with
  | error e =>
    exact (Keeps.perform hdisconnect).attempt.proceeds.bind fun _ => Returns.fail
  | ok devicePath =>
    refine .pure _ fun h hfound => ⟨hfound, ?_⟩
    unfold AttachedAs
    rw [show req.attachParams.protocolType = .iscsi from hiscsi]
    exact ⟨spec, hspec, rfl⟩

theorem attachNFS_spec (hnfs : req.protocolType = .nfs) :
    Stages node req none existing (attachNFS node what req.attachParams) fun result h =>
      Found req.volumeID existing h ∧ AttachedAs node req.attachParams result := by
  unfold attachNFS
  split
  · exact .fail
  · refine Emits.ite (fun _ => Returns.fail) fun _ => ?_
    refine .pure _ fun h hfound => ⟨hfound, ?_⟩
    unfold AttachedAs
    rw [show req.attachParams.protocolType = .nfs from hnfs]
    exact ⟨_, rfl⟩

theorem handlerAttach_spec :
    Stages node req none existing (handlerAttach node what req.attachParams) fun result h =>
      Found req.volumeID existing h ∧ AttachedAs node req.attachParams result := by
  unfold handlerAttach
  split
  · exact attachNVMeoF_spec ‹_›
  · exact attachISCSI_spec ‹_›
  · exact attachNFS_spec ‹_›
  · exact .fail

def Attachment (node : NodeServer) (req : StageRequest) (localDevice : Option String)
    (result : Option AttachResult) : Prop :=
  localDevice = none → ∃ attached, result = some attached ∧
    AttachedAs node req.attachParams attached

theorem stageAttach_spec :
    Stages node req localDevice existing (stageAttach node req localDevice) fun attached h =>
      Found req.volumeID existing h ∧ Attachment node req localDevice attached.2 := by
  cases localDevice with
  | some device =>
    refine attachLocal_spec.bind fun dmPath => ?_
    exact .pure _ fun h hfound => ⟨hfound, fun hnone => nomatch hnone⟩
  | none =>
    refine handlerAttach_spec.bind fun result => ?_
    exact .pure _ fun h hfound => ⟨hfound.1, fun _ => ⟨result, rfl, hfound.2⟩⟩

variable (hpreserve : preserve = false → (existing.map (·.preserveOriginal)).getD false = false)

include hpreserve in
theorem keeps_stageMountNew (hsurface : req.surface = req.stagingPath) :
    Keeps (StageContract node req localDevice) (Found req.volumeID existing)
      (stageMountNew req preserve fs devicePath result) := by
  have hmount : ∀ m : Mount, m.target = req.stagingPath →
      Accepts (StageContract node req localDevice) (Found req.volumeID existing)
        (.mount m) := fun m hm => accepts_found rfl fun _ _ => hm.trans hsurface.symm
  refine .ite (fun _ => keeps_mountAt hmount) fun _ =>
    .ite (fun _ => keeps_mountExisting hmount) fun hformat => ?_
  have hunpinned := hpreserve (Bool.eq_false_iff.mpr hformat)
  exact keeps_formatAndMount hmount
    (fun _ => accepts_found rfl fun h hfound => not_pinned_of_found hfound hunpinned)
    (accepts_found rfl fun h hfound => not_pinned_of_found hfound hunpinned)

include hpreserve in
theorem stageMount_spec (hsurface : req.surface = req.stagingPath) :
    Stages node req localDevice existing
      (stageMount node req preserve localDevice fs devicePath result)
      fun _ => Found req.volumeID existing := by
  have hprobe : Accepts (StageContract node req localDevice)
      (Found req.volumeID existing) (.probe req.stagingPath) := accepts_found rfl fun _ _ => trivial
  have hdrop : Keeps (StageContract node req localDevice) (Found req.volumeID existing)
      (dropUnusableStagedMount (stageError req) req.stagingPath) :=
    keeps_dropUnusableStagedMount hprobe (accepts_found rfl fun _ _ => .inr rfl)
  have hverify : Keeps (StageContract node req localDevice)
      (Found req.volumeID existing) (stageVerify node req) :=
    .ite (fun _ => (keeps_checkMountHealth hprobe).bind fun _ => Keeps.fail.when)
      fun _ => .query
  have hnew : Stages node req localDevice existing
      (stageMountNew req preserve fs devicePath result) fun _ => Found req.volumeID existing :=
    (keeps_stageMountNew hpreserve hsurface).proceeds
  refine (orFailStaged_spec Keeps.query.proceeds).bind fun found => ?_
  refine (Keeps.ite (fun _ => hdrop) fun _ => Keeps.pure found).proceeds.bind fun mounted => ?_
  exact (Proceeds.when (orFailStaged_spec hnew)).bind fun _ => orFailStaged_spec hverify.proceeds

theorem stageBind_spec (hsurface : req.surface = blockStagingDevicePath req.stagingPath) :
    Stages node req localDevice existing (stageBind node req localDevice devicePath)
      fun _ => Found req.volumeID existing := by
  have hbind : ∀ error, Keeps (StageContract node req localDevice)
      (Found req.volumeID existing)
      (mountAt error devicePath (blockStagingDevicePath req.stagingPath) "") :=
    fun _ => keeps_mountAt fun m hm => accepts_found rfl fun _ _ => hm.trans hsurface.symm
  refine (orFailStaged_spec Keeps.query.proceeds).bind fun mounted => ?_
  exact (Proceeds.when (orFailStaged_spec (hbind _).proceeds)).bind fun _ =>
    orFailStaged_spec Keeps.query.proceeds

include hpreserve in
theorem stagePresent_spec :
    Stages node req localDevice existing
      (stagePresent node req preserve localDevice fs devicePath result)
      fun _ => Found req.volumeID existing := by
  unfold stagePresent
  split
  · rename_i hcap
    refine stageMount_spec hpreserve ?_
    simp [StageRequest.surface, StageRequest.accessType, hcap, Capability.accessType, stageSurface]
  · rename_i hcap
    refine stageBind_spec ?_
    simp [StageRequest.surface, StageRequest.accessType, hcap, Capability.accessType, stageSurface]
  · exact failStaged_spec

theorem toProtocolState_stageStateFromAttachResult {result : AttachResult}
    (h : AttachedAs node req.attachParams result) :
    (stageStateFromAttachResult req.protocolType req.accessType req.attachParams.connectionID
      req.attachParams.address req.attachParams.port result).toProtocolState =
        .ok result.state := by
  unfold AttachedAs at h
  rw [show req.attachParams.protocolType = req.protocolType from rfl] at h
  revert h
  cases req.protocolType with
  | nvmeofTCP =>
    intro h
    simp [stageStateFromAttachResult, nvmeofStageState, NodeStageState.toProtocolState, h]
  | iscsi =>
    rintro ⟨spec, -, h⟩
    simp [stageStateFromAttachResult, iscsiStageState, NodeStageState.toProtocolState, h]
  | nfs =>
    rintro ⟨state, h⟩
    simp [stageStateFromAttachResult, nfsStageState, NodeStageState.toProtocolState, h]
  | other name => exact fun h => h.elim

theorem stageStateFromAttachResult_fields (protocolType : ProtocolType) (accessType : AccessType)
    (targetID address port : String) (result : AttachResult) :
    let state := stageStateFromAttachResult protocolType accessType targetID address port result
    state.accessType = some accessType ∧ state.file = false ∧ state.attachMode = .protocol := by
  cases protocolType <;> exact ⟨rfl, rfl, rfl⟩

theorem stagedAs_stagedState (hattached : Attachment node req localDevice result) :
    StagedAs node req localDevice
      (stagedState node req preserve localDevice fs devicePath result) := by
  cases localDevice with
  | some device => exact ⟨rfl, rfl, rfl, fun _ => ⟨rfl, rfl⟩, fun hnone => nomatch hnone⟩
  | none =>
    obtain ⟨attached, rfl, hstate⟩ := hattached rfl
    refine ⟨?_, rfl, ?_, (fun hsome => nomatch hsome), fun _ => ⟨?_, attached, hstate, ?_⟩⟩
    · exact (stageStateFromAttachResult_fields _ _ _ _ _ attached).1
    · exact (stageStateFromAttachResult_fields _ _ _ _ _ attached).2.1
    · exact (stageStateFromAttachResult_fields _ _ _ _ _ attached).2.2
    · change (limitState _ (stageStateFromAttachResult _ _ _ _ _ attached)).toProtocolState = _
      rw [toProtocolState_limitState]
      exact toProtocolState_stageStateFromAttachResult hstate

include hpreserve in
theorem stageFresh_spec (hkey : req.preserveKey = true → preserve = true) :
    Stages node req localDevice existing (stageFresh node req preserve localDevice)
      fun _ => StageDone req := by
  unfold stageFresh
  split
  · exact .fail
  refine stageAttach_spec.bind fun attached => ?_
  obtain ⟨devicePath, result⟩ := attached
  refine .of_fact (fun h hP => hP.2) fun hattached => ?_
  refine .weaken ?_ (fun h hP => hP.1) fun _ _ hQ => hQ
  refine (stagePresent_spec hpreserve).bind fun _ => orFailStaged_spec ?_
  refine writeStageState_spec (fun h new hfound halike => ⟨rfl, .inr ⟨?_, fun hpinned => ?_⟩⟩)
    (fun _ _ _ => trivial) ?_
  · exact (stagedAs_stagedState hattached).of_alike halike
  · rw [halike]
    by_contra hunset
    exact not_pinned_of_found hfound (hpreserve (Bool.eq_false_iff.mpr hunset)) hpinned
  · rintro (stop | ⟨⟨⟩⟩) h new hfound halike
    · trivial
    · refine ⟨_, recordOf_writeRecord h req.volumeID new, fun hset => ?_⟩
      rw [halike]
      exact hkey hset

theorem rewrites_restagedState (hpin : state.preserveOriginal = true → preserve = true) :
    Rewrites req.volumeID state (restagedState node req preserve localDevice state) := by
  have hplaced : Rewrites req.volumeID state (placedState req state) := by
    unfold placedState
    split
    · exact ⟨rfl, rfl, rfl, rfl, rfl, rfl, .inr rfl, fun h => h⟩
    · exact rewrites_of_alike (Alike.refl state)
  have hlimited : Rewrites req.volumeID (placedState req state)
      (limitedState node req localDevice (placedState req state)) := by
    unfold limitedState
    split
    · exact rewrites_limitState _ _
    · exact rewrites_of_alike (Alike.refl _)
  have h := hplaced.trans hlimited
  exact ⟨h.accessType, h.protocolState, h.protocolType, h.attachMode, h.localState, h.file, h.label,
    hpin⟩

theorem stageAgain_spec (hkey : req.preserveKey = true → preserve = true)
    (hpin : state.preserveOriginal = true → preserve = true) :
    Stages node req localDevice (some state) (stageAgain node req preserve localDevice state)
      fun _ => StageDone req := by
  refine Keeps.query.when.proceeds.bind fun _ => ?_
  refine writeStageState_spec (fun h new hfound halike => ?_) (fun _ _ _ => trivial) ?_
  · refine permitsRecord_stageContract.rewrite h new (.of_found hfound ?_)
    exact (rewrites_restagedState hpin).trans (rewrites_of_alike halike)
  · rintro (stop | ⟨⟨⟩⟩) h new hfound halike
    · trivial
    · refine ⟨_, recordOf_writeRecord h req.volumeID new, fun hset => ?_⟩
      rw [halike]
      exact hkey hset

theorem stageRecorded_spec :
    Stages node req localDevice (some state) (stageRecorded node req localDevice state)
      fun _ => StageDone req := by
  have hprobe : Accepts (StageContract node req localDevice)
      (Found req.volumeID (some state)) (.probe req.stagingPath) :=
    accepts_found rfl fun _ _ => trivial
  have husable : Keeps (StageContract node req localDevice)
      (Found req.volumeID (some state)) (stagedUsable node req) :=
    Keeps.query.bind fun _ => .ite (fun _ => .pure _) fun _ =>
      .ite (fun _ => keeps_dropUnusableStagedMount hprobe (accepts_found rfl fun _ _ => .inr rfl))
        fun _ => Keeps.query.bind fun _ => .pure _
  have hkey : req.preserveKey = true → (req.preserveKey || state.preserveOriginal) = true :=
    fun hset => by rw [hset, Bool.true_or]
  have hpin : state.preserveOriginal = true →
      (req.preserveKey || state.preserveOriginal) = true :=
    fun hset => by rw [hset, Bool.or_true]
  refine Emits.ite (fun _ => Returns.fail) fun _ => ?_
  refine husable.proceeds.bind fun usable => .ite (fun _ => stageAgain_spec hkey hpin) fun _ => ?_
  exact stageFresh_spec (fun hunset => (Bool.or_eq_false_iff.mp hunset).2) hkey

theorem nodeStageVolume_spec (hvalid : validateStage node req = .ok localDevice) :
    Returns (StageContract node req localDevice) (fun _ => True)
      (nodeStageVolume node req) fun _ => StageDone req := by
  unfold nodeStageVolume
  rw [hvalid]
  refine (readStageState_spec permitsRecord_stageContract).bind fun existing => ?_
  cases existing with
  | none =>
    have hunpinned : ((none : Option NodeStageState).map (·.preserveOriginal)).getD false = false :=
      rfl
    exact stageFresh_spec (fun _ => hunpinned) fun hset => hset
  | some state => exact stageRecorded_spec

end Stage

def detachSession : ProtocolState → Option Session
  | .nvmeof subsysNQN _ _ => some (.nvme subsysNQN)
  | .iscsi targetIQN address port _ _ _ => (parsePort port).map (.iscsi targetIQN address ·)
  | .nfs _ => none

/-- Nothing is mounted where the volume's record says that it is staged; a
volume without a record has nothing mounted in either place. -/
def Released (req : UnstageRequest) (h : Host) : Prop :=
  ∀ access, (∀ recorded, recordOf h req.volumeID = some recorded →
      recorded.accessType = some access) →
    h.mountedAt (stageSurface req.stagingPath access) = false

def UnstageContract (req : UnstageRequest) : Event → Host → Prop
  | .readRecord key, _ => key = stateFileKey req.volumeID
  | .writeRecord key new, h => key = stateFileKey req.volumeID ∧
      ∃ old, recordOf h req.volumeID = some old ∧ Alike new old
  | .removeRecord key, h => key = stateFileKey req.volumeID ∧ Released req h
  | .unmount target, _ => ∃ access, target = stageSurface req.stagingPath access
  | .disconnect _, h | .removeClaim _, h => Released req h
  | _, _ => False

/-- The record's claim or session is gone. -/
def Detached (state : NodeStageState) (h : Host) : Prop :=
  state.file = false →
    (state.attachMode = .local → ∀ claim, state.localState = some claim →
      claim.dmName ∉ h.claims.map (·.1)) ∧
    (state.attachMode = .protocol → ∀ proto session, state.toProtocolState = .ok proto →
      detachSession proto = some session → session ∉ h.sessions)

def Unstaged (req : UnstageRequest) (existing : Option NodeStageState) (h : Host) : Prop :=
  Found req.volumeID none h ∧
    match existing with
    | none => (∀ access, h.mountedAt (stageSurface req.stagingPath access) = false) ∧
        node.localDMName req.volumeID ∉ h.claims.map (·.1)
    | some state =>
      h.mountedAt (stageSurface req.stagingPath (state.accessType.getD .filesystem)) = false ∧
        Detached state h

section Unstage

variable {node : NodeServer} {req : UnstageRequest} {state : NodeStageState}

theorem reads_unstageContract (event : Event) (h : Host)
    (hread : ReadContract req.volumeID event h) : UnstageContract req event h := by
  cases event with
  | readRecord key | writeRecord key new => exact hread
  | _ => exact hread.elim

/-- The record was read and its surface is unmounted. -/
def Cleared (req : UnstageRequest) (state : NodeStageState) (h : Host) : Prop :=
  Found req.volumeID (some state) h ∧
    h.mountedAt (stageSurface req.stagingPath (state.accessType.getD .filesystem)) = false

theorem Cleared.released {h : Host} (hcleared : Cleared req state h) : Released req h := by
  intro access haccess
  obtain ⟨⟨recorded, hrecorded, halike⟩, hunmounted⟩ := hcleared
  have hstate : state.accessType = some access := by
    rw [halike]
    exact haccess recorded hrecorded
  rw [hstate] at hunmounted
  exact hunmounted

theorem released_of_found_none {h : Host} (hnone : ∀ access,
    h.mountedAt (stageSurface req.stagingPath access) = false) : Released req h :=
  fun access _ => hnone access

theorem unmount_spec {error : NodeError} :
    Returns (UnstageContract req) (Found req.volumeID (some state))
      (unmount error (stageSurface req.stagingPath (state.accessType.getD .filesystem)))
      fun _ => Cleared req state := by
  refine .perform (fun _ _ => ⟨_, rfl⟩) fun h hfound => ⟨found_apply rfl hfound, ?_⟩
  simp [Host.mountedAt, Host.apply, Host.effect]

theorem releaseLocal_spec (hlocal : state.attachMode = .local) :
    Returns (UnstageContract req) (Cleared req state) (releaseLocal req state)
      fun _ h => Cleared req state h ∧ Detached state h := by
  unfold releaseLocal
  split
  · exact .fail
  rename_i claim hclaim
  refine Emits.ite (fun _ => Returns.fail) fun _ => ?_
  refine Returns.perform (fun h hcleared => hcleared.released) fun h hcleared => ?_
  refine ⟨⟨found_apply rfl hcleared.1, hcleared.2⟩, fun _ => ⟨?_, ?_⟩⟩
  · rintro - claim' hclaim'
    obtain rfl := Option.mem_unique hclaim hclaim'
    simp [Host.apply, Host.effect]
  · intro hprotocol
    rw [hlocal] at hprotocol
    cases hprotocol

theorem handlerDetach_spec {proto : ProtocolState} :
    Returns (UnstageContract req) (Cleared req state) (handlerDetach what proto)
      fun _ h => Cleared req state h ∧
        ∀ session, detachSession proto = some session → session ∉ h.sessions := by
  have hdisconnect : ∀ error session, (∀ s, detachSession proto = some s → s = session) →
      Returns (UnstageContract req) (Cleared req state) (act error (.disconnect session))
        fun _ h => Cleared req state h ∧
          ∀ s, detachSession proto = some s → s ∉ h.sessions := by
    intro error session hsession
    refine .perform (fun h hcleared => hcleared.released) fun h hcleared => ?_
    refine ⟨⟨found_apply rfl hcleared.1, hcleared.2⟩, fun s hs => ?_⟩
    rw [hsession s hs]
    simp [Host.apply, Host.effect]
  cases proto with
  | nvmeof subsysNQN address port =>
    refine Emits.ite (fun _ => Returns.fail) fun _ => hdisconnect _ _ ?_
    rintro s ⟨⟩
    rfl
  | iscsi targetIQN address port lun loginTimeout chap =>
    cases hport : parsePort port with
    | none =>
      simp only [handlerDetach, hport]
      exact .fail
    | some n =>
      simp only [handlerDetach, hport]
      refine Emits.ite (fun _ => Returns.fail) fun _ => hdisconnect _ _ ?_
      intro s hs
      rw [detachSession, hport] at hs
      exact (Option.some.inj hs).symm
  | nfs nfs =>
    refine Emits.ite (fun _ => Returns.fail) fun _ => ?_
    exact .pure _ fun h hcleared => ⟨hcleared, fun s hs => by cases hs⟩

theorem detachProtocol_spec (hprotocol : state.attachMode = .protocol) :
    Returns (UnstageContract req) (Cleared req state) (detachProtocol node req state)
      fun _ h => Cleared req state h ∧ Detached state h := by
  have hdetached : ∀ h, (∀ proto session, state.toProtocolState = .ok proto →
      detachSession proto = some session → session ∉ h.sessions) → Detached state h := by
    refine fun h hsessions _ => ⟨fun hlocal => ?_, fun _ => hsessions⟩
    rw [hprotocol] at hlocal
    cases hlocal
  unfold detachProtocol
  split
  · exact .fail
  rename_i protocolType htype
  refine Emits.ite (fun _ => Emits.ite (fun hnfs => ?_) fun _ => Returns.fail)
    fun _ => ?_
  · -- an NFS volume has no session
    refine .pure _ fun h hcleared => ⟨hcleared, hdetached h fun proto session hproto hs => ?_⟩
    unfold NodeStageState.toProtocolState at hproto
    rw [htype, hnfs] at hproto
    cases hstate : state.nfs with
    | none => simp [hstate] at hproto
    | some nfs =>
      simp only [hstate, Except.ok.injEq] at hproto
      rw [← hproto] at hs
      cases hs
  · split
    · exact Returns.fail
    rename_i proto hproto
    refine handlerDetach_spec.weaken (fun _ hcleared => hcleared) fun _ h hR => ?_
    refine ⟨hR.1, hdetached h fun proto' session hproto' hs => ?_⟩
    obtain rfl := Except.ok.inj (hproto.symm.trans hproto')
    exact hR.2 session hs

theorem detachRecorded_spec :
    Returns (UnstageContract req) (Cleared req state) (detachRecorded node req state)
      fun _ h => Cleared req state h ∧ Detached state h := by
  refine .ite (fun hfile => ?_) fun _ => .ite (fun hlocal => ?_) fun hprotocol => ?_
  · refine .pure _ fun h hcleared => ⟨hcleared, fun hblock => ?_⟩
    rw [hfile] at hblock
    cases hblock
  · exact releaseLocal_spec (of_decide_eq_true hlocal)
  · refine detachProtocol_spec ?_
    cases hmode : state.attachMode with
    | protocol => rfl
    | «local» => exact absurd (decide_eq_true hmode) hprotocol

theorem unstageRecorded_spec :
    Returns (UnstageContract req) (Found req.volumeID (some state))
      (unstageRecorded node req state) fun _ => Unstaged node req (some state) := by
  refine Emits.ite (fun _ => Returns.fail) fun _ => ?_
  refine unmount_spec.bind fun _ => detachRecorded_spec.bind fun _ => ?_
  refine .perform (fun h hP => ⟨rfl, hP.1.released⟩) fun h hP => ⟨?_, hP.1.2, hP.2⟩
  simp [Found, Host.apply, Host.effect]

theorem unstageUnrecorded_spec : Returns (UnstageContract req) (Found req.volumeID none)
      (do
        checkUnstagedWithoutState req
        removeOrphanLocal node req)
      fun _ => Unstaged node req none := by
  have hcheck : ∀ target (P : Host → Prop), Returns (UnstageContract req) P
      (checkUnmounted req target) fun _ h => P h ∧ h.mountedAt target = false := by
    intro target P
    refine .bind (R := fun mounted h => P h ∧ h.mountedAt target = mounted)
      (.query fun h hP => ⟨hP, rfl⟩) fun mounted => ?_
    refine Emits.ite (fun _ => Returns.fail) fun hmounted => ?_
    exact .pure _ fun h hP => ⟨hP.1, hP.2.trans (Bool.eq_false_iff.mpr hmounted)⟩
  have hunmounted : Returns (UnstageContract req) (Found req.volumeID none)
      (checkUnstagedWithoutState req) fun _ h => Found req.volumeID none h ∧
        ∀ access, h.mountedAt (stageSurface req.stagingPath access) = false := by
    refine (hcheck _ _).bind fun _ => (hcheck _ _).weaken (fun _ hP => hP) fun _ h hR => ?_
    refine ⟨hR.1.1, ?_⟩
    rintro (_ | _)
    · exact hR.1.2
    · exact hR.2
  refine hunmounted.bind fun _ => .bind (R := fun (present : Bool) (h : Host) =>
      (Found req.volumeID none h ∧
        ∀ access, h.mountedAt (stageSurface req.stagingPath access) = false) ∧
        h.claims.any (·.1 = node.localDMName req.volumeID) = present)
    (.query fun h hP => ⟨hP, rfl⟩) fun present => ?_
  refine .ite (fun _ => ?_) fun habsent => .pure _ fun h hP => ⟨hP.1.1, hP.1.2, ?_⟩
  · refine Returns.perform (fun h hP => released_of_found_none hP.1.2)
      fun h hP => ⟨found_apply rfl hP.1.1, hP.1.2, ?_⟩
    simp [Host.apply, Host.effect]
  · have hany := hP.2.trans (Bool.eq_false_iff.mpr habsent)
    intro hmem
    obtain ⟨claim, hclaim, hname⟩ := List.mem_map.mp hmem
    exact absurd (decide_eq_true hname) (List.any_eq_false.mp hany claim hclaim)

theorem nodeUnstageVolume_spec {J : Host → Prop}
    (hJ : Closed (ReadContract req.volumeID) J) :
    Returns (UnstageContract req) J (nodeUnstageVolume node req)
      fun _ h => ∃ existing, (∃ before, J before ∧ Found req.volumeID existing before) ∧
        Unstaged node req existing h := by
  refine Emits.ite (fun _ => Returns.fail) fun _ => Emits.ite (fun _ => Returns.fail) fun _ => ?_
  refine .bind ((readStageState_reads.keeping reads_unstageContract hJ).weaken
    (fun h hJh => ⟨trivial, hJh⟩) fun _ _ hQ => hQ) (fun existing => ?_) fun _ _ _ => trivial
  refine .of_fact (φ := ∃ before, J before ∧ Found req.volumeID existing before)
    (fun h hP => ⟨h, hP.2, hP.1⟩) fun hfound => ?_
  cases existing with
  | none => exact unstageUnrecorded_spec.weaken (fun _ hP => hP.1) fun _ _ h => ⟨none, hfound, h⟩
  | some state =>
    exact unstageRecorded_spec.weaken (fun _ hP => hP.1) fun _ _ h => ⟨some state, hfound, h⟩

end Unstage

end PillarCsi.StageContracts
