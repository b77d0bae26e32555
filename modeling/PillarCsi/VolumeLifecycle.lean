import PillarCsi.AgentRuns
import PillarCsi.RecordHistory

/-!
One volume lifecycle from its record to its removal: any number of
`CreateVolume`, `DeleteVolume` and reaper calls in any number of controllers,
the writes and requests of publish, unpublish, resync and expand, and the agent
that owns the volume (`internal/csi/controller.go`, `volume_fencing.go`,
`volume_reap.go`).

A call is a thread that stops at every compare-and-swap of the record and at
every agent request.  A request stays in the network for good and may reach the
agent at any time, any number of times or never; the agent runs it with
whatever its surroundings answer.
-/

namespace PillarCsi.VolumeLifecycle

open DurableCell FencingAdmission FencedOperations OwnershipOperations AgentRuns VolumeRecord
open RecordHistory

inductive AgentRequest where
  | fenced (call : FencedCall)
  | importVolume (src : Option MarkLVMSource) (preserve : Bool)
  | filesystem (revoking : Bool) (call : FilesystemCall)
  | transferVolumeOwnership (snap : RecoverySnapshot) (auth : RecoveryAuthorization)
  | releaseVolume (filesystem : Option FilesystemCall)
  deriving DecidableEq, Repr

structure SentRequest where
  request : AgentRequest
  token : FencingToken
  deriving DecidableEq, Repr

/-- The part of a release that runs under one hold of the fencing lock. -/
inductive ReleaseStage where
  | probe
  | unexport
  | retire
  deriving DecidableEq, Repr

/-- What the surroundings of the agent answer while it runs a request. -/
structure AgentSurroundings where
  backend : Option BackendType := none
  fenced : Surroundings := {}
  importing : ImportSurroundings := {}
  filesystem : FilesystemSurroundings := {}
  transfer : TransferSurroundings := {}
  stage : ReleaseStage := .retire
  retire : RetireSurroundings := {}

variable (volumeID : String) (token : FencingToken)

def executeFenced (call : FencedCall) (env : AgentSurroundings) (marks : MarkCell) : Outcome :=
  fencedChecked volumeID token call.op env.backend (call.check volumeID) env.fenced marks

def executeFilesystem (revoking : Bool) (call : FilesystemCall)
    (env : AgentSurroundings) (marks : MarkCell) : Outcome :=
  filesystemOperation volumeID call token (if revoking then .revoke else .grant) env.filesystem marks

/-- What a release removes before it retires the lifecycle. -/
def executeUnexport : Option FilesystemCall → AgentSurroundings → MarkCell → Outcome
  | none, env, marks => executeFenced volumeID token .revokeExport env marks
  | some call, env, marks => executeFilesystem volumeID token true call env marks

def executeRetire (unexported : Bool)
    (env : AgentSurroundings) (marks : MarkCell) : MarkCell × Except FenceError Bool :=
  retireFence volumeID token unexported env.retire marks

/-- The marks after a request, and whether it was answered with success. -/
def execute (sent : SentRequest) (env : AgentSurroundings) (marks : MarkCell) : MarkCell × Bool :=
  match sent.request with
  | .fenced call =>
    let r := executeFenced volumeID sent.token call env marks
    (r.marks, r.reply.isOk)
  | .importVolume src preserve =>
    let r := fencedImport volumeID sent.token src preserve env.importing marks
    (r.1, r.2.isOk)
  | .filesystem revoking call =>
    let r := executeFilesystem volumeID sent.token revoking call env marks
    (r.marks, r.reply.isOk)
  | .transferVolumeOwnership snap auth =>
    let r := transferVolumeOwnership volumeID snap auth env.transfer marks
    (r.1, r.2 = .ok .committed || r.2 = .ok .alreadyCommitted)
  | .releaseVolume filesystem =>
    match env.stage with
    | .probe =>
      let r := executeRetire volumeID sent.token false env marks
      (r.1, r.2 = .ok false)
    | .unexport => ((executeUnexport volumeID sent.token filesystem env marks).marks, false)
    | .retire =>
      let r := executeRetire volumeID sent.token true env marks
      (r.1, r.2 = .ok false)

structure AgentVolume where
  volumeID : String
  capacity : Int := 0
  deriving DecidableEq, Repr

variable (pvs : VolumeState)

def filesystemCall (adoption : FilesystemAdoption) (capacity : Int)
    (importing : Bool) : FilesystemCall :=
  { adoption := adoption, volumeID := pvs.spec.agentVolumeID, capacity := capacity
    importing := importing }

variable (volume : AgentVolume)

/-- The backend step of `CreateVolume` when nothing was created yet. -/
def backendRequest (pvs : VolumeState) : AgentRequest :=
  match pvs.spec.filesystemAdoption with
  | some adoption => .filesystem false (filesystemCall pvs adoption volume.capacity true)
  | none =>
    if pvs.spec.importedFrom ≠ "" then
      .importVolume none false
    else
      match pvs.spec.lvmSource with
      | some src =>
        .importVolume
          (some
            { volumeGroup := src.volumeGroup, logicalVolume := src.logicalVolume
              volumeGroupUUID := src.volumeGroupUUID
              logicalVolumeUUID := src.logicalVolumeUUID })
          src.preserveOriginal
      | none => .fenced .createVolume

def exportRequest (pvs : VolumeState) : AgentRequest :=
  match pvs.spec.filesystemAdoption with
  | some adoption => .filesystem false (filesystemCall pvs adoption volume.capacity false)
  | none => .fenced .grantExport

def unexportRequest : AgentRequest :=
  match pvs.spec.filesystemAdoption with
  | some adoption => .filesystem true (filesystemCall pvs adoption 0 false)
  | none => .fenced .revokeExport

def releaseRequest : AgentRequest :=
  .releaseVolume (pvs.spec.filesystemAdoption.map fun adoption =>
    filesystemCall pvs adoption 0 false)

/-- What publish, unpublish, resync and expand ask of the agent. -/
inductive PeerCall where
  | grant
  | revoke
  | expand
  deriving DecidableEq, Repr

/-- An adopted filesystem is never expanded. -/
def peerRequest (pvs : VolumeState) : PeerCall → AgentRequest
  | .grant => exportRequest volume pvs
  | .revoke => unexportRequest pvs
  | .expand =>
    if pvs.spec.filesystemAdoption.isSome then exportRequest volume pvs
    else .fenced .expandVolume

/-- Where a call stands.  `pvs` is the record it read, `id` the number of the
request it waits for. -/
inductive Thread where
  | idle
  | ensuring
  | adopting (pvs : VolumeState) (resolved : Option ResolvedVolumeConfig)
  | pending (pvs : VolumeState)
  | preparing (pvs : VolumeState)
  | repersisting (pvs : VolumeState) (exportSpec : Option VolumeExportSpec)
  | claiming (pvs : VolumeState) (exportSpec : Option VolumeExportSpec)
  | provisioning (pvs : VolumeState) (exportSpec : Option VolumeExportSpec) (id : Nat)
  | recording (pvs : VolumeState) (devicePath : String) (exportSpec : Option VolumeExportSpec)
  | exportClaiming (pvs : VolumeState)
  | exporting (pvs : VolumeState) (id : Nat)
  | finishing (pvs : VolumeState) (info : Option VolumeExportInfo)
  /-- The reaper passes the lifecycle it decided on. -/
  | marking (volumeID : String) (reaping : Option String)
  | unexporting (pvs : VolumeState) (id : Nat)
  | destroying (pvs : VolumeState) (id : Nat)
  | releasing (pvs : VolumeState) (id : Nat)
  | removing (pvs : VolumeState)
  deriving DecidableEq, Repr

inductive Event where
  /-- A `CreateVolume` call returned success. -/
  | handedOut
  | adopted
  /-- The agent answered a `DeleteVolume` with success. -/
  | destroyed
  /-- The deleting flag was committed, by the reaper or by `DeleteVolume`. -/
  | marked (reaping : Bool)
  deriving DecidableEq, Repr

structure System where
  record : Option VolumeState
  marks : MarkCell
  sent : List SentRequest
  acked : List Nat
  threads : Nat → Thread
  /-- Every record committed so far, newest first. -/
  history : List VolumeState
  events : List Event

def System.init (record : VolumeState) (marks : MarkCell) : System :=
  { record := some record, marks := marks, sent := [], acked := []
    threads := fun _ => .idle, history := [record], events := [] }

variable (s : System) (tid : Nat)

def System.goto (thread : Thread) : System :=
  { s with threads := Function.update s.threads tid thread }

def System.store (pvs : VolumeState) : System :=
  { s with record := some pvs, history := pvs :: s.history }

def System.log (event : Event) : System :=
  { s with events := event :: s.events }

def System.send (request : AgentRequest) (token : FencingToken) : System :=
  { s with sent := s.sent ++ [{ request := request, token := token }] }

def System.call (request : AgentRequest) (token : FencingToken) (wait : Nat → Thread) : System :=
  (s.send request token).goto tid (wait s.sent.length)

variable (driver : CSIDriver)

def System.updateRecord (uid : String) (mutation : VolumeRecord.Mutation) : UpdateResult :=
  updateVolumeState driver ((s.record.map (·.name)).getD "") uid mutation s.record

/-- The call goes on with the record `ensureVolumeState` returned. -/
def afterEnsure (resolved : Option ResolvedVolumeConfig) : Thread :=
  if pvs.deleting then .idle
  else if pvs.spec.recovery.isSome then .adopting pvs resolved
  else .preparing pvs

/-- `creating`: the call saw no record before and took the creating path, which
ends with the first status write. -/
def System.ensureVolumeState (creating : Bool) (resolved : Option ResolvedVolumeConfig) : System :=
  match s.record with
  | none => s.goto tid .idle
  | some pvs =>
    if creating ∧ pvs.phase = .unset then
      match s.updateRecord driver pvs.uid .startProvisioning with
      | .committed next => (s.store next).goto tid (afterEnsure next resolved)
      | .unchanged current => s.goto tid (afterEnsure current resolved)
      | _ => s.goto tid .idle
    else
      s.goto tid (afterEnsure pvs resolved)

/-- The backend exists: only the export is left. -/
def exportStage : Thread :=
  if localOnlyFilesystem pvs then .finishing pvs none else .exportClaiming pvs

/-- What a recovery finds at the agent. -/
inductive RecoveryPlan where
  | transferred (devicePath : String)
  | transfer (snap : RecoverySnapshot) (auth : RecoveryAuthorization)
  deriving DecidableEq, Repr

/-- The backend of this lifecycle was created by an earlier attempt. -/
def backendCreated : Bool :=
  pvs.phase = .createPartial &&
    (pvs.backendDevicePath != "" ||
      (pvs.spec.filesystemAdoption.isSome && pvs.importAcquired))

/-- A filesystem attached only on its storage node has no network export. -/
def recordedExportSpec (exportSpec : Option VolumeExportSpec) : Option VolumeExportSpec :=
  if localOnlyFilesystem pvs then none else exportSpec

/-- The backend switch.  An authorization is only used for the lifecycle and
the generation the record declares. -/
def System.prepareBackend (pvs : VolumeState)
    (exportSpec : Option VolumeExportSpec) (plan : RecoveryPlan) : Option System :=
  match pvs.spec.recovery, plan with
  | some _, .transferred devicePath => some (s.goto tid (.recording pvs devicePath exportSpec))
  | some intent, .transfer snap auth =>
    if auth.newVolumeUID = pvs.uid ∧ auth.newGeneration = intent.newGeneration then
      some (s.call tid (.transferVolumeOwnership snap auth) (tokenOf pvs)
        (.provisioning pvs exportSpec))
    else
      none
  | none, _ =>
    if backendCreated pvs then
      if pvs.exportSpec ≠ exportSpec then
        some (s.goto tid (.repersisting pvs exportSpec))
      else
        some (s.goto tid (exportStage pvs))
    else
      some (s.goto tid (.claiming pvs exportSpec))

/-- `adoptRecoveryIntent` fills the intent first and then adopts the phase. -/
def System.fillIntent (pvs : VolumeState) (resolved : Option ResolvedVolumeConfig) : System :=
  match s.updateRecord driver pvs.uid (.fillRecoveryWriteOnce pvs.uid resolved) with
  | .committed next => (s.store next).goto tid (.pending pvs)
  | .unchanged _ => s.goto tid (.pending pvs)
  | _ => s.goto tid .idle

def System.adoptPhase (pvs : VolumeState) : System :=
  match s.updateRecord driver pvs.uid .adoptRecoveryPhase with
  | .committed next => (s.store next).goto tid (.preparing pvs)
  | .unchanged _ => s.goto tid (.preparing pvs)
  | _ => s.goto tid .idle

/-- The claim of `createBackend` and `importBackend` and the request after it. -/
def System.claimBackend (s : System) (tid : Nat) (driver : CSIDriver)
    (pvs : VolumeState) (exportSpec : Option VolumeExportSpec) : System :=
  match s.updateRecord driver pvs.uid (.claimOperation pvs.spec.volumeID) with
  | .committed next =>
    (s.store next).call tid (backendRequest volume pvs) (tokenOf next)
      (.provisioning pvs exportSpec)
  | _ => s.goto tid .idle

/-- The call goes on with the record it read before. -/
def System.recordPartial (pvs : VolumeState)
    (devicePath : String) (exportSpec : Option VolumeExportSpec) : System :=
  match s.updateRecord driver pvs.uid (.persistCreatePartial devicePath exportSpec) with
  | .committed next => (s.store next).goto tid (exportStage pvs)
  | _ => s.goto tid .idle

def System.claimExport (s : System) (tid : Nat) (driver : CSIDriver) (pvs : VolumeState) : System :=
  match s.updateRecord driver pvs.uid (.claimOperation pvs.spec.volumeID) with
  | .committed next =>
    (s.store next).call tid (exportRequest volume pvs) (tokenOf next) (.exporting pvs)
  | _ => s.goto tid .idle

def System.recordReady (pvs : VolumeState) (info : Option VolumeExportInfo) : System :=
  match s.updateRecord driver pvs.uid (.persistVolumeReady info) with
  | .committed next => ((s.store next).log .handedOut).goto tid .idle
  | _ => s.goto tid .idle

def System.teardownMarkedVolume (pvs : VolumeState) : System :=
  if releaseOnlyTeardown pvs then
    s.call tid (releaseRequest pvs) (tokenOf pvs) (.releasing pvs)
  else
    s.call tid (unexportRequest pvs) (tokenOf pvs) (.unexporting pvs)

def System.afterUnexport (pvs : VolumeState) : System :=
  if pvs.spec.filesystemAdoption.isSome then
    s.call tid (releaseRequest pvs) (tokenOf pvs) (.releasing pvs)
  else
    s.call tid (.fenced .deleteVolume) (tokenOf pvs) (.destroying pvs)

def System.markVolumeDeleting (s : System) (tid : Nat) (driver : CSIDriver)
    (volumeID : String) (reaping : Option String) : System :=
  match s.record with
  | none => s.goto tid .idle
  | some current =>
    if (current.spec.filesystemAdoption.isSome ∨ current.spec.volumeID ≠ "") ∧
        current.spec.volumeID ≠ volumeID then
      s.goto tid .idle
    else
      match s.updateRecord driver current.uid (.markVolumeDeleting volumeID reaping) with
      | .committed next =>
        ((s.store next).log (.marked reaping.isSome)).teardownMarkedVolume tid next
      | .unchanged pvs => s.teardownMarkedVolume tid pvs
      | _ => s.goto tid .idle

/-- The file driver re-reads the record before its last step. -/
def System.finishDelete (pvs : VolumeState) : System :=
  match s.record with
  | none => s.goto tid .idle
  | some current =>
    if current.uid ≠ pvs.uid ∨ (driver = .files ∧
        (current.deleting = false ∨ scopedDriverForVolume current ≠ .files)) then
      s.goto tid .idle
    else
      { s.goto tid .idle with record := none }

structure Reply where
  devicePath : String := ""
  info : VolumeExportInfo := { targetID := "", address := "", port := 0, volumeRef := "" }
  /-- The export to remove is already gone. -/
  notFound : Bool := false
  deriving DecidableEq, Repr

/-- The writes of publish and unpublish. -/
def publicationMutation : VolumeRecord.Mutation → Bool
  | .reservePublicationState _ _ | .clearLocalAttachNode _ | .fencePublication _
  | .fencePublications _ | .releasePublication _ _ => true
  | _ => false

inductive Action where
  /-- A `CreateVolume` call reads the record; a completed volume is answered at
  once. -/
  | startCreate (tid : Nat)
  | ensure (tid : Nat) (driver : CSIDriver) (creating : Bool)
      (resolved : Option ResolvedVolumeConfig)
  | prepare (tid : Nat) (exportSpec : Option VolumeExportSpec) (plan : RecoveryPlan)
  | startDelete (tid : Nat) (volumeID : String)
  /-- The reaper finds the claim and the `PersistentVolume` gone. -/
  | startReap (tid : Nat)
  | update (tid : Nat) (driver : CSIDriver)
  | answer (tid : Nat) (reply : Reply)
  /-- The call fails, gives up waiting or dies with its controller. -/
  | abort (tid : Nat)
  | write (driver : CSIDriver) (mutation : VolumeRecord.Mutation)
  | request (call : PeerCall)
  | deliver (id : Nat) (env : AgentSurroundings)
  /-- The storage node writes renamed marks back, or goes down and keeps the
  first `k` of them. -/
  | flush (k : Nat)
  | crash (k : Nat)

def System.updateThread (s : System) (tid : Nat) (driver : CSIDriver) : Option System :=
  match s.threads tid with
  | .adopting pvs resolved => some (s.fillIntent tid driver pvs resolved)
  | .pending pvs => some (s.adoptPhase tid driver pvs)
  | .repersisting pvs exportSpec =>
    some (s.recordPartial tid driver pvs pvs.backendDevicePath exportSpec)
  | .claiming pvs exportSpec => some (s.claimBackend volume tid driver pvs exportSpec)
  | .recording pvs devicePath exportSpec =>
    some (s.recordPartial tid driver pvs devicePath exportSpec)
  | .exportClaiming pvs => some (s.claimExport volume tid driver pvs)
  | .finishing pvs info => some (s.recordReady tid driver pvs info)
  | .marking volumeID reaping => some (s.markVolumeDeleting tid driver volumeID reaping)
  | .removing pvs => some (s.finishDelete tid driver pvs)
  | _ => none

def Thread.waitsFor : Thread → Option Nat
  | .provisioning _ _ id | .exporting _ id | .unexporting _ id | .destroying _ id
  | .releasing _ id => some id
  | _ => none

/-- A missing export counts as removed. -/
def Thread.accepts (thread : Thread) (reply : Reply) : Bool :=
  match thread with
  | .unexporting _ _ => reply.notFound
  | _ => false

/-- What a thread does once its request was answered. -/
def System.resume (reply : Reply) : Thread → System
  | .provisioning pvs exportSpec _ => s.goto tid (.recording pvs reply.devicePath exportSpec)
  | .exporting pvs _ => s.goto tid (.finishing pvs (some reply.info))
  | .unexporting pvs _ => s.afterUnexport tid pvs
  | .destroying pvs _ | .releasing pvs _ => s.goto tid (.removing pvs)
  | _ => s.goto tid .idle

def answeredEvents : AgentRequest → List Event
  | .fenced .deleteVolume => [.destroyed]
  | .importVolume _ _ | .transferVolumeOwnership _ _ => [.adopted]
  | .filesystem _ call => if call.importing then [.adopted] else []
  | _ => []

def System.deliver (s : System) (id : Nat) (env : AgentSurroundings) : Option System :=
  match s.sent[id]? with
  | none => none
  | some sent =>
    let r := execute volume.volumeID sent env s.marks
    if r.2 then
      some { s with
        marks := r.1, acked := id :: s.acked
        events := answeredEvents sent.request ++ s.events }
    else
      some { s with marks := r.1 }

def step (s : System) : Action → Option System
  | .startCreate tid =>
    match s.threads tid, s.record with
    | .idle, some pvs =>
      if completedVolume pvs then some (s.log .handedOut) else some (s.goto tid .ensuring)
    | _, _ => none
  | .ensure tid driver creating resolved =>
    match s.threads tid with
    | .ensuring => some (s.ensureVolumeState tid driver creating resolved)
    | _ => none
  | .prepare tid exportSpec plan =>
    match s.threads tid with
    | .preparing pvs => s.prepareBackend tid pvs (recordedExportSpec pvs exportSpec) plan
    | _ => none
  | .startDelete tid volumeID =>
    match s.threads tid with
    | .idle => some (s.goto tid (.marking volumeID none))
    | _ => none
  | .startReap tid =>
    match s.threads tid, s.record with
    | .idle, some pvs =>
      if reapablePhase pvs then
        some (s.goto tid (.marking pvs.spec.volumeID (some pvs.uid)))
      else
        none
    | _, _ => none
  | .update tid driver => s.updateThread volume tid driver
  | .answer tid reply =>
    match (s.threads tid).waitsFor with
    | some id =>
      if id ∈ s.acked ∨ (s.threads tid).accepts reply then
        some (s.resume tid reply (s.threads tid))
      else
        none
    | none => none
  | .abort tid => some (s.goto tid .idle)
  | .write driver mutation =>
    match s.record with
    | some pvs =>
      if publicationMutation mutation then
        match s.updateRecord driver pvs.uid mutation with
        | .committed next => some (s.store next)
        | _ => some s
      else
        none
    | none => none
  | .request call =>
    match s.record with
    | some pvs => some (s.send (peerRequest volume pvs call) (tokenOf pvs))
    | none => none
  | .deliver id env => s.deliver volume id env
  | .flush k => some { s with marks := s.marks.flush k }
  | .crash k => some { s with marks := s.marks.crash k }

def zvolSpec : VolumeStateSpec :=
  { volumeID := "a/nvmeof-tcp/zfs-zvol/tank/pvc-1", agentVolumeID := "tank/pvc-1"
    agentRef := "a", backendType := "zfs-zvol", protocolType := "nvmeof-tcp"
    resolved := some { protocolACL := some true, localAttach := true } }

def zvol : AgentVolume := { volumeID := "tank/pvc-1" }

def freshZvol : System := System.init (freshRecord "pvc-1" "u1" true zvolSpec) Cell.empty

def zvolExport : Option VolumeExportSpec :=
  some { bindAddress := "10.0.0.1", port := 4420, aclEnabled := true }

def created : Reply := { devicePath := "/dev/zvol/tank/pvc-1" }

def exported : Reply :=
  { info := { targetID := "t", address := "10.0.0.1", port := 4420, volumeRef := "1" } }

end PillarCsi.VolumeLifecycle
