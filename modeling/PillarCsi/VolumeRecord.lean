import Mathlib.Algebra.Group.Nat.Defs
import PillarCsi.FencingAdmission

/-!
The durable record of a volume lifecycle (`PillarVolumeState`) and the status
mutations the controllers commit on it (`internal/csi/volume_fencing.go`,
`internal/csi/recovery.go`).  A mutation sees the object it was read as and
returns the object to write, so a refused mutation never leaves a partial
change behind.
-/

namespace PillarCsi.VolumeRecord

open FencingAdmission

inductive AccessMode where
  | unknown
  | singleNodeWriter
  | singleNodeReaderOnly
  | multiNodeReaderOnly
  | multiNodeSingleWriter
  | multiNodeMultiWriter
  | singleNodeSingleWriter
  | singleNodeMultiWriter
  deriving DecidableEq, Repr

def AccessMode.name : AccessMode → String
  | .unknown => "UNKNOWN"
  | .singleNodeWriter => "SINGLE_NODE_WRITER"
  | .singleNodeReaderOnly => "SINGLE_NODE_READER_ONLY"
  | .multiNodeReaderOnly => "MULTI_NODE_READER_ONLY"
  | .multiNodeSingleWriter => "MULTI_NODE_SINGLE_WRITER"
  | .multiNodeMultiWriter => "MULTI_NODE_MULTI_WRITER"
  | .singleNodeSingleWriter => "SINGLE_NODE_SINGLE_WRITER"
  | .singleNodeMultiWriter => "SINGLE_NODE_MULTI_WRITER"

def AccessMode.singleNode : AccessMode → Bool
  | .singleNodeWriter | .singleNodeReaderOnly | .singleNodeSingleWriter
  | .singleNodeMultiWriter => true
  | _ => false

structure VolumePublication where
  (nodeID initiatorID : String)
  accessMode : AccessMode
  readonly : Bool := false
  revoking : Bool := false
  isLocal : Bool := false
  deriving DecidableEq, Repr

inductive Phase where
  | unset
  | provisioning
  | createPartial
  | ready
  | controllerPublished
  | nodeStagePartial
  | nodeStaged
  | nodePublished
  | recoveryPending
  deriving DecidableEq, Repr

def Phase.name : Phase → String
  | .unset => ""
  | .provisioning => "Provisioning"
  | .createPartial => "CreatePartial"
  | .ready => "Ready"
  | .controllerPublished => "ControllerPublished"
  | .nodeStagePartial => "NodeStagePartial"
  | .nodeStaged => "NodeStaged"
  | .nodePublished => "NodePublished"
  | .recoveryPending => "RecoveryPending"

structure LVMSourceRef where
  (volumeGroup logicalVolume volumeGroupUUID logicalVolumeUUID : String)
  preserveOriginal : Bool
  deriving DecidableEq, Repr

structure VolumeRecoveryIntent where
  source : Option LVMSourceRef
  newVolumeUID : String := ""
  newGeneration : Nat
  deriving DecidableEq, Repr

/-- The export protocol's ACL switch and whether the volume may be attached
directly on its storage node. -/
structure ResolvedVolumeConfig where
  protocolACL : Option Bool
  localAttach : Bool
  deriving DecidableEq, Repr

structure VolumeExportInfo where
  (targetID address : String)
  port : Nat
  volumeRef : String
  deriving DecidableEq, Repr

structure VolumeExportSpec where
  bindAddress : String
  port : Nat
  aclEnabled : Bool
  inCapsuleDataSize : Option Nat := none
  maxDataTransferSize : Option Nat := none
  deriving DecidableEq, Repr

structure VolumeStateSpec where
  (volumeID agentVolumeID agentRef backendType protocolType : String)
  importedFrom : String := ""
  filesystemAdoption : Option FilesystemAdoption := none
  lvmSource : Option LVMSourceRef := none
  resolved : Option ResolvedVolumeConfig := none
  recovery : Option VolumeRecoveryIntent := none
  deriving DecidableEq, Repr

variable (spec : VolumeStateSpec)

/-- The API server's rules on which sources a record may name together. -/
def validSpec : Bool :=
  (spec.filesystemAdoption.isNone || spec.importedFrom = "") &&
    (spec.filesystemAdoption.isNone || spec.lvmSource.isNone) &&
    (spec.importedFrom = "" || spec.lvmSource.isNone) &&
    (spec.recovery.isNone ||
      (spec.lvmSource.isNone && spec.importedFrom = "" && spec.filesystemAdoption.isNone))

/-- The record with its status.  Omitted fields are Go's zero values. -/
structure VolumeState where
  (name uid : String)
  successRecorded : Bool := false
  spec : VolumeStateSpec
  phase : Phase := .unset
  backendDevicePath : String := ""
  importAcquired : Bool := false
  exportInfo : Option VolumeExportInfo := none
  publishedNodes : List VolumePublication := []
  exportSpec : Option VolumeExportSpec := none
  localAttachNode : String := ""
  publicationGeneration : Nat := 0
  deleting : Bool := false
  deriving DecidableEq, Repr

inductive StatusCode where
  | aborted
  | alreadyExists
  | failedPrecondition
  | internal
  | notFound
  | unavailable
  deriving DecidableEq, Repr

structure StatusError where
  code : StatusCode
  message : String
  deriving DecidableEq, Repr

/-- What a mutation returns when the object is not written. -/
inductive Refusal where
  | noStatusChange
  | status (err : StatusError)
  deriving DecidableEq, Repr

def refuse {α : Type} (code : StatusCode) (message : String) : Except Refusal α :=
  .error (.status { code := code, message := message })

variable (pvs : VolumeState)

def localOnlyFilesystem : Bool :=
  pvs.spec.filesystemAdoption.isSome && pvs.spec.resolved.any (·.localAttach)

def isImport : Bool :=
  spec.importedFrom != "" || spec.lvmSource.isSome || spec.filesystemAdoption.isSome

def importNeverAdopted : Bool :=
  isImport pvs.spec && !pvs.importAcquired && pvs.backendDevicePath = "" &&
    pvs.exportInfo.isNone

/-- The recorded policy keeps the adopted or recovered LV. -/
def volumePreservesOriginal : Bool :=
  pvs.spec.lvmSource.any (·.preserveOriginal) ||
    pvs.spec.recovery.any fun intent => intent.source.any (·.preserveOriginal)

/-- Whether the lifecycle must end with a release instead of a deletion. -/
def releaseOnlyTeardown : Bool :=
  importNeverAdopted pvs || volumePreservesOriginal pvs

def recoveryPending : Bool :=
  pvs.spec.recovery.isSome && pvs.exportInfo.isNone

def completedFilesystemAdoption : Bool :=
  pvs.spec.filesystemAdoption.isSome && pvs.importAcquired &&
    match pvs.phase with
    | .ready | .controllerPublished | .nodeStagePartial | .nodeStaged | .nodePublished => true
    | _ => false

/-- Whether `CreateVolume` answers from the record alone. -/
def completedVolume : Bool :=
  pvs.spec.resolved.isSome && (pvs.exportInfo.isSome || localOnlyFilesystem pvs) &&
    !pvs.deleting &&
    (pvs.phase = .ready && (pvs.spec.filesystemAdoption.isNone || pvs.publishedNodes.isEmpty) ||
      completedFilesystemAdoption pvs) &&
    (pvs.spec.filesystemAdoption.isNone || !importNeverAdopted pvs)

/-- Phases in which no success was ever reported. -/
def reapablePhase : Bool :=
  if pvs.spec.recovery.isSome then
    false
  else
    match pvs.phase with
    | .unset | .provisioning => true
    | .createPartial => pvs.successRecorded
    | _ => false

def exportACLEnabled : Bool :=
  match pvs.exportSpec with
  | some spec => spec.aclEnabled
  | none =>
    match pvs.spec.resolved.bind (·.protocolACL) with
    | some acl => acl
    | none => true

def hasPublicationFor (pubs : List VolumePublication) (nodeID : String) : Bool :=
  pubs.any fun pub => nodeID = "" || pub.nodeID = nodeID

def fenceToken : Except StatusError FencingToken :=
  if pvs.uid = "" then
    .error
      { code := .internal
        message := s!"PillarVolumeState {pvs.name.quote} has no usable fencing identity " ++
          s!"(uid {pvs.uid.quote}, publicationGeneration {pvs.publicationGeneration})" }
  else
    .ok { volumeUID := pvs.uid, generation := pvs.publicationGeneration }

/-- The API server assigned the record a UID, so `fenceToken` never fails. -/
def tokenOf : FencingToken :=
  { volumeUID := pvs.uid, generation := pvs.publicationGeneration }

/-- The CSI identity a controller process serves. -/
inductive CSIDriver where
  | block
  | files
  deriving DecidableEq, Repr

def CSIDriver.name : CSIDriver → String
  | .block => "pillar-csi.bhyoo.com"
  | .files => "files.pillar-csi.bhyoo.com"

def scopedDriverForVolume : CSIDriver :=
  if pvs.spec.filesystemAdoption.isSome then .files else .block

variable (driver : CSIDriver)

def validateVolumeDriver (pvs : VolumeState) : Except StatusError Unit :=
  if scopedDriverForVolume pvs ≠ driver then
    .error
      { code := .notFound
        message := s!"volume belongs to CSI driver {(scopedDriverForVolume pvs).name.quote}, " ++
          s!"not {driver.name.quote}" }
  else
    .ok ()

def filesystemVolumeIDBase : String :=
  spec.agentRef ++ "/" ++ spec.protocolType ++ "/" ++ spec.backendType ++ "/" ++
    spec.agentVolumeID

def validFilesystemLifecycleNonce (nonce : List Char) : Bool :=
  nonce.length = 32 &&
    nonce.all fun char => ('0' ≤ char && char ≤ '9') || ('a' ≤ char && char ≤ 'f')

def isFilesystemVolumeID : Bool :=
  let spec := pvs.spec
  let base := (filesystemVolumeIDBase spec).toList
  let handle := spec.volumeID.toList
  spec.filesystemAdoption.isSome &&
    spec.agentRef != "" && spec.protocolType != "" && spec.backendType != "" &&
    spec.agentVolumeID != "" && base.isPrefixOf handle &&
    match handle.drop base.length with
    | '.' :: nonce => validFilesystemLifecycleNonce nonce
    | _ => false

def validateVolumeStateForUpdate (pvs : VolumeState) :
    Except StatusError Unit :=
  match validateVolumeDriver driver pvs with
  | .error err => .error err
  | .ok () =>
    if pvs.spec.filesystemAdoption.isSome ∧ isFilesystemVolumeID pvs = false then
      .error
        { code := .failedPrecondition
          message := s!"volume {pvs.name.quote} has no valid filesystem lifecycle handle" }
    else
      .ok ()

variable (volumeID : String)

def refuseDeleting : Except Refusal Unit :=
  if pvs.deleting then
    refuse .failedPrecondition s!"volume {volumeID.quote} is being deleted"
  else
    .ok ()

def refuseRecoveryPending : Except Refusal Unit :=
  if recoveryPending pvs then
    refuse .failedPrecondition
      (s!"volume {volumeID.quote} is a recovery record (phase {pvs.phase.name.quote}) " ++
        "awaiting an authorized ownership transfer; it cannot be published, expanded or " ++
        "deleted until the transfer commits and the volume is Ready")
  else
    .ok ()

def canSharePublication (a b : VolumePublication) : Bool :=
  if a.accessMode ≠ b.accessMode then
    false
  else
    match a.accessMode with
    | .multiNodeReaderOnly | .multiNodeMultiWriter => true
    | .multiNodeSingleWriter => a.readonly || b.readonly
    | _ => false

def checkPublicationConflict (cur pub : VolumePublication) : Except Refusal Unit :=
  if cur.nodeID ≠ pub.nodeID then
    if canSharePublication cur pub then
      .ok ()
    else
      refuse .failedPrecondition
        (s!"volume {volumeID.quote} is published to another node {cur.nodeID.quote} " ++
          s!"(access mode {cur.accessMode.name}, readonly={cur.readonly}); " ++
          s!"cannot publish to node {pub.nodeID.quote} with access mode " ++
          s!"{pub.accessMode.name} (readonly={pub.readonly})")
  else if cur.revoking then
    refuse .aborted
      s!"volume {volumeID.quote} is being unpublished from node {pub.nodeID.quote}; retry"
  else if cur = pub then
    .ok ()
  else if cur.isLocal ≠ pub.isLocal then
    refuse .failedPrecondition
      (s!"volume {volumeID.quote} is published to node {pub.nodeID.quote} with local " ++
        s!"attach {cur.isLocal}; requested local attach {pub.isLocal}; " ++
        "unpublish the volume from the node first")
  else if cur.initiatorID ≠ pub.initiatorID then
    refuse .failedPrecondition
      (s!"volume {volumeID.quote} is published to node {pub.nodeID.quote} as initiator " ++
        s!"{cur.initiatorID.quote} but the node now reports initiator " ++
        s!"{pub.initiatorID.quote}; unpublish the volume from the node first")
  else
    refuse .alreadyExists
      (s!"volume {volumeID.quote} is already published to node {pub.nodeID.quote} with " ++
        s!"access mode {cur.accessMode.name} (readonly={cur.readonly}); " ++
        s!"requested access mode {pub.accessMode.name} (readonly={pub.readonly})")

/-- The loop of a reservation over the recorded publications: whether `pub` has
to be appended.  An identical record ends the loop. -/
def scanPublications (volumeID : String) (pub : VolumePublication) :
    List VolumePublication → Except Refusal Bool
  | [] => .ok true
  | cur :: rest =>
    match checkPublicationConflict volumeID cur pub with
    | .error err => .error err
    | .ok () => if cur = pub then .ok false else scanPublications volumeID pub rest

variable (pub : VolumePublication)

/-- A local block publication fences the export for its node; file publications
never do. -/
def reservedAttachNode (pvs : VolumeState) : String :=
  if pub.isLocal ∧ pvs.spec.filesystemAdoption.isNone then pub.nodeID
  else pvs.localAttachNode

def reservePublicationState (pvs : VolumeState) : Except Refusal VolumeState :=
  match refuseDeleting pvs volumeID with
  | .error err => .error err
  | .ok () =>
    match scanPublications volumeID pub pvs.publishedNodes with
    | .error err => .error err
    | .ok false => .ok { pvs with localAttachNode := reservedAttachNode pub pvs }
    | .ok true =>
      .ok { pvs with
        localAttachNode := reservedAttachNode pub pvs
        publishedNodes := pvs.publishedNodes ++ [pub] }

def clearLocalAttachNode (node : String) (pvs : VolumeState) : Except Refusal VolumeState :=
  if pvs.localAttachNode ≠ node then
    .error .noStatusChange
  else if pvs.publishedNodes.any (·.isLocal) then
    refuse .aborted
      (s!"PillarVolumeState {pvs.name.quote} still records a local publication on node " ++
        s!"{node.quote}; retry")
  else
    .ok { pvs with localAttachNode := "" }

def VolumePublication.revoke : VolumePublication :=
  { pub with revoking := true }

/-- Marks the first record equal to `expected`. -/
def revokeExpected (expected : VolumePublication) : List VolumePublication → List VolumePublication
  | [] => []
  | cur :: rest =>
    if cur = expected then cur.revoke :: rest else cur :: revokeExpected expected rest

/-- Always commits, also when the expected record is gone. -/
def fencePublication (expected : VolumePublication) (pvs : VolumeState) :
    Except Refusal VolumeState :=
  .ok { pvs with publishedNodes := revokeExpected expected pvs.publishedNodes }

def selects (nodeID : String) (pub : VolumePublication) : Bool :=
  nodeID = "" || pub.nodeID = nodeID

def revokedRecords (nodeID : String) (pubs : List VolumePublication) : List VolumePublication :=
  (pubs.filter (selects nodeID)).map (·.revoke)

def fencePublications (nodeID : String) (pvs : VolumeState) : Except Refusal VolumeState :=
  if revokedRecords nodeID pvs.publishedNodes = [] then
    .error .noStatusChange
  else
    .ok { pvs with
      publishedNodes :=
        pvs.publishedNodes.map fun pub => if selects nodeID pub then pub.revoke else pub }

def releasePublication (nodeIDs : List String) (fence : Option FencingToken)
    (pvs : VolumeState) : Except Refusal VolumeState :=
  let release : Except Refusal VolumeState :=
    let kept := pvs.publishedNodes.filter fun pub => !nodeIDs.contains pub.nodeID
    if kept.length = pvs.publishedNodes.length then
      .error .noStatusChange
    else
      .ok { pvs with publishedNodes := kept }
  match fence with
  | none => release
  | some token =>
    match fenceToken pvs with
    | .error err => .error (.status err)
    | .ok current =>
      if current.generation ≠ token.generation then
        refuse .aborted
          (s!"publication state of PillarVolumeState {pvs.name.quote} changed during " ++
            s!"unpublish (generation {current.generation}, revoked at " ++
            s!"{token.generation}); retry")
      else
        release

/-- The reaper's condition on the fresh object. -/
def reapAdmit (decidedUID : String) (cur : VolumeState) : Except Refusal Unit :=
  if cur.uid ≠ decidedUID ∨ reapablePhase cur = false then
    refuse .aborted
      s!"volume {volumeID.quote} changed to phase {cur.phase.name.quote} while being reaped"
  else
    .ok ()

/-- The reaper passes the lifecycle it decided on, `DeleteVolume` passes none. -/
def deletionAdmit : Option String → VolumeState → Except Refusal Unit
  | none, _ => .ok ()
  | some decidedUID, cur => reapAdmit volumeID decidedUID cur

def markVolumeDeletingMutation (reaping : Option String)
    (pvs : VolumeState) : Except Refusal VolumeState :=
  if (pvs.spec.filesystemAdoption.isSome ∨ pvs.spec.volumeID ≠ "") ∧
      pvs.spec.volumeID ≠ volumeID then
    refuse .aborted
      (s!"volume {volumeID.quote} no longer belongs to PillarVolumeState " ++
        pvs.name.quote)
  else
    match refuseRecoveryPending pvs volumeID with
    | .error err => .error err
    | .ok () =>
      if pvs.deleting then
        .error .noStatusChange
      else if pvs.publishedNodes ≠ [] then
        refuse .failedPrecondition
          (s!"volume {volumeID.quote} is still published to nodes [" ++
            " ".intercalate (pvs.publishedNodes.map (·.nodeID)) ++
            "]; unpublish it before deleting")
      else
        match deletionAdmit volumeID reaping pvs with
        | .error err => .error err
        | .ok () => .ok { pvs with deleting := true }

def claimOperation (pvs : VolumeState) : Except Refusal VolumeState :=
  match refuseDeleting pvs volumeID with
  | .error err => .error err
  | .ok () => .ok pvs

def startProvisioning : Except Refusal VolumeState :=
  if pvs.phase ≠ .unset then .error .noStatusChange
  else .ok { pvs with phase := .provisioning }

def fillRecoveryWriteOnce (uid : String) (resolved : Option ResolvedVolumeConfig)
    (pvs : VolumeState) : Except Refusal VolumeState :=
  match pvs.spec.recovery with
  | none =>
    refuse .failedPrecondition
      s!"PillarVolumeState {pvs.name.quote} has no recovery intent"
  | some intent =>
    if intent.newVolumeUID ≠ "" ∧ intent.newVolumeUID ≠ uid then
      refuse .failedPrecondition
        (s!"recovery intent of PillarVolumeState {pvs.name.quote} declares destination " ++
          s!"uid {intent.newVolumeUID.quote}, but this record's uid is {uid}: the intent " ++
          "belongs to a different lifecycle")
    else if intent.newVolumeUID ≠ "" ∧ (pvs.spec.resolved.isSome ∨ resolved.isNone) then
      .error .noStatusChange
    else
      .ok { pvs with
        spec := { pvs.spec with
          recovery := some { intent with newVolumeUID := uid }
          resolved := pvs.spec.resolved.orElse fun _ => resolved } }

def adoptRecoveryPhase : Except Refusal VolumeState :=
  match pvs.spec.recovery with
  | none =>
    refuse .failedPrecondition
      s!"PillarVolumeState {pvs.name.quote} has no recovery intent"
  | some intent =>
    if pvs.deleting then
      refuse .failedPrecondition s!"recovery record {pvs.name.quote} is under deletion"
    else if pvs.phase = .createPartial then
      -- The transfer committed on an earlier attempt.
      .error .noStatusChange
    else if pvs.phase ≠ .unset ∧ pvs.phase ≠ .recoveryPending then
      refuse .failedPrecondition
        (s!"PillarVolumeState {pvs.name.quote} is a recovery record in unexpected " ++
          s!"phase {pvs.phase.name.quote}")
    else if intent.newGeneration < pvs.publicationGeneration then
      refuse .failedPrecondition
        (s!"PillarVolumeState {pvs.name.quote} records fencing generation " ++
          s!"{pvs.publicationGeneration} newer than the recovery intent's newGeneration " ++
          s!"{intent.newGeneration}; the declared transfer can never be replayed — " ++
          "re-issue the recovery record")
    else if pvs.phase = .recoveryPending ∧
        pvs.publicationGeneration = intent.newGeneration then
      .error .noStatusChange
    else
      .ok { pvs with
        phase := .recoveryPending, publicationGeneration := intent.newGeneration }

def persistCreatePartial (devicePath : String) (exportSpec : Option VolumeExportSpec)
    (pvs : VolumeState) : Except Refusal VolumeState :=
  .ok { pvs with
    phase := .createPartial
    backendDevicePath := devicePath
    exportSpec := exportSpec
    importAcquired := pvs.importAcquired || isImport pvs.spec }

def persistVolumeReady (info : Option VolumeExportInfo) (pvs : VolumeState) :
    Except Refusal VolumeState :=
  if pvs.deleting then
    refuse .failedPrecondition s!"volume {pvs.spec.volumeID.quote} is being deleted"
  else if info.isNone ∧ (localOnlyFilesystem pvs = false ∨ pvs.importAcquired = false) then
    refuse .failedPrecondition
      s!"volume {pvs.spec.volumeID.quote} has no acquired local filesystem"
  else
    .ok { pvs with
      phase := .ready
      backendDevicePath := ""
      exportInfo := info
      exportSpec := if info.isNone then none else pvs.exportSpec }

/-- Every write of the controllers to an existing record. -/
inductive Mutation where
  | reservePublicationState (volumeID : String) (pub : VolumePublication)
  | clearLocalAttachNode (node : String)
  | fencePublication (expected : VolumePublication)
  | fencePublications (nodeID : String)
  | releasePublication (nodeIDs : List String) (fence : Option FencingToken)
  | markVolumeDeleting (volumeID : String) (reaping : Option String)
  | claimOperation (volumeID : String)
  | startProvisioning
  | fillRecoveryWriteOnce (uid : String) (resolved : Option ResolvedVolumeConfig)
  | adoptRecoveryPhase
  | persistCreatePartial (devicePath : String) (exportSpec : Option VolumeExportSpec)
  | persistVolumeReady (info : Option VolumeExportInfo)
  deriving DecidableEq, Repr

def Mutation.mutate : Mutation → VolumeState → Except Refusal VolumeState
  | .reservePublicationState volumeID pub => VolumeRecord.reservePublicationState volumeID pub
  | .clearLocalAttachNode node => VolumeRecord.clearLocalAttachNode node
  | .fencePublication expected => VolumeRecord.fencePublication expected
  | .fencePublications nodeID => VolumeRecord.fencePublications nodeID
  | .releasePublication nodeIDs fence => VolumeRecord.releasePublication nodeIDs fence
  | .markVolumeDeleting volumeID reaping => markVolumeDeletingMutation volumeID reaping
  | .claimOperation volumeID => VolumeRecord.claimOperation volumeID
  | .startProvisioning => VolumeRecord.startProvisioning
  | .fillRecoveryWriteOnce uid resolved => VolumeRecord.fillRecoveryWriteOnce uid resolved
  | .adoptRecoveryPhase => VolumeRecord.adoptRecoveryPhase
  | .persistCreatePartial devicePath exportSpec =>
    VolumeRecord.persistCreatePartial devicePath exportSpec
  | .persistVolumeReady info => VolumeRecord.persistVolumeReady info

/-- Whether the write also commits a new generation. -/
def Mutation.bump : Mutation → Bool
  | .reservePublicationState _ _ | .clearLocalAttachNode _ | .fencePublication _
  | .fencePublications _ | .releasePublication _ _ | .markVolumeDeleting _ _
  | .claimOperation _ => true
  | .startProvisioning | .fillRecoveryWriteOnce _ _ | .adoptRecoveryPhase
  | .persistCreatePartial _ _ | .persistVolumeReady _ => false

inductive UpdateResult where
  | committed (pvs : VolumeState)
  | unchanged (pvs : VolumeState)
  | missing
  | failed (err : StatusError)
  deriving DecidableEq, Repr

/-- The write of the mutated object.  The generation is a 64-bit counter that
the API server refuses to store once it wrapped to a negative value. -/
def writeStatus (bump : Bool) (pvs : VolumeState) : UpdateResult :=
  if bump then
    if pvs.publicationGeneration + 1 < 2 ^ 63 then
      .committed { pvs with publicationGeneration := pvs.publicationGeneration + 1 }
    else
      .failed
        { code := .internal
          message := "update for node \"\" in PillarVolumeState " ++ pvs.name.quote }
  else
    .committed pvs

def handleMissingVolumeState (pvName uid : String) : UpdateResult :=
  if uid = "" then
    .missing
  else
    .failed
      { code := .aborted
        message := s!"PillarVolumeState {pvName.quote} (uid {uid}) no longer exists; " ++
          "the volume was deleted or re-created" }

/-- One attempt on a fresh read of the record `pvName`. -/
def updateVolumeState (pvName uid : String) (mutation : Mutation) (current : Option VolumeState) : UpdateResult :=
  match current with
  | none => handleMissingVolumeState pvName uid
  | some pvs =>
    if uid ≠ "" ∧ pvs.uid ≠ uid then
      handleMissingVolumeState pvName uid
    else
      match validateVolumeStateForUpdate driver pvs with
      | .error err => .failed err
      | .ok () =>
        match mutation.mutate pvs with
        | .error .noStatusChange => .unchanged pvs
        | .error (.status err) => .failed err
        | .ok next => writeStatus mutation.bump next

end PillarCsi.VolumeRecord
