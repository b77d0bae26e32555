import PillarCsi.SeparatedNames

/-!
The node plugin's durable stage record (`csi/stage_state.go`): what a stage
leaves for the calls that receive no volume context, and how records of older
releases are read.
-/

namespace PillarCsi.StageRecord

open SeparatedNames

inductive ProtocolType where
  | nvmeofTCP
  | iscsi
  | nfs
  | other (name : String)
  deriving DecidableEq, Repr

def ProtocolType.name : ProtocolType → String
  | .nvmeofTCP => "nvmeof-tcp"
  | .iscsi => "iscsi"
  | .nfs => "nfs"
  | .other name => name

def ProtocolType.ofName (name : String) : ProtocolType :=
  if name = "nvmeof-tcp" then .nvmeofTCP
  else if name = "iscsi" then .iscsi
  else if name = "nfs" then .nfs
  else .other name

inductive AccessType where
  | filesystem
  | block
  deriving DecidableEq, Repr

inductive AttachMode where
  | protocol
  | «local»
  deriving DecidableEq, Repr

structure NVMeoFStageState where
  (subsysNQN address port : String)
  maxDataTransferSize : Option Int := none
  deriving DecidableEq, Repr

structure ISCSIStageCHAP where
  (username secret mutualUsername mutualSecret : String)
  deriving DecidableEq, Repr

structure ISCSIStageState where
  (targetIQN address port : String)
  lun : Nat := 0
  loginTimeoutSeconds : Nat := 0
  chap : Option ISCSIStageCHAP := none
  deriving DecidableEq, Repr

structure NFSStageState where
  (address exportPath port version mountSource : String)
  deriving DecidableEq, Repr

structure LocalStageState where
  (dmName backingDevice : String)
  deriving DecidableEq, Repr

/-- The record.  An absent field is the empty string of a record written
before the field existed. -/
structure NodeStageState where
  protocolType : Option ProtocolType := none
  accessType : Option AccessType := none
  fsType : String := ""
  devicePath : String := ""
  nvmeof : Option NVMeoFStageState := none
  iscsi : Option ISCSIStageState := none
  nfs : Option NFSStageState := none
  attachMode : AttachMode := .protocol
  localState : Option LocalStageState := none
  /-- A record of the file driver, which never stages. -/
  file : Bool := false
  volumeID : String := ""
  stagingPath : String := ""
  stagedAt : Option Nat := none
  periodicTrim : Option Bool := none
  lastTrim : Option Nat := none
  preserveOriginal : Bool := false
  deriving DecidableEq, Repr

def NodeStageState.isLocalAttach (s : NodeStageState) : Bool := s.attachMode = .local

def localStageState (protocolType : ProtocolType) (accessType : AccessType)
    (dmName backingDevice : String) : NodeStageState where
  protocolType := some protocolType
  accessType := some accessType
  attachMode := .local
  localState := some { dmName := dmName, backingDevice := backingDevice }

/-- What a protocol handler needs to find its session again. -/
inductive ProtocolState where
  | nvmeof (subsysNQN address port : String)
  | iscsi (targetIQN address port : String) (lun loginTimeout : Nat)
      (chap : Option ISCSIStageCHAP)
  | nfs (state : NFSStageState)
  deriving DecidableEq, Repr

def NodeStageState.toProtocolState (s : NodeStageState) : Except String ProtocolState :=
  match s.protocolType with
  | some .nvmeofTCP =>
    match s.nvmeof with
    | some n => .ok (.nvmeof n.subsysNQN n.address n.port)
    | none => .error "NVMe-oF stage state sub-struct is nil"
  | some .iscsi =>
    match s.iscsi with
    | some i => .ok (.iscsi i.targetIQN i.address i.port i.lun i.loginTimeoutSeconds i.chap)
    | none => .error "iSCSI stage state sub-struct is nil"
  | some .nfs =>
    match s.nfs with
    | some n => .ok (.nfs n)
    | none => .error "NFS stage state sub-struct is nil"
  | some (.other name) =>
    .error s!"unrecognized protocol type {name.quote} in persisted stage state"
  | none => .error "unrecognized protocol type \"\" in persisted stage state"

structure AttachResult where
  (devicePath mountSource : String)
  state : ProtocolState
  deriving DecidableEq, Repr

def defaultNFSVersion : String := "4.2"

def nvmeofStageState (targetID address port : String) (result : AttachResult) : NVMeoFStageState :=
  match result.state with
  | .nvmeof nqn addr svc => { subsysNQN := nqn, address := addr, port := svc }
  | _ => { subsysNQN := targetID, address := address, port := port }

def iscsiStageState (targetID address port : String) (result : AttachResult) : ISCSIStageState :=
  match result.state with
  | .iscsi iqn addr svc lun loginTimeout chap =>
    { targetIQN := iqn, address := addr, port := svc, lun := lun,
      loginTimeoutSeconds := loginTimeout, chap := chap }
  | _ => { targetIQN := targetID, address := address, port := port }

def nfsStageState (targetID address port : String) (result : AttachResult) : NFSStageState :=
  match result.state with
  | .nfs state => state
  | _ =>
    { address := address, exportPath := "", port := port, version := defaultNFSVersion,
      mountSource :=
        if result.mountSource ≠ "" then result.mountSource else address ++ ":" ++ targetID }

def stageStateFromAttachResult (protocolType : ProtocolType) (accessType : AccessType)
    (targetID address port : String) (result : AttachResult) : NodeStageState :=
  let state : NodeStageState := { protocolType := some protocolType, accessType := some accessType }
  match protocolType with
  | .nvmeofTCP => { state with nvmeof := some (nvmeofStageState targetID address port result) }
  | .iscsi => { state with iscsi := some (iscsiStageState targetID address port result) }
  | .nfs => { state with nfs := some (nfsStageState targetID address port result) }
  | .other _ => state

/-- The file name of a volume's record without its extension. -/
def stateFileKey (volumeID : String) : String :=
  String.ofList (replaceAll '/' '_' volumeID.toList)

/-- A decoded file, with the subsystem name at the top level that the first
format had. -/
structure StageContents where
  state : NodeStageState
  subsysNQN : String := ""
  deriving DecidableEq, Repr

structure StageFile where
  /-- `none`: the file does not decode. -/
  contents : Option StageContents
  modTime : Nat
  deriving DecidableEq, Repr

def StageContents.isLegacyFormat (raw : StageContents) : Bool :=
  raw.state.protocolType = none ∧ raw.subsysNQN ≠ ""

def migrateFromLegacy (subsysNQN : String) : NodeStageState where
  protocolType := some .nvmeofTCP
  accessType := some .filesystem
  nvmeof := some { subsysNQN := subsysNQN, address := "", port := "" }

/-- The record as it is read: the first format migrated. -/
def StageContents.migrated (raw : StageContents) : NodeStageState :=
  if raw.isLegacyFormat then migrateFromLegacy raw.subsysNQN else raw.state

/-- Records from before block mode belong to filesystem volumes. -/
def NodeStageState.backfilled (s : NodeStageState) : NodeStageState :=
  { s with accessType := some (s.accessType.getD .filesystem) }

/-- What a read of the file returns; `none` when it does not decode. -/
def StageFile.record (file : StageFile) : Option NodeStageState :=
  file.contents.map fun raw => raw.migrated.backfilled

def StageFile.written (state : NodeStageState) (modTime : Nat) : StageFile where
  contents := some { state := state }
  modTime := modTime

@[simp] theorem record_written (state : NodeStageState) (modTime : Nat) :
    (StageFile.written state modTime).record = some state.backfilled := by
  have hlegacy : StageContents.isLegacyFormat { state := state } = false := by
    simp [StageContents.isLegacyFormat]
  simp [StageFile.record, StageFile.written, StageContents.migrated, hlegacy]

end PillarCsi.StageRecord
