import PillarCsi.EffectPrograms
import PillarCsi.StageRecord

/-!
The node as its plugin sees it: record files, mount table, transport sessions,
device-mapper claims and filesystems, and the plugin's calls on them (the stage
record helpers of `csi/node.go`, `csi/mounter.go` and its Linux parts,
`csi/devicemapper.go`, `csi/nvmeof_tcp_handler.go`, `csi/iscsi_handler.go`).

A call's effect is an event, logged with the mount points of the moment it was
made.  An unmount takes every mount of its target away.
-/

namespace PillarCsi.NodeHost

open FalliblePrograms FalliblePrograms.Program EffectPrograms StageRecord

structure Mount where
  (target source fsType : String)
  /-- The filesystem's device number. -/
  device : String
  deriving DecidableEq, Repr

/-- A transport session: the controllers of a subsystem, or a login. -/
inductive Session where
  | nvme (subsysNQN : String)
  | iscsi (targetIQN address : String) (port : Nat)
  deriving DecidableEq, Repr

/-- The answer of a write probe to a mounted filesystem. -/
inductive Health where
  | alive
  | dead
  deriving DecidableEq, Repr

inductive Event where
  | readRecord (key : String)
  | writeRecord (key : String) (state : NodeStageState)
  | removeRecord (key : String)
  | mount (entry : Mount)
  | unmount (target : String)
  | connect (session : Session)
  | disconnect (session : Session)
  | createClaim (name backingDevice : String)
  | reloadClaim (name : String)
  | removeClaim (name : String)
  | mkfs (device fsType : String)
  | fsck (device : String)
  | resizeFS (path fsType : String)
  | fitrim (path : String) (offset : Nat)
  | probe (target : String)
  deriving DecidableEq, Repr

structure LogEntry where
  event : Event
  mounted : List String
  deriving DecidableEq, Repr

structure Host where
  clock : Nat
  files : String → Option StageFile
  /-- Newest first. -/
  mounts : List Mount
  sessions : List Session
  /-- Device-mapper targets with the devices they map. -/
  claims : List (String × String)
  /-- What `blkid` finds on a device. -/
  formats : String → String
  /-- The block device of a session's volume, empty until it appears. -/
  devices : Session → String
  /-- The enabled namespaces or LUNs of a network export of this node. -/
  exports : String → List String
  /-- What the next write probes find. -/
  probes : List Health
  /-- Newest first. -/
  log : List LogEntry

def Host.mountedAt (h : Host) (target : String) : Bool := h.mounts.any (·.target = target)

def Host.effect : Event → Host → Host
  | .readRecord _, h => h
  | .writeRecord key state, h =>
    { h with files := Function.update h.files key (some (.written state h.clock)) }
  | .removeRecord key, h => { h with files := Function.update h.files key none }
  | .mount entry, h => { h with mounts := entry :: h.mounts }
  | .unmount target, h => { h with mounts := h.mounts.filter (·.target ≠ target) }
  | .connect session, h => { h with sessions := h.sessions.insert session }
  | .disconnect session, h => { h with sessions := h.sessions.filter (· ≠ session) }
  | .createClaim name device, h => { h with claims := (name, device) :: h.claims }
  | .reloadClaim _, h => h
  | .removeClaim name, h => { h with claims := h.claims.filter (·.1 ≠ name) }
  | .mkfs device fsType, h => { h with formats := Function.update h.formats device fsType }
  | .fsck _, h => h
  | .resizeFS _ _, h => h
  | .fitrim _ _, h => h
  | .probe _, h => { h with probes := h.probes.tail }

def Host.apply (event : Event) (h : Host) : Host :=
  { h.effect event with log := ⟨event, h.mounts.map (·.target)⟩ :: h.log }

instance : Effects Event Host := ⟨Host.apply⟩

@[simp] theorem apply_eq (event : Event) (h : Host) : apply event h = h.apply event := rfl

inductive Code where
  | invalidArgument
  | failedPrecondition
  | unauthenticated
  | notFound
  | internal
  deriving DecidableEq, Repr

structure NodeError where
  code : Code
  message : String
  deriving DecidableEq, Repr

def internal (message : String) : NodeError := ⟨.internal, message⟩

def NodeError.join (cause : NodeError) : Except NodeError Unit → NodeError
  | .ok () => cause
  | .error e => { cause with message := cause.message ++ "\n" ++ e.message }

abbrev Node := Program Host NodeError

variable (error : NodeError)

def act (event : Event) : Node Unit := perform error event

variable (volumeID : String)

/-- The time of a record's first write; a file from before it was recorded
gives its modification time. -/
def stampStagedAt (state : NodeStageState) : Node NodeStageState :=
  if state.stagedAt.isSome then pure state
  else do
    let stagedAt ← query (internal s!"stat stage state file {stateFileKey volumeID}") fun h =>
      match h.files (stateFileKey volumeID) with
      | some file => file.modTime
      | none => h.clock
    pure { state with stagedAt := some stagedAt }

/-- Temporary file, rename, directory syncs: only the rename is seen. -/
def replaceStageFile (state : NodeStageState) : Node Unit := do
  query (internal s!"write/sync/close temp state file of {stateFileKey volumeID}") fun _ => ()
  act (internal s!"rename temp state file to {stateFileKey volumeID}")
    (.writeRecord (stateFileKey volumeID) state)
  query (internal s!"sync state directory of {stateFileKey volumeID}") fun _ => ()

def writeStageState (state : NodeStageState) : Node Unit := do
  let stamped ← stampStagedAt volumeID state
  replaceStageFile volumeID stamped

/-- The read of a decoded file: what is not in the present format is migrated
and rewritten, and a failure of the rewrite is ignored. -/
def canonicalise (raw : StageContents) : Node NodeStageState :=
  if raw.isLegacyFormat then do
    ignore (writeStageState volumeID (migrateFromLegacy raw.subsysNQN))
    pure (migrateFromLegacy raw.subsysNQN)
  else if raw.state.accessType = none then do
    let stamped ← attempt (stampStagedAt volumeID raw.state.backfilled)
    match stamped with
    | .error _ => pure raw.state.backfilled
    | .ok state => do
      ignore (replaceStageFile volumeID state)
      pure state
  else pure raw.state

def readFile (key : String) : Node (Option StageFile) := do
  act (internal s!"read state file {key}") (.readRecord key)
  look fun h => h.files key

def readStageState : Node (Option NodeStageState) := do
  let file ← readFile (stateFileKey volumeID)
  match file with
  | none => pure none
  | some file =>
    match file.contents with
    | none => fail (internal s!"unmarshal state file {stateFileKey volumeID}")
    | some raw => do
      let state ← canonicalise volumeID raw
      pure (some state)

def deleteStageState : Node Unit :=
  act (internal s!"remove state file {stateFileKey volumeID}")
    (.removeRecord (stateFileKey volumeID))

variable (target : String)

def mountEntryExists : Node Bool :=
  query error fun h => h.mountedAt target

def findMount (mounts : List Mount) (target : String) : Option Mount :=
  mounts.find? (·.target = target)

/-- The device number a new mount of a source has: a bind shares its
source's. -/
def Host.deviceOf (h : Host) (source : String) : String :=
  ((findMount h.mounts source).map (·.device)).getD source

def mountAt (source target fsType : String) : Node Unit := do
  let device ← look fun h => h.deviceOf source
  act error
    (.mount { target := target, source := source, fsType := fsType, device := device })

def unmount : Node Unit := act error (.unmount target)

def hasOtherMounts : Node Bool := do
  let mounts ← query error fun h => h.mounts
  match findMount mounts target with
  | none => fail error
  | some me => pure (mounts.any fun m => m.device = me.device ∧ m.target ≠ target)

def mountSource : Node String := do
  let mounts ← query error fun h => h.mounts
  match findMount mounts target with
  | none => fail error
  | some me => pure me.source

def checkMountHealth : Node Health := do
  let health ← look fun h => h.probes.headD .alive
  act error (.probe target)
  pure health

def checkMountReadable : Node Unit := query error fun _ => ()

def defaultFsType : String := "ext4"

def runMkfs (device fsType : String) : Node Unit := do
  act error (.mkfs device fsType)
  let formatted ← query error fun h => h.formats device
  when (formatted ≠ fsType) (fail error)

def formatIfBlank (device fsType : String) (options : List String) : Node Unit := do
  query error fun _ => ()
  let existing ← query error fun h => h.formats device
  when (existing = "" ∧ "ro" ∉ options) (runMkfs error device fsType)

/-- `SafeFormatAndMount`: a blank device is formatted, another one checked,
unless the mount is read-only. -/
def safeFormatAndMount (device target fsType : String) (options : List String) : Node Unit := do
  let existing ← query error fun h => h.formats device
  when (existing = "" ∧ "ro" ∈ options) (fail error)
  when (existing = "" ∧ "ro" ∉ options) (act error (.mkfs device fsType))
  when (existing ≠ "" ∧ "ro" ∉ options) (act error (.fsck device))
  mountAt error device target fsType

def formatAndMount (device target fsType : String) (options : List String) : Node Unit := do
  let fsType := if fsType = "" then defaultFsType else fsType
  formatIfBlank error device fsType options
  safeFormatAndMount error device target fsType options

/-- The mount of a preserved volume, which never writes to the device. -/
def mountExisting (refused : NodeError) (device target fsType : String) : Node Unit := do
  let fsType := if fsType = "" then defaultFsType else fsType
  query error fun _ => ()
  let existing ← query error fun h => h.formats device
  if existing = "" ∨ existing ≠ fsType then fail refused
  else mountAt error device target fsType

def dmDevRoot : String := "/dev/mapper/"

/-- Claims a device, or finds it claimed under the name. -/
def ensureLinear (unavailable error : NodeError) (name backingDevice : String) : Node String := do
  query unavailable fun _ => ()
  let existing ← query error fun h => h.claims.lookup name
  when (existing = none) (act error (.createClaim name backingDevice))
  when (existing ≠ none ∧ existing ≠ some backingDevice) (fail error)
  query error fun _ => ()
  pure (dmDevRoot ++ name)

def removeClaim (name : String) : Node Unit := act error (.removeClaim name)

def dmTargetPresent (name : String) : Node Bool :=
  query error fun h => h.claims.any (·.1 = name)

end PillarCsi.NodeHost
