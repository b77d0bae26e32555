import PillarCsi.NodeStaging

/-!
`NodePublishVolume` with its repair of a dead staged filesystem,
`NodeUnpublishVolume`, `NodeExpandVolume`, the periodic trim of one record and
the restore of one record's session at a restart (`csi/node.go`,
`csi/node_expand.go`, `csi/trim.go`).
-/

namespace PillarCsi.NodePublishing

open FalliblePrograms.Program EffectPrograms StageRecord NodeHost NodeStaging

structure PublishRequest where
  (volumeID stagingPath targetPath : String)
  capability : Option Capability
  volumeContext : Context
  readonly : Bool
  deriving DecidableEq, Repr

structure UnpublishRequest where
  (volumeID targetPath : String)
  deriving DecidableEq, Repr

structure ExpandRequest where
  (volumeID volumePath : String)
  capability : Option Capability
  requiredBytes : Int
  deriving DecidableEq, Repr

section Publish

variable (node : NodeServer) (req : PublishRequest)

def PublishRequest.cap : Capability := req.capability.getD .unspecified

def PublishRequest.protocolType : ProtocolType :=
  resolveProtocolType req.volumeID req.volumeContext

def PublishRequest.preserveKey : Bool := req.volumeContext.get preserveOriginalKey = "true"

def publishError (message : String) : NodeError :=
  internal s!"NodePublishVolume: volume {req.volumeID.quote}: {message}"

def validateNodePublishRequest : Except NodeError Unit := do
  if req.volumeID = "" then throw (invalid "NodePublishVolume: volume_id is required")
  if req.stagingPath = "" then throw (invalid "NodePublishVolume: staging_target_path is required")
  if req.targetPath = "" then throw (invalid "NodePublishVolume: target_path is required")
  if req.capability = none then throw (invalid "NodePublishVolume: volume_capability is required")
  if req.protocolType = .nfs then
    if req.cap = .block then
      throw (invalid "NodePublishVolume: NFS volumes do not support block access")
    (node.validateNFSStageFilesystem req.volumeContext req.cap).mapError fun e =>
      invalid s!"NodePublishVolume: volume {req.volumeID.quote}: {e}"

/-- A publish that carries the key pins a record that is not pinned yet. -/
def pinPreserveFromPublish : Node Unit :=
  if req.preserveKey = false then pure ()
  else do
    let existing ← readStageState req.volumeID
    match existing with
    | none => pure ()
    | some state =>
      if state.preserveOriginal then pure ()
      else writeStageState req.volumeID { state with preserveOriginal := true }

def nodePublishProbePlan : Except NodeError (Option String) :=
  if req.cap.isMount = false ∨ req.protocolType = .nfs then .ok none
  else
    match stagedMountReadOnly node req.volumeContext req.cap with
    | .error e => .error (invalid s!"NodePublishVolume: volume {req.volumeID.quote}: {e}")
    | .ok true => .ok none
    | .ok false => .ok (some (if req.readonly then req.stagingPath else req.targetPath))

variable (probePath : Option String)

/-- Whether the bind that is there is usable; a dead one is dropped. -/
def ensureUsablePublishBind : Node Bool :=
  match probePath with
  | none => do
    checkMountReadable (publishError req s!"bind {req.targetPath.quote} is not usable")
    pure true
  | some path => do
    let health ← checkMountHealth
      (publishError req s!"health-check bind {req.targetPath.quote}") path
    match health with
    | .alive => pure true
    | .dead => do
      unmount (publishError req s!"unmount dead bind {req.targetPath.quote}") req.targetPath
      pure false

def publishedByExistingBind : Node Bool := do
  let mounted ← mountEntryExists
    (publishError req s!"check if {req.targetPath.quote} is mounted") req.targetPath
  if mounted = false then pure false else ensureUsablePublishBind req probePath

/-- Unmounts a dead staged filesystem no other mount shares; the device to
mount again. -/
def dropDeadStagedMountForRepair (device : String) : Node String := do
  let others ← hasOtherMounts
    (publishError req s!"check mounts sharing the dead filesystem at {req.stagingPath.quote}")
    req.stagingPath
  when others (fail (publishError req (s!"staged filesystem at {req.stagingPath.quote} is dead " ++
    "but still referenced by other mounts; it cannot be repaired until pod teardown removes them")))
  let source ←
    (if device = "" then
      mountSource (publishError req (s!"no device path in the stage record and the mountinfo " ++
        s!"source of {req.stagingPath.quote} is unreadable")) req.stagingPath
    else pure device)
  unmount (publishError req s!"unmount dead staged filesystem {req.stagingPath.quote}")
    req.stagingPath
  pure source

def remountStaged (preserve : Bool) (fs : StagedFilesystem) (device : String) : Node Unit :=
  if preserve then
    let error := publishError req
      s!"re-mount preserved staged filesystem {device.quote} -> {req.stagingPath.quote}"
    mountExisting error error device req.stagingPath fs.fsType
  else formatAndMount (publishError req
    s!"re-mount staged filesystem {device.quote} -> {req.stagingPath.quote}") device
    req.stagingPath fs.fsType fs.mountFlags

def verifyRemounted (fs : StagedFilesystem) : Node Unit :=
  if "ro" ∈ fs.mountFlags then
    checkMountReadable (publishError req "re-mounted staged filesystem is not usable")
  else do
    let health ← checkMountHealth
      (publishError req "re-mounted staged filesystem failed its health probe") req.stagingPath
    when (health = .dead)
      (fail (publishError req "re-mounted staged filesystem failed its health probe"))

def repairDeadStagedMount (mounted : Bool) (state : Option NodeStageState)
    (fs : StagedFilesystem) (preserve : Bool) : Node Unit := do
  let recorded := (state.map (·.devicePath)).getD ""
  let device ← (if mounted then dropDeadStagedMountForRepair req recorded else pure recorded)
  if device = "" then
    fail (publishError req (s!"staged filesystem at {req.stagingPath.quote} is " ++
      (if mounted then "dead" else "not mounted") ++
      " but the stage record has no device path to re-mount"))
  else do
    remountStaged req preserve fs device
    verifyRemounted req fs

def repairFromRecord (mounted : Bool) (fs : StagedFilesystem) : Node Unit := do
  let state ← readStageState req.volumeID
  if mounted = false ∧ state = none then pure ()
  else
    repairDeadStagedMount req mounted state fs
      (req.preserveKey || (state.map (·.preserveOriginal)).getD false)

def ensureHealthyStagedMount : Node Unit :=
  match stageFilesystem node req.volumeContext req.cap with
  | .error e => fail (invalid s!"NodePublishVolume: volume {req.volumeID.quote}: {e}")
  | .ok fs => do
    let mounted ← mountEntryExists
      (publishError req s!"check if staged path {req.stagingPath.quote} is mounted")
      req.stagingPath
    let health ←
      (if mounted then
        checkMountHealth
          (publishError req s!"health-check staged filesystem {req.stagingPath.quote}")
          req.stagingPath
      else pure .dead)
    match health with
    | .alive => pure ()
    | .dead => repairFromRecord req mounted fs

def mountNodePublish : Node Unit :=
  let source := stageSurface req.stagingPath req.cap.accessType
  match req.cap with
  | .unspecified => fail (invalid
      "NodePublishVolume: volume_capability must specify mount or block access type")
  | _ => mountAt (publishError req s!"bind-mount {source.quote} → {req.targetPath.quote}") source
      req.targetPath req.cap.fsType

/-- Repairs the staged filesystem and binds it; a bind that fails is tried
again after another repair. -/
def bindWithStagedRepair (probeHealth : Bool) : Node Unit :=
  if probeHealth = false then mountNodePublish req
  else do
    ensureHealthyStagedMount node req
    let bound ← attempt (mountNodePublish req)
    match bound with
    | .ok () => pure ()
    | .error e => do
      let repaired ← attempt (ensureHealthyStagedMount node req)
      match repaired with
      | .error again => fail (e.join (.error again))
      | .ok () => mountNodePublish req

def verifyFreshPublishBind (probePath : String) : Node Unit := do
  let error := publishError req
    s!"bind-mounted filesystem at {req.targetPath.quote} failed its health probe"
  let health ← attempt (checkMountHealth error probePath)
  match health with
  | .ok .alive => pure ()
  | _ => do
    let cleanup ← attempt (unmount (publishError req "unmount after the failed probe")
      req.targetPath)
    fail (error.join cleanup)

def resolveNodePublishMount : Except String (List String) :=
  if req.cap.isMount = false then .ok ["bind"]
  else do
    let flags ← resolveMountFlags node req.volumeContext req.cap
    return "bind" :: flags

def publishBind : Node Unit :=
  match resolveNodePublishMount node req with
  | .error e => fail (invalid s!"NodePublishVolume: volume {req.volumeID.quote}: {e}")
  | .ok _ => do
    bindWithStagedRepair node req probePath.isSome
    match probePath with
    | none => pure ()
    | some path => verifyFreshPublishBind req path

def nodePublishVolume : Node Unit :=
  match validateNodePublishRequest node req with
  | .error e => fail e
  | .ok () => do
    pinPreserveFromPublish req
    match nodePublishProbePlan node req with
    | .error e => fail e
    | .ok probePath => do
      let published ← publishedByExistingBind req probePath
      if published then pure () else publishBind node req probePath

def nodeUnpublishVolume (req : UnpublishRequest) : Node Unit :=
  if req.volumeID = "" then fail (invalid "NodeUnpublishVolume: volume_id is required")
  else if req.targetPath = "" then fail (invalid "NodeUnpublishVolume: target_path is required")
  else unmount (internal s!"NodeUnpublishVolume: unmount {req.targetPath.quote}") req.targetPath

end Publish

section Expand

variable (node : NodeServer) (req : ExpandRequest)

def expandError (message : String) : NodeError :=
  internal s!"NodeExpandVolume: volume {req.volumeID.quote}: {message}"

def expandLocal (state : NodeStageState) : Node Unit :=
  match state.localState with
  | none => fail (expandError req "stage state is a local attach without a device-mapper target")
  | some claim =>
    if claim.dmName = "" ∨ claim.backingDevice = "" then
      fail (expandError req "stage state is a local attach without a device-mapper target")
    else act (expandError req s!"reload device-mapper {claim.dmName}") (.reloadClaim claim.dmName)

def rescanProtocol (state : NodeStageState) : Node Unit :=
  if node.handlers .iscsi = false then fail (missingHandler "NodeExpandVolume" .iscsi)
  else
    match state.toProtocolState with
    | .error e => fail (expandError req s!"convert stage state: {e}")
    | .ok _ => query (expandError req "rescan") fun _ => ()

/-- Makes the device's new size visible; a preserved volume is refused. -/
def growStagedDevice (state : NodeStageState) : Node Unit :=
  if state.preserveOriginal then
    fail (refused (s!"NodeExpandVolume: volume {req.volumeID.quote} is preserve-original and is " ++
      "never expanded"))
  else if state.isLocalAttach then expandLocal req state
  else if state.protocolType = some .iscsi then rescanProtocol node req state
  else pure ()

variable (state : Option NodeStageState)

def expandFsType : String :=
  let recorded := (state.map (·.fsType)).getD ""
  if recorded ≠ "" then recorded
  else if (req.capability.getD .unspecified).fsType ≠ "" then
    (req.capability.getD .unspecified).fsType
  else defaultFsType

/-- Whether the device alone was to grow: no filesystem of ours is on it. -/
def expandDone (isDir : Bool) : Bool :=
  (state.bind (·.protocolType)) = some .nfs ∨ req.capability = some .block ∨
    (req.capability = none ∧ isDir = false)

def supportedResize : List String := ["ext4", "ext3", "ext2", "xfs"]

def resizeFS : Node Unit :=
  let fsType := expandFsType req state
  if fsType ∉ supportedResize then
    fail (expandError req s!"unsupported filesystem type {fsType.quote}")
  else act (expandError req s!"resize {fsType} filesystem at {req.volumePath.quote}")
    (.resizeFS req.volumePath fsType)

def expandStaged (isDir : Bool) : Node Int :=
  if (state.map (·.file)).getD false then
    fail (refused "NodeExpandVolume: adopted filesystem expansion is unsupported")
  else do
    when (expandDone req state isDir = false) (resizeFS req state)
    pure req.requiredBytes

/-- `isDir` is what `stat` finds at the volume path. -/
def nodeExpandVolume (isDir : Bool) : Node Int :=
  if req.volumeID = "" then fail (invalid "NodeExpandVolume: volume_id is required")
  else if req.volumePath = "" then fail (invalid "NodeExpandVolume: volume_path is required")
  else do
    query ⟨.notFound, s!"NodeExpandVolume: volume_path {req.volumePath.quote} does not exist"⟩
      fun _ => ()
    let state ← readStageState req.volumeID
    match state with
    | none => expandStaged req none isDir
    | some recorded => do
      growStagedDevice node req recorded
      expandStaged req state isDir

end Expand

/-- The trim loop's settings: the time between trims, the first trim's delay,
the bytes of a chunk, and the volume handles kubelet keeps with their staging
paths. -/
structure Trimmer where
  interval : Nat
  jitter : String → Nat
  chunk : Nat
  kubeletHandles : List (String × String)

def trimEligible (rec : NodeStageState) : Bool :=
  rec.protocolType ≠ some .nfs ∧ rec.accessType ≠ some .block ∧ rec.periodicTrim.getD true

section Trim

variable (t : Trimmer)

def Trimmer.dueAt (rec : NodeStageState) (fileModTime : Nat) (key : String) : Nat :=
  match rec.lastTrim, rec.stagedAt with
  | some lastTrim, _ => lastTrim + t.interval
  | none, some stagedAt => stagedAt + t.jitter key
  | none, none => fileModTime + t.jitter key

/-- The volume and staging path of a record; an old record's are found by its
file name among kubelet's handles. -/
def Trimmer.target (rec : NodeStageState) (key : String) : Option (String × String) :=
  if rec.volumeID ≠ "" ∧ rec.stagingPath ≠ "" then some (rec.volumeID, rec.stagingPath)
  else t.kubeletHandles.find? fun handle => stateFileKey handle.1 = key

/-- How a chunk ended: the volume is gone from the path, or whether the chunk
was the last. -/
inductive ChunkEnd where
  | stageGone
  | trimmed (last : Bool)
  deriving DecidableEq, Repr

variable (volumeID : String)

def trimError (message : String) : NodeError :=
  internal s!"trim of volume {volumeID.quote}: {message}"

def verifyMount (path : String) (state : NodeStageState) : Node Unit := do
  let mounts ← query (trimError volumeID "read mount table") fun h => h.mounts
  match findMount mounts path with
  | none => fail (trimError volumeID s!"{path.quote} is not a mount point")
  | some mount =>
    if state.fsType ≠ "" ∧ mount.fsType ≠ state.fsType then
      fail (trimError volumeID s!"{path.quote} is a {mount.fsType} mount")
    else query (trimError volumeID s!"verify device mounted at {path.quote}") fun _ => ()

/-- Trims the chunk at `offset` of a filesystem of `size` bytes, under the
volume's lock. -/
def trimChunk (path : String) (offset size : Nat) : Node ChunkEnd := do
  let existing ← readStageState volumeID
  match existing with
  | none => pure .stageGone
  | some state =>
    if trimEligible state = false ∨ (state.stagingPath ≠ "" ∧ state.stagingPath ≠ path) then
      pure .stageGone
    else do
      verifyMount volumeID path state
      act (trimError volumeID s!"trim {path.quote} from byte {offset}") (.fitrim path offset)
      pure (.trimmed (size ≤ t.chunk ∨ size - t.chunk ≤ offset))

/-- Writes the time of an attempt; a record that is gone is not made again. -/
def recordAttempt (started : Nat) : Node Unit := do
  let existing ← readStageState volumeID
  match existing with
  | none => pure ()
  | some state => writeStageState volumeID { state with lastTrim := some started }

/-- One chunk and, after the last or a failed one, the record of the attempt,
all under the volume's lock; whether more is to trim. -/
def trimLocked (path : String) (started offset size : Nat) : Node Bool := do
  let ended ← attempt (trimChunk t volumeID path offset size)
  match ended with
  | .ok .stageGone => pure false
  | .ok (.trimmed false) => pure true
  | _ => do
    ignore (recordAttempt volumeID started)
    pure false

/-- Chunk after chunk, until the loop is shut down. -/
def trimVolume (volumeID path : String) (started size : Nat) : Nat → Nat → Node Unit
  | 0, _ => pure ()
  | chunks + 1, offset => do
    let more ← trimLocked t volumeID path started offset size
    when more (trimVolume volumeID path started size chunks (offset + t.chunk))

/-- `considerRecord`: the trim of the record file `key` when it is due. -/
def considerRecord (key : String) (size chunks : Nat) : Node Unit := do
  let file ← readFile key
  let now ← look fun h => h.clock
  match file.bind fun f => f.contents.map fun raw => (raw.state, f.modTime) with
  | none => pure ()
  | some (rec, modTime) =>
    if trimEligible rec = false ∨ now < t.dueAt rec modTime key then pure ()
    else
      match t.target rec key with
      | none => pure ()
      | some (volumeID, path) => trimVolume t volumeID path now size chunks 0

end Trim

/-- The session parameters of one record file, given back to the initiator. -/
def restoreProtocolSession (node : NodeServer) (key : String) : Node Unit := do
  let file ← readFile key
  match file.bind (·.contents) with
  | none => fail (internal s!"restore protocol session of {key}: unmarshal")
  | some raw =>
    if raw.state.protocolType ≠ some .iscsi ∨ raw.state.isLocalAttach then pure ()
    else if node.handlers .iscsi = false then
      fail (missingHandler "restore protocol session" .iscsi)
    else
      match raw.state.toProtocolState with
      | .error e => fail (internal s!"restore protocol session of {key}: {e}")
      | .ok _ => query (internal s!"restore protocol session of {key}") fun _ => ()

end PillarCsi.NodePublishing
