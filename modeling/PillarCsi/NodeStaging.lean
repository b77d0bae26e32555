import PillarCsi.NodeHost

/-!
`NodeStageVolume` and `NodeUnstageVolume` of the block driver (`csi/node.go`,
`csi/devicemapper.go`, `csi/nvmeof_tcp_handler.go`, `csi/iscsi_handler.go`).

The calls of one volume run one after the other, under the volume's lock.
-/

namespace PillarCsi.NodeStaging

open FalliblePrograms.Program StageRecord NodeHost

abbrev Context := List (String × String)

def Context.get (c : Context) (key : String) : String := (c.lookup key).getD ""

inductive Capability where
  | mount (fsType : String) (mountFlags : List String)
  | block
  | unspecified
  deriving DecidableEq, Repr

def Capability.isMount : Capability → Bool
  | .mount _ _ => true
  | _ => false

def Capability.mountFlags : Capability → List String
  | .mount _ flags => flags
  | _ => []

def Capability.fsType : Capability → String
  | .mount fsType _ => fsType
  | _ => ""

def Capability.accessType : Capability → AccessType
  | .block => .block
  | _ => .filesystem

structure AttachParams where
  protocolType : ProtocolType
  (connectionID address port volumeRef : String)
  (extra publishContext secrets : Context)
  deriving DecidableEq, Repr

/-- The node plugin: its name, its protocol handlers, the hash it names claims
with, and its parsers of option texts. -/
structure NodeServer where
  nodeID : String
  handlers : ProtocolType → Bool
  localDMName : String → String
  parseMountOptions : String → Except String (List String)
  parseMkfsOptions : String → String → Except String (List String)
  parseNVMeoFConnectOptions : Context → Context → Except String Unit
  /-- With the page-size floor of this node. -/
  parseNVMeoFMaxDataTransferSize : Context → Except String Int
  parseISCSISessionTimeouts : Context → Except String Nat
  parseISCSICHAP : Context → Context → Except String (Option ISCSIStageCHAP)
  nfsStateFromParams : AttachParams → Except String NFSStageState
  validateNFSStageFilesystem : Context → Capability → Except String Unit
  nfsMountFlags : Context → Capability → String → Except String (List String)

structure StageRequest where
  (volumeID stagingPath : String)
  capability : Option Capability
  (volumeContext publishContext secrets : Context)
  deriving DecidableEq, Repr

structure UnstageRequest where
  (volumeID stagingPath : String)
  deriving DecidableEq, Repr

def preserveOriginalKey : String := "pillar-csi.bhyoo.com/preserve-original"

def filesystemAdoptionKey : String := "pillar-csi.bhyoo.com/filesystem-adoption"

def knownProtocolTypes : List String := ["nvmeof-tcp", "nfs"]

variable (volumeID : String)

def protocolPart : String :=
  (((volumeID.toList.splitOn '/').map String.ofList).getD 1 "")

def resolveProtocolType (volCtx : Context) : ProtocolType :=
  if volCtx.get "pillar-csi.bhyoo.com/protocol-type" ≠ "" then
    .ofName (volCtx.get "pillar-csi.bhyoo.com/protocol-type")
  else if protocolPart volumeID ∈ knownProtocolTypes then .ofName (protocolPart volumeID)
  else .nvmeofTCP

def blockStagingDevicePath (stagingPath : String) : String := stagingPath ++ "/device"

/-- The path a stage mounts or binds, and a publish binds from. -/
def stageSurface (stagingPath : String) : AccessType → String
  | .filesystem => stagingPath
  | .block => blockStagingDevicePath stagingPath

variable (req : StageRequest)

def StageRequest.cap : Capability := req.capability.getD .unspecified

def StageRequest.accessType : AccessType := req.cap.accessType

def StageRequest.surface : String :=
  stageSurface req.stagingPath req.accessType

def StageRequest.protocolType : ProtocolType :=
  resolveProtocolType req.volumeID req.volumeContext

def StageRequest.preserveKey : Bool :=
  req.volumeContext.get preserveOriginalKey = "true"

def StageRequest.attachParams : AttachParams where
  protocolType := req.protocolType
  connectionID := req.volumeContext.get "target_id"
  address := req.volumeContext.get "address"
  port := req.volumeContext.get "port"
  volumeRef := req.volumeContext.get "pillar-csi.bhyoo.com/volume-ref"
  extra := req.volumeContext
  publishContext := req.publishContext
  secrets := req.secrets

structure StagedFilesystem where
  fsType : String
  mountFlags : List String
  periodicTrim : Option Bool
  deriving DecidableEq, Repr

variable (node : NodeServer) (volCtx : Context)

variable (volCap : Capability)

def resolveMountFlags : Except String (List String) :=
  match volCtx.lookup "pillar-csi.bhyoo.com/mount-options" with
  | none => .ok volCap.mountFlags
  | some raw => node.parseMountOptions raw

def stagedMountReadOnly : Except String Bool := do
  let flags ← resolveMountFlags node volCtx volCap
  return flags.contains "ro"

def parsePeriodicTrim : Except String (Option Bool) :=
  match volCtx.lookup "pillar-csi.bhyoo.com/periodic-trim" with
  | none => .ok none
  | some raw =>
    if raw = "true" then .ok (some true)
    else if raw = "false" then .ok (some false)
    else .error (s!"volume_context pillar-csi.bhyoo.com/periodic-trim {raw.quote} is unsupported: " ++
      "must be \"true\" or \"false\"")

def stageFilesystem : Except String StagedFilesystem := do
  let override := volCtx.get "pillar-csi.bhyoo.com/fs-type"
  if override ≠ "" ∧ override ≠ "ext4" ∧ override ≠ "xfs" then
    throw (s!"volume_context pillar-csi.bhyoo.com/fs-type {override.quote} is unsupported: " ++
      "must be \"ext4\" or \"xfs\"")
  let fsType :=
    if override ≠ "" then override
    else if volCap.fsType ≠ "" then volCap.fsType
    else defaultFsType
  let _ ← node.parseMkfsOptions fsType (volCtx.get "pillar-csi.bhyoo.com/mkfs-options")
  let mountFlags ← resolveMountFlags node volCtx volCap
  let periodicTrim ← parsePeriodicTrim volCtx
  return { fsType := fsType, mountFlags := mountFlags, periodicTrim := periodicTrim }

variable (req : StageRequest)

def StageRequest.filesystem : Except String StagedFilesystem :=
  if req.cap.isMount = false then .ok { fsType := "", mountFlags := [], periodicTrim := none }
  else if req.protocolType = .nfs then do
    node.validateNFSStageFilesystem req.volumeContext req.cap
    let state ← node.nfsStateFromParams req.attachParams
    let flags ← node.nfsMountFlags req.volumeContext req.cap state.address
    return { fsType := "nfs", mountFlags := flags, periodicTrim := none }
  else stageFilesystem node req.volumeContext req.cap

def invalid (message : String) : NodeError := ⟨.invalidArgument, message⟩

def refused (message : String) : NodeError := ⟨.failedPrecondition, message⟩

/-- The backend device of a local attach, `none` for a protocol attach. -/
def localAttachRequest (pubCtx : Context) : Except NodeError (Option String) :=
  let mode := pubCtx.get "pillar-csi.bhyoo.com/attach-mode"
  let localNode := pubCtx.get "pillar-csi.bhyoo.com/local-node"
  let device := pubCtx.get "pillar-csi.bhyoo.com/local-device-path"
  if mode = "" then .ok none
  else if mode ≠ "local" then
    .error (invalid ("NodeStageVolume: publish_context \"pillar-csi.bhyoo.com/attach-mode\" " ++
      s!"has unknown value {mode.quote}"))
  else if localNode ≠ node.nodeID then
    .error (refused (s!"NodeStageVolume: volume published for local attach on node " ++
      s!"{localNode.quote}, but this node is {node.nodeID.quote}"))
  else if device = "" then
    .error (invalid ("NodeStageVolume: publish_context missing required key " ++
      "\"pillar-csi.bhyoo.com/local-device-path\" for local attach"))
  else .ok (some device)

structure ISCSIAttachSpec where
  (targetIQN address : String)
  (port lun loginTimeout : Nat)
  chap : Option ISCSIStageCHAP
  deriving DecidableEq, Repr

def parsePort (port : String) : Option Nat :=
  port.toNat?.bind fun n => if 1 ≤ n ∧ n ≤ 65535 then some n else none

def parseLUN (volumeRef : String) : Option Nat :=
  if volumeRef = "" then some 0 else volumeRef.toNat?

def parseISCSIAttachParams (params : AttachParams) : Except String ISCSIAttachSpec :=
  if params.connectionID = "" then .error "ConnectionID (target IQN) is required"
  else if params.address = "" then .error s!"address of target {params.connectionID} is required"
  else
    match parsePort params.port, parseLUN params.volumeRef with
    | none, _ => .error (s!"port {params.port.quote} of target {params.connectionID} must be " ++
        "an integer in [1, 65535]")
    | some _, none => .error (s!"LUN {params.volumeRef.quote} of target {params.connectionID} " ++
        "must be a non-negative integer")
    | some port, some lun =>
      match node.parseISCSISessionTimeouts params.extra,
        node.parseISCSICHAP params.extra params.secrets with
      | .error e, _ => .error s!"target {params.connectionID}: {e}"
      | .ok _, .error e => .error s!"target {params.connectionID}: {e}"
      | .ok loginTimeout, .ok chap =>
        .ok { targetIQN := params.connectionID, address := params.address, port := port,
              lun := lun, loginTimeout := loginTimeout, chap := chap }

def requireKey (params : Context) (key : String) : Except NodeError Unit :=
  if params.get key = "" then
    .error (invalid s!"NodeStageVolume: volume_context missing required key {key.quote}")
  else .ok ()

def badParameter (parsed : Except String α) : Except NodeError α :=
  parsed.mapError fun e => invalid s!"NodeStageVolume: volume {volumeID.quote}: {e}"

variable (what : String)

def missingHandler (protocolType : ProtocolType) : NodeError :=
  refused s!"{what}: no handler registered for protocol {protocolType.name.quote}"

/-- What a protocol attach checks before any side effect. -/
def validateProtocolAttach : Except NodeError Unit := do
  if node.handlers req.protocolType = false then
    throw (missingHandler "NodeStageVolume" req.protocolType)
  match req.protocolType with
  | .nvmeofTCP => do
    requireKey req.volumeContext "target_id"
    requireKey req.volumeContext "address"
    requireKey req.volumeContext "port"
    discard (badParameter req.volumeID
      (node.parseNVMeoFMaxDataTransferSize req.volumeContext))
  | .iscsi => do
    requireKey req.volumeContext "target_id"
    requireKey req.volumeContext "address"
    requireKey req.volumeContext "port"
    discard (badParameter req.volumeID (parseISCSIAttachParams node req.attachParams))
  | .nfs => do
    badParameter req.volumeID (node.validateNFSStageFilesystem req.volumeContext req.cap)
    discard (badParameter req.volumeID (node.nfsStateFromParams req.attachParams))
  | .other _ => pure ()

/-- The checks before the record is read; the backend device of a local
attach. -/
def validateStage : Except NodeError (Option String) := do
  if req.volumeID = "" then throw (invalid "NodeStageVolume: volume_id is required")
  if req.stagingPath = "" then throw (invalid "NodeStageVolume: staging_target_path is required")
  if req.capability = none then throw (invalid "NodeStageVolume: volume_capability is required")
  if req.publishContext.get filesystemAdoptionKey ≠ "" ∨
      req.volumeContext.get filesystemAdoptionKey ≠ "" then
    throw (refused "NodeStageVolume: filesystem context")
  let localDevice ← localAttachRequest node req.publishContext
  if req.protocolType = .nfs ∧ localDevice.isSome then
    throw (refused "NodeStageVolume: localAttach is not supported for NFS; use the NFS client path")
  if req.protocolType = .nfs ∧ req.cap = .block then
    throw (invalid "NodeStageVolume: NFS volumes do not support block access")
  if localDevice.isSome then
    if req.volumeContext.get "target_id" = "" then
      throw (invalid ("NodeStageVolume: volume_context missing required key \"target_id\" " ++
        "for local attach"))
  else validateProtocolAttach node req
  if req.cap.isMount ∧ req.protocolType ≠ .nfs then
    discard (badParameter req.volumeID (stagedMountReadOnly node req.volumeContext req.cap))
  return localDevice

def StageRequest.stagedRO : Bool :=
  req.cap.isMount && decide (req.protocolType ≠ .nfs) &&
    ((stagedMountReadOnly node req.volumeContext req.cap).toOption.getD false)

/-- A filesystem that a probe may write to. -/
def StageRequest.writeProbed : Bool :=
  req.cap.isMount && decide (req.protocolType ≠ .nfs) && !req.stagedRO node

def attachNVMeoF (params : AttachParams) : Node AttachResult :=
  match node.parseNVMeoFConnectOptions params.extra params.publishContext with
  | .error e => fail (internal s!"{what}: nvmeof-tcp Attach: {e}")
  | .ok () => do
    act (internal (s!"{what}: nvmeof-tcp Attach: connect to {params.connectionID.quote} " ++
      s!"at {params.address}:{params.port}")) (.connect (.nvme params.connectionID))
    -- the last poll
    let devicePath ← query (internal s!"{what}: nvmeof-tcp Attach: get device path")
      fun h => h.devices (.nvme params.connectionID)
    when (devicePath = "") (fail (internal (s!"{what}: nvmeof-tcp Attach: block device for NQN " ++
      s!"{params.connectionID.quote} did not appear")))
    query (internal s!"{what}: nvmeof-tcp Attach: limit transfer size") fun _ => ()
    pure { devicePath := devicePath, mountSource := "",
           state := .nvmeof params.connectionID params.address params.port }

def ISCSIAttachSpec.session (spec : ISCSIAttachSpec) : Session :=
  .iscsi spec.targetIQN spec.address spec.port

def deviceForLUN (spec : ISCSIAttachSpec) : Node String := do
  let error := internal (s!"{what}: iscsi Attach: block device for LUN {spec.lun} of " ++
    s!"{spec.targetIQN} at {spec.address}:{spec.port}")
  let devicePath ← query error fun h => h.devices spec.session
  when (devicePath = "") (fail error)
  pure devicePath

def attachISCSI (params : AttachParams) : Node AttachResult :=
  match parseISCSIAttachParams node params with
  | .error e => fail (internal s!"{what}: iscsi Attach: {e}")
  | .ok spec => do
    act (internal (s!"{what}: iscsi Attach: login to {spec.targetIQN} " ++
      s!"at {spec.address}:{spec.port}")) (.connect spec.session)
    let device ← attempt (deviceForLUN what spec)
    match device with
    | .error e => do
      -- A session without its device is given up at once.
      let loggedOut ← attempt (act (internal (s!"iscsi Attach: roll back login to " ++
        s!"{spec.targetIQN} at {spec.address}:{spec.port}")) (.disconnect spec.session))
      fail (e.join loggedOut)
    | .ok devicePath =>
      pure { devicePath := devicePath, mountSource := "",
             state := .iscsi spec.targetIQN spec.address (toString spec.port) spec.lun
               spec.loginTimeout spec.chap }

def attachNFS (params : AttachParams) : Node AttachResult :=
  match node.nfsStateFromParams params with
  | .error e => fail (internal s!"{what}: {e}")
  | .ok state =>
    if state.mountSource = "" then
      fail (internal s!"{what}: NFS handler returned an empty mount source")
    else pure { devicePath := "", mountSource := state.mountSource, state := .nfs state }

def handlerAttach (params : AttachParams) : Node AttachResult :=
  match params.protocolType with
  | .nvmeofTCP => attachNVMeoF node what params
  | .iscsi => attachISCSI node what params
  | .nfs => attachNFS node what params
  | .other _ => fail (missingHandler what params.protocolType)

def handlerDetach : ProtocolState → Node Unit
  | .nvmeof subsysNQN _ _ =>
    if subsysNQN = "" then
      fail (internal s!"{what}: nvmeof-tcp Detach: state has empty SubsysNQN")
    else act (internal s!"{what}: nvmeof-tcp Detach: disconnect {subsysNQN.quote}")
      (.disconnect (.nvme subsysNQN))
  | .iscsi targetIQN address port _ _ _ =>
    match parsePort port with
    | none => fail (internal (s!"{what}: iscsi Detach: state of target {targetIQN} " ++
        s!"has invalid port {port.quote}"))
    | some n =>
      if targetIQN = "" ∨ address = "" then
        fail (internal s!"{what}: iscsi Detach: state has empty TargetIQN or address")
      else act (internal s!"{what}: iscsi Detach: logout {targetIQN} at {address}:{port}")
        (.disconnect (.iscsi targetIQN address n))
  | .nfs state =>
    if state.mountSource = "" then
      fail (internal s!"{what}: nfs Detach: state has empty mount source")
    else pure ()

section Stage

variable (node : NodeServer) (req : StageRequest)

def stageError (message : String) : NodeError :=
  internal s!"NodeStageVolume: volume {req.volumeID.quote}: {message}"

/-- Surface, then claim, then record: a step that fails keeps what comes after
it. -/
def rollbackLocal : Node Unit := do
  let name := node.localDMName req.volumeID
  unmount (internal (s!"unmount {req.surface.quote} of volume {req.volumeID.quote} after the " ++
    s!"failed stage (device-mapper {name} kept)")) req.surface
  removeClaim (internal (s!"release device-mapper {name} of volume {req.volumeID.quote} after " ++
    "the failed stage")) name
  deleteStageState req.volumeID

/-- Rolls back a local stage that failed past its claim. -/
def abortLocal (cause : NodeError) : Node α := do
  let rolledBack ← attempt (rollbackLocal node req)
  fail (cause.join rolledBack)

/-- The end of a stage that failed after its attach. -/
def failStaged (localDevice : Option String) (cause : NodeError) : Node α :=
  if localDevice.isSome then abortLocal node req cause
  else if req.protocolType = .nfs then do
    let cleanup ← attempt (unmount (internal "NFS stage cleanup") req.stagingPath)
    fail (cause.join cleanup)
  else fail cause

/-- A step after the attach, with the roll-back of its failure. -/
def orFailStaged (localDevice : Option String) (p : Node α) : Node α := do
  let result ← attempt p
  match result with
  | .ok a => pure a
  | .error e => failStaged node req localDevice e

def attachLocal (backingDevice : String) : Node String := do
  let name := node.localDMName req.volumeID
  let message := s!"NodeStageVolume: local attach volume {req.volumeID.quote}: device-mapper " ++
    s!"{name} over {backingDevice.quote}"
  let dmPath ← ensureLinear (refused message) (internal message) name backingDevice
  let enabled ← orFailStaged node req (some backingDevice)
    (query (stageError req "verify network export is disabled")
      fun h => h.exports (req.volumeContext.get "target_id"))
  if enabled = [] then pure dmPath
  else abortLocal node req (refused (s!"NodeStageVolume: network export of volume " ++
    s!"{req.volumeID.quote} is still serving remote initiators"))

/-- Attaches the volume: the device, and the handler's result of a protocol
attach. -/
def stageAttach (localDevice : Option String) : Node (String × Option AttachResult) :=
  match localDevice with
  | some backingDevice => do
    let dmPath ← attachLocal node req backingDevice
    pure (dmPath, none)
  | none => do
    let result ← handlerAttach node
      (s!"NodeStageVolume: attach volume {req.volumeID.quote} " ++
        s!"(protocol {req.protocolType.name.quote})") req.attachParams
    pure (result.devicePath, some result)

/-- Unmounts the filesystem at `target` if the kernel has shut it down and no
other mount shares it; whether it is usable. -/
def dropUnusableStagedMount (error : String → NodeError) (target : String) : Node Bool := do
  let health ← checkMountHealth (error s!"health-check staged filesystem {target.quote}") target
  match health with
  | .alive => pure true
  | .dead => do
    let others ← hasOtherMounts
      (error s!"check mounts sharing the dead filesystem at {target.quote}") target
    when others (fail (error (s!"staged filesystem at {target.quote} is dead but still " ++
      "referenced by other mounts; it cannot be re-staged until pod teardown removes them")))
    unmount (error s!"unmount dead staged filesystem {target.quote}") target
    pure false

variable (preserve : Bool) (localDevice : Option String)

variable (fs : StagedFilesystem)

variable (devicePath : String) (result : Option AttachResult)

def stageMountNew : Node Unit :=
  if req.protocolType = .nfs then
    mountAt (stageError req s!"mount NFS at {req.stagingPath.quote}")
      ((result.map (·.mountSource)).getD "") req.stagingPath fs.fsType
  else if preserve then
    mountExisting (stageError req s!"mount existing filesystem at {req.stagingPath.quote}")
      (refused (s!"NodeStageVolume: preserved volume {req.volumeID.quote} cannot mount " ++
        s!"{devicePath.quote}")) devicePath req.stagingPath fs.fsType
  else formatAndMount (stageError req s!"format-and-mount at {req.stagingPath.quote}") devicePath
    req.stagingPath fs.fsType fs.mountFlags

def stageVerify : Node Unit :=
  if req.writeProbed node then do
    let health ← checkMountHealth (stageError req "staged filesystem failed its health probe")
      req.stagingPath
    when (health = .dead) (fail (stageError req "staged filesystem failed its health probe"))
  else checkMountReadable (stageError req "staged mount is not usable")

def stageMount : Node Unit := do
  let found ← orFailStaged node req localDevice
    (mountEntryExists (stageError req s!"check if {req.stagingPath.quote} is mounted")
      req.stagingPath)
  -- A leftover mount is adopted only when it is usable; the one that is
  -- kept after a failed probe is not rolled back.
  let mounted ←
    (if found = true ∧ req.writeProbed node = true then
      dropUnusableStagedMount (stageError req) req.stagingPath
    else pure found)
  when (mounted = false) (orFailStaged node req localDevice
    (stageMountNew req preserve fs devicePath result))
  orFailStaged node req localDevice (stageVerify node req)

def stageBind : Node Unit := do
  let bindTarget := blockStagingDevicePath req.stagingPath
  let mounted ← orFailStaged node req localDevice
    (mountEntryExists (stageError req s!"check if {bindTarget.quote} is mounted") bindTarget)
  when (mounted = false) (orFailStaged node req localDevice
    (mountAt (stageError req s!"bind-mount block device at {bindTarget.quote}") devicePath
      bindTarget ""))
  orFailStaged node req localDevice
    (checkMountReadable (stageError req s!"block bind {bindTarget.quote} is not usable"))

def stagePresent : Node Unit :=
  match req.cap with
  | .mount _ _ => stageMount node req preserve localDevice fs devicePath result
  | .block => stageBind node req localDevice devicePath
  | .unspecified => failStaged node req localDevice
      (invalid "NodeStageVolume: volume_capability must specify mount or block access type")

def StageRequest.maxTransfer : Int :=
  (node.parseNVMeoFMaxDataTransferSize req.volumeContext).toOption.getD 0

def attachmentState : NodeStageState :=
  match localDevice, result with
  | some device, _ =>
    localStageState req.protocolType req.accessType (node.localDMName req.volumeID) device
  | none, some result =>
    stageStateFromAttachResult req.protocolType req.accessType req.attachParams.connectionID
      req.attachParams.address req.attachParams.port result
  | none, none => {}

def limitState (size : Int) (state : NodeStageState) : NodeStageState :=
  { state with
    nvmeof := state.nvmeof.map fun n => { n with maxDataTransferSize := some size } }

def stagedState : NodeStageState :=
  { limitState (req.maxTransfer node) (attachmentState node req localDevice result) with
    fsType := fs.fsType
    devicePath := devicePath
    volumeID := req.volumeID
    stagingPath := req.stagingPath
    periodicTrim := fs.periodicTrim
    preserveOriginal := preserve }

/-- Attach, mount and record. -/
def stageFresh : Node Unit :=
  match req.filesystem node with
  | .error e => fail (invalid s!"NodeStageVolume: volume {req.volumeID.quote}: {e}")
  | .ok fs => do
    let (devicePath, result) ← stageAttach node req localDevice
    stagePresent node req preserve localDevice fs devicePath result
    orFailStaged node req localDevice
      (writeStageState req.volumeID
        (stagedState node req preserve localDevice fs devicePath result))

variable (state : NodeStageState)

/-- Records from before the periodic trim lack the staging path. -/
def placedState : NodeStageState :=
  if state.stagingPath = "" then
    { state with volumeID := req.volumeID, stagingPath := req.stagingPath }
  else state

/-- The transfer limit of a volume staged before there was one. -/
def limitedState : NodeStageState :=
  if localDevice = none ∧ req.protocolType = .nvmeofTCP ∧
      state.protocolType = some .nvmeofTCP ∧ state.isLocalAttach = false then
    limitState (req.maxTransfer node) state
  else state

/-- The record of a volume found staged: the pin is kept or added. -/
def restagedState : NodeStageState :=
  { limitedState node req localDevice (placedState req state) with preserveOriginal := preserve }

def stageAgain : Node Unit := do
  when (localDevice = none ∧ req.protocolType = .nvmeofTCP)
    (query (stageError req "limit transfer size") fun _ => ())
  writeStageState req.volumeID (restagedState node req preserve localDevice state)

/-- An NFS record must be of the same export and path. -/
def matchesNFS : Bool :=
  match state.nfs, node.nfsStateFromParams req.attachParams with
  | some recorded, .ok expected =>
    state.protocolType = some .nfs ∧
      (state.stagingPath = "" ∨ state.stagingPath = req.stagingPath) ∧
      recorded.mountSource = expected.mountSource
  | _, _ => false

/-- Whether the recorded stage is mounted and usable; a dead filesystem is
dropped. -/
def stagedUsable : Node Bool := do
  let mounted ← mountEntryExists (stageError req s!"check if {req.surface.quote} is mounted")
    req.surface
  if mounted = false then pure false
  else if req.writeProbed node then
    dropUnusableStagedMount (stageError req) req.stagingPath
  else do
    checkMountReadable (stageError req s!"staged mount {req.surface.quote} is not usable")
    pure true

def stageRecorded : Node Unit :=
  if req.protocolType = .nfs ∧ matchesNFS node req state = false then
    fail (refused (s!"NodeStageVolume: existing NFS stage state for {req.volumeID.quote} does not " ++
      "match the requested source or staging path"))
  else do
    let usable ← stagedUsable node req
    let preserve := req.preserveKey || state.preserveOriginal
    if usable then stageAgain node req preserve localDevice state
    else stageFresh node req preserve localDevice

def nodeStageVolume : Node Unit :=
  match validateStage node req with
  | .error e => fail e
  | .ok localDevice => do
    let existing ← readStageState req.volumeID
    match existing with
    | none => stageFresh node req req.preserveKey localDevice
    | some state => stageRecorded node req localDevice state

end Stage

section Unstage

variable (node : NodeServer) (req : UnstageRequest)

def unstageError (message : String) : NodeError :=
  internal s!"NodeUnstageVolume: volume {req.volumeID.quote}: {message}"

def checkUnmounted (target : String) : Node Unit := do
  let mounted ← mountEntryExists
    (unstageError req s!"stage state is missing; check if {target.quote} is mounted") target
  when mounted (fail (unstageError req (s!"stage state is missing but {target.quote} is still " ++
    "mounted; refusing to report the volume unstaged (re-stage the volume to restore its state)")))

/-- Nothing may be mounted for a volume without its record. -/
def checkUnstagedWithoutState : Node Unit := do
  checkUnmounted req req.stagingPath
  checkUnmounted req (blockStagingDevicePath req.stagingPath)

def removeOrphanLocal : Node Unit := do
  let name := node.localDMName req.volumeID
  let present ← dmTargetPresent
    (unstageError req s!"stage state is missing; look up orphan device-mapper {name}") name
  when present (removeClaim
    (unstageError req s!"stage state is missing; remove orphan device-mapper {name}") name)

variable (state : NodeStageState)

def releaseLocal : Node Unit :=
  match state.localState with
  | none => fail (unstageError req
      "stage state is a local attach without a device-mapper name")
  | some claim =>
    if claim.dmName = "" then fail (unstageError req
      "stage state is a local attach without a device-mapper name")
    else removeClaim (unstageError req s!"remove device-mapper {claim.dmName}") claim.dmName

def detachProtocol : Node Unit :=
  match state.protocolType with
  | none => fail (unstageError req "no handler registered for protocol \"\"")
  | some protocolType =>
    if node.handlers protocolType = false then
      if protocolType = .nfs then pure ()
      else fail (unstageError req
        s!"no handler registered for protocol {protocolType.name.quote}")
    else
      match state.toProtocolState with
      | .error e => fail (unstageError req s!"convert stage state: {e}")
      | .ok protoState =>
        handlerDetach s!"NodeUnstageVolume: detach (protocol {protocolType.name.quote})"
          protoState

/-- Releases the claim or disconnects the target of a record. -/
def detachRecorded : Node Unit :=
  if state.file then pure ()
  else if state.isLocalAttach then releaseLocal req state
  else detachProtocol node req state

def unstageRecorded : Node Unit :=
  if state.protocolType = some .nfs ∧ state.stagingPath ≠ "" ∧
      state.stagingPath ≠ req.stagingPath then
    fail (refused (s!"NodeUnstageVolume: NFS stage state for {req.volumeID.quote} records staging " ++
      s!"path {state.stagingPath.quote}, got {req.stagingPath.quote}"))
  else do
    let target := stageSurface req.stagingPath (state.accessType.getD .filesystem)
    unmount (unstageError req s!"unmount {target.quote}") target
    detachRecorded node req state
    deleteStageState req.volumeID

def nodeUnstageVolume : Node Unit :=
  if req.volumeID = "" then fail (invalid "NodeUnstageVolume: volume_id is required")
  else if req.stagingPath = "" then
    fail (invalid "NodeUnstageVolume: staging_target_path is required")
  else do
    let existing ← readStageState req.volumeID
    match existing with
    | none => do
      checkUnstagedWithoutState req
      removeOrphanLocal node req
    | some state => unstageRecorded node req state

end Unstage

end PillarCsi.NodeStaging
