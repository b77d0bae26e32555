import PillarCsi.LioFrame
import PillarCsi.NvmetFrame
import PillarCsi.TargetNames

/-!
The agent's handlers of the block protocols (`internal/agent/protocol_handler.go`,
`internal/agent/protocol_handler_iscsi.go`, `internal/agent/nvme_identity.go`).

How the fencing mark of the volume answers a token is part of the request; the
mark belongs to the volume ID and is not kept here.
-/

namespace PillarCsi.ProtocolHandlers

open FalliblePrograms ItemTree Configfs VolumeNames TargetNames Nvmet Program Lio

/-- The durable identity of one volume's NVMe export. -/
structure IdentityRecord where
  volumeUID : String
  identity : Identity
  deriving DecidableEq, Repr

structure AgentState where
  tree : Tree
  /-- One record file per volume ID: the file name escapes every byte that is
  not its own name. -/
  identities : String → Option IdentityRecord

structure Server where
  kernel : Kernel
  parseIP : String → Option IPFamily
  deriveIdentity : String → Identity
  deriveUnitSerial : String → String
  discard : String → Bool
  /-- The device of a volume in its backend, when there is one. -/
  devicePath : String → Option String

def Server.nvmet (s : Server) : Nvmet.Host :=
  { kernel := s.kernel, parseIP := s.parseIP, deriveIdentity := s.deriveIdentity }

def Server.lio (s : Server) : Lio.Host :=
  { kernel := s.kernel, parseIP := s.parseIP, deriveUnitSerial := s.deriveUnitSerial,
    discard := s.discard }

abbrev Agent := Program AgentState Failure

def onTree {α : Type} (p : Op α) : Agent α :=
  zoom AgentState.tree (fun tree s => { s with tree := tree }) p

/-- The lifecycle a token names, and how the mark answers it, first and when it
is asked again. -/
structure Fence where
  volumeUID : String := ""
  admitted : Bool := true
  rechecked : Bool := true

structure NvmeofTCPParams where
  bindAddress : String
  port : Int := 0
  inCapsuleDataSize : Int := 0
  maxDataTransferSize : Option Int := none

structure ISCSIParams where
  bindAddress : String
  port : Int := 0
  chap : Option CHAP := none

structure ProtocolParams where
  nvmeofTCP : Option NvmeofTCPParams := none
  iscsi : Option ISCSIParams := none

structure ExportParams where
  volumeID : String
  devicePath : String := ""
  bindAddress : String := ""
  port : Int := 0
  protocolParams : ProtocolParams
  aclEnabled : Bool := false
  fence : Fence := {}

structure ExportDesiredState where
  volumeID : String
  devicePath : String := ""
  bindAddress : String := ""
  port : Int := 0
  protocolParams : ProtocolParams
  allowedInitiators : List String := []
  aclEnabled : Bool := false
  fence : Fence := {}
  localAttach : Bool := false

structure ExportResult where
  (targetID address : String)
  port : Int
  volumeRef : String
  deriving DecidableEq, Repr

def fenced {α : Type} (admitted : Bool) (mutate : Agent α) : Agent α :=
  if admitted = true then mutate else fail .fenced

variable (server : Server)

def resolveExportDevicePath (volumeID devicePath : String) : Except Failure String :=
  if devicePath ≠ "" then
    .ok devicePath
  else
    match server.devicePath volumeID with
    | some device => .ok device
    | none => .error .invalidArgument

def orFail {α : Type} : Except Failure α → Agent α
  | .ok a => pure a
  | .error failure => fail failure

/-- The device appears in time, or not. -/
def waitForDeviceReady : Agent Unit := query .notExported fun _ => ()

section NVMe

variable (server : Server)

def nvmeofEndpoint (bindAddress : String) (port : Int) (params : ProtocolParams) :
    Except Failure (String × Int) :=
  match params.nvmeofTCP with
  | some nvme => .ok (nvme.bindAddress, nvme.port)
  | none => if bindAddress = "" ∧ port = 0 then .error .invalidArgument else .ok (bindAddress, port)

variable (params : ProtocolParams)

def nvmeofInlineDataSize : Option Int :=
  match params.nvmeofTCP with
  | some nvme => if nvme.inCapsuleDataSize = 0 then none else some nvme.inCapsuleDataSize
  | none => none

def nvmeofMaxDataTransferSize : Option Int :=
  params.nvmeofTCP.bind NvmeofTCPParams.maxDataTransferSize

def nvmeofPortParams : Except Failure Unit :=
  if (nvmeofInlineDataSize params).any (· < 1024) ||
      !(nvmeofMaxDataTransferSize params).all NvmetTarget.validMaxDataTransferSize then
    .error .invalidArgument
  else
    .ok ()

variable (volumeID : String)

def readIdentityRecord : Agent (Option IdentityRecord) :=
  query .configfs fun s => s.identities volumeID

def setIdentityRecord (record : Option IdentityRecord) : Agent Unit :=
  call .configfs fun s => some { s with identities := Function.update s.identities volumeID record }

def removeIdentityRecord : Agent Unit := setIdentityRecord volumeID none

/-- What live objects hold stays; what cannot be derived again is recorded. -/
def resolveNVMeIdentity (volumeUID : String) (target : NvmetTarget) : Agent Identity := do
  let derived := server.deriveIdentity target.subsystemNQN
  let record ← readIdentityRecord volumeID
  let live ← onTree (target.liveIdentity server.nvmet)
  let stored := match record with
    | some r => if r.volumeUID = volumeUID then r.identity else derived
    | none => derived
  let want : Identity :=
    { uuid := if live.uuid ≠ "" then live.uuid else stored.uuid
      nguid := if live.nguid ≠ "" then live.nguid else stored.nguid
      serial := if live.serial ≠ "" then live.serial else stored.serial }
  if want.validate = false then
    fail .mismatch
  else do
    when (want = derived ∧ record ≠ none) (removeIdentityRecord volumeID)
    when (want ≠ derived ∧ record ≠ some { volumeUID, identity := want })
      (setIdentityRecord volumeID (some { volumeUID, identity := want }))
    pure want

def nvmeTargetForVolume : NvmetTarget :=
  { subsystemNQN := nqnPrefix ++ dotted volumeID }

def nvmeExport (params : ExportParams) : Agent ExportResult := do
  let (bindAddress, port) ←
    orFail (nvmeofEndpoint params.bindAddress params.port params.protocolParams)
  orFail (nvmeofPortParams params.protocolParams)
  let devicePath ← orFail (resolveExportDevicePath server params.volumeID params.devicePath)
  waitForDeviceReady
  let target : NvmetTarget :=
    { nvmeTargetForVolume params.volumeID with
      devicePath := devicePath
      bindAddress := bindAddress
      port := port
      aclEnabled := params.aclEnabled
      inlineDataSize := nvmeofInlineDataSize params.protocolParams
      maxDataTransferSize := nvmeofMaxDataTransferSize params.protocolParams }
  fenced params.fence.admitted do
    let identity ← resolveNVMeIdentity server params.volumeID params.fence.volumeUID target
    onTree (NvmetTarget.apply server.nvmet { target with identity := some identity })
  pure
    { targetID := target.subsystemNQN
      address := bindAddress
      port := if port = 0 then 4420 else port
      volumeRef := "1" }

def nvmeUnexport (fence : Fence) : Agent Unit :=
  fenced fence.admitted do
    onTree ((nvmeTargetForVolume volumeID).remove server.nvmet)
    removeIdentityRecord volumeID

def nvmeAllowInitiator (initiatorID : String) (fence : Fence) : Agent Unit :=
  fenced fence.admitted (onTree ((nvmeTargetForVolume volumeID).allowHost server.nvmet initiatorID))

def nvmeDenyInitiator (initiatorID : String) (fence : Fence) : Agent Unit :=
  fenced fence.admitted (onTree ((nvmeTargetForVolume volumeID).denyHost server.nvmet initiatorID))

def nvmeSetLocalAttach (local_ : Bool) (fence : Fence) : Agent String :=
  fenced fence.admitted
    (if local_ = true then
      onTree ((nvmeTargetForVolume volumeID).DisableNamespace server.nvmet)
    else do
      onTree ((nvmeTargetForVolume volumeID).EnableNamespace server.nvmet)
      pure "")

/-- Without ACL enforcement the list of hosts has no effect. -/
def nvmeReconcileTarget (desired : ExportDesiredState) : Except Failure NvmetTarget := do
  let (bindAddress, port) ←
    nvmeofEndpoint desired.bindAddress desired.port desired.protocolParams
  let devicePath ← resolveExportDevicePath server desired.volumeID desired.devicePath
  pure
    { nvmeTargetForVolume desired.volumeID with
      devicePath := devicePath
      bindAddress := bindAddress
      port := port
      aclEnabled := desired.aclEnabled
      allowedHosts := if desired.aclEnabled then desired.allowedInitiators else []
      inlineDataSize := nvmeofInlineDataSize desired.protocolParams
      maxDataTransferSize := nvmeofMaxDataTransferSize desired.protocolParams
      localAttach := desired.localAttach }

/-- The smallest limit among the targets of one endpoint. -/
def portMDTSFloor (targets : List NvmetTarget) (t : NvmetTarget) : Option Int :=
  let endpoint := fun u : NvmetTarget => (u.bindAddress, if u.port = 0 then 4420 else u.port)
  let limits := (targets.filter fun u => endpoint u = endpoint t).filterMap
    NvmetTarget.maxDataTransferSize
  (limits.filter fun size => size ≠ 0 ∧ NvmetTarget.validMaxDataTransferSize size).min?

def setPortMDTSFloors (targets : List (Except Failure NvmetTarget)) :
    List (Except Failure NvmetTarget) :=
  let all := targets.filterMap Except.toOption
  targets.map fun target => target.map fun t => { t with portMDTSFloor := portMDTSFloor all t }

def nvmePrepareExport (desired : ExportDesiredState) (target : NvmetTarget) :
    Agent (Identity × NvmetTarget.PreparedTarget) :=
  fenced desired.fence.admitted do
    waitForDeviceReady
    let identity ← resolveNVMeIdentity server desired.volumeID desired.fence.volumeUID target
    let prepared ← onTree (NvmetTarget.prepare server.nvmet { target with identity := some identity })
    when (desired.aclEnabled = true)
      (onTree (target.revokeHostsExcept server.nvmet desired.allowedInitiators))
    pure (identity, prepared)

/-- Every export is prepared before the first one is linked. -/
def nvmeReconcile (desired : List ExportDesiredState) : Agent (List (Except Failure Unit)) := do
  let targets := desired.zip (setPortMDTSFloors (desired.map (nvmeReconcileTarget server)))
  let prepared ← mapEach (fun entry => attempt do
    let target ← orFail entry.2
    nvmePrepareExport server entry.1 target) targets
  mapEach (fun entry => attempt do
    let target ← orFail entry.1.2
    let (identity, prepared) ← orFail entry.2
    fenced entry.1.1.fence.rechecked
      (onTree (NvmetTarget.link server.nvmet { target with identity := some identity } prepared)))
    (targets.zip prepared)

end NVMe

section ISCSI

variable (server : Server)

def iscsiEndpoint (params : ProtocolParams) : Except Failure (String × Int) :=
  match params.iscsi with
  | none => .error .invalidArgument
  | some iscsi =>
    let port := if iscsi.port = 0 then 3260 else iscsi.port
    if server.parseIP iscsi.bindAddress = none ∨ port < 1 ∨ 65535 < port then
      .error .invalidArgument
    else
      .ok (iscsi.bindAddress, port)

/-- Credentials need explicit node ACLs. -/
def iscsiCHAP (params : ProtocolParams) (aclEnabled : Bool) : Except Failure (Option CHAP) :=
  match params.iscsi.bind ISCSIParams.chap with
  | none => .ok none
  | some chap => if chap.validate && aclEnabled then .ok (some chap) else .error .invalidArgument

variable (volumeID : String)

def iscsiTargetForVolume : Except Failure Target :=
  match poolFromVolumeID volumeID, volumeTargetID .iscsi volumeID with
  | .ok _, .ok iqn => .ok { iqn }
  | _, _ => .error .invalidArgument

def iscsiExport (params : ExportParams) : Agent ExportResult := do
  let (bindAddress, port) ← orFail (iscsiEndpoint server params.protocolParams)
  let devicePath ← orFail (resolveExportDevicePath server params.volumeID params.devicePath)
  waitForDeviceReady
  let chap ← orFail (iscsiCHAP params.protocolParams params.aclEnabled)
  let target ← orFail (iscsiTargetForVolume params.volumeID)
  fenced params.fence.admitted
    (onTree (Target.apply server.lio
      { target with
        devicePath := devicePath
        bindAddress := bindAddress
        port := port
        aclEnabled := params.aclEnabled
        chap := chap }))
  pure { targetID := target.iqn, address := bindAddress, port := port, volumeRef := "0" }

def iscsiUnexport (fence : Fence) : Agent Unit := do
  let target ← orFail (iscsiTargetForVolume volumeID)
  fenced fence.admitted (onTree (target.remove server.lio))

/-- The grant only adds a node ACL, so its enforcement is not checked again. -/
def iscsiAllowInitiator (initiatorID : String) (params : ProtocolParams) (fence : Fence) : Agent Unit :=
  if validateIQN initiatorID = true then do
    let chap ← orFail (iscsiCHAP params true)
    let target ← orFail (iscsiTargetForVolume volumeID)
    fenced fence.admitted (onTree (Target.AllowInitiator server.lio { target with chap := chap }
      initiatorID))
  else
    fail .invalidArgument

def iscsiDenyInitiator (initiatorID : String) (fence : Fence) : Agent Unit :=
  if validateIQN initiatorID = true then do
    let target ← orFail (iscsiTargetForVolume volumeID)
    fenced fence.admitted (onTree (target.DenyInitiator server.lio initiatorID))
  else
    fail .invalidArgument

/-- A target that is already detached has no backstore to name the device. -/
def iscsiSetLocalAttach (local_ : Bool) (fence : Fence) : Agent String := do
  let target ← orFail (iscsiTargetForVolume volumeID)
  fenced fence.admitted
    (if local_ = true then do
      let devicePath ← onTree (target.enterLocalAttach server.lio)
      if devicePath = "" then orFail (resolveExportDevicePath server volumeID "")
      else pure devicePath
    else do
      let devicePath ← orFail (resolveExportDevicePath server volumeID "")
      onTree (Target.leaveLocalAttach server.lio { target with devicePath := devicePath })
      pure "")

def iscsiReconcileTarget (desired : ExportDesiredState) : Except Failure Target := do
  let (bindAddress, port) ← iscsiEndpoint server desired.protocolParams
  let devicePath ← resolveExportDevicePath server desired.volumeID desired.devicePath
  let target ← iscsiTargetForVolume desired.volumeID
  let chap ← iscsiCHAP desired.protocolParams desired.aclEnabled
  pure
    { target with
      devicePath := devicePath
      bindAddress := bindAddress
      port := port
      aclEnabled := desired.aclEnabled
      chap := chap
      localAttach := desired.localAttach
      allowedInitiators := if desired.aclEnabled then desired.allowedInitiators else [] }

def iscsiPrepareTarget (desired : ExportDesiredState) (target : Target) : Agent Unit :=
  fenced desired.fence.admitted do
    when (target.localAttach = false) waitForDeviceReady
    onTree (target.prepare server.lio)
    when (target.aclEnabled = true)
      (onTree (target.revokeInitiatorsExcept server.lio target.allowedInitiators))

/-- Every export is prepared before the first one is activated. -/
def iscsiReconcile (desired : List ExportDesiredState) : Agent (List (Except Failure Unit)) := do
  let targets := desired.zip (desired.map (iscsiReconcileTarget server))
  let prepared ← mapEach (fun entry => attempt do
    let target ← orFail entry.2
    iscsiPrepareTarget server entry.1 target) targets
  mapEach (fun entry => attempt do
    let target ← orFail entry.1.2
    orFail entry.2
    fenced entry.1.1.fence.rechecked (onTree (target.activate server.lio)))
    (targets.zip prepared)

end ISCSI

inductive Request where
  | exportVolume (params : ExportParams)
  | unexportVolume (volumeID : String) (fence : Fence)
  | allowInitiator (volumeID initiatorID : String) (params : ProtocolParams) (fence : Fence)
  | denyInitiator (volumeID initiatorID : String) (fence : Fence)
  | setLocalAttach (volumeID : String) (local_ : Bool) (fence : Fence)
  | reconcile (desired : List ExportDesiredState)

def Request.volumes : Request → List String
  | .exportVolume params => [params.volumeID]
  | .unexportVolume volumeID _ | .allowInitiator volumeID _ _ _ | .denyInitiator volumeID _ _
  | .setLocalAttach volumeID _ _ => [volumeID]
  | .reconcile desired => desired.map ExportDesiredState.volumeID

def Request.initiators : Request → List String
  | .allowInitiator _ initiatorID _ _ | .denyInitiator _ initiatorID _ => [initiatorID]
  | .reconcile desired => desired.flatMap ExportDesiredState.allowedInitiators
  | _ => []

inductive Response where
  | exported (result : ExportResult)
  | done
  | device (path : String)
  | reconciled (results : List (Except Failure Unit))

def handleNVMe : Request → Agent Response
  | .exportVolume params => do
    let result ← nvmeExport server params
    pure (.exported result)
  | .unexportVolume volumeID fence => do
    nvmeUnexport server volumeID fence
    pure .done
  | .allowInitiator volumeID initiatorID _ fence => do
    nvmeAllowInitiator server volumeID initiatorID fence
    pure .done
  | .denyInitiator volumeID initiatorID fence => do
    nvmeDenyInitiator server volumeID initiatorID fence
    pure .done
  | .setLocalAttach volumeID local_ fence => do
    let path ← nvmeSetLocalAttach server volumeID local_ fence
    pure (.device path)
  | .reconcile desired => do
    let results ← nvmeReconcile server desired
    pure (.reconciled results)

def handleISCSI : Request → Agent Response
  | .exportVolume params => do
    let result ← iscsiExport server params
    pure (.exported result)
  | .unexportVolume volumeID fence => do
    iscsiUnexport server volumeID fence
    pure .done
  | .allowInitiator volumeID initiatorID params fence => do
    iscsiAllowInitiator server volumeID initiatorID params fence
    pure .done
  | .denyInitiator volumeID initiatorID fence => do
    iscsiDenyInitiator server volumeID initiatorID fence
    pure .done
  | .setLocalAttach volumeID local_ fence => do
    let path ← iscsiSetLocalAttach server volumeID local_ fence
    pure (.device path)
  | .reconcile desired => do
    let results ← iscsiReconcile server desired
    pure (.reconciled results)

inductive BlockProtocol where
  | nvmeofTCP
  | iscsi
  deriving DecidableEq, Repr

def BlockProtocol.type : BlockProtocol → ProtocolType
  | .nvmeofTCP => .nvmeofTCP
  | .iscsi => .iscsi

def handle (protocol : BlockProtocol) : Request → Agent Response :=
  match protocol with
  | .nvmeofTCP => handleNVMe server
  | .iscsi => handleISCSI server

end PillarCsi.ProtocolHandlers
