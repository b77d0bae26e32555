import Mathlib.Algebra.Group.Int.Defs
import Mathlib.Algebra.Group.Nat.Defs
import PillarCsi.Configfs

/-!
The NVMe-oF TCP target of a volume (`internal/agent/nvmeof`): its subsystem,
namespace, allowed hosts and port links in the nvmet tree.
-/

namespace PillarCsi.Nvmet

open FalliblePrograms ItemTree Configfs Program

/-- What hosts remember of a namespace. -/
structure Identity where
  (uuid nguid serial : String)
  deriving DecidableEq, Repr

def canonicalUUID (s : String) : Bool :=
  (s.toList.splitOn '-').map List.length = [8, 4, 4, 4, 12] &&
    s.toList.all fun c => c = '-' || c.isDigit || ('a' ≤ c && c ≤ 'f')

def Identity.validate (id : Identity) : Bool :=
  canonicalUUID id.uuid && canonicalUUID id.nguid && id.serial ≠ "" && id.serial.length ≤ 20 &&
    id.serial.toList.all fun c => ' ' < c && c ≤ '~'

structure NvmetTarget where
  subsystemNQN : String
  devicePath : String := ""
  bindAddress : String := ""
  port : Int := 0
  allowedHosts : List String := []
  aclEnabled : Bool := false
  inlineDataSize : Option Int := none
  maxDataTransferSize : Option Int := none
  portMDTSFloor : Option Int := none
  identity : Option Identity := none
  localAttach : Bool := false

/-- The kernel, and the functions of the standard library and of `identity.go`
that are not looked into. -/
structure Host where
  kernel : Kernel
  parseIP : String → Option IPFamily
  deriveIdentity : String → Identity

namespace NvmetTarget

variable (host : Host) (t : NvmetTarget)

def nvmetRoot : Path := host.kernel.root ++ [.of "nvmet"]

def subsystemDir : Path := join (nvmetRoot host ++ [.of "subsystems"]) t.subsystemNQN

def namespaceDir : Path := t.subsystemDir host ++ [.of "namespaces", .of "1"]

variable (hostNQN : String)

def hostDir : Path := join (nvmetRoot host ++ [.of "hosts"]) hostNQN

def allowedHostsDir : Path := t.subsystemDir host ++ [.of "allowed_hosts"]

def allowedHostLink : Path := join (t.allowedHostsDir host) hostNQN

def portsDir : Path := nvmetRoot host ++ [.of "ports"]

variable (port : Name)

def portDir : Path := portsDir host ++ [port]

def portSubsystemLink : Path :=
  join (portDir host port ++ [.of "subsystems"]) t.subsystemNQN

def allowAnyHost : String := if t.aclEnabled ∨ t.allowedHosts ≠ [] then "0" else "1"

def desiredEnable : String := if t.localAttach then "0" else "1"

def desiredIdentity : Op Identity :=
  match t.identity with
  | none => pure (host.deriveIdentity t.subsystemNQN)
  | some id => if id.validate then pure id else fail .invalidArgument

def createSubsystem : Op Unit := do
  let id ← t.desiredIdentity host
  mkdirAll host.kernel (t.subsystemDir host)
  writeFile (t.subsystemDir host ++ [.of "attr_allow_any_host"]) t.allowAnyHost
  ensureAttr (t.subsystemDir host ++ [.of "attr_serial"]) id.serial

def requireNamespace : Op Unit := do
  let existing ← stat (t.namespaceDir host)
  if existing = none then fail .notExported else pure ()

def disableNamespace : Op Unit := do
  let current ← readAttr (t.namespaceDir host ++ [.of "enable"])
  if current = "0" then pure () else writeFile (t.namespaceDir host ++ [.of "enable"]) "0"

/-- The claim is held across the write. -/
def enableNamespace : Op Unit := do
  let current ← readAttr (t.namespaceDir host ++ [.of "enable"])
  if current = "1" then
    pure ()
  else do
    let devicePath ← readAttr (t.namespaceDir host ++ [.of "device_path"])
    when (devicePath ≠ "") claimDevice
    let written ← attempt (writeFile (t.namespaceDir host ++ [.of "enable"]) "1")
    let released ← attempt (when (devicePath ≠ "") (query .configfs fun _ => ()))
    match written, released with
    | .ok (), .ok () => pure ()
    | _, _ => fail .configfs

/-- Sets one identifier, or checks it when the namespace is enabled. -/
def ensureIdentifier (enabled : String) (attr : Name) (want : String) : Op Unit :=
  if enabled ≠ "1" then
    ensureAttr (t.namespaceDir host ++ [attr]) want
  else do
    let current ← readAttr (t.namespaceDir host ++ [attr])
    if current = want then pure () else fail .mismatch

def ensureNamespaceIdentity (id : Identity) : Op Unit := do
  let enabled ← readAttr (t.namespaceDir host ++ [.of "enable"])
  t.ensureIdentifier host enabled (.of "device_uuid") id.uuid
  t.ensureIdentifier host enabled (.of "device_nguid") id.nguid

def createNamespace : Op Unit := do
  let id ← t.desiredIdentity host
  mkdirAll host.kernel (t.namespaceDir host)
  when (t.localAttach = true) (t.disableNamespace host)
  ensureAttr (t.namespaceDir host ++ [.of "device_path"]) t.devicePath
  t.ensureNamespaceIdentity host id
  when (t.localAttach = false) (t.enableNamespace host)

/-- The identifiers that hosts may have seen; the others are empty. -/
def liveIdentity : Op Identity := do
  let serial ← readAttr (t.subsystemDir host ++ [.of "attr_serial"])
  let enabled ← readAttr (t.namespaceDir host ++ [.of "enable"])
  if enabled ≠ "1" then
    pure { uuid := "", nguid := "", serial }
  else do
    let uuid ← readAttr (t.namespaceDir host ++ [.of "device_uuid"])
    let nguid ← readAttr (t.namespaceDir host ++ [.of "device_nguid"])
    pure { uuid, nguid, serial }

def DisableNamespace : Op String := do
  t.requireNamespace host
  t.disableNamespace host
  let devicePath ← readAttr (t.namespaceDir host ++ [.of "device_path"])
  if devicePath = "" then fail .configfs else pure devicePath

def EnableNamespace : Op Unit := do
  t.requireNamespace host
  t.enableNamespace host

def allowHost : Op Unit := do
  mkdirAll host.kernel (hostDir host hostNQN)
  mkdirAll host.kernel (t.allowedHostsDir host)
  symlink (hostDir host hostNQN) (t.allowedHostLink host hostNQN)

/-- Some subsystem still allows the host. -/
def hostReferenced (hostNQN : String) : List (Name × Node) → Op Bool
  | [] => pure false
  | entry :: rest => do
    let link ← stat (join (nvmetRoot host ++ [.of "subsystems", entry.1, .of "allowed_hosts"]) hostNQN)
    if link ≠ none then pure true else hostReferenced hostNQN rest

def pruneHostLocked : Op Unit := do
  let existing ← stat (hostDir host hostNQN)
  if existing = none then
    pure ()
  else do
    let subsystems ← readDir (nvmetRoot host ++ [.of "subsystems"])
    let referenced ← hostReferenced host hostNQN subsystems
    if referenced = true then pure () else removeDirVerified (hostDir host hostNQN)

def restoreLink (target path : Path) : Op Unit := do
  mkdirAll host.kernel path.dropLast
  symlink target path

/-- The link comes back when the host entry cannot be removed. -/
def denyHost : Op Unit := do
  let linked ← stat (t.allowedHostLink host hostNQN)
  removeSymlink (t.allowedHostLink host hostNQN)
  let pruned ← attempt (pruneHostLocked host hostNQN)
  match pruned with
  | .ok () => pure ()
  | .error error => do
    when (linked ≠ none)
      (ignore (restoreLink host (hostDir host hostNQN) (t.allowedHostLink host hostNQN)))
    fail error

def revokeHostsExcept (keep : List String) : Op Unit := do
  let entries ← readDir (t.allowedHostsDir host)
  forEach (fun entry => when (entry.1.text ∉ keep) (t.denyHost host entry.1.text)) entries

def stablePortID (addr : String) (port : Int) : Nat :=
  let h := addr.toList.foldl (fun h c => (h ^^^ c.toNat) * 16777619 % 2 ^ 32) 2166136261
  let h := (h ^^^ (port % 2 ^ 32).toNat) * 16777619 % 2 ^ 32
  h % 65535 + 1

def validMaxDataTransferSize (v : Int) : Bool :=
  v = 0 || (8192 ≤ v && v ≤ 2 ^ 30 && v.toNat &&& (v.toNat - 1) = 0)

def mdtsExponent (size : Int) : Nat := Nat.log2 (size.toNat / 4096)

structure PortSpec where
  id : Name
  attrs : List (Name × String)
  (inlineDataSize maxDataTransferSize mdtsFloor : Option Int)

def portSpec : Op PortSpec :=
  let port := if t.port = 0 then 4420 else t.port
  match host.parseIP t.bindAddress with
  | none => fail .invalidArgument
  | some family =>
    if t.inlineDataSize.any (· < 1024) || !t.maxDataTransferSize.all validMaxDataTransferSize ||
        !t.portMDTSFloor.all validMaxDataTransferSize then
      fail .invalidArgument
    else
      pure
        { id := .ofNat (stablePortID t.bindAddress port)
          attrs :=
            [(.of "addr_trtype", "tcp"),
              (.of "addr_adrfam", if family = .ipv4 then "ipv4" else "ipv6"),
              (.of "addr_traddr", if family = .ipv4 then "0.0.0.0" else "::"),
              (.of "addr_trsvcid", toString port)]
          inlineDataSize := t.inlineDataSize
          maxDataTransferSize := t.maxDataTransferSize
          mdtsFloor := t.portMDTSFloor }

def portHasSubsystems : Op Bool := do
  let subs ← readDir (portDir host port ++ [.of "subsystems"])
  pure !subs.isEmpty

variable (spec : PortSpec)

/-- The in-capsule data size belongs to the port and is fixed while a subsystem
is linked to it. -/
def ensureInlineDataSizeLocked : Op Unit := do
  let attr := portDir host spec.id ++ [.of "param_inline_data_size"]
  let current ← readAttr attr
  let linked ← portHasSubsystems host spec.id
  match linked, spec.inlineDataSize with
  | true, none => pure ()
  | true, some want => if current = toString want then pure () else fail .portConflict
  | false, none => if current = "" ∨ current = "-1" then pure () else writeFile attr "-1"
  | false, some want => if current = toString want then pure () else writeFile attr (toString want)

def linkedPortMDTSAllows (current : String) : Bool :=
  match spec.maxDataTransferSize with
  | none => true
  | some size =>
    size = 0 || current = "0" ||
      current.toNat?.any fun cur => 0 < cur && cur ≤ mdtsExponent size

def idlePortMDTS : String :=
  let size := spec.maxDataTransferSize.getD 0
  match spec.mdtsFloor with
  | some floor =>
    toString (mdtsExponent (if 0 < floor ∧ (size = 0 ∨ floor < size) then floor else size))
  | none => toString (mdtsExponent size)

def ensureMDTSLocked : Op Unit := do
  let attr := portDir host spec.id ++ [.of "param_mdts"]
  let existing ← stat attr
  if existing = none then
    pure ()
  else do
    let current ← readAttr attr
    let linked ← portHasSubsystems host spec.id
    if linked = true then
      if linkedPortMDTSAllows spec current = true then pure () else fail .portConflict
    else
      if current = idlePortMDTS spec then pure () else writeFile attr (idlePortMDTS spec)

def ensurePortLocked : Op Unit := do
  mkdirAll host.kernel (portDir host spec.id)
  forEach (fun attr => ensureAttr (portDir host spec.id ++ [attr.1]) attr.2) spec.attrs
  ensureInlineDataSizeLocked host spec
  ensureMDTSLocked host spec

/-- Removes a port no subsystem is linked to. -/
def prunePortLocked : Op Unit := do
  let existing ← stat (portDir host port)
  if existing = none then
    pure ()
  else do
    let subs ← readDir (portDir host port ++ [.of "subsystems"])
    if subs ≠ [] then pure () else removeDirVerified (portDir host port)

def linkSubsystemToPort : Op Unit := do
  let linked ← attempt do
    ensurePortLocked host spec
    mkdirAll host.kernel (t.portSubsystemLink host spec.id).dropLast
    symlink (t.subsystemDir host) (t.portSubsystemLink host spec.id)
  match linked with
  | .ok () => pure ()
  | .error error => do
    ignore (prunePortLocked host spec.id)
    fail error

/-- The link comes back when the port cannot be pruned. -/
def unlinkFromPort : Op Unit := do
  let existing ← stat (t.portSubsystemLink host port)
  if existing = none then
    pure ()
  else do
    removeSymlink (t.portSubsystemLink host port)
    let pruned ← attempt (prunePortLocked host port)
    match pruned with
    | .ok () => pure ()
    | .error error => do
      ignore (restoreLink host (t.subsystemDir host) (t.portSubsystemLink host port))
      fail error

def unlinkFromPorts : Op Unit := do
  let ports ← readDir (portsDir host)
  forEach (fun entry => t.unlinkFromPort host entry.1) ports

/-- A target that is configured and not yet linked to its port. -/
structure PreparedTarget where
  identity : Identity
  port : PortSpec

def prepare : Op PreparedTarget := do
  let port ← t.portSpec host
  let identity ← t.desiredIdentity host
  t.createSubsystem host
  forEach (t.allowHost host) t.allowedHosts
  t.createNamespace host
  pure { identity, port }

def verifyAttr (path : Path) (want : String) : Op Unit := do
  let got ← readAttr path
  if got = want then pure () else fail .mismatch

def verifyPrepared (id : Identity) : Op Unit := do
  verifyAttr (t.subsystemDir host ++ [.of "attr_allow_any_host"]) t.allowAnyHost
  verifyAttr (t.subsystemDir host ++ [.of "attr_serial"]) id.serial
  verifyAttr (t.namespaceDir host ++ [.of "device_path"]) t.devicePath
  verifyAttr (t.namespaceDir host ++ [.of "device_uuid"]) id.uuid
  verifyAttr (t.namespaceDir host ++ [.of "device_nguid"]) id.nguid
  verifyAttr (t.namespaceDir host ++ [.of "enable"]) t.desiredEnable
  forEach (fun hostNQN => do
    let link ← stat (t.allowedHostLink host hostNQN)
    if link.any Node.isLink = true then pure () else fail .mismatch) t.allowedHosts

def link (prepared : PreparedTarget) : Op Unit := do
  t.verifyPrepared host prepared.identity
  t.linkSubsystemToPort host prepared.port

def apply : Op Unit := do
  let prepared ← t.prepare host
  t.link host prepared

def remove : Op Unit := do
  t.unlinkFromPorts host
  ignore (call .configfs fun tree => tree.write (t.namespaceDir host ++ [.of "enable"]) "0")
  removeDir (t.namespaceDir host)
  t.revokeHostsExcept host []
  removeDir (t.subsystemDir host)

end NvmetTarget

end PillarCsi.Nvmet
