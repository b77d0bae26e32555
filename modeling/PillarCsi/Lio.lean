import PillarCsi.Configfs

/-!
The iSCSI target of a volume (`internal/agent/lio`): target, portal group, LUN,
node ACLs and portal in the iSCSI fabric, and the iblock backstore.
-/

namespace PillarCsi.Lio

open FalliblePrograms ItemTree Configfs Program

def ownedIQNPrefix : String := "iqn.2026-01.com.bhyoo.pillar-csi:"

def maxIQNLength : Nat := 223

/-- A name that LIO and the file system accept. -/
def validateIQN (name : String) : Bool :=
  name ≠ "" && name.utf8ByteSize ≤ maxIQNLength && '/' ∉ name.toList && '\x00' ∉ name.toList &&
    name ≠ "." && name ≠ ".."

theorem isName_of_validateIQN {name : String} (h : validateIQN name = true) :
    SeparatedNames.IsName name.toList := by
  simp only [validateIQN, Bool.and_eq_true, decide_eq_true_eq] at h
  obtain ⟨⟨⟨⟨⟨hne, _⟩, hslash⟩, _⟩, hdot⟩, hdots⟩ := h
  refine ⟨?_, hslash, ?_, ?_⟩
  · exact fun hnil => hne (String.toList_inj.mp hnil)
  · exact fun heq => hdot (String.toList_inj.mp heq)
  · exact fun heq => hdots (String.toList_inj.mp heq)

def backstoreNameForIQN (iqn : String) : String :=
  if ownedIQNPrefix.toList <+: iqn.toList then
    String.ofList (iqn.toList.drop ownedIQNPrefix.toList.length)
  else
    iqn

structure CHAP where
  (username password : String)
  mutualUsername : String := ""
  mutualPassword : String := ""
  deriving DecidableEq

def CHAP.mutual_ (c : CHAP) : Bool := c.mutualUsername ≠ "" || c.mutualPassword ≠ ""

def validateCHAPValue (v : String) : Bool :=
  v ≠ "" && v.utf8ByteSize ≤ 255 && '\x00' ∉ v.toList && '\n' ∉ v.toList &&
    !("NULL".toList.isPrefixOf v.toList)

def CHAP.validate (c : CHAP) : Bool :=
  validateCHAPValue c.username && validateCHAPValue c.password &&
    (!c.mutual_ || (validateCHAPValue c.mutualUsername && validateCHAPValue c.mutualPassword))

structure Target where
  iqn : String
  devicePath : String := ""
  bindAddress : String := ""
  port : Int := 0
  aclEnabled : Bool := false
  allowedInitiators : List String := []
  localAttach : Bool := false
  chap : Option CHAP := none

/-- The kernel, the functions that are not looked into, and which devices
support discard. -/
structure Host where
  kernel : Kernel
  parseIP : String → Option IPFamily
  deriveUnitSerial : String → String
  discard : String → Bool

def formatPortal (family : IPFamily) (port : Nat) : Name where
  text := (match family with | .ipv4 => "0.0.0.0:" | .ipv6 => "[::]:") ++ toString port
  isName := by
    cases family with
    | ipv4 => exact isName_append (by decide) (by decide) (slash_not_mem_toString port)
    | ipv6 => exact isName_append (by decide) (by decide) (slash_not_mem_toString port)

namespace Target

variable (host : Host) (t : Target)

def iscsiDir : Path := host.kernel.root ++ [.of "target", .of "iscsi"]

def hbaDir : Path := host.kernel.root ++ [.of "target", .of "core", .of "iblock_3260"]

def targetDir : Path := join (iscsiDir host) t.iqn

def tpgDir : Path := t.targetDir host ++ [.of "tpgt_1"]

def lunRoot : Path := t.tpgDir host ++ [.of "lun"]

def lunDir : Path := t.lunRoot host ++ [.of "lun_0"]

def aclsDir : Path := t.tpgDir host ++ [.of "acls"]

def npDir : Path := t.tpgDir host ++ [.of "np"]

def tpgEnable : Path := t.tpgDir host ++ [.of "enable"]

variable (iqn : String)

def aclDir : Path := join (t.aclsDir host) iqn

def backstoreDir : Path := join (hbaDir host) (backstoreNameForIQN t.iqn)

def portal : Op Name :=
  match host.parseIP t.bindAddress with
  | none => fail .invalidArgument
  | some family =>
    if 1 ≤ t.port ∧ t.port ≤ 65535 then pure (formatPortal family t.port.toNat)
    else fail .invalidArgument

def validate : Op Unit := do
  if validateIQN t.iqn ∧ (t.localAttach ∨ t.devicePath ≠ "") ∧
      t.allowedInitiators.all validateIQN ∧
      t.chap.all (fun chap => t.aclEnabled && chap.validate) then do
    let _ ← t.portal host
    pure ()
  else
    fail .invalidArgument

def requireTPG : Op Unit := do
  let existing ← stat (t.tpgDir host)
  if existing = none then fail .notExported else pure ()

def ensureISCSIFabric : Op Unit := do
  let existing ← stat (host.kernel.root ++ [.of "target"])
  if existing = none then fail .configfs else ensureDir host.kernel (iscsiDir host)

variable (dir : Path)

def subdirs : Op (List Name) := do
  let entries ← readDir dir
  pure ((entries.filter fun e => e.2.isDir).map Prod.fst)

/-- The links directly inside a directory and what they point to. -/
def symlinks : Op (List (Name × Path)) := do
  let entries ← readDir dir
  pure (entries.filterMap fun e =>
    match e.2 with
    | .link target => some (e.1, target)
    | _ => none)

def removeSymlinks : Op Unit := do
  let links ← symlinks dir
  forEach (fun link => removeSymlink (dir ++ [link.1])) links

/-- Thin provisioning; a device without discard is served without it. -/
def ensureThinProvisioning : Op Unit := do
  let path := t.backstoreDir host ++ [.of "attrib", .of "emulate_tpu"]
  let got ← readAttr path
  if got = "1" ∨ host.discard t.devicePath = false then pure () else writeFile path "1"

def lunBound : Op Bool := do
  let links ← symlinks (t.lunDir host)
  pure (links.any fun link => link.2 = t.backstoreDir host)

/-- The serial is fixed while a LUN uses the backstore. -/
def ensureUnitSerial : Op Unit := do
  let path := t.backstoreDir host ++ [.of "wwn", .of "vpd_unit_serial"]
  let got ← readAttr path
  if got = host.deriveUnitSerial t.iqn then
    pure ()
  else do
    let bound ← t.lunBound host
    if bound = true then fail .mismatch else writeFile path (host.deriveUnitSerial t.iqn)

/-- The device is written to `control`, which shows it as `info`. -/
def configureBackstore : Op Unit := do
  claimDevice
  query .configfs fun _ => ()
  writeFile (t.backstoreDir host ++ [.of "info"]) t.devicePath
  writeFile (t.backstoreDir host ++ [.of "udev_path"]) t.devicePath
  writeFile (t.backstoreDir host ++ [.of "enable"]) "1"
  t.ensureThinProvisioning host

def ensureBackstore : Op Unit := do
  ensureDir host.kernel (hbaDir host).dropLast
  ensureDir host.kernel (hbaDir host)
  let existed ← stat (t.backstoreDir host)
  ensureDir host.kernel (t.backstoreDir host)
  let enabled ← readAttr (t.backstoreDir host ++ [.of "enable"])
  if enabled = "1" then do
    let device ← readAttr (t.backstoreDir host ++ [.of "info"])
    if device ≠ t.devicePath then
      fail .mismatch
    else do
      t.ensureThinProvisioning host
      t.ensureUnitSerial host
  else do
    let configured ← attempt (t.configureBackstore host)
    match configured with
    | .ok () => t.ensureUnitSerial host
    | .error error => do
      when (existed = none) (removeDirVerified (t.backstoreDir host))
      fail error

def ensureLUN : Op Unit := do
  ensureDir host.kernel (t.lunRoot host)
  ensureDir host.kernel (t.lunDir host)
  let links ← symlinks (t.lunDir host)
  match links with
  | [] => symlink (t.backstoreDir host) (t.lunDir host ++ [.of "backstore"])
  | link :: _ => if link.2 = t.backstoreDir host then pure () else fail .mismatch

def ensureMappedLUN : Op Unit := do
  ensureDir host.kernel (t.aclDir host iqn ++ [.of "lun_0"])
  symlink (t.lunDir host) (t.aclDir host iqn ++ [.of "lun_0", .of "lun"])

def removeLUNDirs (names : List Name) : Op Unit :=
  forEach (fun name => do
    removeSymlinks (dir ++ [name])
    removeDirVerified (dir ++ [name])) names

def removeMappedLUNs (aclDir : Path) : Op Unit := do
  let dirs ← subdirs aclDir
  removeLUNDirs aclDir (dirs.filter fun name => "lun_".toList.isPrefixOf name.text.toList)

def removeLUNs : Op Unit := do
  let luns ← subdirs (t.lunRoot host)
  removeLUNDirs (t.lunRoot host) luns

def attachLUN : Op Unit := do
  t.ensureBackstore host
  t.ensureLUN host
  let acls ← subdirs (t.aclsDir host)
  forEach (fun acl => t.ensureMappedLUN host acl.text) acls

def disableTPG : Op Unit := ensureAttr (t.tpgEnable host) "0"

/-- The state of a local attach: no sessions, no LUN, no backstore.  Returns the
device of the backstore that was removed. -/
def detachLUN : Op String := do
  let existing ← stat (t.tpgDir host)
  when (existing ≠ none) do
    t.disableTPG host
    let acls ← subdirs (t.aclsDir host)
    forEach (fun acl => removeMappedLUNs (t.aclDir host acl.text)) acls
    t.removeLUNs host
  let backstore ← stat (t.backstoreDir host)
  if backstore = none then
    pure ""
  else do
    let device ← readAttr (t.backstoreDir host ++ [.of "info"])
    removeDirVerified (t.backstoreDir host)
    pure device

/-- An authentication attribute, which must exist. -/
def ensureSecretAttr (path : Path) (value : String) : Op Unit := do
  let existing ← stat path
  match existing with
  | some (.attr got) =>
    if got = value ∨ (value = "NULL" ∧ got = "") then pure () else writeFile path value
  | _ => fail .configfs

def ensureACLAuth : Op Unit := do
  ensureAttr (t.aclDir host iqn ++ [.of "attrib", .of "authentication"]) "-1"
  match t.chap with
  | none => pure ()
  | some chap => do
    let auth := t.aclDir host iqn ++ [.of "auth"]
    ensureSecretAttr (auth ++ [.of "userid"]) chap.username
    ensureSecretAttr (auth ++ [.of "password"]) chap.password
    ensureSecretAttr (auth ++ [.of "userid_mutual"])
      (if chap.mutual_ then chap.mutualUsername else "NULL")
    ensureSecretAttr (auth ++ [.of "password_mutual"])
      (if chap.mutual_ then chap.mutualPassword else "NULL")

def allowInitiator : Op Unit := do
  ensureDir host.kernel (t.aclsDir host)
  ensureDir host.kernel (t.aclDir host iqn)
  t.ensureACLAuth host iqn
  let lun ← stat (t.lunDir host)
  when (lun ≠ none) (t.ensureMappedLUN host iqn)

def removeACL : Op Unit := do
  removeMappedLUNs (t.aclDir host iqn)
  removeDirVerified (t.aclDir host iqn)

def AllowInitiator : Op Unit := do
  if validateIQN iqn ∧ t.chap.all CHAP.validate then do
    t.requireTPG host
    t.allowInitiator host iqn
  else
    fail .invalidArgument

def DenyInitiator : Op Unit := do
  if validateIQN iqn then t.removeACL host iqn else fail .invalidArgument

def revokeInitiatorsExcept (keep : List String) : Op Unit := do
  let acls ← subdirs (t.aclsDir host)
  forEach (fun acl => when (acl.text ∉ keep) (t.removeACL host acl.text)) acls

def ensureTPGAttribs : Op Unit := do
  let attrib := t.tpgDir host ++ [.of "attrib"]
  ensureAttr (attrib ++ [.of "authentication"]) (if t.chap.isSome then "1" else "0")
  if t.aclEnabled then
    ensureAttr (attrib ++ [.of "generate_node_acls"]) "0"
  else do
    ensureAttr (attrib ++ [.of "generate_node_acls"]) "1"
    ensureAttr (attrib ++ [.of "cache_dynamic_acls"]) "1"
    ensureAttr (attrib ++ [.of "demo_mode_write_protect"]) "0"

def settleLUN : Op Unit :=
  if t.localAttach then do
    let _ ← t.detachLUN host
    pure ()
  else
    t.attachLUN host

def prepare : Op Unit := do
  t.validate host
  ensureISCSIFabric host
  ensureDir host.kernel (t.targetDir host)
  ensureDir host.kernel (t.tpgDir host)
  t.settleLUN host
  t.ensureTPGAttribs host
  forEach (t.allowInitiator host) t.allowedInitiators
  let acls ← subdirs (t.aclsDir host)
  forEach (fun acl => t.ensureACLAuth host acl.text) acls

/-- Adds the portal, removes every other one, and enables the portal group. -/
def activate : Op Unit := do
  let portal ← t.portal host
  t.requireTPG host
  ensureDir host.kernel (t.npDir host)
  ensureDir host.kernel (t.npDir host ++ [portal])
  let portals ← subdirs (t.npDir host)
  forEach (fun other => when (other ≠ portal) (removeDirVerified (t.npDir host ++ [other]))) portals
  if t.localAttach then
    t.disableTPG host
  else do
    let bound ← t.lunBound host
    if bound = true then ensureAttr (t.tpgEnable host) "1" else fail .mismatch

def apply : Op Unit := do
  t.prepare host
  t.activate host

def enterLocalAttach : Op String := do
  t.requireTPG host
  let removedDevice ← t.detachLUN host
  if removedDevice = "" then
    pure t.devicePath
  else do
    claimDevice
    query .configfs fun _ => ()
    pure removedDevice

def leaveLocalAttach : Op Unit := do
  t.requireTPG host
  if t.devicePath = "" then
    fail .invalidArgument
  else do
    t.attachLUN host
    ensureAttr (t.tpgEnable host) "1"

def removeTPG : Op Unit := do
  t.disableTPG host
  let acls ← subdirs (t.aclsDir host)
  forEach (fun acl => t.removeACL host acl.text) acls
  let portals ← subdirs (t.npDir host)
  forEach (fun portal => removeDirVerified (t.npDir host ++ [portal])) portals
  t.removeLUNs host
  removeDirVerified (t.tpgDir host)

def remove : Op Unit := do
  if validateIQN t.iqn then do
    let existing ← stat (t.tpgDir host)
    when (existing ≠ none) (t.removeTPG host)
    removeDirVerified (t.targetDir host)
    removeDirVerified (t.backstoreDir host)
  else
    fail .invalidArgument

end Target

end PillarCsi.Lio
