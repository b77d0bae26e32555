import Mathlib.Data.List.AList
import PillarCsi.EffectPrograms
import PillarCsi.NfsExports

/-!
The manager of the kernel NFS exports: what it keeps in memory and on disk, the
kernel's admission table, and its operations as programs of calls that may fail
and may be cut off at any point.

A map of the source is an association list, iterated in its order.
-/

namespace PillarCsi.NfsManager

open FalliblePrograms EffectPrograms NfsExports Program

/-- What the admission table is keyed by. -/
structure Key where
  (path client : String)
  deriving DecidableEq, Repr

structure Entry where
  (path client : String)
  options : List Flag
  deriving DecidableEq, Repr

def Entry.key (row : Entry) : Key := ⟨row.path, row.client⟩

abbrev ExportTable := AList fun _ : Key => List Flag

def ExportTable.rows (table : ExportTable) : List Entry :=
  table.entries.map fun row => ⟨row.1.path, row.1.client, row.2⟩

abbrev Policies := AList fun _ : String => Export

variable (desired : Policies)

def Policies.exports : List (String × Export) :=
  desired.entries.map fun policy => (policy.1, policy.2)

abbrev Wanted := AList fun _ : Key => Entry

/-- What `owner.json` holds. -/
structure DiskState where
  schema : Nat
  (bindAddress exportRoot : String)
  desired : Policies
  /-- Every policy under which a row may have reached the admission table. -/
  ledger : List Export

structure Manager where
  state : DiskState
  /-- The manager holds `owner.lock`. -/
  (locked started closed : Bool)
  failure : Option NfsError
  /-- The volumes whose export the last convergence found unavailable. -/
  exportErrors : List String
  closeErr : Option NfsError

structure Host where
  disk : Option DiskState
  table : ExportTable
  /-- The rows of the table that a grant of the manager put there. -/
  granted : List Key
  manager : Manager

/-- What the mount table says of an export. -/
inductive Verdict where
  | usable
  | unavailable
  | unreadable
  deriving DecidableEq, Repr

/-- What validation answers during one pass over the exports. -/
structure Checks where
  validateExport : Export → Verdict
  beforeActivate : Export → Bool

variable (config : Config)

abbrev Nfs (α : Type) := Program Host NfsError α

def memory {α : Type} (f : Manager → Except NfsError α × Manager) : Nfs α :=
  compute fun host => ((f host.manager).1, { host with manager := (f host.manager).2 })

def modify (f : Manager → Manager) : Nfs Unit := memory fun m => (.ok (), f m)

def read {α : Type} (f : Manager → α) : Nfs α := look fun host => f host.manager

def check (error : NfsError) : Nfs Unit := query error fun _ => ()

def orFail {α : Type} : Except NfsError α → Nfs α
  | .ok a => pure a
  | .error error => fail error

def list : Nfs (List Entry) := query .listing fun host => host.table.rows

variable (e : Export) (client : String)

def Host.grant (host : Host) : Host :=
  { host with
    table := host.table.insert ⟨e.path, client⟩ (config.readback (e.options config))
    granted := ⟨e.path, client⟩ :: host.granted }

def Host.revoke (key : Key) (host : Host) : Host :=
  { host with table := host.table.erase key, granted := host.granted.filter (· ≠ key) }

def grant : Nfs Unit :=
  call .granting fun host => some (host.grant config e client)

def revoke (path client : String) : Nfs Unit :=
  call .revoking fun host => some (host.revoke ⟨path, client⟩)

/-- `persist`: the file is replaced as a whole. -/
def persist : Nfs Unit :=
  call .persisting fun host => some { host with disk := some host.manager.state }

def health : Nfs Unit := check .runtimeHealth

def close : Nfs Unit := check .runtimeClose

variable (ledger : List Export)

/-- `owns`: some policy of the ledger admits the row's client at its path under
its file system identity. -/
def owns (row : Entry) : Bool :=
  ledger.any fun e =>
    decide (e.path = row.path) && decide (row.client ∈ e.admitted) &&
      decide (optionValue row.options "fsid" = e.fsid config)

/-- `foreignConflict`: the volume whose path or file system identity a foreign
row uses. -/
def foreignConflict (ledger : List Export) (row : Entry) : Option NfsError :=
  (ledger.find? fun e =>
    decide (row.path = e.path) || decide (optionValue row.options "fsid" = e.fsid config)).map
      fun e => .foreignConflict e.volumeID

/-- The exports that the pseudoroot is open to. -/
def rootMembers (exportErrors : List String) : List Export :=
  (desired.exports.filter fun policy =>
    decide (policy.1 ≠ rootVolumeID ∧ policy.2.active = true ∧ policy.1 ∉ exportErrors)).map
      Prod.snd

/-- The policy of the pseudoroot: read-only, for the clients of its members. -/
def rootExport (members : List Export) : Export :=
  let opened := members.any fun e => !e.aclEnabled
  let clients := if opened then [] else sortCompact (members.flatMap Export.clients)
  { volumeID := rootVolumeID
    path := config.exportRoot
    bindAddress := config.bindAddress
    version := nfsVersion
    squash := .root
    readOnly := true
    aclEnabled := !opened
    clients := clients
    active := opened || !clients.isEmpty
    sourceKey := ""
    fenceUID := "" }

def Manager.updateRoot (m : Manager) : Manager :=
  let root := rootExport config (rootMembers m.state.desired m.exportErrors)
  { m with state := { m.state with
      desired := m.state.desired.insert rootVolumeID root
      ledger := if root.active then m.state.ledger ++ [root] else m.state.ledger } }

def validateOwned : Except NfsError Unit :=
  if e.volumeID = rootVolumeID then
    if e.path ≠ config.exportRoot ∨ e.readOnly = false ∨ e.squash ≠ .root then
      .error .pseudorootPolicy
    else .ok ()
  else (exportPath config e.path).map fun _ => ()

def validatePersisted : Except NfsError Export := do
  let validated ← normalized config.addresses e
  if validated.bindAddress = config.bindAddress then
    validateOwned config validated
    pure validated
  else .error .persistedListener

/-- The exports that `rebuildLedger` keeps. -/
def availableExports (exportErrors : List String) : List Export :=
  (desired.exports.filter fun policy =>
    decide (policy.2.active = true ∧ (policy.1 = rootVolumeID ∨ policy.1 ∉ exportErrors))).map
      Prod.snd

def Manager.rebuildLedger (m : Manager) : Manager :=
  { m with state := { m.state with ledger := availableExports m.state.desired m.exportErrors } }

variable (checks : Checks)

/-- `validateActivation`: the mount table and, for a policy with ownership
hints, the guard. -/
def validateActivation (e : Export) : Verdict :=
  match checks.validateExport e with
  | .usable =>
    if e.sourceKey = "" ∧ e.fenceUID = "" then .usable
    else if e.sourceKey = "" ∨ e.fenceUID = "" then .unavailable
    else if config.guarded && checks.beforeActivate e then .usable
    else .unavailable
  | verdict => verdict

variable (wanted : Wanted)

def wantRows : Wanted :=
  e.admitted.foldl
    (fun wanted client => wanted.insert ⟨e.path, client⟩ ⟨e.path, client, e.options config⟩) wanted

/-- The loop of `desiredEntries` over the exports: an unavailable export is
skipped, an unreadable mount table ends the pass, and an export is on the ledger
before its rows are wanted. -/
def admitExports (checks : Checks) :
    List (String × Export) → Wanted → Manager → Except NfsError Wanted × Manager
  | [], wanted, m => (.ok wanted, m)
  | (id, e) :: rest, wanted, m =>
    if id = rootVolumeID ∨ e.active = false then admitExports checks rest wanted m
    else
      match validateActivation config checks e with
      | .unreadable => (.error .mountTable, m)
      | .unavailable =>
        admitExports checks rest wanted { m with exportErrors := e.volumeID :: m.exportErrors }
      | .usable =>
        admitExports checks rest (wantRows config e wanted)
          { m with state := { m.state with ledger := m.state.ledger ++ [e] } }

/-- `rootEntries`: the pseudoroot for the exports that this pass found usable. -/
def rootEntries (m : Manager) :
    Except NfsError Wanted × Manager :=
  let root := rootExport config (rootMembers m.state.desired m.exportErrors)
  if root.active = false then (.ok wanted, m.updateRoot config)
  else
    match checks.validateExport root with
    | .usable => (.ok (wantRows config root wanted), m.updateRoot config)
    | _ => (.error (.unavailable rootVolumeID), m.updateRoot config)

def desiredEntries (m : Manager) : Except NfsError Wanted × Manager :=
  match admitExports config checks m.state.desired.exports ∅ { m with exportErrors := [] } with
  | (.error error, m) => (.error error, m)
  | (.ok wanted, m) => rootEntries config checks wanted m

/-- A row that stays: it is wanted, with options that match. -/
def keeps (row : Entry) : Bool :=
  match wanted.lookup row.key with
  | some want => optionsMatch row.options want.options
  | none => false

def revokeRow (wanted : Wanted) (row : Entry) : Nfs Unit :=
  if owns config ledger row then
    Program.when (keeps wanted row = false) (revoke row.path row.client)
  else
    match foreignConflict config ledger row with
    | some error => fail error
    | none => pure ()

variable (rows : List Entry)

def revokeObsolete (wanted : Wanted) : Nfs Unit := do
  let ledger ← read fun m => m.state.ledger
  forEach (revokeRow config ledger wanted) rows

def grantRow (existing : List Entry) (wanted : Wanted) (e : Export) (client : String) : Nfs Unit :=
  match wanted.lookup ⟨e.path, client⟩ with
  | none => pure ()
  | some want =>
    if existing.any fun row =>
        decide (row.key = ⟨e.path, client⟩) && optionsMatch row.options want.options then
      pure ()
    else grant config e client

def grantDesired (wanted : Wanted) : Nfs Unit := do
  let state ← read Manager.state
  let existing := rows.filter (owns config state.ledger)
  forEach (fun policy => forEach (grantRow config existing wanted policy.2) policy.2.admitted)
    state.desired.exports

/-- The loop of `verifyAdmissions`: the wanted rows that were not found. -/
def verifyRows (ledger : List Export) : List Entry → Wanted → Except NfsError Wanted
  | [], wanted => .ok wanted
  | row :: rest, wanted =>
    if owns config ledger row then
      if keeps wanted row then verifyRows ledger rest (wanted.erase row.key)
      else .error (.readbackMismatch row.path)
    else
      match foreignConflict config ledger row with
      | some error => .error error
      | none => verifyRows ledger rest wanted

def verifyAdmissions : Nfs Unit := do
  let rows ← list
  let ledger ← read fun m => m.state.ledger
  let missing ← orFail (verifyRows config ledger rows wanted)
  if missing.entries = [] then pure () else fail .readbackMissing

def healthLocked : Nfs Unit := do
  let m ← read id
  match m.failure with
  | some error => fail error
  | none =>
    if m.started = false ∨ m.closed = true then fail .notRunning
    else health

def converge : Nfs Unit := do
  let rows ← list
  let wanted ← memory (desiredEntries config checks)
  persist
  revokeObsolete config rows wanted
  grantDesired config rows wanted
  verifyAdmissions config wanted
  healthLocked
  modify Manager.rebuildLedger
  match ← attempt persist with
  | .ok _ => pure ()
  | .error error =>
    modify fun m => { m with failure := some error }
    fail error

/-- The loop of `revokeOwned`: the first error after every row was tried. -/
def revokeEach : List Entry → Nfs (Option NfsError)
  | [] => pure none
  | row :: rest => do
    let result ← attempt (revoke row.path row.client)
    let later ← revokeEach rest
    match result with
    | .ok _ => pure later
    | .error error => pure (some error)

def revokeOwned : Nfs Unit := do
  let rows ← list
  let ledger ← read fun m => m.state.ledger
  match ← revokeEach (rows.filter (owns config ledger)) with
  | none => pure ()
  | some error => fail error

/-- `failClosed`: every owned row is withdrawn and the runtime stopped, as far
as that goes. -/
def failClosed (error : NfsError) : Nfs Unit := do
  ignore (revokeOwned config)
  ignore close
  modify fun m => { m with failure := some error }
  fail error

def apply : Nfs Unit := do
  match ← attempt (converge config checks) with
  | .ok _ => pure ()
  | .error error => failClosed config error

structure Passes where
  (request preflight startup convergence : Checks)

def freshState : DiskState :=
  { schema := 1, bindAddress := config.bindAddress, exportRoot := config.exportRoot, desired := ∅,
    ledger := [] }

def validatePolicy (policy : String × Export) : Except NfsError (String × Export) := do
  let validated ← validatePersisted config policy.2
  if policy.1 = policy.2.volumeID then pure (policy.1, validated) else .error .persistedIdentity

def validateState (state : DiskState) : Except NfsError DiskState := do
  let desired ← state.desired.exports.mapM (validatePolicy config)
  let ledger ← state.ledger.mapM (validatePersisted config)
  pure { state with
    desired := desired.foldr (fun policy table => table.insert policy.1 policy.2) ∅
    ledger := ledger }

def loaded (disk : Option DiskState) : Except NfsError DiskState :=
  match disk with
  | none => .ok (freshState config)
  | some state =>
    if state.schema ≠ 1 ∨ state.bindAddress ≠ config.bindAddress ∨
        state.exportRoot ≠ config.exportRoot then
      .error .configurationMismatch
    else validateState config state

def loadState : Nfs Unit := do
  let disk ← query .stateUnreadable fun host => host.disk
  modify fun m => { m with state := disk.getD m.state }
  let state ← orFail (loaded config disk)
  modify fun m => { m with state := state }

/-- Some policy or ledger entry carries an ownership hint. -/
def hasHints (state : DiskState) : Bool :=
  (state.desired.exports.any fun policy =>
    decide (policy.1 ≠ rootVolumeID) && policy.2.active &&
      decide (policy.2.sourceKey ≠ "" ∨ policy.2.fenceUID ≠ "")) ||
  state.ledger.any fun e =>
    decide (e.volumeID ≠ rootVolumeID) && decide (e.sourceKey ≠ "" ∨ e.fenceUID ≠ "")

def preflightActivation : Nfs Unit := do
  let state ← read Manager.state
  Program.when (hasHints state) do
    let rows ← list
    let wanted ← memory (desiredEntries config checks)
    revokeObsolete config rows wanted
    modify Manager.rebuildLedger
    persist

/-- `verifyLedgerRows`: the first row that the ledger does not know. -/
def verifyLedgerRows : Except NfsError Unit :=
  match rows.find? fun row => !owns config ledger row with
  | some row => .error (.foreignExport row.path)
  | none => .ok ()

/-- The runtime's `start`: the kernel and the table must hold nothing foreign,
the claim is saved, and the helpers come up. -/
def runtimeStart : Nfs Unit := do
  check .runtimeStart
  let rows ← list
  let ledger ← read fun m => m.state.ledger
  orFail (verifyLedgerRows config ledger rows)
  persist
  check .runtimeStart

/-- A step of the start whose failure stops the runtime. -/
def orClose (p : Nfs Unit) : Nfs Unit := do
  match ← attempt p with
  | .error error =>
    ignore close
    fail error
  | .ok _ => pure ()

variable (passes : Passes)

def startLocked : Nfs Unit := do
  check .runtimeIdentity
  loadState config
  modify (Manager.updateRoot config)
  preflightActivation config passes.preflight
  orClose (runtimeStart config)
  orClose persist
  modify fun m => { m with started := true }
  apply config passes.startup

def start : Nfs Unit := do
  check .canceled
  let m ← read id
  if m.closed then fail .closed
  else if m.started then healthLocked
  else
    match m.failure with
    | some error => fail error
    | none =>
      check .ownershipLock
      modify fun m => { m with locked := true }
      let result ← attempt (startLocked config passes)
      modify fun m => if m.started then m else { m with locked := false }
      orFail result

def validatePut (e : Export) : Nfs Unit := do
  if e.volumeID = rootVolumeID then fail .reservedIdentity
  else
    let _ ← orFail (exportPath config e.path)
    check (.notADirectory e.path)
    match checks.validateExport e with
    | .usable => if e.bindAddress = config.bindAddress then pure () else fail .bindAddressConflict
    | .unavailable => fail (.unavailable e.volumeID)
    | .unreadable => fail .mountTable

/-- The ownership hints of a policy never change once they are there. -/
def mergedHints (old e : Export) : Except NfsError Export :=
  if old.sourceKey = "" ∧ old.fenceUID = "" then .ok e
  else if e.sourceKey = "" ∧ e.fenceUID = "" then
    .ok { e with sourceKey := old.sourceKey, fenceUID := old.fenceUID }
  else if e.sourceKey = old.sourceKey ∧ e.fenceUID = old.fenceUID then .ok e
  else .error .hintChanged

/-- What `putPolicy` keeps of the policy before. -/
def merged (old e : Export) (exact : Bool) : Except NfsError Export :=
  if old.path ≠ e.path then .error .pathChanged
  else
    (mergedHints old e).map fun e =>
      if exact = false ∧ old.aclEnabled ∧ e.aclEnabled then { e with clients := old.clients } else e

def mergedPolicy (e : Export) (exact : Bool) : Except NfsError Export :=
  match desired.lookup e.volumeID with
  | some old => merged old e exact
  | none => .ok e

def putPolicy (e : Export) (exact : Bool) : Except NfsError Export := do
  let e ← mergedPolicy desired e exact
  if desired.exports.any fun policy =>
      decide (policy.1 ≠ e.volumeID) && decide (policy.2.path = e.path) then
    .error .pathTaken
  else pure e

variable (volumeID : String)

/-- A changed policy: on the ledger before any of its rows. -/
def Manager.commit (e : Export) (m : Manager) : Manager :=
  Manager.updateRoot config { m with state := { m.state with
    desired := m.state.desired.insert volumeID e
    ledger := m.state.ledger ++ [e] } }

def rejectExport (e : Export) (error : NfsError) : Nfs Unit := do
  let m ← read id
  match m.state.desired.lookup e.volumeID with
  | none => fail error
  | some old =>
    if old.path ≠ e.path then fail error
    else
      match ← attempt healthLocked with
      | .error _ => fail error
      | .ok _ =>
        check .canceled
        ignore (apply config passes.convergence)
        fail error

def put (e : Export) (exact active : Bool) : Nfs Unit := do
  check .canceled
  let e ← orFail (normalized config.addresses e)
  match ← attempt (validatePut config passes.request e) with
  | .error error => if active then rejectExport config passes e error else fail error
  | .ok _ =>
    Program.when (active = true) (start config passes)
    check .canceled
    Program.when (active = true) healthLocked
    let desired ← read fun m => m.state.desired
    let e ← orFail (putPolicy desired e exact)
    Program.when (active = true) do
      let e := { e with active := true }
      modify (Manager.commit config e.volumeID e)
      match ← attempt persist with
      | .error error => failClosed config error
      | .ok _ =>
        apply config passes.convergence
        let unavailable ← read fun m => m.exportErrors
        if e.volumeID ∈ unavailable then fail (.unavailable e.volumeID) else pure ()

def changedClient (allow : Bool) : Except NfsError Export :=
  match config.addresses.unicastAddress client with
  | none => .error (.address client)
  | some ip => do
    let text := config.addresses.text ip
    let e ← normalized config.addresses { e with clients := e.clients ++ [text] }
    if allow then pure e else pure { e with clients := e.clients.filter (· ≠ text) }

def stopOwned : Nfs Unit := do
  let revoked ← attempt (revokeOwned config)
  let stopped ← attempt close
  orFail revoked
  orFail stopped

def applyOrStop : Nfs Unit := do
  match ← attempt healthLocked with
  | .error _ => stopOwned config
  | .ok _ => apply config passes.convergence

def commitClientChange (e : Export) (allow : Bool) : Nfs Unit := do
  modify (Manager.commit config volumeID e)
  match ← attempt persist with
  | .error error => failClosed config error
  | .ok _ =>
    if allow = false then applyOrStop config passes
    else do
      apply config passes.convergence
      let unavailable ← read fun m => m.exportErrors
      if volumeID ∈ unavailable then fail (.unavailable volumeID) else pure ()

/-- Goes on after a failed start unless that is fatal to the request. -/
def goOn (startErr : Except NfsError Unit) (fatal : Prop) [Decidable fatal] : Nfs Unit :=
  match startErr with
  | .error error => Program.when fatal (fail error)
  | .ok _ => pure ()

def changeClient (client : String) (allow : Bool) : Nfs Unit := do
  check .canceled
  let startErr ← attempt (start config passes)
  let m ← read id
  goOn startErr (allow = true ∨ m.started = false ∨ m.locked = false)
  check .canceled
  Program.when (allow = true) healthLocked
  match m.state.desired.lookup volumeID with
  | none => if allow then fail .notExported else pure ()
  | some e => do
    let e ← orFail (changedClient config e client allow)
    Program.when (e.aclEnabled = true) (commitClientChange config passes volumeID e allow)

def remove : Nfs Unit := do
  check .canceled
  let startErr ← attempt (start config passes)
  let m ← read id
  goOn startErr (m.started = false ∨ m.locked = false)
  check .canceled
  modify fun m => Manager.updateRoot config { m with state := { m.state with
    desired := m.state.desired.erase volumeID } }
  match ← attempt persist with
  | .error error => failClosed config error
  | .ok _ => applyOrStop config passes

def daemonFailed : Nfs Unit := do
  let m ← read id
  if m.closed then pure ()
  else if m.started = false then modify fun m => { m with failure := some .daemon }
  else do
    ignore (revokeOwned config)
    ignore close
    modify fun m => { m with failure := some .daemon }

def closeManager : Nfs Unit := do
  let m ← read id
  if m.closed then
    match m.closeErr with
    | some error => fail error
    | none => pure ()
  else do
    modify fun m => { m with closed := true }
    let revoked ← attempt (Program.when (m.started = true) (revokeOwned config))
    let stopped ← attempt close
    let released ← attempt (Program.when (m.locked = true) (check .ownershipLock))
    let result : Except NfsError Unit := revoked >>= fun _ => stopped >>= fun _ => released
    modify fun m => { m with
      locked := false
      closeErr := match result with
        | .ok _ => none
        | .error error => some error }
    orFail result

section Rules

variable {α : Type} {P : Host → Prop} {Q : Except (Stop NfsError) α → Host → Prop}
  {f : Manager → α} {result : Except NfsError α} {I : Host → Prop}

theorem triple_memory {f : Manager → Except NfsError α × Manager}
    (hok : ∀ host a, P host → (f host.manager).1 = .ok a →
      Q (.ok a) { host with manager := (f host.manager).2 })
    (hfailed : ∀ host error, P host → (f host.manager).1 = .error error →
      Q (.error (.failed error)) { host with manager := (f host.manager).2 }) :
    Triple P (memory f) Q := by
  refine .compute ?_ ?_
  · intro host a t hP hf
    obtain ⟨hresult, rfl⟩ := Prod.mk.inj hf
    exact hok host a hP hresult
  · intro host error t hP hf
    obtain ⟨hresult, rfl⟩ := Prod.mk.inj hf
    exact hfailed host error hP hresult

theorem triple_modify {f : Manager → Manager} {Q : Except (Stop NfsError) Unit → Host → Prop}
    (h : ∀ host, P host → Q (.ok ()) { host with manager := f host.manager }) :
    Triple P (modify f) Q :=
  triple_memory (fun host _ hP _ => h host hP) fun _ _ _ herror => nomatch herror

theorem triple_read (h : ∀ host, P host → Q (.ok (f host.manager)) host) : Triple P (read f) Q :=
  triple_look h

theorem triple_read_bind {β : Type} {m : Manager} {p : α → Nfs β}
    {Q : Except (Stop NfsError) β → Host → Prop} (hm : ∀ host, P host → host.manager = m)
    (h : Triple P (p (f m)) Q) : Triple P (read f >>= p) Q := by
  intro w hw
  change Q (p (f w.state.manager) w).1 (p (f w.state.manager) w).2.state
  rw [hm w.state hw]
  exact h w hw

theorem triple_orFail (hok : ∀ a host, result = .ok a → P host → Q (.ok a) host)
    (hfailed : ∀ error host, result = .error error → P host → Q (.error (.failed error)) host) :
    Triple P (orFail result) Q := by
  cases result with
  | ok a => exact .pure a fun host hP => hok a host rfl hP
  | error error => exact .fail fun host hP => hfailed error host rfl hP

theorem yields_read : Yields P (read f) (fun a host => P host ∧ a = f host.manager) I :=
  triple_read fun _ hP => ⟨hP, rfl⟩

theorem yields_orFail (result : Except NfsError α) (hI : ∀ host, P host → I host) :
    Yields P (orFail result) (fun a host => P host ∧ result = .ok a) I :=
  triple_orFail (fun _ _ ha hP => ⟨hP, ha⟩) fun _ host _ hP => hI host hP

theorem preserves_check {error : NfsError} : Preserves P (check error) := .query

theorem preserves_orClose {p : Nfs Unit} (h : Preserves P p) : Preserves P (orClose p) := by
  refine h.attempt.bind fun result => ?_
  split
  · exact preserves_check.ignore.bind fun _ => .fail
  · exact .pure _

theorem preserves_read : Preserves P (read f) := triple_read fun _ hP => hP

theorem preserves_orFail : Preserves P (orFail result) :=
  triple_orFail (fun _ _ _ hP => hP) fun _ _ _ hP => hP

theorem preserves_modify {f : Manager → Manager}
    (h : ∀ host, P host → P { host with manager := f host.manager }) : Preserves P (modify f) :=
  triple_modify h

theorem preserves_healthLocked : Preserves P healthLocked := by
  refine preserves_read.bind fun m => ?_
  split
  · exact .fail
  · exact .ite .fail preserves_check

end Rules

end PillarCsi.NfsManager
