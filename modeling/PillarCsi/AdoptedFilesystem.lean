import PillarCsi.FencingContracts
import PillarCsi.NfsManager
import PillarCsi.OwnershipOperations
import PillarCsi.VolumeNames

/-!
The agent's operations on an adopted filesystem (`server_filesystem.go`,
`filesystem_proxy.go`) as programs of calls that may fail and may be cut off.

The state is what one native key has: its mark file, its proxy target and the
NFS manager.  `operation` and `retireMark` hold the fencing lock of the key to
their end; a release and a reconcile take it once for each of theirs.
-/

namespace PillarCsi.AdoptedFilesystem

open DurableCell FencingAdmission FencedOperations OwnershipOperations FalliblePrograms
open EffectPrograms FencingContracts NfsExports NfsManager Program

/-- What is at the path of the proxy mount. -/
inductive ProxyTarget where
  | absent
  /-- A symbolic link, or no directory. -/
  | foreign
  | directory (mounted empty : Bool)
  deriving DecidableEq, Repr

/-- What the agent does to the target of the proxy mount. -/
inductive ProxyChange where
  | created
  | mounted
  | unmounted
  | removed
  deriving DecidableEq, Repr

structure Agent where
  marks : MarkCell
  proxy : ProxyTarget
  nfs : Host
  /-- The agent's changes of the target, the last one first, each with the mark
  that was durable then.  Nothing reads it. -/
  log : List (ProxyChange × Option FencingMark) := []

def Agent.change (agent : Agent) (change : ProxyChange) (target : ProxyTarget) : Agent :=
  { agent with proxy := target, log := (change, agent.marks.durable) :: agent.log }

structure Server where
  nfs : Config
  /-- There is an NFS manager. -/
  hasManager : Bool
  /-- The digest of a kind and a native resource ID. -/
  digest : String → String → String
  proxyPath : String → Option String
  sourceAllowed : FilesystemAdoption → Bool
  /-- `netip.ParseAddr`, printed without a mapped prefix. -/
  numericAddress : String → Option String
  numericAddress_unicast : ∀ s a, nfs.addresses.unicastAddress s = some a →
    numericAddress s = some (nfs.addresses.text a)

inductive ProxyError where
  | canceled
  | sourceNamespace
  | path
  | inspect
  | notADirectory
  | create
  | checkMounted
  | unowned
  | notEmpty
  | mount
  | verify
  | unmount
  | remove
  deriving DecidableEq, Repr

inductive FilesystemError where
  | fence (err : FenceError)
  | proxy (err : ProxyError)
  | nfs (err : NfsError)
  | unimplemented
  /-- An export is recorded and there is no NFS manager to withdraw it. -/
  | runtimeRequired
  | initiator (text : String)
  | bindAddress (text : String)
  | version (text : String)
  | squash
  | protocol
  | notExported
  | published
  | rollback (err : NfsError)
  | pinClose
  | unfinished
  deriving DecidableEq, Repr

abbrev Fs (α : Type) := Program Agent FilesystemError α

def ofExcept {α : Type} : Except FilesystemError α → Fs α
  | .ok a => pure a
  | .error err => fail err

def ofFence {α : Type} (result : Except FenceError α) : Fs α :=
  ofExcept (result.mapError .fence)

def manager {α : Type} (p : Nfs α) : Fs α :=
  zoom Agent.nfs (fun host agent => { agent with nfs := host }) (mapError .nfs p)

def writeOutcome : FalliblePrograms.Outcome → WriteOutcome
  | .done => .synced
  | .lost => .failedAfterRename
  | _ => .failedBeforeRename

/-- A function of the mark file and how a call on it ends. -/
def onMarks {α : Type}
    (f : FalliblePrograms.Outcome → MarkCell → MarkCell × Except FenceError α) : Fs α := do
  let outcome ← draw
  compute fun agent => ((f outcome agent.marks).2.mapError .fence,
    { agent with marks := (f outcome agent.marks).1 })

variable (volumeID : String)

def readMark : Fs (Option FencingMark) :=
  onMarks fun outcome marks => (marks, readFencingMark volumeID marks (outcome = .done))

def writeMark (mark : FencingMark) : Fs Unit :=
  onMarks fun outcome marks => writeFencingMark volumeID marks mark (writeOutcome outcome)

def persistMark (next : FencingMark) (changed : Bool) : Fs Unit :=
  onMarks fun outcome marks => persistFencingMark volumeID marks next changed (writeOutcome outcome)

/-- `retireFence` reads the mark and writes it at most once. -/
def retireMark (token : FencingToken) (unexported : Bool) : Fs Bool := do
  let read ← draw
  onMarks fun outcome marks => retireFence volumeID token unexported
    { readable := read = .done, write := writeOutcome outcome } marks

structure Request where
  volumeID : String
  adoption : FilesystemAdoption
  token : FencingToken
  capacity : Int

def Request.pinning (req : Request) (importing : Bool) : FilesystemCall :=
  { adoption := req.adoption, volumeID := req.volumeID, capacity := req.capacity,
    importing := importing }

/-- The call of an operation that works without the filesystem. -/
def Request.unpinned (req : Request) : FilesystemCall :=
  { adoption := req.adoption, volumeID := req.volumeID, capacity := 0, importing := false }

/-- What the surroundings of one operation answer. -/
structure Answers where
  /-- Source key, namespace and, for an import, the legacy owner. -/
  source : Except FenceError Unit
  layout : Except FenceError Layout
  pin : Except FenceError Unit
  /-- The proxy mount shows the pinned filesystem. -/
  verifyMount : Bool
  (manager rollback : Passes)

/-- `FilesystemFenceID`: the key that every pool's name for the native resource
shares. -/
def Server.fenceID (server : Server) (a : FilesystemAdoption) : String :=
  if a.kind ≠ "directory" ∧ a.kind ≠ "zfs-dataset" ∨ a.resourceID = "" then ""
  else "filesystem/" ++ server.digest a.kind a.resourceID

def Server.key (server : Server) (req : Request) : String := server.fenceID req.adoption

/-- An owner keeps the capacity and the layout it imported with. -/
def filesystemOperationLayout (call : FilesystemCall) (token : FencingToken)
    (stored : Option FencingMark) (layout : Except FenceError Layout) : Except FenceError Layout := do
  let layout ← layout
  if stored.any fun m => m.volumeUID == token.volumeUID && !m.ended &&
      (m.filesystemCapacity != call.capacity || m.filesystemLayout != some layout) then
    .error
      { code := .failedPrecondition
        message := "filesystem capacity or placement differs from durable import" }
  else pure layout

def pinnedLayout (call : FilesystemCall) (token : FencingToken) (stored : Option FencingMark)
    (answers : Answers) : Except FenceError Layout := do
  let layout ← filesystemOperationLayout call token stored answers.layout
  answers.pin
  pure layout

/-- The mark of an admitted operation. -/
def nextMark (call : FilesystemCall) (next : FencingMark) : Option Layout → FencingMark
  | none => { next with filesystem := some call.adoption, filesystemVolumeID := call.volumeID }
  | some layout => { next with
      filesystem := some call.adoption
      filesystemVolumeID := call.volumeID
      filesystemCapacity := call.capacity
      filesystemLayout := some layout }

/-- The mark is durable before the mutation runs, but an import's only after
it. -/
def commitOperation (key : String) (call : FilesystemCall) (next : FencingMark) (stored : Option FencingMark)
    (changed : Bool) (mutate : FencingMark → Fs FencingMark) : Fs Unit := do
  Program.when (call.importing = false)
    (persistMark key next (changed || (stored.getD {}).filesystem != next.filesystem))
  let mark ← mutate next
  writeMark key mark

/-- The mark is the one of the filesystem's native key. -/
def operation (key : String) (call : FilesystemCall) (token : FencingToken) (op : FenceOp)
    (answers : Answers) (mutate : FencingMark → Fs FencingMark) : Fs Unit := do
  ofFence answers.source
  let _ ← ofFence ((VolumeNames.poolFromVolumeID call.volumeID).mapError fun err =>
    { code := .invalidArgument, message := err.message })
  let stored ← readMark key
  let adm ← ofFence (admitFencingToken key token op stored)
  let skip ← ofFence (filesystemOperationState op call token stored)
  if skip then pure ()
  else do
    let layout ← ofFence (prepareFilesystemPin op call (pinnedLayout call token stored answers))
    commitOperation key call (nextMark call adm.next layout) stored adm.changed mutate
    Program.when (layout.isSome = true) (query .pinClose fun _ => ())

def inspectTarget : Fs ProxyTarget := query (.proxy .inspect) Agent.proxy

def isMounted : Fs Bool := query (.proxy .checkMounted) fun agent =>
  match agent.proxy with
  | .directory mounted _ => mounted
  | _ => false

def directoryEmpty : Fs Bool := query (.proxy .inspect) fun agent =>
  match agent.proxy with
  | .directory _ empty => empty
  | _ => false

def ProxyChange.next : ProxyChange → ProxyTarget → Option ProxyTarget
  | .created, .absent => some (.directory false true)
  | .removed, .directory false true => some .absent
  | .mounted, .directory false empty => some (.directory true empty)
  | .unmounted, .directory true empty => some (.directory false empty)
  | _, _ => none

def changeTarget (error : ProxyError) (change : ProxyChange) : Fs Unit :=
  call (.proxy error) fun agent => (change.next agent.proxy).map (agent.change change)

def createTarget : Fs Unit := changeTarget .create .created

def removeTarget : Fs Unit := changeTarget .remove .removed

def mountTarget : Fs Unit := changeTarget .mount .mounted

def unmountTarget : Fs Unit := changeTarget .unmount .unmounted

/-- A failure takes a target that was just created away again. -/
def orRemove {α : Type} (created : Bool) (p : Fs α) : Fs α := do
  match ← attempt p with
  | .ok a => pure a
  | .error err => do
    Program.when (created = true) (ignore removeTarget)
    fail err

def claimFilesystemProxyTarget (mark : FencingMark) : Fs (Bool × FencingMark) := do
  match ← inspectTarget with
  | .absent => do
    writeMark volumeID { mark with filesystemProxyClaimed := true }
    pure (false, { mark with filesystemProxyClaimed := true })
  | .foreign => fail (.proxy .notADirectory)
  | .directory _ _ => pure (true, mark)

def ensureProxyTarget : Fs Bool := do
  match ← inspectTarget with
  | .absent => do
    createTarget
    -- the mode of the new directory
    orRemove true (query (.proxy .create) fun _ => ())
    pure true
  | .foreign => fail (.proxy .notADirectory)
  | .directory _ _ => pure false

variable (mark : FencingMark)

def ownsTarget : Bool :=
  mark.filesystemProxyClaimed || mark.localAttached || mark.filesystemExported

/-- An existing target has to be the agent's, and empty unless it is mounted. -/
def checkTarget (existed owned created mounted : Bool) : Fs Unit :=
  if existed = true ∧ owned = false then fail (.proxy .unowned)
  else if mounted = false ∧ created = false then do
    let empty ← directoryEmpty
    if empty then pure () else fail (.proxy .notEmpty)
  else pure ()

/-- The target is a fresh mount of the pinned filesystem, or gone again. -/
def mountProxy (verifyMount created mounted : Bool) : Fs Unit :=
  if mounted then if verifyMount then pure () else fail (.proxy .verify)
  else do
    orRemove created mountTarget
    if verifyMount then pure ()
    else do
      ignore (do
        unmountTarget
        Program.when (created = true) removeTarget)
      fail (.proxy .verify)

variable (server : Server) (req : Request) (answers : Answers)

def ensureFilesystemProxy (verifyMount : Bool)
    (mark : FencingMark) : Fs (String × FencingMark) := do
  query (.proxy .canceled) fun _ => ()
  if server.sourceAllowed req.adoption = false then fail (.proxy .sourceNamespace)
  else
    match server.proxyPath (server.key req) with
    | none => fail (.proxy .path)
    | some target => do
      let claimed ← claimFilesystemProxyTarget (server.key req) mark
      let created ← ensureProxyTarget
      let mounted ← orRemove created isMounted
      checkTarget claimed.1 (ownsTarget mark) created mounted
      mountProxy verifyMount created mounted
      pure (target, { claimed.2 with filesystemProxyClaimed := true })

def dropTarget (target : ProxyTarget) : Fs FencingMark :=
  if ownsTarget mark = false then fail (.proxy .unowned)
  else if target = .foreign then fail (.proxy .notADirectory)
  else do
    let mounted ← isMounted
    Program.when (mounted = true) unmountTarget
    removeTarget
    pure { mark with filesystemProxyClaimed := false }

def removeFilesystemProxy (mark : FencingMark) : Fs FencingMark := do
  query (.proxy .canceled) fun _ => ()
  if server.sourceAllowed req.adoption = false then fail (.proxy .sourceNamespace)
  else if (server.proxyPath (server.key req)).isNone then fail (.proxy .path)
  else do
    match ← inspectTarget with
    | .absent => pure { mark with filesystemProxyClaimed := false }
    | target => dropTarget mark target

/-- The proxy stays for whoever else uses it. -/
def releaseProxy (kept : Bool) (mark : FencingMark) : Fs FencingMark :=
  if kept then pure mark else removeFilesystemProxy server req mark

def importFilesystem (answers : Answers) : Fs Unit :=
  operation (server.key req) (req.pinning true) req.token .grant answers pure

structure ExportParams where
  (bindAddress version : String)
  squash : Squash
  (readOnly aclEnabled : Bool)
  deriving DecidableEq, Repr

def nfsProtocolSpec (volumeID : String) (params : ExportParams) : Except FilesystemError Export :=
  match server.nfs.addresses.unicastAddress params.bindAddress with
  | none => .error (.bindAddress params.bindAddress)
  | some ip =>
    if params.version ≠ "" ∧ params.version ≠ nfsVersion then .error (.version params.version)
    else
      match normalizeSquash params.squash with
      | .error _ => .error .squash
      | .ok squash => .ok
          { volumeID := volumeID
            path := ""
            bindAddress := server.nfs.addresses.text ip
            version := nfsVersion
            squash := squash
            readOnly := params.readOnly
            aclEnabled := params.aclEnabled
            clients := []
            active := false
            sourceKey := ""
            fenceUID := "" }

/-- A client that `ValidateClient` accepts, as the mark lists it. -/
def canonicalClient (client : String) : Except FilesystemError String :=
  match normalizeClient server.nfs.addresses server.nfs.bind client, server.numericAddress client with
  | .ok _, some text => .ok text
  | _, _ => .error (.initiator client)

def canonicalFilesystemClients (clients : List String) : Except FilesystemError (List String) := do
  let canonical ← clients.mapM (canonicalClient server)
  pure (sortCompact canonical)

/-- The bound of the admission, grown before the policy is published. -/
def grownMark (exact aclEnabled : Bool) (canonical : List String) : FencingMark :=
  { mark with
    filesystemClients :=
      if exact then
        mark.filesystemClients ++ canonical.filter fun client => client ∉ mark.filesystemClients
      else mark.filesystemClients
    filesystemOpen := mark.filesystemOpen || !aclEnabled
    filesystemExported := true }

/-- The bound once the manager has committed the policy. -/
def publishedMark (exact aclEnabled : Bool) (canonical : List String) : FencingMark :=
  { mark with
    filesystemOpen := !aclEnabled
    filesystemClients :=
      if aclEnabled = false then [] else if exact then canonical else mark.filesystemClients }

def withdrawnMark : FencingMark :=
  { mark with filesystemClients := [], filesystemOpen := false, filesystemExported := false }

def rollbackFilesystemExport (mark : FencingMark) (putErr : NfsError) : Fs FencingMark := do
  manager (remove server.nfs answers.rollback req.volumeID)
  let mark ← releaseProxy server req mark.localAttached mark
  ignore (writeMark (server.key req) (withdrawnMark mark))
  fail (.rollback putErr)

def afterPut (previouslyExported : Bool)
    (mark next : FencingMark) : Except FilesystemError Unit → Fs FencingMark
  | .ok _ => pure next
  | .error (.nfs err) =>
    if previouslyExported then fail (.nfs err)
    else rollbackFilesystemExport server req answers mark err
  | .error err => fail err

def filesystemExportMutation (e : Export)
    (exact : Bool) (canonical : List String) (mark : FencingMark) : Fs FencingMark := do
  let proxy ← ensureFilesystemProxy server req answers.verifyMount mark
  let desired := if exact then canonical else proxy.2.filesystemClients
  let grown := grownMark proxy.2 exact e.aclEnabled canonical
  writeMark (server.key req) grown
  let result ← attempt (manager (put server.nfs answers.manager
    { e with
      path := proxy.1
      sourceKey := server.key req
      fenceUID := req.token.volumeUID
      clients := desired } exact true))
  afterPut server req answers mark.filesystemExported grown
    (publishedMark grown exact e.aclEnabled canonical) result

structure ExportResult where
  (targetID volumeRef address : String)
  port : Nat
  deriving DecidableEq, Repr

def exportResult (e : Export) : Except FilesystemError ExportResult :=
  match server.proxyPath (server.key req) with
  | none => .error (.proxy .path)
  | some target =>
    match exportPath server.nfs target with
    | .error err => .error (.nfs err)
    | .ok path => .ok
        { targetID := path, volumeRef := path, address := e.bindAddress, port := 2049 }

def exportFilesystem (params : ExportParams) (exact : Bool)
    (clients : List String) (answers : Answers) : Fs ExportResult :=
  if server.hasManager = false then fail .unimplemented
  else do
    let e ← ofExcept (nfsProtocolSpec server req.volumeID params)
    let canonical ← ofExcept (canonicalFilesystemClients server clients)
    operation (server.key req) (req.pinning false) req.token .grant answers
      (filesystemExportMutation server req answers e exact canonical)
    ofExcept (exportResult server req e)

/-- Withdraws the volume's policy, or knows that there is none. -/
def withdrawPolicy (mark : FencingMark) : Fs Unit :=
  if server.hasManager then manager (remove server.nfs answers.manager req.volumeID)
  else if mark.filesystemExported then fail .runtimeRequired
  else pure ()

def unexportMutation (mark : FencingMark) : Fs FencingMark := do
  withdrawPolicy server req answers mark
  -- a local publisher keeps the proxy without the network's admission
  let mark ← releaseProxy server req mark.localAttached mark
  pure (withdrawnMark mark)

def unexportFilesystem : Fs Unit :=
  operation (server.key req) req.unpinned req.token .revoke answers (unexportMutation server req answers)

def listedMark (client : String) : FencingMark :=
  if mark.filesystemOpen = true ∨ client ∈ mark.filesystemClients then mark
  else { mark with filesystemClients := mark.filesystemClients ++ [client] }

variable (initiator : String)

def allowMutation (canonical : String) (mark : FencingMark) : Fs FencingMark :=
  if mark.filesystemExported = false then fail .notExported
  else do
    let proxy ← ensureFilesystemProxy server req answers.verifyMount mark
    writeMark (server.key req) (listedMark proxy.2 canonical)
    manager (changeClient server.nfs answers.manager req.volumeID initiator true)
    pure (listedMark proxy.2 canonical)

def changeFilesystemClient (answers : Answers) : Fs Unit :=
  if server.hasManager = false then fail .unimplemented
  else do
    let canonical ← ofExcept (canonicalClient server initiator)
    operation (server.key req) (req.pinning false) req.token .grant answers
      (allowMutation server req answers initiator canonical)

def unlistedMark (client : String) : FencingMark :=
  { mark with filesystemClients := mark.filesystemClients.filter (· ≠ client) }

def denyMutation (canonical : String) (mark : FencingMark) : Fs FencingMark :=
  if server.hasManager = false then fail .unimplemented
  else do
    manager (changeClient server.nfs answers.manager req.volumeID initiator false)
    pure (unlistedMark mark canonical)

def denyFilesystemClient (answers : Answers) : Fs Unit :=
  match server.numericAddress initiator with
  | none => fail (.initiator initiator)
  | some canonical =>
    operation (server.key req) req.unpinned req.token .revoke answers
      (denyMutation server req answers initiator canonical)

def attachMutation (mark : FencingMark) : Fs FencingMark := do
  let proxy ← ensureFilesystemProxy server req answers.verifyMount mark
  pure { proxy.2 with localAttached := true }

def detachMutation (mark : FencingMark) : Fs FencingMark := do
  let mark ← releaseProxy server req mark.filesystemExported mark
  pure { mark with localAttached := false }

def localFilesystem (attach : Bool) (answers : Answers) : Fs Unit :=
  if attach then
    operation (server.key req) (req.pinning false) req.token .grant answers (attachMutation server req answers)
  else operation (server.key req) req.unpinned req.token .revoke answers (detachMutation server req)

variable (deleting : Bool)

def releaseFilesystemMutation (answers : Answers) (mark : FencingMark) : Fs FencingMark :=
  if mark.localAttached = true ∨
      deleting = true ∧ (mark.filesystemOpen = true ∨ mark.filesystemClients ≠ []) then
    fail .published
  else do
    withdrawPolicy server req answers mark
    let mark ← removeFilesystemProxy server req mark
    pure { withdrawnMark mark with localAttached := false }

/-- The operation between the two retirements of a release. -/
def withdrawFilesystem (answers : Answers) : Fs Unit :=
  operation (server.key req) req.unpinned req.token .revoke answers
    (releaseFilesystemMutation server req deleting answers)

/-- One turn of the loop; it answers whether the lifecycle still owns the
mark. -/
def releaseTurn (answers : Answers) : Fs Bool := do
  let owned ← retireMark (server.key req) req.token false
  if owned then do
    withdrawFilesystem server req deleting answers
    retireMark (server.key req) req.token true
  else pure false

/-- The loop, cut off after a number of turns. -/
def releaseTurns (deleting : Bool) (answers : Answers) : Nat → Fs Unit
  | 0 => fail .unfinished
  | turns + 1 => do
    let owned ← releaseTurn server req deleting answers
    if owned then releaseTurns deleting answers turns else pure ()

/-- The loop ends in its first turn. -/
def releaseFilesystem (answers : Answers) : Fs Unit :=
  releaseTurns server req deleting answers 1

structure DesiredExport where
  isNFS : Bool
  params : ExportParams
  allowedInitiators : List String
  answers : Answers

def checkDesired (desired : DesiredExport) : Except FilesystemError Unit :=
  if desired.isNFS = false then .error .protocol
  else (nfsProtocolSpec server req.volumeID desired.params).map fun _ => ()

variable (exports : List DesiredExport)

def reconcileMutation (answers : Answers) (mark : FencingMark) : Fs FencingMark :=
  if mark.localAttached = true ∨ exports ≠ [] then do
    let proxy ← ensureFilesystemProxy server req answers.verifyMount mark
    pure proxy.2
  else pure mark

/-- The proxy comes back before the exports. -/
def restoreFilesystem (answers : Answers) : Fs Unit := do
  forEach (fun desired => ofExcept (checkDesired server req desired)) exports
  operation (server.key req) (req.pinning false) req.token .grant answers
    (reconcileMutation server req exports answers)

def reconcileFilesystem (answers : Answers) : Fs Unit := do
  restoreFilesystem server req exports answers
  forEach (fun desired => do
    let _ ← exportFilesystem server req desired.params true desired.allowedInitiators
      desired.answers
    pure ()) exports

section Rules

variable {α : Type} {P : Agent → Prop} {result : Except FilesystemError α}
  {Q : Except (Stop FilesystemError) α → Agent → Prop}

theorem triple_ofExcept (hok : ∀ a agent, result = .ok a → P agent → Q (.ok a) agent)
    (hfailed : ∀ err agent, P agent → Q (.error (.failed err)) agent) :
    Triple P (ofExcept result) Q := by
  cases result with
  | ok a => exact .pure a fun agent hP => hok a agent rfl hP
  | error err => exact .fail fun agent hP => hfailed err agent hP

theorem triple_ofFence {result : Except FenceError α}
    (hok : ∀ a agent, result = .ok a → P agent → Q (.ok a) agent)
    (hfailed : ∀ err agent, P agent → Q (.error (.failed err)) agent) :
    Triple P (ofFence result) Q := by
  refine triple_ofExcept (fun a agent ha hP => hok a agent ?_ hP) hfailed
  cases result with
  | ok b => rw [Except.ok.inj ha]
  | error err => cases ha

theorem triple_onMarks {f : FalliblePrograms.Outcome → MarkCell → MarkCell × Except FenceError α}
    (hok : ∀ outcome agent a, P agent → (f outcome agent.marks).2 = .ok a →
      Q (.ok a) { agent with marks := (f outcome agent.marks).1 })
    (hfailed : ∀ outcome agent err, P agent → (f outcome agent.marks).2 = .error err →
      Q (.error (.failed (.fence err))) { agent with marks := (f outcome agent.marks).1 })
    (hdied : ∀ agent, P agent → Q (.error .died) agent) : Triple P (onMarks f) Q := by
  refine .bind (R := fun result agent => P agent ∧ ∀ stop, result = .error stop → stop = .died)
    ?_ (fun outcome => ?_) ?_
  · exact .draw (fun _ _ hP => ⟨hP, by simp⟩) fun _ hP => ⟨hP, by simp⟩
  · refine .compute ?_ ?_
    · intro agent a next hP hf
      obtain ⟨hresult, rfl⟩ := Prod.mk.inj hf
      refine hok outcome agent a hP.1 ?_
      cases hanswer : (f outcome agent.marks).2 with
      | ok b =>
        rw [hanswer] at hresult
        exact congrArg Except.ok (Except.ok.inj hresult)
      | error err =>
        rw [hanswer] at hresult
        cases hresult
    · intro agent err next hP hf
      obtain ⟨hresult, rfl⟩ := Prod.mk.inj hf
      cases hanswer : (f outcome agent.marks).2 with
      | ok b =>
        rw [hanswer] at hresult
        cases hresult
      | error fenceErr =>
        rw [hanswer] at hresult
        obtain rfl : FilesystemError.fence fenceErr = err := Except.error.inj hresult
        exact hfailed outcome agent fenceErr hP.1 hanswer
  · rintro stop agent ⟨hP, hstop⟩
    rw [hstop stop rfl]
    exact hdied agent hP

theorem triple_readMark {volumeID : String} {Q : Except (Stop FilesystemError) (Option FencingMark) →
      Agent → Prop}
    (hok : ∀ agent, P agent → (∀ m, agent.marks.visible = some m → m.volumeUID ≠ "") →
      Q (.ok agent.marks.visible) agent)
    (hstop : ∀ stop agent, P agent → Q (.error stop) agent) : Triple P (readMark volumeID) Q := by
  refine triple_onMarks ?_ (fun _ agent err hP _ => hstop _ agent hP) fun agent hP => hstop _ agent hP
  intro outcome agent stored hP hread
  obtain rfl := eq_visible_of_readFencingMark hread
  exact hok agent hP (named_of_readFencingMark hread)

theorem preserves_orRemove {created : Bool} {p : Fs α} (hp : Preserves P p)
    (hremove : created = true → Preserves P removeTarget) : Preserves P (orRemove created p) := by
  refine hp.attempt.bind fun result => ?_
  split
  · exact .pure _
  · refine .bind ?_ fun _ => .fail
    exact Triple.ite (fun hcreated => (hremove hcreated).ignore) fun _ => Preserves.pure _

theorem preserves_mountProxy (verifyMount created mounted : Bool) (hmount : Preserves P mountTarget)
    (hunmount : Preserves P unmountTarget) (hremove : Preserves P removeTarget) :
    Preserves P (mountProxy verifyMount created mounted) := by
  refine .ite (.ite (.pure _) .fail) ?_
  refine (preserves_orRemove hmount fun _ => hremove).bind fun _ => .ite (.pure _) ?_
  exact (hunmount.bind fun _ => hremove.when).ignore.bind fun _ => .fail

theorem preserves_ofExcept : Preserves P (ofExcept result) :=
  triple_ofExcept (fun _ _ _ h => h) fun _ _ h => h

variable {I : Agent → Prop} (hI : ∀ agent, P agent → I agent)

include hI

theorem yields_ofExcept (result : Except FilesystemError α) :
    Yields P (ofExcept result) (fun a agent => P agent ∧ result = .ok a) I :=
  triple_ofExcept (fun _ _ ha h => ⟨h, ha⟩) fun _ agent h => hI agent h

theorem yields_checkTarget (existed owned created mounted : Bool) :
    Yields P (checkTarget existed owned created mounted)
      (fun _ agent => P agent ∧ (existed = true → owned = true)) I := by
  refine .ite (fun _ => .fail hI) fun hallowed => ?_
  have howned : existed = true → owned = true := by simpa using hallowed
  refine .ite (fun _ => ?_) fun _ => .pure _ fun _ h => ⟨h, howned⟩
  refine Preserves.query.andThen hI fun empty => ?_
  exact .ite (fun _ => .pure _ fun _ h => ⟨h, howned⟩) fun _ => .fail hI

/-- An operation stops, skips, or commits the mark of an admitted token. -/
theorem triple_operation {key : String} {call : FilesystemCall} {token : FencingToken} {op : FenceOp}
    {answers : Answers} {mutate : FencingMark → Fs FencingMark}
    (hcommit : ∀ stored adm layout, Admits token op stored adm →
      filesystemOperationState op call token stored = .ok false →
      prepareFilesystemPin op call (pinnedLayout call token stored answers) = .ok layout →
        Triple (fun agent => P agent ∧ agent.marks.visible = stored)
          (commitOperation key call (nextMark call adm.next layout) stored adm.changed mutate)
          fun _ => I) : Triple P (operation key call token op answers mutate) fun _ => I := by
  have hfence : ∀ {β : Type} {P' : Agent → Prop} (answer : Except FenceError β),
      (∀ agent, P' agent → I agent) →
        Yields P' (ofFence answer) (fun b agent => P' agent ∧ answer = .ok b) I :=
    fun _ hP => triple_ofFence (fun _ _ hb h => ⟨h, hb⟩) fun _ agent h => hP agent h
  have hread : Yields P (readMark key)
      (fun stored agent => P agent ∧ agent.marks.visible = stored) I :=
    triple_readMark (fun _ h _ => ⟨h, rfl⟩) fun _ agent h => hI agent h
  suffices Yields P (operation key call token op answers mutate) (fun _ => I) I from
    this.always fun _ _ h => h
  refine (hfence _ hI).bind fun _ => .assuming fun _ => ?_
  refine (hfence _ hI).bind fun _ => .assuming fun _ => ?_
  refine hread.bind fun stored => ?_
  refine (hfence _ fun _ h => hI _ h.1).bind fun adm => .assuming fun hadmits => ?_
  refine (hfence _ fun _ h => hI _ h.1).bind fun skip => .assuming fun hstate => ?_
  refine .ite (fun _ => .pure _ fun agent h => hI _ h.1) fun hgo => ?_
  obtain rfl : skip = false := by simpa using hgo
  refine (hfence _ fun _ h => hI _ h.1).bind fun layout => .assuming fun hlayout => ?_
  have hcommitted :=
    hcommit stored adm layout (admits_of_admitFencingToken hadmits) hstate hlayout
  refine (Triple.returns hcommitted fun _ h => h).bind fun _ => ?_
  exact Triple.ite (fun _ => Yields.query (fun _ h => h) fun _ h => h)
    fun _ => Yields.pure _ fun _ h => h

theorem yields_writeMark {volumeID : String} {mark : FencingMark}
    (hwrite : ∀ agent o, P agent → I { agent with marks := agent.marks.write mark o }) :
    Yields P (writeMark volumeID mark) (fun _ agent => I agent ∧ agent.marks = ⟨some mark, []⟩) I := by
  refine triple_onMarks (fun outcome agent _ h hok => ⟨hwrite agent _ h, ?_⟩)
    (fun outcome agent _ h _ => hwrite agent _ h) fun agent h => hI agent h
  have hsynced : writeOutcome outcome = .synced := by
    by_contra hother
    simp [writeFencingMark, hother] at hok
  simp [writeFencingMark, hsynced, Cell.write]

end Rules

section Proxy

/-- What the steps on the proxy target do with a property of the mark they work
on. -/
structure TargetRule (H : FencingMark → Agent → Prop) (I : Agent → Prop) : Prop where
  stop : ∀ {m} agent, H m agent → I agent
  change : ∀ {m error change}, ownsTarget m = true → Preserves (H m) (changeTarget error change)

/-- And what a claim of the target does with it. -/
structure ProxyRule (key : String) (H : FencingMark → Agent → Prop) (I : Agent → Prop) : Prop
    extends TargetRule H I where
  claim : ∀ m, Yields (fun agent => H m agent ∧ agent.proxy = .absent)
    (writeMark key { m with filesystemProxyClaimed := true })
    (fun _ => H { m with filesystemProxyClaimed := true }) I
  claimed : ∀ {m agent}, H m agent → ownsTarget m = true →
    H { m with filesystemProxyClaimed := true } agent

variable {key : String} {H : FencingMark → Agent → Prop} {I : Agent → Prop} {mark : FencingMark}
  {server : Server} {req : Request}

section

variable (h : TargetRule H I)

include h

theorem TargetRule.inspectTarget : Yields (H mark) inspectTarget
      (fun target agent => H mark agent ∧ agent.proxy = target) I :=
  .query (fun _ h => ⟨h, rfl⟩) fun _ hm => h.stop _ hm

theorem TargetRule.makeTarget (howns : ownsTarget mark = true) : Yields (H mark) (do
        createTarget
        orRemove true (query (.proxy .create) fun _ => ())
        pure true)
      (fun created agent => H mark agent ∧ (created = true → ownsTarget mark = true)) I := by
  have hcreate : Preserves (H mark) createTarget := h.change howns
  have hmode : Preserves (H mark) (orRemove true (query (.proxy .create) fun _ => ())) :=
    preserves_orRemove .query fun _ => h.change howns
  refine hcreate.andThen (fun _ hm => h.stop _ hm) fun _ => ?_
  refine hmode.andThen (fun _ hm => h.stop _ hm) fun _ => ?_
  exact .pure _ fun _ h => ⟨h, fun _ => howns⟩

theorem TargetRule.ensureProxyTarget : Yields (fun agent => H mark agent ∧ (ownsTarget mark = true ∨
        ∃ mounted empty, agent.proxy = .directory mounted empty)) ensureProxyTarget
      (fun created agent => H mark agent ∧ (created = true → ownsTarget mark = true)) I := by
  refine .pointwise fun agent hagent => ?_
  have hinspect : Yields (· = agent) AdoptedFilesystem.inspectTarget
      (fun target after => after = agent ∧ target = agent.proxy) I := by
    refine .query ?_ ?_
    · rintro _ rfl
      exact ⟨rfl, rfl⟩
    · rintro _ rfl
      exact h.stop _ hagent.1
  refine hinspect.bind fun target => .assuming fun htarget => ?_
  subst htarget
  split
  · rename_i habsent
    have howns : ownsTarget mark = true := by
      rcases hagent.2 with howns | ⟨mounted, empty, hproxy⟩
      · exact howns
      · cases habsent.symm.trans hproxy
    refine (h.makeTarget howns).pre ?_
    rintro _ rfl
    exact hagent.1
  · refine .fail ?_
    rintro _ rfl
    exact h.stop _ hagent.1
  · refine .pure _ ?_
    rintro _ rfl
    exact ⟨hagent.1, by simp⟩

theorem TargetRule.removeTarget (howns : ownsTarget mark = true) : Yields (H mark) removeTarget
      (fun _ agent => H mark agent ∧ agent.proxy = .absent) I := by
  have hkeeps : Preserves (H mark) AdoptedFilesystem.removeTarget := h.change howns
  have habsent : Triple (fun _ => True) AdoptedFilesystem.removeTarget fun result (agent : Agent) =>
      result = .ok () → agent.proxy = .absent := by
    unfold AdoptedFilesystem.removeTarget changeTarget
    refine .call (fun agent after _ hsome _ => ?_) (fun _ _ => by simp)
      (fun _ _ _ _ => by simp) fun _ _ => by simp
    obtain ⟨target, htarget, rfl⟩ := Option.map_eq_some_iff.mp hsome
    have hnext : ∀ before, ProxyChange.removed.next before = some target → target = .absent := by
      rintro (_ | _ | ⟨_ | _, _ | _⟩) hbefore <;> cases hbefore
      rfl
    exact hnext _ htarget
  have hboth := Triple.and_yields (.pre habsent (fun _ _ => trivial))
    (Triple.returns hkeeps fun _ hm => h.stop _ hm)
  exact hboth.post fun _ _ h => ⟨h.1, h.2 rfl⟩

theorem TargetRule.removeFilesystemProxy :
    Yields (H mark) (removeFilesystemProxy server req mark) (fun out agent =>
      (H mark agent ∧ agent.proxy = .absent) ∧ out = { mark with filesystemProxyClaimed := false })
      I := by
  refine Preserves.query.andThen h.stop fun _ => .ite (fun _ => .fail h.stop) fun _ => ?_
  refine .ite (fun _ => .fail h.stop) fun _ => h.inspectTarget.bind fun target => ?_
  split
  · exact .pure _ fun agent h => ⟨h, rfl⟩
  · refine .pre (P := H mark) ?_ fun _ h => h.1
    refine .ite (fun _ => .fail h.stop) fun howns => .ite (fun _ => .fail h.stop) fun _ => ?_
    have howns : ownsTarget mark = true := by simpa using howns
    have hunmount : Preserves (H mark) unmountTarget := h.change howns
    refine Preserves.query.andThen h.stop fun mounted => ?_
    refine hunmount.when.andThen h.stop fun _ => ?_
    exact (h.removeTarget howns).bind fun _ => .pure _ fun agent h => ⟨h, rfl⟩

theorem TargetRule.releaseProxy (kept : Bool) :
    Yields (H mark) (releaseProxy server req kept mark) (fun out agent => H mark agent ∧
      (kept = true ∧ out = mark ∨
        agent.proxy = .absent ∧ out = { mark with filesystemProxyClaimed := false })) I := by
  refine .ite (fun hkept => .pure _ fun agent h => ⟨h, .inl ⟨hkept, rfl⟩⟩) fun _ => ?_
  exact h.removeFilesystemProxy.post fun _ _ hout => ⟨hout.1.1, .inr ⟨hout.1.2, hout.2⟩⟩

end

theorem ProxyRule.claimTarget (h : ProxyRule key H I) :
    Yields (H mark) (claimFilesystemProxyTarget key mark) (fun out agent => (H out.2 agent ∧
        (ownsTarget out.2 = true ∨ ∃ mounted empty, agent.proxy = .directory mounted empty)) ∧
      (out.2 = { mark with filesystemProxyClaimed := true } ∨ out.1 = true ∧ out.2 = mark)) I := by
  refine h.inspectTarget.bind fun target => ?_
  split
  · -- the claim is durable before the target is made
    exact (h.claim mark).bind fun _ => .pure _ fun agent h => ⟨⟨h, .inl rfl⟩, .inl rfl⟩
  · exact .fail fun _ hm => h.stop _ hm.1
  · exact .pure _ fun agent h => ⟨⟨h.1, .inr ⟨_, _, h.2⟩⟩, .inr ⟨rfl, rfl⟩⟩

theorem ProxyRule.ensureFilesystemProxy (h : ProxyRule (server.key req) H I) (verifyMount : Bool) :
    Yields (H mark) (ensureFilesystemProxy server req verifyMount mark) (fun out agent =>
      H out.2 agent ∧ out.2 = { mark with filesystemProxyClaimed := true }) I := by
  refine Preserves.query.andThen h.stop fun _ => .ite (fun _ => .fail h.stop) fun _ => ?_
  split
  · exact .fail h.stop
  refine h.claimTarget.bind fun claimed => .assuming fun hclaimed => ?_
  refine h.ensureProxyTarget.bind fun created => .assuming fun hcreated => ?_
  have hmounted : Preserves (H claimed.2) (orRemove created isMounted) :=
    preserves_orRemove .query fun hmade => h.change (hcreated hmade)
  refine hmounted.andThen h.stop fun mounted => ?_
  refine (yields_checkTarget h.stop _ _ _ _).bind fun _ => .assuming fun hallowed => ?_
  have howns : ownsTarget claimed.2 = true := by
    rcases hclaimed with hsame | ⟨hexisted, hsame⟩ <;> rw [hsame]
    · rfl
    · exact hallowed hexisted
  have hmount : Preserves (H claimed.2) (mountProxy verifyMount created mounted) :=
    preserves_mountProxy _ _ _ (h.change howns) (h.change howns) (h.change howns)
  refine hmount.andThen h.stop fun _ => .pure _ fun agent hm => ⟨h.claimed hm howns, ?_⟩
  rcases hclaimed with hsame | ⟨-, hsame⟩ <;> simp [hsame]

end Proxy

section Admission

variable {call : FilesystemCall} {token : FencingToken} {op : FenceOp} {stored : Option FencingMark}

/-- The mark that an operation goes on with: the owner's, or an import's of a
new lifecycle that says nothing yet. -/
theorem admitted_mark {adm : FenceAdmission} (hop : op ≠ .destroy) (hadm : Admits token op stored adm)
    (hstate : filesystemOperationState op call token stored = .ok false) :
    (∃ m g, stored = some m ∧ m.ended = false ∧ m.volumeUID = token.volumeUID ∧
        m.filesystem = some call.adoption ∧ m.filesystemVolumeID = call.volumeID ∧
        adm.next = { m with generation := g }) ∨
      call.importing = true ∧ (∀ m, stored = some m → m.ended = true ∧
          token.volumeUID ∉ m.endedUIDs ∧ token.volumeUID ≠ m.volumeUID ∧
          adm.next.endedUIDs = appendUID m.endedUIDs m.volumeUID) ∧
        adm.next.volumeUID = token.volumeUID ∧ adm.next.ended = false ∧
        ownsTarget adm.next = false ∧ adm.next.filesystemClients = [] := by
  unfold filesystemOperationState at hstate
  obtain ⟨hgrant, hstate⟩ := ok_of_ite_error hstate
  have hpresent : stored.all (fun m => m.ended || m.volumeUID != token.volumeUID) = true →
      call.importing = true := by
    intro habsent
    by_contra himporting
    cases op with
    | grant => exact hgrant ⟨by simpa using himporting, rfl, habsent⟩
    | revoke => simp [habsent] at hstate
    | destroy => exact hop rfl
  have hmatches : ∀ m, stored = some m → m.volumeUID = token.volumeUID →
      m.filesystem = some call.adoption ∧ m.filesystemVolumeID = call.volumeID := by
    rintro m rfl howner
    split at hstate
    · cases hstate
    · simpa [howner] using (ok_of_ite_error hstate).1
  cases hadm with
  | first => exact .inr ⟨hpresent rfl, by simp, rfl, rfl, rfl, rfl⟩
  | @successor m hretired hother hended =>
    refine .inr ⟨hpresent (by simp [hended]), ?_, rfl, rfl, rfl, rfl⟩
    rintro _ ⟨⟩
    exact ⟨hended, hretired, hother, rfl⟩
  | @terminalRetry m _ _ hended _ _ =>
    cases op with
    | grant => contradiction
    | revoke => simp [hended] at hstate
    | destroy => exact absurd rfl hop
  | @sameGeneration m _ howner hopen _ =>
    obtain ⟨hadoption, hid⟩ := hmatches m rfl howner.symm
    exact .inl ⟨m, m.generation, rfl, hopen, howner.symm, hadoption, hid, rfl⟩
  | @advance m _ howner hopen _ =>
    obtain ⟨hadoption, hid⟩ := hmatches m rfl howner.symm
    exact .inl ⟨m, token.generation, rfl, hopen, howner.symm, hadoption, hid, rfl⟩

end Admission

end PillarCsi.AdoptedFilesystem
