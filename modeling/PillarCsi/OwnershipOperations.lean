import PillarCsi.FencedOperations

/-!
The operations that move a volume ID between lifecycles or finish what a
fenced call began: import, retirement, recheck, recovery transfer and the
adopted-filesystem operation (`fencing.go`, `server_recovery.go`,
`server_filesystem.go`).
-/

namespace PillarCsi.OwnershipOperations

open DurableCell FencingAdmission FencedOperations

/-- `equalMarks` compares the lifecycle, the pin and the transfer record. -/
def equalMarks (a b : FencingMark) : Bool :=
  a.volumeUID == b.volumeUID && a.generation == b.generation && a.ended == b.ended &&
    a.endedUIDs == b.endedUIDs && a.lvmSource == b.lvmSource &&
    a.preserveOriginal == b.preserveOriginal && a.transfer == b.transfer

/-- An LV as the refusals name it. -/
def lvName (src : Option MarkLVMSource) : String :=
  src.elim "" fun lv => s!"{lv.volumeGroup}/{lv.logicalVolume}"

def lvUUIDs (src : Option MarkLVMSource) : String :=
  src.elim "" fun lv => s!"vg_uuid {lv.volumeGroupUUID}, lv_uuid {lv.logicalVolumeUUID}"

variable (volumeID : String)

def pinImportSource (next stored : FencingMark)
    (src : Option MarkLVMSource) (preserve : Bool) : Except FenceError FencingMark :=
  if stored.lvmSource ≠ none ∧ stored.lvmSource ≠ src then
    .error
      { code := .failedPrecondition
        message := s!"volume {volumeID.quote} is pinned to LV {lvName stored.lvmSource} " ++
          s!"({lvUUIDs stored.lvmSource}); refusing to import another source" }
  else if stored.lvmSource ≠ none ∧ stored.preserveOriginal ∧ preserve = false then
    .error
      { code := .failedPrecondition
        message := s!"volume {volumeID.quote} is pinned PreserveOriginal; " ++
          "refusing to downgrade the adoption to Managed" }
  else
    .ok { next with
      lvmSource := stored.lvmSource.or src
      preserveOriginal := stored.preserveOriginal || (src.isSome && preserve) }

/-- What the surroundings answer while an import runs.  `checks` are the
backend's read-only import checks. -/
structure ImportSurroundings where
  readable : Bool := true
  checks : Except FenceError Unit := .ok ()
  persist : WriteOutcome := .synced

/-- An import persists the admitted mark only after its checks succeeded. -/
def fencedImport (token : FencingToken)
    (src : Option MarkLVMSource) (preserve : Bool) (env : ImportSurroundings)
    (marks : MarkCell) : MarkCell × Except FenceError Unit :=
  match readFencingMark volumeID marks env.readable with
  | .error err => (marks, .error err)
  | .ok stored =>
    match admitFencingToken volumeID token .grant stored with
    | .error err => (marks, .error err)
    | .ok adm =>
      match pinImportSource volumeID adm.next (stored.getD {}) src preserve with
      | .error err => (marks, .error err)
      | .ok next =>
        match env.checks with
        | .error err => (marks, .error err)
        | .ok () =>
          persistFencingMark volumeID marks next
            (stored.all fun m => !equalMarks next m) env.persist

/-- What the surroundings answer while a retirement runs.  `check` is the
release check of the owner's mark. -/
structure RetireSurroundings where
  readable : Bool := true
  check : Option (FencingMark → Except FenceError Unit) := none
  write : WriteOutcome := .synced

/-- `retireFence` answers `owned`: the lifecycle owns the mark and the caller
has to remove its export first. -/
def retireFence (token : FencingToken) (unexported : Bool)
    (env : RetireSurroundings) (marks : MarkCell) : MarkCell × Except FenceError Bool :=
  match readFencingMark volumeID marks env.readable with
  | .error err => (marks, .error err)
  | .ok stored =>
    let uid := token.volumeUID
    let commit (next : FencingMark) : MarkCell × Except FenceError Bool :=
      let written := writeFencingMark volumeID marks next env.write
      (written.1, written.2.map fun _ => false)
    if uid = "" then
      (marks, .error (missingToken volumeID))
    else
      match stored with
      | none =>
        commit { volumeUID := uid, generation := token.generation
                 ended := true, endedUIDs := [uid] }
      | some m =>
        -- An already retired lifecycle is answered without touching the disk.
        if uid ∈ m.endedUIDs then (marks, .ok false)
        else if uid ≠ m.volumeUID then
          commit { m with endedUIDs := m.endedUIDs ++ [uid] }
        else
          match admitFencingToken volumeID token .revoke (some m) with
          | .error err => (marks, .error err)
          | .ok adm =>
            if unexported = false then (marks, .ok true)
            else
              match env.check.elim (.ok ()) (· m) with
              | .error err => (marks, .error err)
              | .ok () =>
                commit { adm.next with
                  ended := true, endedUIDs := m.endedUIDs ++ [uid] }

def markChanged : FenceError :=
  { code := .failedPrecondition
    message := s!"fencing mark of volume {volumeID.quote} changed since the operation " ++
      "was admitted"
    decision := some .rejectMarkChanged }

/-- Finish a mutation that a fenced call started, writing nothing to disk. -/
def recheckFence (token : FencingToken) (op : FenceOp)
    (env : Surroundings) (marks : MarkCell) : Outcome :=
  match readFencingMark volumeID marks env.readable with
  | .error err => ⟨marks, false, .error err⟩
  | .ok stored =>
    match admitFencingToken volumeID token op stored with
    | .error err => ⟨marks, false, .error err⟩
    | .ok adm =>
      if adm.changed then ⟨marks, false, .error (markChanged volumeID)⟩
      else
        match if op ≠ .revoke ∧ adm.decision ≠ .admitTerminalRetry then
              verifyPinnedSource env.verifyLV (stored.getD {})
            else .ok () with
        | .error err => ⟨marks, false, .error err⟩
        | .ok () =>
          match env.mutation with
          | some .interrupted => ⟨marks, false, .error (interruptedCall volumeID)⟩
          | some (.failed err) => ⟨marks, true, .error err⟩
          | mutation => ⟨marks, mutation.isSome, .ok ()⟩

/-- The agent's signed observation a recovery transfer starts from. -/
structure RecoverySnapshot where
  oldVolumeUID : String
  oldGeneration : Nat
  preserveOriginal : Bool
  deriving DecidableEq, Repr

/-- The operator's signed order to move the volume ID to a new lifecycle. -/
structure RecoveryAuthorization where
  oldVolumeUID : String
  oldGeneration : Nat
  newVolumeUID : String
  newGeneration : Nat
  lvmSource : Option MarkLVMSource
  preserveOriginal : Bool
  digest : String
  deriving DecidableEq, Repr

inductive TransferOutcome where
  | committed
  | alreadyCommitted
  | unknown
  deriving DecidableEq, Repr

structure TransferSurroundings where
  /-- Peer, recovery authority and request shape (`checkTransferRequest`). -/
  request : Except FenceError Unit := .ok ()
  readable : Bool := true
  /-- Both signatures, their validity window and their binding. -/
  signatures : Except FenceError Unit := .ok ()
  /-- The live observation that the LV is idle (`verifyTransferEvidence`). -/
  evidence : Except FenceError Unit := .ok ()
  write : WriteOutcome := .synced

def refuseTransfer (reason : String) : FenceError :=
  { code := .failedPrecondition
    message := s!"TransferVolumeOwnership {volumeID.quote}: {reason}" }

/-- The lifecycles and the source every authorization has to name. -/
def verifyAuthorizationFields (auth : RecoveryAuthorization) : Except FenceError Unit :=
  let missing (field : String) : FenceError :=
    { code := .invalidArgument
      message := s!"TransferVolumeOwnership: recoveryauth: missing required field: {field}" }
  if auth.lvmSource = none then .error (missing "lvm_source")
  else if auth.oldVolumeUID = "" then .error (missing "old_volume_uid")
  else if auth.newVolumeUID = "" then .error (missing "new_volume_uid")
  else if auth.newVolumeUID = auth.oldVolumeUID then
    .error { code := .invalidArgument
             message := "TransferVolumeOwnership: recoveryauth: malformed input: " ++
               "new_volume_uid equals old_volume_uid" }
  else .ok ()

/-- What the signatures themselves prove is the surroundings' answer. -/
def verifyTransferSignatures (auth : RecoveryAuthorization)
    (signatures : Except FenceError Unit) : Except FenceError Unit :=
  match verifyAuthorizationFields auth with
  | .error err => .error err
  | .ok () => signatures

/-- A request naming the owner is answered only as a retry of the transfer
that made it the owner. -/
def checkCommittedTransferRetry (transfer : Option MarkTransfer)
    (auth : RecoveryAuthorization) : Except FenceError Unit :=
  match transfer with
  | none =>
    .error (refuseTransfer volumeID
      s!"lifecycle {auth.newVolumeUID.quote} already owns the volume and did not gain it by a transfer")
  | some tr =>
    if tr.authorizationDigest ≠ auth.digest then
      .error (refuseTransfer volumeID
        (s!"a different authorization already committed the transfer to lifecycle " ++
          auth.newVolumeUID.quote))
    else if tr.toUID ≠ auth.newVolumeUID ∨ tr.toGeneration ≠ auth.newGeneration ∨
        tr.fromUID ≠ auth.oldVolumeUID ∨ tr.fromGeneration ≠ auth.oldGeneration then
      .error (refuseTransfer volumeID
        s!"the recorded transfer to lifecycle {auth.newVolumeUID.quote} names different endpoints")
    else .ok ()

def transferAdmittedMark (stored : FencingMark)
    (snap : RecoverySnapshot) (auth : RecoveryAuthorization)
    (evidence : Except FenceError Unit) : Except FenceError FencingMark :=
  if stored.ended then
    .error (refuseTransfer volumeID
      s!"lifecycle {stored.volumeUID.quote} already ended; a transfer cannot move an ended mark")
  else if stored.volumeUID ≠ auth.oldVolumeUID then
    .error (refuseTransfer volumeID (s!"the mark is owned by lifecycle {stored.volumeUID.quote}, " ++
      s!"not the authorized old lifecycle {auth.oldVolumeUID.quote}"))
  else if stored.generation ≠ auth.oldGeneration then
    .error (refuseTransfer volumeID (s!"the mark records generation {stored.generation} of " ++
      s!"lifecycle {stored.volumeUID.quote}, not the authorized {auth.oldGeneration}"))
  else if auth.newVolumeUID ∈ stored.endedUIDs then
    .error (refuseTransfer volumeID
      s!"destination lifecycle {auth.newVolumeUID.quote} was already retired")
  else if stored.lvmSource = none then
    .error (refuseTransfer volumeID
      "the volume ID pins no adopted LV; recovery requires an adopted source")
  else if stored.lvmSource ≠ auth.lvmSource then
    .error (refuseTransfer volumeID (s!"the authorized source {lvName auth.lvmSource} " ++
      s!"({lvUUIDs auth.lvmSource}) differs from the pinned LV {lvName stored.lvmSource}"))
  else if snap.oldVolumeUID ≠ stored.volumeUID ∨ snap.oldGeneration ≠ stored.generation then
    .error (refuseTransfer volumeID (s!"the snapshot's claimed lifecycle " ++
      s!"{snap.oldVolumeUID.quote} generation {snap.oldGeneration} is not the mark's " ++
      s!"{stored.volumeUID.quote} generation {stored.generation}"))
  else if stored.preserveOriginal ∧ auth.preserveOriginal = false then
    .error (refuseTransfer volumeID
      "the pinned PreserveOriginal policy cannot be downgraded by a transfer")
  else if snap.preserveOriginal ≠ stored.preserveOriginal then
    .error (refuseTransfer volumeID
      "the snapshot's observed preserve policy differs from the mark's")
  else
    match evidence with
    | .error err => .error err
    | .ok () =>
      .ok { volumeUID := auth.newVolumeUID, generation := auth.newGeneration
            endedUIDs := appendUID stored.endedUIDs stored.volumeUID
            lvmSource := stored.lvmSource
            preserveOriginal := stored.preserveOriginal || auth.preserveOriginal }

def transferVolumeOwnership (snap : RecoverySnapshot)
    (auth : RecoveryAuthorization) (env : TransferSurroundings) (marks : MarkCell) :
    MarkCell × Except FenceError TransferOutcome :=
  match env.request with
  | .error err => (marks, .error err)
  | .ok () =>
    match readFencingMark volumeID marks env.readable with
    | .error err => (marks, .error err)
    | .ok none =>
      (marks, .error (refuseTransfer volumeID
        ("no fencing mark records a lifecycle to transfer; " ++
          "absent or corrupt history refuses")))
    | .ok (some stored) =>
      if stored.volumeUID = auth.newVolumeUID then
        match checkCommittedTransferRetry volumeID stored.transfer auth with
        | .error err => (marks, .error err)
        | .ok () =>
          (marks.write stored env.write,
            .ok (if env.write = .synced then .alreadyCommitted else .unknown))
      else
        match verifyTransferSignatures auth env.signatures with
        | .error err => (marks, .error err)
        | .ok () =>
          match transferAdmittedMark volumeID stored snap auth env.evidence with
          | .error err => (marks, .error err)
          | .ok admitted =>
            let next : FencingMark := { admitted with
              transfer := some
                { authorizationDigest := auth.digest
                  fromUID := stored.volumeUID, fromGeneration := stored.generation
                  toUID := auth.newVolumeUID, toGeneration := auth.newGeneration } }
            (marks.write next env.write,
              match env.write with
              | .synced => .ok .committed
              | .failedAfterRename => .ok .unknown
              | .failedBeforeRename => .error (markError volumeID "write"))

/-- The mark fields a filesystem mutation maintains. -/
structure FilesystemBookkeeping where
  localAttached : Bool := false
  clients : List String := []
  isOpen : Bool := false
  exported : Bool := false
  proxyClaimed : Bool := false
  deriving DecidableEq, Repr

def withBookkeeping (mark : FencingMark) (b : FilesystemBookkeeping) : FencingMark :=
  { mark with
    localAttached := b.localAttached, filesystemClients := b.clients
    filesystemOpen := b.isOpen, filesystemExported := b.exported
    filesystemProxyClaimed := b.proxyClaimed }

structure FilesystemCall where
  adoption : FilesystemAdoption
  volumeID : String
  capacity : Int
  importing : Bool
  deriving DecidableEq, Repr

/-- What the surroundings answer while a filesystem operation runs.  The
mutation rewrites its bookkeeping in the mark as often as it likes (`rewrites`)
before it ends. -/
structure FilesystemSurroundings where
  /-- Source key, namespace and, for an import, the legacy owner. -/
  source : Except FenceError Unit := .ok ()
  readable : Bool := true
  /-- Pinning the native filesystem, asked only for a positive capacity. -/
  pin : Except FenceError Layout := .ok ⟨"", "", ""⟩
  persist : WriteOutcome := .synced
  interrupted : Bool := false
  rewrites : List (FilesystemBookkeeping × WriteOutcome) := []
  mutation : Except FenceError FilesystemBookkeeping := .ok {}
  finish : WriteOutcome := .synced

/-- Whether the operation is already satisfied (`skip`) or refused. -/
def filesystemOperationState (op : FenceOp) (call : FilesystemCall)
    (token : FencingToken) (stored : Option FencingMark) : Except FenceError Bool :=
  let absent := stored.all fun m => m.ended || m.volumeUID != token.volumeUID
  if call.importing = false ∧ op = .grant ∧ absent then
    .error
      { code := .failedPrecondition
        message := "filesystem lifecycle must be imported before publication or recovery" }
  else if op = .revoke ∧ absent then .ok true
  else if stored.any fun m => m.volumeUID == token.volumeUID &&
      (m.filesystem != some call.adoption || m.filesystemVolumeID != call.volumeID) then
    .error
      { code := .failedPrecondition
        message := "filesystem descriptor differs from durable ownership" }
  else .ok false

/-- The layout a positive capacity pins; a grant needs one. -/
def prepareFilesystemPin (op : FenceOp) (call : FilesystemCall)
    (pin : Except FenceError Layout) : Except FenceError (Option Layout) :=
  if call.capacity ≤ 0 then
    if op = .grant then
      .error
        { code := .invalidArgument
          message := "positive exact filesystem capacity required" }
    else .ok none
  else pin.map some

/-- The marks after a mutation rewrote its bookkeeping. -/
def applyRewrites (next : FencingMark) (marks : MarkCell) :
    List (FilesystemBookkeeping × WriteOutcome) → MarkCell
  | [] => marks
  | (b, outcome) :: rest => applyRewrites next (marks.write (withBookkeeping next b) outcome) rest

def commitFilesystemOperation (next stored : FencingMark)
    (changed importing : Bool) (env : FilesystemSurroundings) (marks : MarkCell) : Outcome :=
  if importing then
    -- The import's mutation only reads the pin.
    match env.mutation with
    | .error err => ⟨marks, false, .error err⟩
    | .ok _ =>
      let written := writeFencingMark volumeID marks next env.finish
      ⟨written.1, false, written.2⟩
  else
    match persistFencingMark volumeID marks next
        (changed || stored.filesystem != next.filesystem) env.persist with
    | (marks', .error err) => ⟨marks', false, .error err⟩
    | (marks', .ok ()) =>
      if env.interrupted then ⟨marks', false, .error (interruptedCall volumeID)⟩
      else
        let marks'' := applyRewrites next marks' env.rewrites
        match env.mutation with
        | .error err => ⟨marks'', true, .error err⟩
        | .ok b =>
          let written := writeFencingMark volumeID marks'' (withBookkeeping next b) env.finish
          ⟨written.1, true, written.2⟩

/-- The mark is the one of the filesystem's native key. -/
def filesystemOperation (key : String) (call : FilesystemCall) (token : FencingToken) (op : FenceOp)
    (env : FilesystemSurroundings) (marks : MarkCell) : Outcome :=
  match env.source with
  | .error err => ⟨marks, false, .error err⟩
  | .ok () =>
    match readFencingMark key marks env.readable with
    | .error err => ⟨marks, false, .error err⟩
    | .ok stored =>
      match admitFencingToken key token op stored with
      | .error err => ⟨marks, false, .error err⟩
      | .ok adm =>
        match filesystemOperationState op call token stored with
        | .error err => ⟨marks, false, .error err⟩
        | .ok true => ⟨marks, false, .ok ()⟩
        | .ok false =>
          match prepareFilesystemPin op call env.pin with
          | .error err => ⟨marks, false, .error err⟩
          | .ok layout =>
            let owned : FencingMark := { adm.next with
              filesystem := some call.adoption, filesystemVolumeID := call.volumeID }
            let next : FencingMark := match layout with
              | none => owned
              | some l => { owned with
                  filesystemCapacity := call.capacity, filesystemLayout := some l }
            commitFilesystemOperation key next (stored.getD {})
              adm.changed call.importing env marks

end PillarCsi.OwnershipOperations
