import PillarCsi.DurableCell
import PillarCsi.FencingAdmission
import PillarCsi.MarkFilenames

/-!
The agent's fenced operations on one volume ID, each run under the volume's
fencing lock (`internal/agent/fencing.go`, `server_volume.go`).

The mark file is a durable cell.  What the surroundings of a call answer (disk
errors, LV verification, the mutation itself) is an argument, so every
operation is a function of the marks before it.
-/

namespace PillarCsi.FencedOperations

open DurableCell FencingAdmission

abbrev MarkCell := Cell FencingMark

inductive BackendType where
  | zfsZvol
  | zfsDataset
  | lvm
  | directory
  deriving DecidableEq, Repr

/-- What became of the mutation an admitted call runs. -/
inductive MutationOutcome where
  /-- The agent stopped before the mutation was called. -/
  | interrupted
  | failed (err : FenceError)
  | succeeded
  deriving DecidableEq, Repr

/-- What the surroundings answer while one fenced call runs. -/
structure Surroundings where
  readable : Bool := true
  /-- Verification of the pinned LV, asked only for a mark that pins one. -/
  verifyLV : Except FenceError Unit := .ok ()
  /-- The search for an active adopted native owner. -/
  guardLegacy : Except FenceError Unit := .ok ()
  /-- The write, or the re-sync of an unchanged mark, before the mutation. -/
  persist : WriteOutcome := .synced
  /-- `none` is a nil mutate, which only checks and persists. -/
  mutation : Option MutationOutcome := some .succeeded
  /-- The write that records the end of the lifecycle. -/
  finish : WriteOutcome := .synced

structure Outcome where
  marks : MarkCell
  ran : Bool
  reply : Except FenceError Unit

variable (volumeID : String)

/-- The file of the mark in the agent's state directory. -/
def markFile : String :=
  "generations/" ++ String.ofList (MarkFilenames.fencingFilename volumeID.toUTF8.toList)

/-- A read, write or rename of the mark file that failed, without the system's
own words. -/
def markError (doing : String) : FenceError :=
  { code := .internal, message := s!"{doing} fencing mark {(markFile volumeID).quote}" }

def writeError : WriteOutcome → FenceError
  | .failedAfterRename => { code := .internal, message := "fsync \"generations\"" }
  | _ => markError volumeID "write"

/-- The reply that nobody gets. -/
def interruptedCall : FenceError :=
  { code := .unavailable, message := s!"agent stopped during a call for {volumeID.quote}" }

def readFencingMark (marks : MarkCell) (readable : Bool) : Except FenceError (Option FencingMark) :=
  if readable then
    match marks.visible with
    | none => .ok none
    | some m => if m.volumeUID = "" then .error (markError volumeID "corrupt") else .ok (some m)
  else .error (markError volumeID "read")

def writeFencingMark (marks : MarkCell) (mark : FencingMark)
    (outcome : WriteOutcome) : MarkCell × Except FenceError Unit :=
  (marks.write mark outcome,
    if outcome = .synced then .ok () else .error (writeError volumeID outcome))

/-- An unchanged mark is re-synced instead of rewritten, so a mark whose
earlier write failed after the rename is not trusted as durable. -/
def persistFencingMark (marks : MarkCell) (next : FencingMark)
    (changed : Bool) (outcome : WriteOutcome) : MarkCell × Except FenceError Unit :=
  if changed then
    writeFencingMark volumeID marks next outcome
  else
    (marks.sync (outcome = .synced),
      if outcome = .synced then .ok () else .error (writeError volumeID .failedAfterRename))

def verifyPinnedSource (verifyLV : Except FenceError Unit) (stored : FencingMark) :
    Except FenceError Unit :=
  match stored.lvmSource with
  | none => .ok ()
  | some _ => verifyLV

def checkFencePreconditions (op : FenceOp) (check : Option (FencingMark → Except FenceError Unit))
    (verifyLV : Except FenceError Unit) (stored : FencingMark) : Except FenceError Unit :=
  match check.elim (.ok ()) (· stored) with
  | .error err => .error err
  | .ok () => if op = .revoke then .ok () else verifyPinnedSource verifyLV stored

def guardLegacyFilesystem (backend : Option BackendType)
    (guardLegacy : Except FenceError Unit) : Except FenceError Unit :=
  match backend with
  | some .zfsDataset | some .zfsZvol => guardLegacy
  | _ => .ok ()

def prepareFencingMark (backend : Option BackendType) (token : FencingToken)
    (op : FenceOp) (guardLegacy : Except FenceError Unit)
    (stored : Option FencingMark) (adm : FenceAdmission) : Except FenceError FencingMark :=
  match if op = .revoke then .ok () else guardLegacyFilesystem backend guardLegacy with
  | .error err => .error err
  | .ok () =>
    if backend = some .zfsDataset then
      if op ≠ .revoke then
        .ok { adm.next with legacyRevokeOnly := false }
      else if stored.all fun m => m.ended || m.volumeUID != token.volumeUID then
        .ok { adm.next with legacyRevokeOnly := true }
      else .ok adm.next
    else .ok adm.next

/-- Run the admitted mutation and, for a destroy, record the lifecycle as ended
once it succeeded. -/
def runFencedMutation (op : FenceOp) (next : FencingMark)
    (env : Surroundings) (marks : MarkCell) : Outcome :=
  match env.mutation with
  | some .interrupted => ⟨marks, false, .error (interruptedCall volumeID)⟩
  | some (.failed err) => ⟨marks, true, .error err⟩
  | mutation =>
    if op = .destroy ∧ next.ended = false then
      let written := writeFencingMark volumeID marks { next with ended := true } env.finish
      ⟨written.1, mutation.isSome, written.2⟩
    else ⟨marks, mutation.isSome, .ok ()⟩

/-- Make `next` durable, then run the mutation. -/
def persistAndRun (op : FenceOp) (next : FencingMark)
    (changed : Bool) (env : Surroundings) (marks : MarkCell) : Outcome :=
  match persistFencingMark volumeID marks next changed env.persist with
  | (marks', .error err) => ⟨marks', false, .error err⟩
  | (marks', .ok ()) => runFencedMutation volumeID op next env marks'

def fencedChecked (token : FencingToken) (op : FenceOp)
    (backend : Option BackendType) (check : Option (FencingMark → Except FenceError Unit))
    (env : Surroundings) (marks : MarkCell) : Outcome :=
  match readFencingMark volumeID marks env.readable with
  | .error err => ⟨marks, false, .error err⟩
  | .ok stored =>
    match admitFencingToken volumeID token op stored with
    | .error err => ⟨marks, false, .error err⟩
    | .ok adm =>
      let mark := stored.getD {}
      if adm.decision = .admitTerminalRetry ∧ op = .destroy ∧ mark.lvmSource ≠ none then
        -- The pinned LV is gone; its locator may name another LV by now.
        let synced := persistFencingMark volumeID marks mark false env.persist
        ⟨synced.1, false, synced.2⟩
      else
        match if adm.decision = .admitTerminalRetry then .ok ()
            else checkFencePreconditions op check env.verifyLV mark with
        | .error err => ⟨marks, false, .error err⟩
        | .ok () =>
          match prepareFencingMark backend token op env.guardLegacy stored adm with
          | .error err => ⟨marks, false, .error err⟩
          | .ok next =>
            persistAndRun volumeID op next
              (adm.changed || next.legacyRevokeOnly != mark.legacyRevokeOnly) env marks

def refusePinnedCreate (stored : FencingMark) : Except FenceError Unit :=
  match stored.lvmSource with
  | none => .ok ()
  | some src =>
    .error
      { code := .failedPrecondition
        message := s!"CreateVolume {volumeID.quote}: the volume ID is pinned to adopted " ++
          s!"LV {src.volumeGroup}/{src.logicalVolume} (lv_uuid {src.logicalVolumeUUID}); " ++
          "it is never provisioned" }

def refusePreserved (op volumeID : String) (stored : FencingMark) : Except FenceError Unit :=
  if stored.preserveOriginal then
    .error
      { code := .failedPrecondition
        message := s!"{op} {volumeID.quote}: the adopted LV is pinned PreserveOriginal; " ++
          "the agent never deletes or resizes it " ++
          "(release the lifecycle with ReleaseVolume instead)" }
  else .ok ()

end PillarCsi.FencedOperations
