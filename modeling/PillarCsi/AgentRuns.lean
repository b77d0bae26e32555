import PillarCsi.OwnershipOperations
import PillarCsi.TransitionSystem

/-!
Runs of the agent on one volume ID: every request that touches the fencing
mark, disk failures, host crashes and restarts of the agent process.
-/

namespace PillarCsi.AgentRuns

open DurableCell FencingAdmission FencedOperations OwnershipOperations

/-- The calls that reach the backend or an export through `fencedChecked`. -/
inductive FencedCall where
  | createVolume
  | expandVolume
  | deleteVolume
  /-- Export, AllowInitiator, SetLocalAttach and a reconcile's prepare phase. -/
  | grantExport
  /-- Unexport and DenyInitiator. -/
  | revokeExport
  deriving DecidableEq, Repr

def FencedCall.op : FencedCall → FenceOp
  | .createVolume | .expandVolume | .grantExport => .grant
  | .revokeExport => .revoke
  | .deleteVolume => .destroy

def FencedCall.check (volumeID : String) :
    FencedCall → Option (FencingMark → Except FenceError Unit)
  | .createVolume => some (refusePinnedCreate volumeID)
  | .expandVolume => some (refusePreserved "ExpandVolume" volumeID)
  | .deleteVolume => some (refusePreserved "DeleteVolume" volumeID)
  | .grantExport | .revokeExport => none

inductive Mutation where
  | call (c : FencedCall)
  | filesystem (revoking : Bool)
  deriving DecidableEq, Repr

def Mutation.op : Mutation → FenceOp
  | .call c => c.op
  | .filesystem revoking => if revoking then .revoke else .grant

inductive Event where
  /-- The mutation was called, whatever it returned. -/
  | ran (token : FencingToken) (mutation : Mutation)
  /-- The lifecycle owns the durable mark. -/
  | owned (uid : String)
  | destroyed (uid : String)
  /-- A retirement was answered with success. -/
  | retired (uid : String)
  /-- A transfer away from the lifecycle was answered as committed. -/
  | transferred (uid : String)
  deriving DecidableEq, Repr

structure AgentState where
  marks : MarkCell
  /-- Tokens whose prepare phase this agent process finished. -/
  prepared : List FencingToken
  /-- Newest first. -/
  history : List Event

def initial : AgentState := ⟨Cell.empty, [], []⟩

inductive AgentAction where
  | fenced (call : FencedCall) (token : FencingToken) (backend : Option BackendType)
      (env : Surroundings)
  | importVolume (token : FencingToken) (src : Option MarkLVMSource) (preserve : Bool)
      (env : ImportSurroundings)
  | retire (token : FencingToken) (unexported : Bool) (env : RetireSurroundings)
  /-- The link phase of a reconcile, which only follows its prepare phase. -/
  | recheck (token : FencingToken) (env : Surroundings)
  | transfer (snap : RecoverySnapshot) (auth : RecoveryAuthorization)
      (env : TransferSurroundings)
  | filesystem (revoking : Bool) (call : FilesystemCall) (token : FencingToken)
      (env : FilesystemSurroundings)
  /-- The kernel writes some renames back on its own. -/
  | flush (k : Nat)
  /-- The host goes down and keeps the first `k` unsynced renames. -/
  | crash (k : Nat)
  /-- The agent process restarts; the file system keeps what is visible. -/
  | restart

/-- Record what a request did, its events newest first, and who owns the
durable mark now. -/
def AgentState.record (s : AgentState) (marks : MarkCell) (events : List Event) : AgentState :=
  { s with
    marks := marks
    history := (marks.durable.map fun d => Event.owned d.volumeUID).toList ++
      (events ++ s.history) }

def ranEvents (token : FencingToken) (mutation : Mutation) (r : Outcome) : List Event :=
  if r.ran then [.ran token mutation] else []

def fencedEvents (token : FencingToken) (call : FencedCall) (r : Outcome) : List Event :=
  (if call.op = .destroy ∧ r.reply = .ok () then [.destroyed token.volumeUID] else []) ++
    ranEvents token (.call call) r

def transferEvents (auth : RecoveryAuthorization) : Except FenceError TransferOutcome → List Event
  | .ok .committed | .ok .alreadyCommitted => [.transferred auth.oldVolumeUID]
  | _ => []

def step (volumeID : String) (s : AgentState) : AgentAction → Option AgentState
  | .fenced call token backend env =>
    let r := fencedChecked volumeID token call.op backend (call.check volumeID) env s.marks
    let t := s.record r.marks (fencedEvents token call r)
    some (if call = .grantExport ∧ r.reply = .ok () then
      { t with prepared := token :: t.prepared } else t)
  | .importVolume token src preserve env =>
    some (s.record (fencedImport volumeID token src preserve env s.marks).1 [])
  | .retire token unexported env =>
    let r := retireFence volumeID token unexported env s.marks
    some (s.record r.1 (if r.2 = .ok false then [.retired token.volumeUID] else []))
  | .recheck token env =>
    if token ∈ s.prepared then
      let r := recheckFence volumeID token .grant env s.marks
      some (s.record r.marks (ranEvents token (.call .grantExport) r))
    else none
  | .transfer snap auth env =>
    let r := transferVolumeOwnership volumeID snap auth env s.marks
    some (s.record r.1 (transferEvents auth r.2))
  | .filesystem revoking call token env =>
    let r := filesystemOperation volumeID call token (Mutation.filesystem revoking).op env s.marks
    some (s.record r.marks (ranEvents token (.filesystem revoking) r))
  | .flush k => some (s.record (s.marks.flush k) [])
  | .crash k => some { s.record (s.marks.crash k) [] with prepared := [] }
  | .restart => some { s with prepared := [] }

end PillarCsi.AgentRuns
