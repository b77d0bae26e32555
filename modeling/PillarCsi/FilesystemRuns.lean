import PillarCsi.FilesystemTeardown

/-!
The operations on an adopted filesystem as the agent interleaves them
(`server_filesystem.go`).

An operation takes the fencing lock of its native key once for each of its
sections: a release to see whether its lifecycle owns the key, to withdraw the
export and to retire the lifecycle, a reconcile to bring the proxy back and for
each of its exports.  Sections of other operations may come in between.
-/

namespace PillarCsi.FilesystemRuns

open DurableCell FalliblePrograms AdoptedFilesystem TransitionSystem Program NfsManager NfsOwnership
open FilesystemTeardown

/-- An operation that takes the lock once. -/
inductive Single where
  | importing (req : Request) (answers : Answers)
  | exporting (req : Request) (params : ExportParams) (exact : Bool) (clients : List String)
      (answers : Answers)
  | unexport (req : Request) (answers : Answers)
  | allow (req : Request) (initiator : String) (answers : Answers)
  | deny (req : Request) (initiator : String) (answers : Answers)
  | localAttach (req : Request) (attach : Bool) (answers : Answers)

inductive Operation where
  | single (op : Single)
  | reconcile (req : Request) (exports : List DesiredExport) (answers : Answers)
  | release (req : Request) (deleting : Bool) (answers : Answers)

def Single.request : Single → Request
  | .importing req _ => req
  | .exporting req _ _ _ _ => req
  | .unexport req _ => req
  | .allow req _ _ => req
  | .deny req _ _ => req
  | .localAttach req _ _ => req

def Operation.request : Operation → Request
  | .single op => op.request
  | .reconcile req _ _ => req
  | .release req _ _ => req

def Single.program (server : Server) : Single → Fs Unit
  | .importing req answers => importFilesystem server req answers
  | .exporting req params exact clients answers => do
    let _ ← exportFilesystem server req params exact clients answers
    pure ()
  | .unexport req answers => unexportFilesystem server req answers
  | .allow req initiator answers => changeFilesystemClient server req initiator answers
  | .deny req initiator answers => denyFilesystemClient server req initiator answers
  | .localAttach req attach answers => localFilesystem server req attach answers

def Operation.program (server : Server) : Operation → Fs Unit
  | .single op => op.program server
  | .reconcile req exports answers => reconcileFilesystem server req exports answers
  | .release req deleting answers => releaseFilesystem server req deleting answers

/-- What an operation does while it holds the fencing lock. -/
inductive Section where
  | whole (op : Single)
  | restore (req : Request) (exports : List DesiredExport) (answers : Answers)
  | retire (req : Request) (unexported : Bool)
  | withdraw (req : Request) (deleting : Bool) (answers : Answers)

/-- The loop of a release ends in its first turn. -/
def Operation.sections : Operation → List Section
  | .single op => [.whole op]
  | .reconcile req exports answers =>
    .restore req exports answers :: exports.map fun desired =>
      .whole (.exporting req desired.params true desired.allowedInitiators desired.answers)
  | .release req deleting answers =>
    [.retire req false, .withdraw req deleting answers, .retire req true]

/-- It answers whether the operation goes on. -/
def Section.program (server : Server) : Section → Fs Bool
  | .whole op => do
    op.program server
    pure true
  | .restore req exports answers => do
    restoreFilesystem server req exports answers
    pure true
  | .retire req unexported => retireMark (server.key req) req.token unexported
  | .withdraw req deleting answers => do
    withdrawFilesystem server req deleting answers
    pure true

section Alone

variable {server : Server}

/-- Sections that nothing comes between. -/
def sequence (server : Server) : List Section → Fs Unit
  | [] => pure ()
  | first :: rest => do
    let more ← first.program server
    if more then sequence server rest else pure ()

theorem sequence_exports (req : Request) (exports : List DesiredExport) :
    sequence server (exports.map fun desired =>
        .whole (.exporting req desired.params true desired.allowedInitiators desired.answers)) =
      forEach (fun desired => do
        let _ ← exportFilesystem server req desired.params true desired.allowedInitiators
          desired.answers
        pure ()) exports := by
  induction exports with
  | nil => rfl
  | cons desired rest ih =>
    rw [List.map_cons, sequence, ih]
    simp [Section.program, Single.program, forEach]

theorem sequence_release (req : Request) (deleting : Bool) (answers : Answers) :
    sequence server (Operation.release req deleting answers).sections =
      releaseFilesystem server req deleting answers := by
  have hturn : sequence server (Operation.release req deleting answers).sections =
      releaseTurn server req deleting answers >>= fun _ => pure () := by
    simp only [Operation.sections, sequence, Section.program, releaseTurn, bind_assoc, pure_bind,
      if_true, ite_self]
    congr 1
    funext owned
    cases owned <;> simp
  rw [hturn]
  exact releaseTurn_bind req deleting answers rfl

/-- The sections of an operation make up its program. -/
theorem sequence_sections (op : Operation) :
    sequence server op.sections = op.program server := by
  cases op with
  | single op => simp [Operation.sections, sequence, Section.program, Operation.program]
  | reconcile req exports answers =>
    rw [Operation.sections, sequence, sequence_exports]
    simp [Section.program, Operation.program, reconcileFilesystem]
  | release req deleting answers => exact sequence_release req deleting answers

end Alone

/-- The agent, and what each operation in progress has still to do. -/
structure System where
  agent : Agent
  running : List (List Section)

def Agent.restart (server : Server) (agent : Agent) : Agent :=
  { agent with nfs := Host.restart server.nfs agent.nfs }

inductive Action where
  | start (op : Operation)
  /-- The next section of an operation, with how its calls end. -/
  | advance (i : Nat) (outcomes : List FalliblePrograms.Outcome)
  /-- The kernel writes renames of the mark file back. -/
  | writeback (renames : Nat)
  | restart

/-- An agent on a host where neither it nor the NFS manager ever ran. -/
def freshSystem (server : Server) (proxy : ProxyTarget) (table : ExportTable) : System :=
  { agent := { marks := Cell.empty, proxy := proxy, nfs := bareHost server.nfs table }
    running := [] }

/-- A step of the agent that owns the native key: an agent that dies in a
section is started again. -/
def step (server : Server) (key : String) (s : System) : Action → Option System
  | .start op =>
    if server.key op.request = key then
      some { s with running := s.running ++ [op.sections] }
    else none
  | .advance i outcomes =>
    match s.running[i]? with
    | some (first :: rest) =>
      let after := (first.program server).after outcomes s.agent
      match (first.program server).result outcomes s.agent with
      | .ok true => some
          { agent := after
            running := if rest.isEmpty then s.running.eraseIdx i else s.running.set i rest }
      | .error .died => some { agent := Agent.restart server after, running := [] }
      | _ => some { agent := after, running := s.running.eraseIdx i }
    | _ => none
  | .writeback renames => some { s with agent.marks := s.agent.marks.flush renames }
  | .restart => some { agent := Agent.restart server s.agent, running := [] }

def System.runs (s : System) : Action → Option Section
  | .advance i _ => s.running[i]?.bind List.head?
  | _ => none

variable {server : Server} {key : String} {s s' : System} {action : Action} {I : Agent → Prop}

/-- What the sections, the write-backs and the restarts keep. -/
theorem invariant_step (hrestart : ∀ agent, I agent → I (Agent.restart server agent))
    (hwriteback : ∀ agent renames, I agent →
      I { agent with marks := agent.marks.flush renames })
    (hsection : ∀ first ∈ s.runs action, ∀ outcomes,
      I ((first.program server).after outcomes s.agent))
    (h : I s.agent) (hstep : step server key s action = some s') : I s'.agent := by
  cases action with
  | start op =>
    obtain ⟨-, rfl⟩ := of_guard hstep
    exact h
  | advance i outcomes =>
    simp only [step] at hstep
    split at hstep
    · rename_i first rest hrunning
      have hafter := hsection first (by simp [System.runs, hrunning]) outcomes
      split at hstep <;> cases hstep
      · exact hafter
      · exact hrestart _ hafter
      · exact hafter
    · cases hstep
  | writeback renames =>
    cases hstep
    exact hwriteback _ renames h
  | restart =>
    cases hstep
    exact hrestart _ h

end PillarCsi.FilesystemRuns
