import PillarCsi.AdoptedFilesystem
import PillarCsi.MarkWrites
import PillarCsi.NfsOwnership

/-!
The teardown of an adopted filesystem that the controller repeats until its
record is gone: an unexport and a release, or a release alone.
-/

namespace PillarCsi.FilesystemTeardown

open DurableCell FencingAdmission FencedOperations MarkOrder OwnershipOperations
open OwnershipContracts FalliblePrograms EffectPrograms AdoptedFilesystem Program NfsConvergence

variable {server : Server} {token : FencingToken} {volumeID : String} {c : MarkCell} {owned : Bool}
  {req : Request} {t : Teardown}

def Retired (token : FencingToken) (agent : Agent) : Prop :=
  token.volumeUID ≠ "" ∧ ∃ m, agent.marks.visible = some m ∧ m.volumeUID ≠ "" ∧
    token.volumeUID ∈ m.endedUIDs

theorem visible_of_written {next : FencingMark} {o : WriteOutcome}
    (h : (writeFencingMark volumeID c next o).2.map (fun _ => false) = .ok owned) :
    owned = false ∧ (writeFencingMark volumeID c next o).1.visible = some next := by
  unfold writeFencingMark at h ⊢
  split at h
  · rename_i hsynced
    cases h
    rw [hsynced]
    exact ⟨rfl, rfl⟩
  · cases h

/-- A retirement that is answered with success says `owned` only if the export
is still there, and has retired the lifecycle otherwise. -/
theorem retireFence_ok {unexported : Bool} {env : RetireSurroundings}
    (h : (retireFence volumeID token unexported env c).2 = .ok owned) :
    owned = true ∧ unexported = false ∨ owned = false ∧ token.volumeUID ≠ "" ∧
      ∃ m, (retireFence volumeID token unexported env c).1.visible = some m ∧
        m.volumeUID ≠ "" ∧ token.volumeUID ∈ m.endedUIDs := by
  rcases retireFence_cases with ⟨_, heq, hreply⟩ | ⟨next, htoken, hnamed, hretired, heq⟩ <;>
    rw [heq] at h ⊢
  · exact hreply _ h
  · obtain ⟨rfl, hvisible⟩ := visible_of_written h
    refine .inr ⟨rfl, htoken, next, hvisible, ?_, hretired.retired⟩
    cases hretired with
    | first => exact htoken
    | @other m hm => exact hnamed m hm
    | owner _ _ hadm => exact admits_next_volumeUID hadm ▸ htoken

/-- A retirement as one write of the mark. -/
theorem triple_retireMark_of {P Q : Agent → Prop} {unexported : Bool}
    (hkept : ∀ agent, P agent → Q agent) (h : ∀ agent, P agent → ∀ env, Q { agent with
      marks := (retireFence volumeID token unexported env agent.marks).1 }) :
    Triple P (retireMark volumeID token unexported) fun _ => Q :=
  .bind (R := fun _ => P) (.draw (fun _ _ hP => hP) fun _ hP => hP)
    (fun _ => triple_onMarks (fun _ agent _ hP _ => h agent hP _) (fun _ agent _ hP _ => h agent hP _)
      hkept) fun _ => hkept

theorem triple_retireMark (volumeID : String) (unexported : Bool) :
    Triple (fun _ => True) (retireMark volumeID token unexported) (Returning fun owned agent =>
      owned = true ∧ unexported = false ∨ owned = false ∧ Retired token agent) := by
  refine triple_returning_bind fun read => ?_
  refine triple_onMarks (fun outcome agent owned _ hok => ?_) (fun _ _ _ _ _ => trivial)
    fun _ _ => trivial
  exact retireFence_ok hok

/-- A second turn never comes: the retirement after the unexport answers with
an error or is done. -/
theorem triple_releaseTurn (req : Request) (deleting : Bool) (answers : Answers) :
    Triple (fun _ => True) (releaseTurn server req deleting answers)
      (Returning fun owned agent => owned = false ∧ Retired req.token agent) := by
  refine .bind (triple_retireMark (server.key req) false) (fun owned => ?_) fun _ _ _ => trivial
  refine .ite (fun _ => ?_) fun howned => .pure _ ?_
  · refine .pre (triple_returning_bind fun _ => ?_) fun _ _ => trivial
    refine .post (triple_retireMark (server.key req) true) ?_
    rintro (stop | owned) agent h
    · trivial
    · exact Or.resolve_left h fun hfirst => nomatch hfirst.2
  · rintro agent (hfirst | hretired)
    · exact absurd hfirst.1 howned
    · exact ⟨rfl, hretired.2⟩

theorem triple_releaseFilesystem (req : Request) (deleting : Bool) (answers : Answers) :
    Triple (fun _ => True) (releaseFilesystem server req deleting answers)
      (Returning fun _ agent => Retired req.token agent) := by
  refine .bind (triple_releaseTurn req deleting answers) (fun owned => ?_) fun _ _ _ => trivial
  refine .ite (fun howned => ?_) fun _ => .pure _ fun agent h => h.2
  exact .fail fun agent h => trivial

/-- What follows a turn is told that the lifecycle no longer owns the mark. -/
theorem releaseTurn_bind (req : Request) (deleting : Bool) (answers : Answers)
    {f g : Bool → Fs Unit} (h : f false = g false) :
    releaseTurn server req deleting answers >>= f =
      releaseTurn server req deleting answers >>= g := by
  funext w
  have hturn := @triple_releaseTurn server req deleting answers w trivial
  change Program.bind _ _ w = Program.bind _ _ w
  unfold Program.bind
  revert hturn
  cases releaseTurn server req deleting answers w with
  | mk result w' =>
    cases result with
    | error stop => exact fun _ => rfl
    | ok owned =>
      rintro ⟨rfl, -⟩
      exact congrFun h w'

/-- However many turns the loop of a release may take, it ends in its first one. -/
theorem releaseTurns_succ (req : Request) (deleting : Bool) (answers : Answers) (turns : Nat) :
    releaseTurns server req deleting answers (turns + 1) =
      releaseFilesystem server req deleting answers :=
  releaseTurn_bind req deleting answers rfl

variable {agent : Agent}

theorem retireFence_idle (h : Retired token agent) (volumeID : String)
    (unexported : Bool) (env : RetireSurroundings) :
    retireFence volumeID token unexported env agent.marks =
      (agent.marks, if env.readable then .ok false else .error (markError volumeID "read")) := by
  obtain ⟨huid, m, hvisible, hnamed, hmem⟩ := h
  cases hreadable : env.readable <;>
    simp [retireFence, readFencingMark, hreadable, hvisible, hnamed, huid, hmem]

theorem retireMark_idle (h : Retired token agent) (volumeID : String) (unexported : Bool) :
    Triple (· = agent) (retireMark volumeID token unexported) fun result agent' =>
      agent' = agent ∧ ∀ owned, result = .ok owned → owned = false := by
  refine .bind (R := fun _ agent' => agent' = agent) (.draw (fun _ _ h => h) fun _ h => h)
    (fun read => ?_) fun stop agent' h => ⟨h, by simp⟩
  refine triple_onMarks ?_ ?_ fun agent' h => ⟨h, by simp⟩
  · rintro outcome agent' owned rfl hok
    rw [retireFence_idle h] at hok ⊢
    refine ⟨rfl, ?_⟩
    rintro _ ⟨⟩
    split at hok
    · exact (Except.ok.inj hok).symm
    · cases hok
  · rintro outcome agent' err rfl -
    rw [retireFence_idle h]
    exact ⟨rfl, by simp⟩

theorem releaseFilesystem_idle (h : Retired req.token agent) (deleting : Bool) (answers : Answers) :
    Triple (· = agent) (releaseFilesystem server req deleting answers) fun _ agent' =>
      agent' = agent := by
  refine .bind (R := fun result agent' => agent' = agent ∧ ∀ owned, result = .ok owned →
    owned = false) ?_ (fun owned => ?_) fun _ _ h => h.1
  · refine .bind (retireMark_idle h (server.key req) false) (fun owned => ?_)
      fun stop agent' h => ⟨h.1, by simp⟩
    rintro w ⟨hw, howned⟩
    obtain rfl := howned owned rfl
    exact ⟨hw, by rintro _ ⟨⟩; rfl⟩
  · refine .ite (fun _ => .fail fun _ h => h.1) fun _ => .pure _ fun _ h => h.1

theorem releaseFilesystem_succeeds (h : Retired req.token agent)
    (deleting : Bool) (answers : Answers) :
    (releaseFilesystem server req deleting answers).result [] agent = .ok () := by
  have hretire : retireMark (server.key req) req.token false ⟨agent, []⟩ =
      (.ok false, ⟨agent, []⟩) := by
    have hidle := retireFence_idle h (server.key req) false { readable := true, write := .synced }
    simp [retireMark, onMarks, draw, next, compute, Bind.bind, Program.bind, writeOutcome, hidle,
      Except.mapError]
  have hturn : releaseTurn server req deleting answers ⟨agent, []⟩ = (.ok false, ⟨agent, []⟩) := by
    change Program.bind _ _ ⟨agent, []⟩ = _
    unfold Program.bind
    rw [hretire]
    rfl
  change (Program.bind _ _ ⟨agent, []⟩).1 = _
  unfold Program.bind
  rw [hturn]
  rfl

theorem operation_idle (h : Retired token agent) (call : FilesystemCall) (op : FenceOp)
    (answers : Answers) (mutate : FencingMark → Fs FencingMark) :
    Triple (· = agent) (operation key call token op answers mutate) fun result agent' =>
      agent' = agent ∧ result ≠ .ok () := by
  refine .bind (R := fun _ agent' => agent' = agent) (triple_ofFence (fun _ _ _ h => h)
    fun _ _ h => h) (fun _ => ?_) fun stop agent' h => ⟨h, by simp⟩
  refine .bind (R := fun _ agent' => agent' = agent) (triple_ofFence (fun _ _ _ h => h)
    fun _ _ h => h) (fun _ => ?_) fun stop agent' h => ⟨h, by simp⟩
  refine .bind (R := fun result agent' => agent' = agent ∧
    ∀ stored, result = .ok stored → stored = agent.marks.visible) ?_ (fun stored => ?_)
    fun stop agent' h => ⟨h.1, by simp⟩
  · refine triple_readMark ?_ fun stop agent' h => ⟨h, by simp⟩
    rintro agent' rfl -
    exact ⟨rfl, by rintro _ ⟨⟩; rfl⟩
  · refine .bind (R := fun result agent' => agent' = agent ∧ ∀ adm, result ≠ .ok adm) ?_
      (fun adm => ?_) fun stop agent' h => ⟨h.1, by simp⟩
    · refine triple_ofFence ?_ fun err agent' h => ⟨h.1, by simp⟩
      rintro adm agent' hadmits ⟨rfl, hstored⟩
      obtain ⟨huid, m, hvisible, -, hmem⟩ := h
      rw [hstored stored rfl, hvisible] at hadmits
      simp [admitFencingToken, huid, hmem] at hadmits
    · exact fun w hw => absurd rfl (hw.2 adm)

structure Teardown where
  req : Request
  /-- The import was never adopted. -/
  releaseOnly : Bool

structure Attempt where
  (unexport release : Answers)
  outcomes : List FalliblePrograms.Outcome

/-- `teardownMarkedVolume` of an adopted filesystem.  It goes on after NotFound,
which neither request answers with. -/
def teardown (server : Server) (t : Teardown) (attempt : Attempt) : Fs Unit :=
  if t.releaseOnly then releaseFilesystem server t.req false attempt.release
  else do
    unexportFilesystem server t.req attempt.unexport
    releaseFilesystem server t.req false attempt.release

theorem triple_teardown (t : Teardown) (attempt : Attempt) :
    Triple (fun _ => True) (teardown server t attempt)
      (Returning fun _ agent => Retired t.req.token agent) := by
  refine .ite (fun _ => triple_releaseFilesystem _ _ _) fun _ => ?_
  exact triple_returning_bind fun _ => triple_releaseFilesystem _ _ _

theorem teardown_idle (h : Retired t.req.token agent) (attempt : Attempt) :
    Triple (· = agent) (teardown server t attempt) fun result agent' =>
      agent' = agent ∧ (t.releaseOnly = false → result ≠ .ok ()) := by
  refine .ite (fun honly => ?_) fun honly => ?_
  · exact .post (releaseFilesystem_idle h false attempt.release) fun _ _ h => ⟨h, by simp [honly]⟩
  · refine .bind (operation_idle h _ _ _ _) (fun _ => ?_)
      fun stop agent' h => ⟨h.1, by simp⟩
    exact fun w hw => absurd rfl hw.2

def retried (server : Server) (t : Teardown) (agent : Agent) (attempts : List Attempt) : Agent :=
  attempts.foldl (fun agent attempt => (teardown server t attempt).after attempt.outcomes agent) agent

theorem retried_eq (h : Retired t.req.token agent)
    (attempts : List Attempt) : retried server t agent attempts = agent := by
  induction attempts with
  | nil => rfl
  | cons attempt rest ih =>
    have hidle : (teardown server t attempt).after attempt.outcomes agent = agent :=
      (teardown_idle h attempt ⟨agent, attempt.outcomes⟩ rfl).1
    unfold retried at ih ⊢
    rw [List.foldl_cons, hidle]
    exact ih

/-- After a teardown that succeeded, further attempts leave the mark, the proxy
and the exports as they are.  An attempt that begins with the unexport is
refused, always, and a release alone succeeds whenever its calls are answered. -/
theorem teardown_repeatable (server : Server) (t : Teardown) (agent : Agent) (first : Attempt)
    (hdone : (teardown server t first).result first.outcomes agent = .ok ())
    (attempts : List Attempt) (last : Attempt) :
    let done := (teardown server t first).after first.outcomes agent
    let repeated := (teardown server t last).result last.outcomes (retried server t done attempts)
    retried server t done attempts = done ∧ (t.releaseOnly = false → repeated ≠ .ok ()) ∧
      (t.releaseOnly = true → last.outcomes = [] → repeated = .ok ()) := by
  intro done repeated
  have hretired : Retired t.req.token done := by
    have hpost := @triple_teardown server t first ⟨agent, first.outcomes⟩ trivial
    change Returning _ ((teardown server t first).result first.outcomes agent) done at hpost
    rw [hdone] at hpost
    exact hpost
  have hsame : retried server t done attempts = done := retried_eq hretired attempts
  have hrepeated : repeated = (teardown server t last).result last.outcomes done := by
    change (teardown server t last).result last.outcomes (retried server t done attempts) = _
    rw [hsame]
  refine ⟨hsame, fun hboth => ?_, fun honly houtcomes => ?_⟩
  · rw [hrepeated]
    exact (teardown_idle hretired last ⟨done, last.outcomes⟩ rfl).2 hboth
  · rw [hrepeated, houtcomes]
    unfold teardown
    rw [if_pos honly]
    exact releaseFilesystem_succeeds hretired false last.release

def sampleServer : Server where
  nfs := { plainConfig with guarded := true }
  hasManager := true
  digest _ resourceID := resourceID
  proxyPath key := some ("/srv/" ++ key)
  sourceAllowed _ := true
  numericAddress := plainAddresses.unicastAddress
  numericAddress_unicast _ _ h := h

def sampleRequest (generation : Nat) : Request :=
  { volumeID := "tank/fs"
    adoption :=
      { kind := "zfs-dataset", canonicalSource := "tank/data/fs", resourceID := "42", hostPath := "",
        filesystemType := "zfs", filesystemID := "", inode := 0, projectID := 0 }
    token := { volumeUID := "uid", generation := generation }
    capacity := 1024 }

def sampleParams (aclEnabled : Bool) : ExportParams :=
  { bindAddress := "10.0.0.1", version := "", squash := .unset, readOnly := false,
    aclEnabled := aclEnabled }

def sampleAnswers : Answers :=
  { source := .ok ()
    layout := .ok { parentDataset := "tank/data", thinPool := "", hostRoot := "" }
    pin := .ok ()
    verifyMount := true
    manager := ⟨allUsable, allUsable, allUsable, allUsable⟩
    rollback := ⟨allUsable, allUsable, allUsable, allUsable⟩ }

def bareAgent (server : Server) : Agent :=
  { marks := Cell.empty, proxy := .absent, nfs := NfsOwnership.bareHost server.nfs ∅ }

/-- An adopted filesystem that is exported to one client. -/
def exportedAgent : Agent :=
  Program.after (do
    importFilesystem sampleServer (sampleRequest 1) sampleAnswers
    let _ ← exportFilesystem sampleServer (sampleRequest 2) (sampleParams true) false [] sampleAnswers
    changeFilesystemClient sampleServer (sampleRequest 2) "10.0.0.2" sampleAnswers) []
    (bareAgent sampleServer)

def sampleTeardown (releaseOnly : Bool) : Teardown := ⟨sampleRequest 3, releaseOnly⟩

def sampleAttempt : Attempt := ⟨sampleAnswers, sampleAnswers, []⟩

def isRetired : Except (Stop FilesystemError) Unit → Bool
  | .error (.failed (.fence err)) => err.decision = some .rejectRetired
  | _ => false

/-- The unexport that follows a complete teardown is refused. -/
theorem teardown_refused_after_release :
    (teardown sampleServer (sampleTeardown false) sampleAttempt).result [] exportedAgent = .ok () ∧
      isRetired ((teardown sampleServer (sampleTeardown false) sampleAttempt).result []
        ((teardown sampleServer (sampleTeardown false) sampleAttempt).after [] exportedAgent)) =
          true := by
  exact ⟨by decide +kernel, by decide +kernel⟩

/-- An import that never reached the agent is released again and again. -/
theorem teardown_repeatable_releaseOnly :
    (teardown sampleServer (sampleTeardown true) sampleAttempt).result []
        (bareAgent sampleServer) = .ok () ∧
      (teardown sampleServer (sampleTeardown true) sampleAttempt).result []
        (retried sampleServer (sampleTeardown true)
          ((teardown sampleServer (sampleTeardown true) sampleAttempt).after []
            (bareAgent sampleServer)) [sampleAttempt, sampleAttempt]) = .ok () := by
  have hdone : (teardown sampleServer (sampleTeardown true) sampleAttempt).result []
      (bareAgent sampleServer) = .ok () := by decide +kernel
  exact ⟨hdone, (teardown_repeatable sampleServer (sampleTeardown true) (bareAgent sampleServer)
    sampleAttempt hdone [sampleAttempt, sampleAttempt] sampleAttempt).2.2 rfl rfl⟩

end PillarCsi.FilesystemTeardown
