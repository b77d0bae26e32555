import PillarCsi.AgentRuns
import PillarCsi.History
import PillarCsi.OwnershipContracts

/-!
The order of mutations on one volume ID over whole runs of the agent.
-/

namespace PillarCsi.FencingOrder

open DurableCell FencingAdmission FencedOperations OwnershipOperations FencingContracts
open OwnershipContracts AgentRuns History TransitionSystem

/-- The lifecycle an event shows at work on the volume ID. -/
def holder : Event → Option String
  | .ran token _ => some token.volumeUID
  | .owned uid => some uid
  | _ => none

structure MutationOrder (h : List Event) : Prop where
  /-- No lifecycle mutates again after another one mutated or owned the ID. -/
  contiguous : ∀ t m e t' m', Between h (.ran t m) e (.ran t' m') →
    t'.volumeUID = t.volumeUID → ∀ uid, holder e = some uid → uid = t.volumeUID
  generations : ∀ t m t' m', Before h (.ran t m) (.ran t' m') →
    t'.volumeUID = t.volumeUID → t.generation ≤ t'.generation
  destroyed : ∀ uid t m, Before h (.destroyed uid) (.ran t m) → m.op = .grant →
    t.volumeUID ≠ uid
  transferred : ∀ uid t m, Before h (.transferred uid) (.ran t m) → t.volumeUID ≠ uid

def RetirementOrder (h : List Event) : Prop :=
  ∀ uid t m, Before h (.retired uid) (.ran t m) → t.volumeUID ≠ uid

/-- The durable mark remembers what the history shows.  `trusted` says that
answers of the retirement may be relied on. -/
structure Recorded (trusted : Prop) (h : List Event) (c : MarkCell) : Prop where
  ran : ∀ t m, .ran t m ∈ h → c.Settled (Covers t)
  replaced : ∀ t m e, Before h (.ran t m) e → ∀ uid, holder e = some uid →
    uid ≠ t.volumeUID → c.Settled (RetiredIn t.volumeUID)
  destroyed : ∀ uid, .destroyed uid ∈ h → c.Settled (EndedFor uid)
  transferred : ∀ uid, .transferred uid ∈ h → c.Settled (RetiredIn uid)
  retired : trusted → ∀ uid, .retired uid ∈ h → c.Settled (RetiredIn uid)
  order : MutationOrder h
  retirementOrder : trusted → RetirementOrder h

variable {trusted : Prop} {h : List Event} {c c' : MarkCell} {e : Event} {mutation : Mutation}
  {r : Outcome} {volumeID : String}

theorem recorded_nil : Recorded trusted [] c where
  ran := by simp
  replaced := fun t m e hbefore => absurd hbefore (not_before_nil _ _)
  destroyed := by simp
  transferred := by simp
  retired := by simp
  order :=
    { contiguous := fun _ _ _ _ _ hbetween => absurd hbetween (not_between_nil _ _ _)
      generations := fun _ _ _ _ hbefore => absurd hbefore (not_before_nil _ _)
      destroyed := fun _ _ _ hbefore => absurd hbefore (not_before_nil _ _)
      transferred := fun _ _ _ hbefore => absurd hbefore (not_before_nil _ _) }
  retirementOrder := fun _ _ _ _ hbefore => absurd hbefore (not_before_nil _ _)

theorem Recorded.advance (hrec : Recorded trusted h c) (hadv : c.Advances c') :
    Recorded trusted h c' where
  ran := fun t m hmem => (hrec.ran t m hmem).advance covers_mono hadv
  replaced := fun t m e hbefore uid huid hne =>
    (hrec.replaced t m e hbefore uid huid hne).advance retiredIn_mono hadv
  destroyed := fun uid hmem => (hrec.destroyed uid hmem).advance endedFor_mono hadv
  transferred := fun uid hmem => (hrec.transferred uid hmem).advance retiredIn_mono hadv
  retired := fun ht uid hmem => (hrec.retired ht uid hmem).advance retiredIn_mono hadv
  order := hrec.order
  retirementOrder := hrec.retirementOrder

theorem MutationOrder.cons (ho : MutationOrder h)
    (hne : ∀ t m, e ≠ .ran t m) : MutationOrder (e :: h) where
  contiguous := by
    intro t m x t' m' hbetween
    rcases between_cons.mp hbetween with hold | ⟨heq, -⟩
    · exact ho.contiguous t m x t' m' hold
    · exact absurd heq.symm (hne t' m')
  generations := by
    intro t m t' m' hbefore
    rcases before_cons.mp hbefore with hold | ⟨heq, -⟩
    · exact ho.generations t m t' m' hold
    · exact absurd heq.symm (hne t' m')
  destroyed := by
    intro uid t m hbefore
    rcases before_cons.mp hbefore with hold | ⟨heq, -⟩
    · exact ho.destroyed uid t m hold
    · exact absurd heq.symm (hne t m)
  transferred := by
    intro uid t m hbefore
    rcases before_cons.mp hbefore with hold | ⟨heq, -⟩
    · exact ho.transferred uid t m hold
    · exact absurd heq.symm (hne t m)

theorem retirementOrder_cons (ho : RetirementOrder h)
    (hne : ∀ t m, e ≠ .ran t m) : RetirementOrder (e :: h) := by
  intro uid t m hbefore
  rcases before_cons.mp hbefore with hold | ⟨heq, -⟩
  · exact ho uid t m hold
  · exact absurd heq.symm (hne t m)

variable {token : FencingToken}

theorem exists_mark_of_ranUnder {op : FenceOp} (hran : RanUnder token op c c') :
    ∃ d, Authorizes token op d ∧ c'.Settled (d ≤ ·) ∧
      ∀ p : FencingMark → Prop, (∀ a b, a ≤ b → p a → p b) → c.Settled p → p d := by
  obtain ⟨mid, hbefore, hafter, d, hd, hauth⟩ := hran
  refine ⟨d, hauth, ?_, ?_⟩
  · exact Cell.Settled.advance (fun a b hab hda => le_trans hda hab) ⟨d, hd, le_refl d⟩
      hafter.advances
  · intro p hp hsettled
    obtain ⟨d', hd', hpd⟩ := hsettled.advance hp hbefore.advances
    rw [hd] at hd'
    cases hd'
    exact hpd

structure Noted (trusted : Prop) (e : Event) (c : MarkCell) : Prop where
  not_ran : ∀ t m, e ≠ .ran t m
  holder : ∀ uid, holder e = some uid → c.Settled (·.volumeUID = uid)
  destroyed : ∀ uid, e = .destroyed uid → c.Settled (EndedFor uid)
  transferred : ∀ uid, e = .transferred uid → c.Settled (RetiredIn uid)
  retired : trusted → ∀ uid, e = .retired uid → c.Settled (RetiredIn uid)

theorem Recorded.note (hrec : Recorded trusted h c)
    (he : Noted trusted e c) : Recorded trusted (e :: h) c where
  ran := by
    intro t m hmem
    rcases List.mem_cons.mp hmem with heq | hmem
    · exact absurd heq.symm (he.not_ran t m)
    · exact hrec.ran t m hmem
  replaced := by
    intro t m x hbefore uid huid hne
    rcases before_cons.mp hbefore with hold | ⟨rfl, hmem⟩
    · exact hrec.replaced t m x hold uid huid hne
    · obtain ⟨d, hd, howner⟩ := he.holder uid huid
      obtain ⟨d', hd', hcovers⟩ := hrec.ran t m hmem
      rw [hd] at hd'
      cases hd'
      rcases hcovers with ⟨hsame, -⟩ | hretired
      · exact absurd (howner.symm.trans hsame) hne
      · exact ⟨d, hd, hretired⟩
  destroyed := by
    intro uid hmem
    rcases List.mem_cons.mp hmem with heq | hmem
    · exact he.destroyed uid heq.symm
    · exact hrec.destroyed uid hmem
  transferred := by
    intro uid hmem
    rcases List.mem_cons.mp hmem with heq | hmem
    · exact he.transferred uid heq.symm
    · exact hrec.transferred uid hmem
  retired := by
    intro ht uid hmem
    rcases List.mem_cons.mp hmem with heq | hmem
    · exact he.retired ht uid heq.symm
    · exact hrec.retired ht uid hmem
  order := hrec.order.cons he.not_ran
  retirementOrder := fun ht => retirementOrder_cons (hrec.retirementOrder ht) he.not_ran

theorem Recorded.order_ran (hrec : Recorded trusted h c) (hran : RanUnder token mutation.op c c') :
    MutationOrder (.ran token mutation :: h) := by
  obtain ⟨d, hauth, -, hsettled⟩ := exists_mark_of_ranUnder hran
  have hactive : ∀ uid, c.Settled (RetiredIn uid) → token.volumeUID ≠ uid := by
    rintro uid hretired rfl
    exact hauth.not_retired (hsettled _ retiredIn_mono hretired)
  constructor
  · intro t m e t' m' hbetween hsame uid huid
    rcases between_cons.mp hbetween with hold | ⟨heq, hbefore⟩
    · exact hrec.order.contiguous t m e t' m' hold hsame uid huid
    · by_contra hne
      cases heq
      exact hactive _ (hrec.replaced t m e hbefore uid huid hne) hsame
  · intro t m t' m' hbefore hsame
    rcases before_cons.mp hbefore with hold | ⟨heq, hmem⟩
    · exact hrec.order.generations t m t' m' hold hsame
    · cases heq
      rcases hsettled _ covers_mono (hrec.ran t m hmem) with ⟨-, hle⟩ | hretired
      · exact hle.trans hauth.generation.le
      · exact absurd (hsame ▸ hretired) hauth.not_retired
  · intro uid t m hbefore hgrant
    rcases before_cons.mp hbefore with hold | ⟨heq, hmem⟩
    · exact hrec.order.destroyed uid t m hold hgrant
    · cases heq
      rintro rfl
      rcases hsettled _ endedFor_mono (hrec.destroyed _ hmem) with ⟨-, hended⟩ | hretired
      · rw [hauth.grant_open hgrant] at hended
        cases hended
      · exact hauth.not_retired hretired
  · intro uid t m hbefore
    rcases before_cons.mp hbefore with hold | ⟨heq, hmem⟩
    · exact hrec.order.transferred uid t m hold
    · cases heq
      exact hactive uid (hrec.transferred uid hmem)

theorem Recorded.run (hrec : Recorded trusted h c) (hfollows : Follows c c')
    (hran : RanUnder token mutation.op c c') : Recorded trusted (.ran token mutation :: h) c' := by
  have hnext := hrec.advance hfollows.advances
  obtain ⟨d, hauth, hafter, hsettled⟩ := exists_mark_of_ranUnder hran
  have hlater : ∀ p : FencingMark → Prop, (∀ a b, a ≤ b → p a → p b) → p d →
      c'.Settled p := by
    intro p hp hpd
    obtain ⟨x, hx, hle⟩ := hafter
    exact ⟨x, hx, hp d x hle hpd⟩
  refine ⟨?_, ?_, ?_, ?_, ?_, hrec.order_ran hran, ?_⟩
  · intro t m hmem
    rcases List.mem_cons.mp hmem with heq | hmem
    · cases heq
      exact hlater _ covers_mono hauth.covers
    · exact hnext.ran t m hmem
  · intro t m e hbefore uid huid hne
    rcases before_cons.mp hbefore with hold | ⟨rfl, hmem⟩
    · exact hnext.replaced t m e hold uid huid hne
    · -- the mark that authorizes this mutation has seen the earlier one
      rcases hsettled _ covers_mono (hrec.ran t m hmem) with ⟨howner, -⟩ | hretired
      · cases huid
        exact absurd (hauth.volumeUID.symm.trans howner) hne
      · exact hlater _ retiredIn_mono hretired
  · intro uid hmem
    exact hnext.destroyed uid (by simpa using hmem)
  · intro uid hmem
    exact hnext.transferred uid (by simpa using hmem)
  · intro ht uid hmem
    exact hnext.retired ht uid (by simpa using hmem)
  · intro ht uid t m hbefore
    rcases before_cons.mp hbefore with hold | ⟨heq, hmem⟩
    · exact hrec.retirementOrder ht uid t m hold
    · cases heq
      rintro rfl
      exact hauth.not_retired (hsettled _ retiredIn_mono (hrec.retired ht _ hmem))

structure AgentInvariant (trusted : Prop) (s : AgentState) : Prop where
  valid : Valid s.marks
  prepared : ∀ token ∈ s.prepared, s.marks.Settled (Covers token)
  recorded : Recorded trusted s.history s.marks

theorem agentInvariant_initial : AgentInvariant trusted initial :=
  ⟨valid_empty, by simp [initial], recorded_nil⟩

variable {s : AgentState}

theorem AgentInvariant.record (hinv : AgentInvariant trusted s)
    {events : List Event} (hfollows : Follows s.marks c)
    (hrec : Recorded trusted (events ++ s.history) c) :
    AgentInvariant trusted (s.record c events) := by
  refine ⟨hfollows.valid, fun token hmem => ?_, ?_⟩
  · exact (hinv.prepared token hmem).advance covers_mono hfollows.advances
  · change Recorded trusted ((c.durable.map fun d => Event.owned d.volumeUID).toList ++
      (events ++ s.history)) c
    cases hd : c.durable with
    | none => exact hrec
    | some d =>
      refine hrec.note ⟨by simp, ?_, by simp, by simp, by simp⟩
      intro uid huid
      cases huid
      exact ⟨d, hd, rfl⟩

theorem Recorded.ranEvents (hrec : Recorded trusted s.history s.marks) (mutation : Mutation)
    (hr : Contract token mutation.op s.marks r) :
    Recorded trusted (ranEvents token mutation r ++ s.history) r.marks := by
  cases hran : r.ran with
  | false =>
    simp only [AgentRuns.ranEvents, hran]
    exact hrec.advance hr.follows.advances
  | true =>
    simp only [AgentRuns.ranEvents, hran]
    exact hrec.run hr.follows (hr.ran hran)

theorem Recorded.fencedEvents (hrec : Recorded trusted s.history s.marks) {call : FencedCall}
    (hr : FencedContract token call.op s.marks r) :
    Recorded trusted (fencedEvents token call r ++ s.history) r.marks := by
  have hran := hrec.ranEvents (.call call) hr.toContract
  unfold AgentRuns.fencedEvents
  split
  · rename_i hdestroyed
    refine hran.note ⟨by simp, by simp [holder], ?_, by simp, by simp⟩
    intro uid heq
    cases heq
    exact hr.ended hdestroyed.1 hdestroyed.2
  · exact hran

theorem transferEvents_cases (auth : RecoveryAuthorization)
    (r : Except FenceError TransferOutcome) :
    transferEvents auth r = [] ∨ (transferEvents auth r = [.transferred auth.oldVolumeUID] ∧
      (r = .ok .committed ∨ r = .ok .alreadyCommitted)) := by
  cases r with
  | error err => exact .inl rfl
  | ok outcome =>
    cases outcome with
    | committed => exact .inr ⟨rfl, .inl rfl⟩
    | alreadyCommitted => exact .inr ⟨rfl, .inr rfl⟩
    | unknown => exact .inl rfl

/-- An answer that a lifecycle is already retired is given only when its
retirement is durable. -/
def RetirementDurable (s : AgentState) : AgentAction → Prop
  | .retire token _ _ => ∀ m, s.marks.visible = some m → token.volumeUID ∈ m.endedUIDs →
      s.marks.Settled (RetiredIn token.volumeUID)
  | _ => True

theorem step_follows {t : AgentState} {a : AgentAction}
    (hinv : AgentInvariant trusted s) (hstep : step volumeID s a = some t) :
    Follows s.marks t.marks := by
  cases a with
  | fenced call token backend env =>
    have hr := fencedChecked_contract volumeID token call.op backend
      (call.check volumeID) env hinv.valid
    cases hstep
    split
    · exact hr.follows
    · exact hr.follows
  | importVolume token src preserve env =>
    cases hstep
    exact fencedImport_follows hinv.valid src preserve env
  | retire token unexported env =>
    cases hstep
    exact retireFence_follows hinv.valid unexported env
  | recheck token env =>
    simp only [step] at hstep
    obtain ⟨hprepared, rfl⟩ := of_guard hstep
    exact (recheckFence_contract volumeID .grant env hinv.valid
      (hinv.prepared token hprepared)).follows
  | transfer snap auth env =>
    cases hstep
    exact transferVolumeOwnership_follows hinv.valid snap auth env
  | filesystem revoking call token env =>
    cases hstep
    exact (filesystemOperation_contract hinv.valid call env).follows
  | flush k =>
    cases hstep
    exact hinv.valid.flush k
  | crash k =>
    cases hstep
    exact hinv.valid.crash k
  | restart =>
    cases hstep
    exact hinv.valid.follows

theorem step_agentInvariant (volumeID : String) (s : AgentState) (a : AgentAction)
    (t : AgentState) (hinv : AgentInvariant trusted s)
    (hcond : trusted → RetirementDurable s a) (hstep : step volumeID s a = some t) :
    AgentInvariant trusted t := by
  have hfollows := step_follows hinv hstep
  have hrec := hinv.recorded.advance hfollows.advances
  cases a with
  | fenced call token backend env =>
    have hr := fencedChecked_contract volumeID token call.op backend
      (call.check volumeID) env hinv.valid
    have hnext := hinv.record hr.follows (hinv.recorded.fencedEvents hr)
    cases hstep
    split
    · rename_i hpassed
      refine ⟨hnext.valid, ?_, hnext.recorded⟩
      intro x hx
      rcases List.mem_cons.mp hx with rfl | hx
      · exact hr.passed hpassed.2
      · exact hnext.prepared x hx
    · exact hnext
  | importVolume token src preserve env =>
    cases hstep
    exact hinv.record hfollows hrec
  | retire token unexported env =>
    cases hstep
    refine hinv.record hfollows ?_
    split
    · rename_i hok
      refine hrec.note ⟨by simp, by simp [holder], by simp, by simp, ?_⟩
      intro ht uid heq
      cases heq
      exact retireFence_retired hok (hcond ht)
    · exact hrec
  | recheck token env =>
    simp only [step] at hstep
    obtain ⟨hprepared, rfl⟩ := of_guard hstep
    have hr := recheckFence_contract volumeID .grant env hinv.valid
      (hinv.prepared token hprepared)
    exact hinv.record hr.follows (hinv.recorded.ranEvents (.call .grantExport) hr)
  | transfer snap auth env =>
    cases hstep
    refine hinv.record hfollows ?_
    rcases transferEvents_cases auth
      (transferVolumeOwnership volumeID snap auth env s.marks).2 with heq | ⟨heq, hok⟩
    · rw [heq]
      exact hrec
    · rw [heq]
      refine hrec.note ⟨by simp, by simp [holder], by simp, ?_, by simp⟩
      intro uid huid
      cases huid
      exact transferVolumeOwnership_retired hinv.valid hok
  | filesystem revoking call token env =>
    cases hstep
    exact hinv.record hfollows
      (hinv.recorded.ranEvents _ (filesystemOperation_contract hinv.valid call env))
  | flush k =>
    cases hstep
    exact hinv.record hfollows hrec
  | crash k =>
    cases hstep
    have hnext : AgentInvariant trusted (s.record (s.marks.crash k) []) := hinv.record hfollows hrec
    exact ⟨hnext.valid, by simp, hnext.recorded⟩
  | restart =>
    cases hstep
    exact ⟨hinv.valid, by simp, hinv.recorded⟩

theorem run_agentInvariant (trusted : Prop) {actions : List AgentAction}
    (hrun : run (step volumeID) initial actions = some s)
    (hcond : trusted → AllSteps (step volumeID) RetirementDurable initial actions) :
    AgentInvariant trusted s := by
  by_cases ht : trusted
  · exact invariant_run_of_allSteps
      (fun s a t hinv hdurable => step_agentInvariant volumeID s a t hinv fun _ => hdurable)
      agentInvariant_initial (hcond ht) hrun
  · exact invariant_run
      (fun s a t hinv => step_agentInvariant volumeID s a t hinv fun h => absurd h ht)
      agentInvariant_initial hrun

/-- Mutations of one volume ID run lifecycle by lifecycle, in the order of
their generations, never as a grant after a destroy was answered and never
after the lifecycle was transferred away; and, when no retirement is answered
from a mark that is not durable, never after the lifecycle was retired. -/
theorem mutations_ordered (volumeID : String) :
    (∀ actions s, run (step volumeID) initial actions = some s → MutationOrder s.history ∧
        (AllSteps (step volumeID) RetirementDurable initial actions → RetirementOrder s.history)) ∧
    (∀ states actions, states 0 = initial → IsInfiniteRun (step volumeID) states actions →
      ∀ n, MutationOrder (states n).history ∧ ((∀ k, RetirementDurable (states k) (actions k)) →
          RetirementOrder (states n).history)) := by
  have hfinite : ∀ actions s, run (step volumeID) initial actions = some s →
      MutationOrder s.history ∧
        (AllSteps (step volumeID) RetirementDurable initial actions →
          RetirementOrder s.history) := by
    intro actions s hrun
    refine ⟨(run_agentInvariant False hrun nofun).recorded.order, ?_⟩
    intro hcond
    exact (run_agentInvariant True hrun fun _ => hcond).recorded.retirementOrder
      trivial
  refine ⟨hfinite, ?_⟩
  intro states actions hinit hrun n
  have hrange := hrun.run_range n
  rw [hinit] at hrange
  obtain ⟨horder, hretired⟩ := hfinite _ _ hrange
  refine ⟨horder, fun hcond => hretired ?_⟩
  have hall := hrun.allSteps_range hcond n
  rwa [hinit] at hall

def durableRelease : List AgentAction :=
  [.fenced .createVolume ⟨"a", 1⟩ none {},
    .retire ⟨"a", 1⟩ true {},
    .retire ⟨"a", 1⟩ false {},
    .crash 0,
    .fenced .createVolume ⟨"b", 1⟩ none {}]

theorem durableRelease_allSteps :
    AllSteps (step "pool/vol") RetirementDurable initial durableRelease := by
  refine ⟨trivial, fun t ht => ?_⟩
  cases ht
  refine ⟨?_, fun t ht => ?_⟩
  · intro m hm hmem
    cases hm
    cases hmem
  cases ht
  refine ⟨?_, fun t ht => ?_⟩
  · intro m hm hmem
    exact ⟨m, hm, hmem⟩
  cases ht
  refine ⟨trivial, fun t ht => ?_⟩
  cases ht
  exact ⟨trivial, fun t ht => trivial⟩

theorem mutations_ordered_durableRelease :
    ∃ s, run (step "pool/vol") initial durableRelease = some s ∧
      Event.retired "a" ∈ s.history ∧ MutationOrder s.history ∧ RetirementOrder s.history := by
  obtain ⟨horder, hretired⟩ := (mutations_ordered "pool/vol").1 durableRelease _ rfl
  exact ⟨_, rfl, by decide, horder, hretired durableRelease_allSteps⟩

/-- A release whose mark write failed after the rename is answered as done by
its retry; a crash then brings the released lifecycle back. -/
theorem retirement_lost_after_crash : ∃ actions s, run (step "pool/vol") initial actions = some s ∧
      ¬ RetirementOrder s.history := by
  let token : FencingToken := ⟨"a", 1⟩
  refine ⟨[.fenced .createVolume token none {},
    .retire token false {},
    .fenced .revokeExport token none {},
    .retire token true { write := .failedAfterRename },
    .retire token false {},
    .crash 0,
    .fenced .createVolume token none {}], _, rfl, ?_⟩
  intro horder
  exact horder "a" token (.call .createVolume) (by decide) rfl

end PillarCsi.FencingOrder
