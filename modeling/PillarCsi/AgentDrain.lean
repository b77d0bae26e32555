import PillarCsi.ThreadLists
import PillarCsi.TransitionSystem

/-!
The drain of the agent (`internal/agent/server_drain.go`): `Drain` sets a flag,
then takes the write side of a gate whose read side every other call holds while
its handler runs.

A step is one atomic action of one call.  A waiting writer keeps readers out of
the gate or does not: the steps allow both.  No code outside of a handler takes
a target lock, so `waitForTargetLocks` does not wait.
-/

namespace PillarCsi.AgentDrain

open ThreadLists TransitionSystem

/-- Where a call other than `Drain` is in `DrainGuardInterceptor`. -/
inductive Call where
  | called
  /-- The flag was clear at the first check. -/
  | checked
  | locked
  /-- The flag was clear at the second check too. -/
  | admitted
  | handling
  /-- The handler returned, or the second check refused. -/
  | leaving
  | returned
  deriving DecidableEq, Repr

inductive DrainResult where
  | first
  | wasAlreadyDrained
  | failed
  deriving DecidableEq, Repr

inductive DrainCall where
  | called
  /-- The swap found the flag clear. -/
  | draining
  | locked
  | leaving (result : DrainResult)
  | returned (result : DrainResult)
  deriving DecidableEq, Repr

structure State where
  drained : Bool := false
  /-- The read-write lock `drainGate`. -/
  readers : Nat := 0
  writer : Bool := false
  calls : List Call := []
  drains : List DrainCall := []
  deriving DecidableEq, Repr

inductive Action where
  | call
  | drain
  | step (i : Nat)
  /-- Drain `i` does its next step; `marked` tells whether the marker could be
  written. -/
  | drainStep (i : Nat) (marked : Bool)
  deriving DecidableEq, Repr

/-- `DrainGuardInterceptor`. -/
def stepCall (s : State) (i : Nat) : Call → Option State
  | .called => some { s with calls := s.calls.set i (if s.drained then .returned else .checked) }
  | .checked =>
    if s.writer then none
    else some { s with readers := s.readers + 1, calls := s.calls.set i .locked }
  | .locked => some { s with calls := s.calls.set i (if s.drained then .leaving else .admitted) }
  | .admitted => some { s with calls := s.calls.set i .handling }
  | .handling => some { s with calls := s.calls.set i .leaving }
  | .leaving => some { s with readers := s.readers - 1, calls := s.calls.set i .returned }
  | .returned => none

def stepDrain (s : State) (i : Nat) (marked : Bool) : DrainCall → Option State
  | .called =>
    some { s with
      drained := true
      drains := s.drains.set i (if s.drained then .returned .wasAlreadyDrained else .draining) }
  | .draining =>
    if s.writer ∨ s.readers ≠ 0 then none
    else some { s with writer := true, drains := s.drains.set i .locked }
  | .locked =>
    some { s with drains := s.drains.set i (.leaving (if marked then .first else .failed)) }
  | .leaving result => some { s with writer := false, drains := s.drains.set i (.returned result) }
  | .returned _ => none

def step (s : State) : Action → Option State
  | .call => some { s with calls := s.calls ++ [.called] }
  | .drain => some { s with drains := s.drains ++ [.called] }
  | .step i => s.calls[i]?.bind (stepCall s i)
  | .drainStep i marked => s.drains[i]?.bind (stepDrain s i marked)

/-- The call holds the read side of the gate. -/
def Call.reads : Call → Bool
  | .locked | .admitted | .handling | .leaving => true
  | _ => false

/-- The call is past both checks: its handler runs or is about to. -/
def Call.inHandler : Call → Bool
  | .admitted | .handling => true
  | _ => false

/-- The call has taken the gate, once at least. -/
def DrainCall.sealed : DrainCall → Bool
  | .locked | .leaving _ => true
  | .returned result => result ≠ .wasAlreadyDrained
  | _ => false

/-- The flag was set by this call or before it. -/
def DrainCall.swapped : DrainCall → Bool
  | .called => false
  | _ => true

theorem swapped_of_sealed {d : DrainCall} (h : d.sealed = true) : d.swapped = true := by
  cases d <;> simp_all [DrainCall.sealed, DrainCall.swapped]

structure Inv (s : State) : Prop where
  readers : s.readers = s.calls.countP Call.reads
  drained : ∀ d ∈ s.drains, d.swapped = true → s.drained = true
  sealed : ∀ d ∈ s.drains, d.sealed = true → ∀ c ∈ s.calls, c.inHandler = false

section Steps

variable {s t u : State} {i : Nat} {c : Call} {d : DrainCall} {marked : Bool}

/-- A call takes or leaves the gate as it moves, and is let in only while the
flag is clear. -/
theorem stepCall_cases (hpos : c.reads = true → 0 < s.readers) (hstep : stepCall s i c = some t) :
    ∃ new readers, t = { s with readers := readers, calls := s.calls.set i new } ∧
      readers + (if c.reads then 1 else 0) = s.readers + (if new.reads then 1 else 0) ∧
      (new.inHandler = true → c.inHandler = true ∨ s.drained = false) := by
  cases c with
  | called =>
    cases hstep
    refine ⟨_, _, rfl, ?_⟩
    cases s.drained <;> simp [Call.reads, Call.inHandler]
  | checked =>
    simp only [stepCall] at hstep
    split at hstep
    · cases hstep
    · cases hstep
      exact ⟨_, _, rfl, by simp [Call.reads, Call.inHandler]⟩
  | locked =>
    cases hstep
    refine ⟨_, _, rfl, ?_⟩
    cases s.drained <;> simp [Call.reads, Call.inHandler]
  | admitted | handling =>
    cases hstep
    exact ⟨_, _, rfl, by simp [Call.reads, Call.inHandler]⟩
  | leaving =>
    cases hstep
    have := hpos rfl
    refine ⟨_, _, rfl, ?_, by simp [Call.inHandler]⟩
    simp only [Call.reads, if_true, Bool.false_eq_true, if_false]
    omega
  | returned => cases hstep

/-- A drain sets the flag, takes the gate only when nobody reads, and does not
move once it has returned. -/
theorem stepDrain_cases (hstep : stepDrain s i marked d = some t) :
    ∃ new drained writer, t = { s with
        drained := drained, writer := writer, drains := s.drains.set i new } ∧
      (s.drained = true → drained = true) ∧ (d.swapped = true ∨ drained = true) ∧
      (new.sealed = true → d.sealed = true ∨ s.readers = 0) ∧ ∀ result, d ≠ .returned result := by
  cases d with
  | called =>
    cases hstep
    refine ⟨_, _, s.writer, rfl, fun _ => rfl, .inr rfl, ?_, by simp⟩
    cases s.drained <;> simp [DrainCall.sealed]
  | draining =>
    simp only [stepDrain] at hstep
    split at hstep
    · cases hstep
    · rename_i hfree
      cases hstep
      rw [not_or, not_not] at hfree
      exact ⟨_, _, _, rfl, id, .inl rfl, fun _ => .inr hfree.2, by simp⟩
  | locked | leaving result =>
    cases hstep
    exact ⟨_, _, _, rfl, id, .inl rfl, fun _ => .inl rfl, by simp⟩
  | returned result => cases hstep

theorem Inv.reading (hs : Inv s) (hcall : s.calls[i]? = some c) (hreads : c.reads = true) :
    0 < s.readers :=
  hs.readers ▸ List.countP_pos_iff.mpr ⟨c, List.mem_of_getElem? hcall, hreads⟩

theorem inv_step (hs : Inv s) {a : Action} (hstep : step s a = some t) : Inv t := by
  cases a with
  | call =>
    cases hstep
    refine ⟨?_, hs.drained, fun d hd hsealed c hc => ?_⟩
    · simp [hs.readers, Call.reads]
    · rcases List.mem_append.mp hc with hc | hc
      · exact hs.sealed d hd hsealed c hc
      · rw [List.mem_singleton.mp hc]
        rfl
  | drain =>
    cases hstep
    have hnew : ∀ d ∈ s.drains ++ [.called], d.swapped = true → d ∈ s.drains := by
      intro d hd h
      rcases List.mem_append.mp hd with hd | hd
      · exact hd
      · rw [List.mem_singleton.mp hd] at h
        cases h
    exact ⟨hs.readers, fun d hd h => hs.drained d (hnew d hd h) h,
      fun d hd h => hs.sealed d (hnew d hd (swapped_of_sealed h)) h⟩
  | step i =>
    obtain ⟨c, hc, hstep⟩ := Option.bind_eq_some_iff.mp hstep
    obtain ⟨new, readers, rfl, hreaders, hlet⟩ := stepCall_cases (hs.reading hc) hstep
    refine ⟨?_, hs.drained, fun d hd hsealed c' hc' => ?_⟩
    · have hmove := countP_move hc new Call.reads
      rw [← hs.readers] at hmove
      dsimp only
      omega
    · rcases mem_move hc' with rfl | hc'
      · have hquiet := hs.sealed d hd hsealed c (List.mem_of_getElem? hc)
        have hset := hs.drained d hd (swapped_of_sealed hsealed)
        rw [← Bool.not_eq_true]
        intro hin
        rcases hlet hin with h | h
        · exact Bool.false_ne_true (hquiet.symm.trans h)
        · exact Bool.false_ne_true (h.symm.trans hset)
      · exact hs.sealed d hd hsealed c' hc'
  | drainStep i marked =>
    obtain ⟨d, hd, hstep⟩ := Option.bind_eq_some_iff.mp hstep
    obtain ⟨new, drained, writer, rfl, hkeep, hset, hseal, -⟩ := stepDrain_cases hstep
    have hmem := List.mem_of_getElem? hd
    refine ⟨hs.readers, fun e _ _ => ?_, fun e he hsealed c hc => ?_⟩
    · exact hset.elim (fun h => hkeep (hs.drained d hmem h)) id
    · rcases mem_move he with rfl | he
      · rcases hseal hsealed with h | hfree
        · exact hs.sealed d hmem h c hc
        · -- No reader is counted, so no call is past its checks.
          have hnone := List.countP_eq_zero.mp (hs.readers.symm.trans hfree) c hc
          cases c <;> simp_all [Call.inHandler, Call.reads]
      · exact hs.sealed e he hsealed c hc

/-- The flag stays, a drain that returned stays, and no call gets past its
checks any more. -/
structure Closed (s t : State) : Prop where
  drained : t.drained = true
  returned : ∀ result, .returned result ∈ s.drains → .returned result ∈ t.drains
  calls : ∀ (j : Nat) (c : Call), t.calls[j]? = some c → c.inHandler = true →
    ∃ old : Call, s.calls[j]? = some old ∧ old.inHandler = true

theorem closed_step (ht : Inv t) (h : Closed s t) {a : Action} (hstep : step t a = some u) :
    Closed s u := by
  cases a with
  | call =>
    cases hstep
    refine ⟨h.drained, h.returned, fun j c hj hin => h.calls j c ?_ hin⟩
    rw [List.getElem?_append] at hj
    split at hj
    · exact hj
    · obtain rfl : c = .called := by simpa using List.mem_of_getElem? hj
      cases hin
  | drain =>
    cases hstep
    exact ⟨h.drained, fun result hmem => List.mem_append_left _ (h.returned result hmem), h.calls⟩
  | step i =>
    obtain ⟨c, hc, hstep⟩ := Option.bind_eq_some_iff.mp hstep
    obtain ⟨new, readers, rfl, -, hlet⟩ := stepCall_cases (ht.reading hc) hstep
    refine ⟨h.drained, h.returned, fun j c' hj hin => ?_⟩
    rw [getElem?_move hc] at hj
    split at hj
    · rename_i hj'
      cases hj
      rcases hlet hin with hin | hclear
      · exact h.calls j c (hj' ▸ hc) hin
      · exact absurd h.drained (by simp [hclear])
    · exact h.calls j c' hj hin
  | drainStep i marked =>
    obtain ⟨d, hd, hstep⟩ := Option.bind_eq_some_iff.mp hstep
    obtain ⟨new, drained, writer, rfl, hkeep, -, -, hmoves⟩ := stepDrain_cases hstep
    refine ⟨hkeep h.drained, fun result hmem => ?_, h.calls⟩
    obtain ⟨j, hj⟩ := List.mem_iff_getElem?.mp (h.returned result hmem)
    refine List.mem_iff_getElem?.mpr ⟨j, ?_⟩
    rw [getElem?_move hd, if_neg, hj]
    rintro rfl
    exact hmoves result (Option.mem_unique hd hj)

end Steps

/-- Once a drain that was the first has returned without error, no handler runs
and none starts.  Once any drain has returned, only handlers of calls that were
past their checks by then run. -/
theorem drain_quiesces (before after : List Action) (s t : State)
    (hs : run step {} before = some s) (ht : run step s after = some t) :
    (.returned .first ∈ s.drains → ∀ c ∈ t.calls, c ≠ .handling) ∧
      ((∃ result, .returned result ∈ s.drains) → ∀ i : Nat, t.calls[i]? = some .handling →
          ∃ c : Call, s.calls[i]? = some c ∧ c.inHandler = true) := by
  have hreached : ∀ {s t : State} {actions : List Action}, Inv s → run step s actions = some t →
      Inv t := fun hs => invariant_run (fun _ _ _ h hstep => inv_step h hstep) hs
  have hinv : Inv s := hreached ⟨rfl, by simp, by simp⟩ hs
  have hclosed : (∃ result, .returned result ∈ s.drains) → Closed s t := by
    rintro ⟨result, hmem⟩
    have hstart : Inv s ∧ Closed s s :=
      ⟨hinv, hinv.drained _ hmem rfl, fun _ h => h, fun j c hj hin => ⟨c, hj, hin⟩⟩
    have hend : Inv t ∧ Closed s t := by
      refine invariant_run (fun u a v (h : Inv u ∧ Closed s u) hstep => ?_) hstart ht
      exact ⟨inv_step h.1 hstep, closed_step h.1 h.2 hstep⟩
    exact hend.2
  constructor
  · rintro hfirst c hc rfl
    have hstill := (hclosed ⟨.first, hfirst⟩).returned .first hfirst
    exact nomatch (hreached hinv ht).sealed _ hstill rfl _ hc
  · exact fun hreturned i hi => (hclosed hreturned).calls i .handling hi rfl

/-- A handler runs, a drain waits for it and takes the gate after it. -/
theorem drain_quiesces_waits :
    (run step {} ([.call, .step 0, .step 0, .step 0, .step 0, .drain, .drainStep 0 true, .call,
        .step 1, .step 0, .step 0] ++ List.replicate 3 (.drainStep 0 true))).any
      (fun s => .returned .first ∈ s.drains ∧ ∀ c ∈ s.calls, c ≠ .handling) = true := by
  have hrun : (run step {} ([.call, .step 0, .step 0, .step 0, .step 0, .drain, .drainStep 0 true,
      .call, .step 1, .step 0, .step 0] ++ List.replicate 3 (.drainStep 0 true))).any
      (fun s => .returned .first ∈ s.drains) = true := by decide
  simp only [Option.any_eq_true, decide_eq_true_eq] at hrun ⊢
  obtain ⟨s, hs, hfirst⟩ := hrun
  exact ⟨s, hs, hfirst, (drain_quiesces _ [] s s hs rfl).1 hfirst⟩

/-- A second drain reports that the agent is drained while the first one still
waits for a handler. -/
theorem overtaking_drain_returns :
    (run step {} [.call, .step 0, .step 0, .step 0, .step 0, .drain, .drain, .drainStep 0 true,
      .drainStep 1 true]).any
      (fun s => .returned .wasAlreadyDrained ∈ s.drains ∧ .handling ∈ s.calls) = true := by
  decide

end PillarCsi.AgentDrain
