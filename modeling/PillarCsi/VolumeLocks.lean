import PillarCsi.ThreadLists
import PillarCsi.TransitionSystem

/-!
The reference-counted locks of volumes (`volumeLockSet` in
`internal/csi/controller.go`).  A step is one call of `acquireRef` or
`releaseRef`, which hold the mutex of the set throughout, or one operation on
the mutex of an entry.
-/

namespace PillarCsi.VolumeLocks

open ThreadLists TransitionSystem

structure VolumeLock where
  held : Bool := false
  refs : Int := 0

/-- Where a caller is in `lock` or `tryLock` and the unlock that follows. -/
inductive Phase where
  | called (trying : Bool)
  /-- `acquireRef` returned the entry. -/
  | waiting (entry : Nat) (trying : Bool)
  | holding (entry : Nat)
  /-- The mutex was given back, or never taken; the reference is still there. -/
  | releasing (entry : Nat)
  | returned
  deriving DecidableEq, Repr

structure Caller where
  volumeID : String
  phase : Phase
  deriving DecidableEq, Repr

structure State where
  /-- The entries by address; the next one is made at `made`. -/
  entries : Nat → VolumeLock := fun _ => {}
  made : Nat := 0
  locks : String → Option Nat := fun _ => none
  callers : List Caller := []

inductive Action where
  | call (volumeID : String) (trying : Bool)
  /-- Caller `i` does its next step; `took`: a `TryLock` is not refused. -/
  | step (i : Nat) (took : Bool)

section Steps

variable (s : State) (i : Nat) (volumeID : String)

def State.move (phase : Phase) : State :=
  { s with callers := s.callers.set i { volumeID, phase } }

def State.withEntry (entry : Nat) (lock : VolumeLock) : State :=
  { s with entries := Function.update s.entries entry lock }

def acquireRef (trying : Bool) : State :=
  match s.locks volumeID with
  | some e =>
    (s.withEntry e { s.entries e with refs := (s.entries e).refs + 1 }).move i volumeID
      (.waiting e trying)
  | none =>
    State.move
      { s with
        entries := Function.update s.entries s.made { refs := 1 }
        made := s.made + 1
        locks := Function.update s.locks volumeID (some s.made) }
      i volumeID (.waiting s.made trying)

def releaseRef (entry : Nat) : State :=
  let refs := (s.entries entry).refs - 1
  State.move
    { s.withEntry entry { s.entries entry with refs := refs } with
      locks := if refs = 0 then Function.update s.locks volumeID none else s.locks }
    i volumeID .returned

def advance (took : Bool) : Phase → Option State
  | .called trying => some (acquireRef s i volumeID trying)
  | .waiting e trying =>
    if trying ∧ took = false then some (s.move i volumeID (.releasing e))
    else if (s.entries e).held then none
    else some ((s.withEntry e { s.entries e with held := true }).move i volumeID (.holding e))
  | .holding e =>
    some ((s.withEntry e { s.entries e with held := false }).move i volumeID (.releasing e))
  | .releasing e => some (releaseRef s i volumeID e)
  | .returned => none

def step : Action → Option State
  | .call volumeID trying =>
    some { s with callers := s.callers ++ [{ volumeID, phase := .called trying }] }
  | .step i took => s.callers[i]?.bind fun c => advance s i c.volumeID took c.phase

end Steps

def Phase.entry : Phase → Option Nat
  | .waiting e _ | .holding e | .releasing e => some e
  | _ => none

def Caller.refersTo (volumeID : String) (c : Caller) : Bool :=
  c.volumeID = volumeID && c.phase.entry.isSome

def Phase.holds : Phase → Bool
  | .holding _ => true
  | _ => false

def Caller.holds (volumeID : String) (c : Caller) : Bool :=
  c.volumeID = volumeID && c.phase.holds

/-- The entry of a volume, or what `acquireRef` would make for it. -/
def State.lockOf (s : State) (volumeID : String) : VolumeLock :=
  match s.locks volumeID with
  | some e => s.entries e
  | none => {}

structure Inv (s : State) : Prop where
  table : ∀ c ∈ s.callers, ∀ e, c.phase.entry = some e → s.locks c.volumeID = some e
  made : ∀ volumeID e, s.locks volumeID = some e → e < s.made ∧ 0 < (s.entries e).refs
  apart : ∀ volumeID other e, s.locks volumeID = some e → s.locks other = some e → volumeID = other
  refs : ∀ volumeID, (s.lockOf volumeID).refs = s.callers.countP (Caller.refersTo volumeID)
  held : ∀ volumeID, (if (s.lockOf volumeID).held then 1 else 0) =
    s.callers.countP (Caller.holds volumeID)

/-- What a step does: caller `i` of the volume of entry `e` moves on, the entry
becomes `lock`, and stays in the table as long as it is referred to. -/
structure Moves (s t : State) (i : Nat) (c : Caller) (next : Phase) (e : Nat) (lock : VolumeLock) :
    Prop where
  caller : s.callers[i]? = some c
  entry : s.locks c.volumeID = some e ∨ s.locks c.volumeID = none ∧ e = s.made
  callers : t.callers = s.callers.set i ⟨c.volumeID, next⟩
  entries : t.entries = Function.update s.entries e lock
  locks : t.locks = Function.update s.locks c.volumeID (if lock.refs = 0 then none else some e)
  made : s.made ≤ t.made ∧ e < t.made
  stays : ∀ e', next.entry = some e' → e' = e
  refs : lock.refs + (if c.phase.entry.isSome then 1 else 0 : Nat) =
    (s.lockOf c.volumeID).refs + (if next.entry.isSome then 1 else 0 : Nat)
  held : (if lock.held then 1 else 0) + (if c.phase.holds then 1 else 0) =
    (if (s.lockOf c.volumeID).held then 1 else 0) + (if next.holds then 1 else 0)

section Invariant

variable {s t : State} {i e : Nat} {c : Caller} {phase : Phase} {lock : VolumeLock}
  {other : String}

section

variable (h : Moves s t i c phase e lock)

include h

theorem Moves.locks_other (hne : other ≠ c.volumeID) : t.locks other = s.locks other := by
  rw [h.locks, Function.update_of_ne hne]

theorem Moves.entry_ne (hs : Inv s) {e' : Nat}
    (hne : other ≠ c.volumeID) (hother : s.locks other = some e') : e' ≠ e := by
  rintro rfl
  rcases h.entry with hsame | ⟨-, rfl⟩
  · exact hne (hs.apart _ _ _ hother hsame)
  · exact Nat.lt_irrefl _ (hs.made _ _ hother).1

theorem Moves.lockOf_other (hs : Inv s)
    (hne : other ≠ c.volumeID) : t.lockOf other = s.lockOf other := by
  simp only [State.lockOf, h.locks_other hne, h.entries]
  split
  · rename_i e' hother
    exact Function.update_of_ne (h.entry_ne hs hne hother) _ _
  · rfl

theorem Moves.countP (inside : Phase → Bool) (volumeID : String) :
    t.callers.countP (fun c => decide (c.volumeID = volumeID) && inside c.phase) +
        (if c.volumeID = volumeID ∧ inside c.phase then 1 else 0) =
      s.callers.countP (fun c => decide (c.volumeID = volumeID) && inside c.phase) +
        (if c.volumeID = volumeID ∧ inside phase then 1 else 0) := by
  have hmove := countP_move h.caller ⟨c.volumeID, phase⟩ fun c =>
    decide (c.volumeID = volumeID) && inside c.phase
  rw [h.callers]
  simpa only [Bool.and_eq_true, decide_eq_true_eq] using hmove

theorem Moves.counts (hs : Inv s) : lock.refs = t.callers.countP (Caller.refersTo c.volumeID) ∧
      (if lock.held then 1 else 0) = t.callers.countP (Caller.holds c.volumeID) := by
  have hrefers := h.countP (fun p => p.entry.isSome) c.volumeID
  have hholds := h.countP Phase.holds c.volumeID
  have hrefs := hs.refs c.volumeID
  have hheld := hs.held c.volumeID
  have hrefs' := h.refs
  have hheld' := h.held
  simp only [true_and] at hrefers hholds
  unfold Caller.refersTo at hrefs ⊢
  unfold Caller.holds at hheld ⊢
  omega

omit h in
theorem Caller.holds_refersTo {volumeID : String} (h : c.holds volumeID = true) :
    c.refersTo volumeID = true := by
  obtain ⟨v, p⟩ := c
  cases p <;> simp_all [Caller.holds, Caller.refersTo, Phase.holds, Phase.entry]

theorem Moves.lockOf_self (hs : Inv s) : t.lockOf c.volumeID = lock := by
  simp only [State.lockOf, h.locks, h.entries, Function.update_self]
  by_cases hzero : lock.refs = 0
  · -- Nobody is counted any more, so nobody holds the mutex.
    have hfewer : t.callers.countP (Caller.holds c.volumeID) ≤
        t.callers.countP (Caller.refersTo c.volumeID) :=
      List.countP_mono_left fun _ _ => Caller.holds_refersTo
    obtain ⟨hrefs, hheld⟩ := h.counts hs
    cases hset : lock.held with
    | false =>
      rw [if_pos hzero]
      change ({} : VolumeLock) = ⟨lock.held, lock.refs⟩
      rw [hset, hzero]
    | true =>
      rw [hset, if_pos rfl] at hheld
      omega
  · simp [hzero]

theorem Moves.inv (hs : Inv s) : Inv t := by
  obtain ⟨hrefs, hheld⟩ := h.counts hs
  have htable : ∀ volumeID e', t.locks volumeID = some e' →
      (volumeID = c.volumeID ∧ e' = e ∧ lock.refs ≠ 0) ∨
        (volumeID ≠ c.volumeID ∧ s.locks volumeID = some e') := by
    intro volumeID e' he'
    by_cases hv : volumeID = c.volumeID
    · rw [hv, h.locks, Function.update_self] at he'
      split at he'
      · exact nomatch he'
      · exact .inl ⟨hv, (Option.some.inj he').symm, ‹_›⟩
    · exact .inr ⟨hv, h.locks_other hv ▸ he'⟩
  refine ⟨fun c' hc' e' he' => ?_, fun volumeID e' he' => ?_, fun volumeID other e' he' ho => ?_,
    fun volumeID => ?_, fun volumeID => ?_⟩
  · by_cases hv : c'.volumeID = c.volumeID
    · -- Somebody refers to the entry, so it stays.
      have hpos : 0 < t.callers.countP (Caller.refersTo c.volumeID) :=
        List.countP_pos_iff.mpr ⟨c', hc', by simp [Caller.refersTo, hv, he']⟩
      rw [hv, h.locks, Function.update_self, if_neg (by omega)]
      rw [h.callers] at hc'
      rcases mem_move hc' with rfl | hold
      · rw [h.stays e' he']
      · have hthis := hs.table c' hold e' he'
        rw [hv] at hthis
        rcases h.entry with hsame | ⟨hnone, -⟩
        · exact hsame.symm.trans hthis
        · rw [hnone] at hthis
          cases hthis
    · rw [h.callers] at hc'
      rcases mem_move hc' with rfl | hold
      · exact absurd rfl hv
      · exact (h.locks_other hv).trans (hs.table c' hold e' he')
  · rcases htable volumeID e' he' with ⟨rfl, rfl, hne⟩ | ⟨hv, hold⟩
    · rw [h.entries, Function.update_self]
      exact ⟨h.made.2, by omega⟩
    · rw [h.entries, Function.update_of_ne (h.entry_ne hs hv hold)]
      exact ⟨Nat.lt_of_lt_of_le (hs.made _ _ hold).1 h.made.1, (hs.made _ _ hold).2⟩
  · rcases htable volumeID e' he' with ⟨rfl, rfl, -⟩ | ⟨hv, hold⟩ <;>
      rcases htable other _ ho with ⟨rfl, hsame, -⟩ | ⟨hv', hold'⟩
    · rfl
    · exact absurd rfl (h.entry_ne hs hv' hold')
    · exact absurd hsame (h.entry_ne hs hv hold)
    · exact hs.apart _ _ _ hold hold'
  · by_cases hv : volumeID = c.volumeID
    · rw [hv, h.lockOf_self hs, hrefs]
    · have hmoved := h.countP (fun p => p.entry.isSome) volumeID
      simp only [Ne.symm hv, false_and, if_false, Nat.add_zero] at hmoved
      unfold Caller.refersTo
      rw [h.lockOf_other hs hv, hmoved]
      exact hs.refs volumeID
  · by_cases hv : volumeID = c.volumeID
    · rw [hv, h.lockOf_self hs, hheld]
    · have hmoved := h.countP Phase.holds volumeID
      simp only [Ne.symm hv, false_and, if_false, Nat.add_zero] at hmoved
      unfold Caller.holds
      rw [h.lockOf_other hs hv, hmoved]
      exact hs.held volumeID

end

theorem lockOf_of_locks {volumeID : String} (h : s.locks volumeID = some e) :
    s.lockOf volumeID = s.entries e := by
  simp only [State.lockOf, h]

/-- A step of a caller whose entry is in the table and stays referred to. -/
theorem Inv.keep (hs : Inv s) (hc : s.callers[i]? = some c) (hlock : s.locks c.volumeID = some e)
    (hphase : phase.entry = some e)
    (hrefs : lock.refs + (if c.phase.entry.isSome then 1 else 0 : Nat) = (s.entries e).refs + 1)
    (hheld : (if lock.held then 1 else 0) + (if c.phase.holds then 1 else 0) =
      (if (s.entries e).held then 1 else 0) + (if phase.holds then 1 else 0)) :
    Inv ((s.withEntry e lock).move i c.volumeID phase) := by
  obtain ⟨hmade, hpos⟩ := hs.made _ _ hlock
  have hmoves : Moves s ((s.withEntry e lock).move i c.volumeID phase) i c phase e lock := by
    refine ⟨hc, .inl hlock, rfl, rfl, ?_, ⟨Nat.le_refl _, hmade⟩, fun e' he' => ?_, ?_, ?_⟩
    · change s.locks = _
      rw [if_neg (by split at hrefs <;> omega), ← hlock, Function.update_eq_self]
    · exact (Option.mem_unique hphase he').symm
    · rwa [hphase, lockOf_of_locks hlock]
    · rwa [lockOf_of_locks hlock]
  exact hmoves.inv hs

theorem Inv.acquireRef (hs : Inv s) {trying : Bool} (hc : s.callers[i]? = some c)
    (hcalled : c.phase = .called trying) : Inv (VolumeLocks.acquireRef s i c.volumeID trying) := by
  unfold VolumeLocks.acquireRef
  split
  · exact hs.keep hc ‹_› rfl (by simp [hcalled, Phase.entry]) (by simp [hcalled, Phase.holds])
  · rename_i hfree
    exact Moves.inv ⟨hc, .inr ⟨hfree, rfl⟩, rfl, rfl, rfl,
      ⟨Nat.le_succ s.made, Nat.lt_succ_self s.made⟩, fun e' he' => (Option.some.inj he').symm,
      by simp [hcalled, Phase.entry, State.lockOf, hfree],
      by simp [hcalled, Phase.holds, State.lockOf, hfree]⟩ hs

theorem Inv.releaseRef (hs : Inv s) (hc : s.callers[i]? = some c)
    (hreleasing : c.phase = .releasing e) : Inv (VolumeLocks.releaseRef s i c.volumeID e) := by
  have hlock := hs.table c (List.mem_of_getElem? hc) e (by rw [hreleasing]; rfl)
  have hmoves : Moves s (VolumeLocks.releaseRef s i c.volumeID e) i c .returned e
      { s.entries e with refs := (s.entries e).refs - 1 } := by
    refine ⟨hc, .inl hlock, rfl, rfl, ?_, ⟨Nat.le_refl _, (hs.made _ _ hlock).1⟩, nofun, ?_, ?_⟩
    · simp only [VolumeLocks.releaseRef, State.move, State.withEntry]
      split
      · rfl
      · rw [← hlock, Function.update_eq_self]
    · simp [hreleasing, Phase.entry, lockOf_of_locks hlock]
    · simp [hreleasing, Phase.holds, lockOf_of_locks hlock]
  exact hmoves.inv hs

theorem inv_advance (hs : Inv s) (hc : s.callers[i]? = some c) {took : Bool}
    (hstep : advance s i c.volumeID took c.phase = some t) : Inv t := by
  have hlock := hs.table c (List.mem_of_getElem? hc)
  cases hphase : c.phase with
  | called trying =>
    rw [hphase] at hstep
    cases hstep
    exact hs.acquireRef hc hphase
  | waiting e trying =>
    rw [hphase] at hstep hlock
    have hentry := hlock e rfl
    simp only [advance] at hstep
    split at hstep
    · cases hstep
      have hmoved : Inv ((s.withEntry e (s.entries e)).move i c.volumeID (.releasing e)) :=
        hs.keep hc hentry rfl (by simp [hphase, Phase.entry]) (by simp [hphase, Phase.holds])
      simpa [State.withEntry] using hmoved
    · split at hstep
      · cases hstep
      · rename_i hfree
        cases hstep
        exact hs.keep hc hentry rfl (by simp [hphase, Phase.entry])
          (by simp [hphase, Phase.holds, hfree])
  | holding e =>
    rw [hphase] at hstep hlock
    have hentry := hlock e rfl
    cases hstep
    have hpos : 0 < s.callers.countP (Caller.holds c.volumeID) :=
      List.countP_pos_iff.mpr ⟨c, List.mem_of_getElem? hc, by simp [Caller.holds, hphase, Phase.holds]⟩
    rw [← hs.held, lockOf_of_locks hentry] at hpos
    have hset : (s.entries e).held = true := by
      by_contra hfree
      simp [hfree] at hpos
    exact hs.keep hc hentry rfl (by simp [hphase, Phase.entry]) (by simp [hphase, Phase.holds, hset])
  | releasing e =>
    rw [hphase] at hstep
    cases hstep
    exact hs.releaseRef hc hphase
  | returned =>
    rw [hphase] at hstep
    cases hstep

theorem inv_step (hs : Inv s) {a : Action} (hstep : step s a = some t) : Inv t := by
  cases a with
  | call volumeID trying =>
    cases hstep
    refine ⟨fun c hc e he => ?_, hs.made, hs.apart, fun v => ?_, fun v => ?_⟩
    · rcases List.mem_append.mp hc with hc | hc
      · exact hs.table c hc e he
      · rw [List.mem_singleton.mp hc] at he
        cases he
    · exact (hs.refs v).trans (by simp [Caller.refersTo, Phase.entry])
    · exact (hs.held v).trans (by simp [Caller.holds, Phase.holds])
  | step i took =>
    obtain ⟨c, hc, hstep⟩ := Option.bind_eq_some_iff.mp hstep
    exact inv_advance hs hc hstep

end Invariant

/-- At every moment at most one caller holds the lock of a volume, who waits or
holds refers to the entry that is in the table, and a volume that nobody is
locking, holding or unlocking has no entry. -/
theorem locks_exclude {actions : List Action} {s : State} (h : run step {} actions = some s)
    (volumeID : String) :
    (∀ (i j : Nat) (a b : Caller) (e e' : Nat), s.callers[i]? = some a → s.callers[j]? = some b →
        a.volumeID = volumeID → b.volumeID = volumeID → a.phase = .holding e →
        b.phase = .holding e' → i = j) ∧ (∀ c ∈ s.callers, c.volumeID = volumeID → ∀ e,
        ((∃ trying, c.phase = .waiting e trying) ∨ c.phase = .holding e) →
          s.locks volumeID = some e) ∧
      ((∀ c ∈ s.callers, c.volumeID = volumeID → c.phase.entry = none) →
        s.locks volumeID = none) := by
  have hs : Inv s := by
    refine invariant_run (fun _ _ _ h hstep => inv_step h hstep) ?_ h
    exact ⟨by simp, nofun, nofun, fun _ => rfl, fun _ => rfl⟩
  refine ⟨fun i j a b e e' hi hj ha hb hholds hholds' => ?_, fun c hc hv e he => ?_, fun hidle => ?_⟩
  · have hone : s.callers.countP (Caller.holds volumeID) ≤ 1 := by
      rw [← hs.held]
      split <;> omega
    exact eq_of_countP_le_one hone hi (by simp [Caller.holds, Phase.holds, ha, hholds]) hj
      (by simp [Caller.holds, Phase.holds, hb, hholds'])
  · rw [← hv]
    refine hs.table c hc e ?_
    rcases he with ⟨trying, he⟩ | he <;> rw [he] <;> rfl
  · cases hlock : s.locks volumeID with
    | none => rfl
    | some e =>
      have hrefs := hs.refs volumeID
      have hpos := (hs.made volumeID e hlock).2
      rw [lockOf_of_locks hlock] at hrefs
      obtain ⟨c, hc, hrefers⟩ := List.countP_pos_iff.mp (by omega :
        0 < s.callers.countP (Caller.refersTo volumeID))
      simp only [Caller.refersTo, Bool.and_eq_true, decide_eq_true_eq] at hrefers
      rw [hidle c hc hrefers.1] at hrefers
      exact nomatch hrefers.2

/-- A second caller takes a reference between the unlock of the first and its
`releaseRef`, and holds the lock of the entry that stayed. -/
theorem locks_exclude_handover :
    ∃ s, run step {} [.call "v" false, .step 0 true, .step 0 true, .step 0 true, .call "v" false,
      .step 1 true, .step 0 true, .step 1 true] = some s ∧ s.locks "v" = some 0 := by
  obtain ⟨s, hrun, hholder⟩ : ∃ s, run step {} [.call "v" false, .step 0 true, .step 0 true,
      .step 0 true, .call "v" false, .step 1 true, .step 0 true, .step 1 true] = some s ∧
      ⟨"v", .holding 0⟩ ∈ s.callers := by decide +kernel
  exact ⟨s, hrun, (locks_exclude hrun "v").2.1 _ hholder rfl 0 (.inr rfl)⟩

end PillarCsi.VolumeLocks
