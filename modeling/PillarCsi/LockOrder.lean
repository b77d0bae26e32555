import Mathlib.Algebra.GroupWithZero.Nat
import Mathlib.Data.Finset.Max
import Mathlib.Data.Prod.Lex
import PillarCsi.TransitionSystem

/-!
Threads that acquire locks in an order.  A lock is held shared or exclusively;
a thread first announces an exclusive acquisition, and an announced one keeps
new shared acquisitions out, as for a reader-writer lock that prefers writers.

If every thread acquires a lock only while all locks it holds rank below it, no
threads wait for each other in a circle, and some thread can always go on.
-/

namespace PillarCsi.LockOrder

open TransitionSystem

inductive Mode where
  | shared
  | exclusive
  deriving DecidableEq, Repr

def Mode.conflicts : Mode → Mode → Bool
  | .shared, .shared => false
  | _, _ => true

inductive Event (L : Type) where
  | acquire (lock : L) (mode : Mode)
  | release (lock : L)
  deriving DecidableEq, Repr

structure Thread (L : Type) where
  todo : List (Event L)
  held : List (L × Mode) := []
  /-- The exclusive acquisition the thread is at has been announced. -/
  pending : Bool := false
  deriving DecidableEq, Repr

abbrev State (L : Type) := List (Thread L)

section Steps

variable {L : Type} [DecidableEq L]

def Thread.blocks (t : Thread L) (lock : L) (mode : Mode) : Bool :=
  t.held.any fun h => h.1 = lock && mode.conflicts h.2

def Thread.claims (t : Thread L) (lock : L) : Bool :=
  t.pending && t.todo.head? = some (.acquire lock .exclusive)

/-- What keeps an acquisition waiting. -/
def Thread.hinders (t : Thread L) (lock : L) (mode : Mode) : Bool :=
  t.blocks lock mode || (mode = .shared && t.claims lock)

/-- Thread `i` does its next event, or announces it. -/
def step (s : State L) (i : Nat) : Option (State L) :=
  match s[i]? with
  | none => none
  | some t =>
    match t.todo with
    | [] => none
    | .release lock :: rest => some (s.set i { todo := rest, held := t.held.filter (·.1 ≠ lock) })
    | .acquire lock mode :: rest =>
      if mode = .exclusive ∧ t.pending = false then
        some (s.set i { t with pending := true })
      else if s.any (·.hinders lock mode) then
        none
      else
        some (s.set i { todo := rest, held := (lock, mode) :: t.held })

def Waits (s : State L) (i j : Nat) : Prop :=
  ∃ t u lock mode, s[i]? = some t ∧ s[j]? = some u ∧
    t.todo.head? = some (.acquire lock mode) ∧ u.hinders lock mode = true

def Finished (s : State L) : Prop := ∀ t ∈ s, t.todo = []

end Steps

/-- What one thread does: it holds a lock while it does something, and it does
things one after the other. -/
inductive Block (L : Type) where
  | skip
  | hold (lock : L) (mode : Mode) (body : Block L)
  | seq (first second : Block L)
  deriving DecidableEq, Repr

variable {L : Type}

def Block.events : Block L → List (Event L)
  | .skip => []
  | .hold lock mode body => .acquire lock mode :: (body.events ++ [.release lock])
  | .seq first second => first.events ++ second.events

def Block.all (blocks : List (Block L)) : Block L := blocks.foldr .seq .skip

/-- The locks are taken in list order and released in the reverse order. -/
def Block.holdAll (locks : List L) (body : Block L) : Block L :=
  locks.foldr (.hold · .exclusive) body

/-- A block that returns early: it leaves out parts, but releases what it
acquired. -/
inductive Block.Cut : Block L → Block L → Prop
  | skip (b : Block L) : Cut b .skip
  | hold {lock : L} {mode : Mode} {b b' : Block L} :
      Cut b b' → Cut (.hold lock mode b) (.hold lock mode b')
  | seq {a a' b b' : Block L} : Cut a a' → Cut b b' → Cut (.seq a b) (.seq a' b')

theorem Block.Cut.refl (b : Block L) : Block.Cut b b := by
  induction b with
  | skip => exact .skip _
  | hold lock mode body ih => exact .hold ih
  | seq first second ihFirst ihSecond => exact .seq ihFirst ihSecond

def start (blocks : List (Block L)) : State L := blocks.map fun b => { todo := b.events }

variable {s : State L}

section Ranks

variable {ι : Type} [LinearOrder ι] (rank : L → ι)

/-- Every lock of the block ranks above those held around it. -/
def Block.Nested : List L → Block L → Prop
  | _, .skip => True
  | held, .hold lock _ body => (∀ h ∈ held, rank h < rank lock) ∧ body.Nested (lock :: held)
  | held, .seq first second => first.Nested held ∧ second.Nested held

/-- The rest of a thread keeps to the ranks and ends with nothing held. -/
def Disciplined [DecidableEq L] : List (L × Mode) → List (Event L) → Prop
  | held, [] => held = []
  | held, .acquire lock mode :: rest =>
    (∀ h ∈ held, rank h.1 < rank lock) ∧ Disciplined ((lock, mode) :: held) rest
  | held, .release lock :: rest => Disciplined (held.filter (·.1 ≠ lock)) rest

variable {rank} {b : Block L} {held : List L} {blocks : List (Block L)} {lock : L} {i : Nat}
  {t : Thread L} {s' : State L}

theorem Block.Nested.cut {b' : Block L} (hcut : Block.Cut b b')
    (h : b.Nested rank held) : b'.Nested rank held := by
  induction hcut generalizing held with
  | skip b => trivial
  | hold _ ih => exact ⟨h.1, ih h.2⟩
  | seq _ _ ihFirst ihSecond => exact ⟨ihFirst h.1, ihSecond h.2⟩

theorem Block.nested_all
    (h : ∀ b ∈ blocks, b.Nested rank held) : (Block.all blocks).Nested rank held := by
  induction blocks with
  | nil => trivial
  | cons b rest ih =>
    exact ⟨h b (.head _), ih fun b' hb' => h b' (.tail b hb')⟩

theorem Block.nested_holdAll {locks : List L} {body : Block L}
    (hascend : locks.Pairwise (rank · < rank ·))
    (habove : ∀ lock ∈ locks, ∀ h ∈ held, rank h < rank lock)
    (hbody : body.Nested rank (locks.reverse ++ held)) :
    (Block.holdAll locks body).Nested rank held := by
  induction locks generalizing held with
  | nil => exact hbody
  | cons lock rest ih =>
    obtain ⟨hfirst, hrest⟩ := List.pairwise_cons.mp hascend
    refine ⟨habove lock (.head _), ih hrest ?_ (by simpa using hbody)⟩
    intro next hnext h hh
    rcases List.mem_cons.mp hh with rfl | hh
    · exact hfirst next hnext
    · exact habove next (.tail lock hnext) h hh

variable [DecidableEq L]

theorem filter_held {held : List (L × Mode)} (h : ∀ x ∈ held, rank x.1 < rank lock) :
    held.filter (·.1 ≠ lock) = held := by
  refine List.filter_eq_self.mpr fun x hx => ?_
  have hne : x.1 ≠ lock := fun heq => absurd (heq ▸ h x hx) (lt_irrefl _)
  simpa using hne

theorem disciplined_events {held : List (L × Mode)} {rest : List (Event L)}
    (hb : b.Nested rank (held.map Prod.fst)) (hrest : Disciplined rank held rest) :
    Disciplined rank held (b.events ++ rest) := by
  induction b generalizing held rest with
  | skip => exact hrest
  | hold lock mode body ih =>
    have habove : ∀ h ∈ held, rank h.1 < rank lock := fun h hh => hb.1 h.1 (List.mem_map_of_mem hh)
    simp only [Block.events, List.cons_append, List.append_assoc, Disciplined]
    refine ⟨habove, ih hb.2 ?_⟩
    show Disciplined rank (((lock, mode) :: held).filter (·.1 ≠ lock)) rest
    rw [List.filter_cons_of_neg (by simp), filter_held habove]
    exact hrest
  | seq first second ihFirst ihSecond =>
    simp only [Block.events, List.append_assoc]
    exact ihFirst hb.1 (ihSecond hb.2 hrest)

/-- Every thread keeps to the ranks. -/
def Ordered (rank : L → ι) (s : State L) : Prop :=
  ∀ t ∈ s, Disciplined rank t.held t.todo

theorem ordered_start (h : ∀ b ∈ blocks, b.Nested rank []) : Ordered rank (start blocks) := by
  intro t ht
  obtain ⟨b, hb, rfl⟩ := List.mem_map.mp ht
  have hdone : Disciplined rank ([] : List (L × Mode)) [] := rfl
  have hevents := disciplined_events (h b hb) hdone
  rwa [List.append_nil] at hevents

theorem Ordered.set (h : Ordered rank s)
    (ht : Disciplined rank t.held t.todo) : Ordered rank (s.set i t) := by
  intro u hu
  rcases List.mem_or_eq_of_mem_set hu with hu | rfl
  · exact h u hu
  · exact ht

theorem step_ordered (s : State L) (i : Nat) (s' : State L) (h : Ordered rank s)
    (hstep : step s i = some s') : Ordered rank s' := by
  unfold step at hstep
  split at hstep
  · cases hstep
  rename_i t ht
  have htodo := h t (List.mem_of_getElem? ht)
  split at hstep
  · cases hstep
  · rename_i lock rest heq
    cases hstep
    rw [heq] at htodo
    exact h.set htodo
  · rename_i lock mode rest heq
    rw [heq] at htodo
    split at hstep
    · cases hstep
      exact h.set (heq ▸ htodo)
    split at hstep
    · cases hstep
    · cases hstep
      exact h.set htodo.2

/-- How far up a thread is waiting: among acquisitions of one lock, an exclusive
one comes after a shared one that it keeps out. -/
def Thread.height (rank : L → ι) (t : Thread L) : WithBot (ι ×ₗ Nat) :=
  match t.todo with
  | .acquire lock mode :: _ => ↑(toLex (rank lock, if mode = .exclusive then 1 else 0))
  | _ => ⊥

/-- What hinders an acquisition still has something to do, and if that is an
acquisition, it is higher up. -/
theorem height_of_hinders {u : Thread L} {mode : Mode}
    (hu : Disciplined rank u.held u.todo) (ht : t.todo.head? = some (.acquire lock mode))
    (hhinders : u.hinders lock mode = true) :
    u.todo ≠ [] ∧ ∀ lock' mode', u.todo.head? = some (.acquire lock' mode') →
      t.height rank < u.height rank := by
  obtain ⟨tail, htail⟩ : ∃ tail, t.todo = .acquire lock mode :: tail := by
    cases htodo : t.todo with
    | nil => simp [htodo] at ht
    | cons e tail => exact ⟨tail, by simpa [htodo] using ht⟩
  cases htodo : u.todo with
  | nil =>
    rw [htodo] at hu
    have hheld : u.held = [] := hu
    simp [Thread.hinders, Thread.blocks, Thread.claims, hheld, htodo] at hhinders
  | cons e rest =>
    refine ⟨List.cons_ne_nil e rest, fun lock' mode' hhead => ?_⟩
    obtain rfl : e = .acquire lock' mode' := by simpa using hhead
    simp only [Thread.height, htail, htodo, WithBot.coe_lt_coe, Prod.Lex.toLex_lt_toLex]
    rw [Thread.hinders, Bool.or_eq_true] at hhinders
    rcases hhinders with hblocks | hclaims
    · -- a lock it holds ranks below the one it is at
      obtain ⟨h, hh, hlock⟩ := List.any_eq_true.mp hblocks
      rw [htodo] at hu
      have hlt := hu.1 h hh
      simp only [Bool.and_eq_true, decide_eq_true_eq] at hlock
      exact .inl (hlock.1 ▸ hlt)
    · simp only [Thread.claims, htodo, List.head?_cons, Bool.and_eq_true, decide_eq_true_eq,
        Option.some.injEq, Event.acquire.injEq] at hclaims
      obtain ⟨rfl, -, rfl, rfl⟩ := hclaims
      exact .inr ⟨rfl, by simp⟩

theorem Ordered.not_cyclic (h : Ordered rank s) (i : Nat) : ¬ Relation.TransGen (Waits s) i i := by
  have hclimbs : ∀ j k, Relation.TransGen (Waits s) j k → ∃ t, s[j]? = some t ∧
      ∀ u, s[k]? = some u → ∀ lock mode, u.todo.head? = some (.acquire lock mode) →
        t.height rank < u.height rank := by
    intro j k hjk
    induction hjk with
    | single hwait =>
      obtain ⟨t, u, lock, mode, ht, hu, hhead, hhinders⟩ := hwait
      refine ⟨t, ht, fun u' hu' => ?_⟩
      obtain rfl := Option.mem_unique hu hu'
      exact (height_of_hinders (h u (List.mem_of_getElem? hu)) hhead hhinders).2
    | tail _ hwait ih =>
      obtain ⟨t, ht, hlt⟩ := ih
      obtain ⟨v, u, lock, mode, hv, hu, hhead, hhinders⟩ := hwait
      refine ⟨t, ht, fun u' hu' lock' mode' hhead' => ?_⟩
      obtain rfl := Option.mem_unique hu hu'
      have hnext := height_of_hinders (h u (List.mem_of_getElem? hu)) hhead hhinders
      exact (hlt v hv lock mode hhead).trans (hnext.2 lock' mode' hhead')
  intro hcycle
  obtain ⟨t, ht, hlt⟩ := hclimbs i i hcycle
  obtain ⟨j, hwait, -⟩ := Relation.TransGen.head'_iff.mp hcycle
  obtain ⟨t', u, lock, mode, ht', -, hhead, -⟩ := hwait
  obtain rfl := Option.mem_unique ht ht'
  exact absurd (hlt t ht lock mode hhead) (lt_irrefl _)

theorem waits_of_stuck (ht : s[i]? = some t)
    (htodo : t.todo ≠ []) (hstuck : step s i = none) : ∃ j, Waits s i j := by
  unfold step at hstuck
  rw [ht] at hstuck
  cases hevents : t.todo with
  | nil => exact absurd hevents htodo
  | cons e rest =>
    cases e with
    | release lock => simp [hevents] at hstuck
    | acquire lock mode =>
      simp only [hevents] at hstuck
      split at hstuck
      · cases hstuck
      split at hstuck
      · rename_i hany
        obtain ⟨u, hu, hhinders⟩ := List.any_eq_true.mp hany
        obtain ⟨j, hj⟩ := List.getElem?_of_mem hu
        exact ⟨j, t, u, lock, mode, ht, hj, by simp [hevents], hhinders⟩
      · cases hstuck

theorem Ordered.progress (h : Ordered rank s) (hleft : ¬ Finished s) :
    ∃ i s', step s i = some s' := by
  by_contra hnone
  push Not at hnone
  have hstuck : ∀ i, step s i = none := fun i => Option.eq_none_iff_forall_ne_some.mpr (hnone i)
  obtain ⟨t₀, ht₀, hbusy⟩ : ∃ t ∈ s, t.todo ≠ [] := by simpa [Finished] using hleft
  -- the thread that waits highest up
  obtain ⟨t, ht, hmax⟩ : ∃ t ∈ (s.filter (·.todo ≠ [])).toFinset,
      ∀ u ∈ (s.filter (·.todo ≠ [])).toFinset, u.height rank ≤ t.height rank :=
    Finset.exists_max_image _ _ ⟨t₀, by simp [ht₀, hbusy]⟩
  simp only [List.mem_toFinset, List.mem_filter, decide_eq_true_eq] at ht hmax
  obtain ⟨i, hi⟩ := List.getElem?_of_mem ht.1
  obtain ⟨j, t', u, lock, mode, ht', hu, hhead, hhinders⟩ := waits_of_stuck hi ht.2 (hstuck i)
  obtain rfl := Option.mem_unique hi ht'
  have humem := List.mem_of_getElem? hu
  obtain ⟨hubusy, hhigher⟩ := height_of_hinders (h u humem) hhead hhinders
  obtain ⟨k, v, w, lock', mode', hv, -, hhead', -⟩ := waits_of_stuck hu hubusy (hstuck j)
  obtain rfl := Option.mem_unique hu hv
  exact absurd (hhigher lock' mode' hhead') (not_lt.mpr (hmax u ⟨humem, hubusy⟩))

/-- What a thread has left: an exclusive acquisition counts twice until it is
announced. -/
def Thread.remaining (t : Thread L) : Nat := 2 * t.todo.length - t.pending.toNat

def remaining (s : State L) : Nat := (s.map Thread.remaining).sum

omit [DecidableEq L] in
theorem remaining_set_lt {t' : Thread L} (ht : s[i]? = some t)
    (hlt : t'.remaining < t.remaining) : remaining (s.set i t') < remaining s := by
  induction s generalizing i with
  | nil => simp at ht
  | cons u rest ih =>
    cases i with
    | zero =>
      obtain rfl : u = t := by simpa using ht
      simpa [remaining] using hlt
    | succ i =>
      have hrest := ih (by simpa using ht)
      simpa [remaining] using hrest

theorem remaining_lt_of_step (hstep : step s i = some s') : remaining s' < remaining s := by
  unfold step at hstep
  split at hstep
  · cases hstep
  rename_i t ht
  have hpending : t.pending.toNat ≤ 1 := Bool.toNat_le t.pending
  split at hstep
  · cases hstep
  · rename_i lock rest heq
    cases hstep
    refine remaining_set_lt ht ?_
    simp only [Thread.remaining, heq, List.length_cons, Bool.toNat_false]
    omega
  · rename_i lock mode rest heq
    split at hstep
    · rename_i hannounce
      cases hstep
      refine remaining_set_lt ht ?_
      simp only [Thread.remaining, heq, hannounce.2, List.length_cons, Bool.toNat_false,
        Bool.toNat_true]
      omega
    split at hstep
    · cases hstep
    · cases hstep
      refine remaining_set_lt ht ?_
      simp only [Thread.remaining, heq, List.length_cons, Bool.toNat_false]
      omega

theorem length_add_remaining_le {schedule : List Nat}
    (hrun : run step s schedule = some s') : schedule.length + remaining s' ≤ remaining s := by
  induction schedule generalizing s with
  | nil =>
    cases hrun
    simp
  | cons i rest ih =>
    obtain ⟨t, hstep, hrest⟩ := run_cons_eq_some hrun
    have hlt := remaining_lt_of_step hstep
    have hle := ih hrest
    simp only [List.length_cons]
    omega

theorem Ordered.completes (h : Ordered rank s) :
    ∃ schedule s', run step s schedule = some s' ∧ Finished s' := by
  induction hleft : remaining s using Nat.strong_induction_on generalizing s with
  | _ left ih =>
    by_cases hdone : Finished s
    · exact ⟨[], s, rfl, hdone⟩
    obtain ⟨i, t, hstep⟩ := h.progress hdone
    have hlt := remaining_lt_of_step hstep
    obtain ⟨schedule, s', hrun, hfinished⟩ :=
      ih (remaining t) (hleft ▸ hlt) (step_ordered s i t h hstep) rfl
    exact ⟨i :: schedule, s', (run_cons_of_step hstep schedule).trans hrun, hfinished⟩

end Ranks

end PillarCsi.LockOrder
