import Mathlib.Data.List.Basic

/-!
Runs of a partial step function.

An action carries every choice the environment makes in one step, so a step is
a function and a run is a list of actions.  A step that is not enabled has no
successor.
-/

namespace PillarCsi.TransitionSystem

variable {σ α : Type*}

/-- The state after a list of actions, when all of them are enabled in turn. -/
def run (step : σ → α → Option σ) : σ → List α → Option σ
  | s, [] => some s
  | s, a :: rest =>
    match step s a with
    | none => none
    | some t => run step t rest

@[simp] theorem run_nil (step : σ → α → Option σ) (s : σ) : run step s [] = some s := rfl

variable {step : σ → α → Option σ} {s t u : σ} {a : α} {rest actions front back : List α}
  {cond cond' : σ → α → Prop}

theorem run_cons_of_step (h : step s a = some t) (rest : List α) :
    run step s (a :: rest) = run step t rest := by
  simp [run, h]

theorem run_cons_eq_some (h : run step s (a :: rest) = some u) :
    ∃ t, step s a = some t ∧ run step t rest = some u := by
  cases ht : step s a with
  | none => simp [run, ht] at h
  | some t => exact ⟨t, rfl, by rwa [run_cons_of_step ht] at h⟩

theorem run_append (hfront : run step s front = some t) (hback : run step t back = some u) :
    run step s (front ++ back) = some u := by
  induction front generalizing s with
  | nil =>
    cases Option.some.inj hfront
    exact hback
  | cons a rest ih =>
    obtain ⟨next, hstep, hrest⟩ := run_cons_eq_some hfront
    rw [List.cons_append, run_cons_of_step hstep]
    exact ih hrest

/-- What is known of a guarded step that was taken. -/
theorem of_guard {c : Prop} [Decidable c] (h : (if c then some s else none) = some t) :
    c ∧ s = t := by
  simpa using h

variable {inv : σ → Prop}

/-- Every action of the run is taken in a state where `cond` holds of it. -/
def AllSteps (step : σ → α → Option σ) (cond : σ → α → Prop) : σ → List α → Prop
  | _, [] => True
  | s, a :: rest => cond s a ∧ ∀ t, step s a = some t → AllSteps step cond t rest

instance decidableAllSteps (step : σ → α → Option σ) (cond : σ → α → Prop)
    [∀ s a, Decidable (cond s a)] :
    (s : σ) → (actions : List α) → Decidable (AllSteps step cond s actions)
  | _, [] => isTrue trivial
  | s, a :: rest =>
    match h : step s a with
    | none => decidable_of_iff (cond s a) <| by simp [AllSteps, h]
    | some t =>
      have := decidableAllSteps step cond t rest
      decidable_of_iff (cond s a ∧ AllSteps step cond t rest) <| by simp [AllSteps, h]

theorem allSteps_of_forall_mem (h : ∀ a ∈ actions, ∀ s, cond s a) (s : σ) :
    AllSteps step cond s actions := by
  induction actions generalizing s with
  | nil => trivial
  | cons a rest ih =>
    exact ⟨h a (by simp) s, fun t _ => ih (fun b hb => h b (.tail _ hb)) t⟩

theorem allSteps_of_forall (h : ∀ s a, cond s a) (s : σ) (actions : List α) :
    AllSteps step cond s actions :=
  allSteps_of_forall_mem (fun a _ s => h s a) s

theorem AllSteps.imp (himp : ∀ s a, cond s a → cond' s a) (h : AllSteps step cond s actions) :
    AllSteps step cond' s actions := by
  induction actions generalizing s with
  | nil => trivial
  | cons a rest ih => exact ⟨himp s a h.1, fun t ht => ih (h.2 t ht)⟩

theorem invariant_run_of_allSteps {cond : σ → α → Prop}
    (hstep : ∀ s a t, inv s → cond s a → step s a = some t → inv t)
    {s t : σ} {actions : List α} (hs : inv s) (hcond : AllSteps step cond s actions)
    (hrun : run step s actions = some t) : inv t := by
  induction actions generalizing s with
  | nil =>
    cases Option.some.inj hrun
    exact hs
  | cons a rest ih =>
    obtain ⟨next, hnext, hrest⟩ := run_cons_eq_some hrun
    exact ih (hstep s a next hs hcond.1 hnext) (hcond.2 next hnext) hrest

theorem invariant_run (hstep : ∀ s a t, inv s → step s a = some t → inv t) {s t : σ}
    {actions : List α} (hs : inv s) (hrun : run step s actions = some t) : inv t :=
  invariant_run_of_allSteps (fun s a t h (_ : True) => hstep s a t h) hs
    (allSteps_of_forall (fun _ _ => trivial) s actions) hrun

theorem AllSteps.of_invariant (hstep : ∀ s a t, inv s → cond s a → step s a = some t → inv t)
    (hgood : ∀ s a, inv s → cond s a → cond' s a) (hs : inv s)
    (hcond : AllSteps step cond s actions) : AllSteps step cond' s actions := by
  induction actions generalizing s with
  | nil => trivial
  | cons a rest ih =>
    exact ⟨hgood s a hs hcond.1, fun t ht => ih (hstep s a t hs hcond.1 ht) (hcond.2 t ht)⟩

theorem AllSteps.append (hfront : AllSteps step cond s front)
    (hback : ∀ t, run step s front = some t → AllSteps step cond t back) :
    AllSteps step cond s (front ++ back) := by
  induction front generalizing s with
  | nil => exact hback s rfl
  | cons a rest ih =>
    refine ⟨hfront.1, fun t ht => ih (hfront.2 t ht) fun u hu => hback u ?_⟩
    rwa [run_cons_of_step ht]

/-- The states of an infinite run: each is a successor of the one before. -/
def IsInfiniteRun (step : σ → α → Option σ) (states : Nat → σ) (actions : Nat → α) : Prop :=
  ∀ n, step (states n) (actions n) = some (states (n + 1))

variable {states : Nat → σ} {actions : Nat → α}

theorem IsInfiniteRun.run_range (h : IsInfiniteRun step states actions) (n : Nat) :
    run step (states 0) ((List.range n).map actions) = some (states n) := by
  induction n with
  | zero => rfl
  | succ n ih =>
    rw [List.range_succ, List.map_append]
    refine run_append ih ?_
    simp [run_cons_of_step (h n)]

theorem IsInfiniteRun.allSteps_range (h : IsInfiniteRun step states actions)
    (hcond : ∀ n, cond (states n) (actions n)) (n : Nat) :
    AllSteps step cond (states 0) ((List.range n).map actions) := by
  induction n with
  | zero => trivial
  | succ n ih =>
    rw [List.range_succ, List.map_append]
    refine ih.append fun t ht => ?_
    rw [h.run_range n] at ht
    cases ht
    exact ⟨hcond n, fun _ _ => trivial⟩

end PillarCsi.TransitionSystem
