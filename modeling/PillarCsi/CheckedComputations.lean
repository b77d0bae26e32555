import Mathlib.Data.List.Basic

/-! What a computation that may be refused has done when it was not. -/

namespace PillarCsi.CheckedComputations

variable {ε α β : Type} {result : Except ε α} {f : α → Except ε β} {b : β} {xs : List α}

theorem exists_of_bind_eq_ok (h : result >>= f = .ok b) : ∃ a, result = .ok a ∧ f a = .ok b := by
  cases result with
  | error e => cases h
  | ok a => exact ⟨a, rfl, h⟩

theorem exists_of_map_eq_ok {f : α → β}
    (h : result.map f = .ok b) : ∃ a, result = .ok a ∧ f a = b := by
  cases result with
  | error e => cases h
  | ok a => exact ⟨a, rfl, Except.ok.inj h⟩

theorem forall_mem_of_mapM_eq_ok {Q : β → Prop} {ys : List β}
    (hQ : ∀ x ∈ xs, ∀ y, f x = .ok y → Q y) (h : xs.mapM f = .ok ys) : ∀ y ∈ ys, Q y := by
  induction xs generalizing ys with
  | nil =>
    cases h
    simp
  | cons x rest ih =>
    rw [List.mapM_cons] at h
    obtain ⟨y, hy, h⟩ := exists_of_bind_eq_ok h
    obtain ⟨zs, hzs, h⟩ := exists_of_bind_eq_ok h
    cases h
    rintro z (_ | ⟨_, hz⟩)
    · exact hQ x (by simp) y hy
    · exact ih (fun x hx => hQ x (.tail _ hx)) hzs z hz

theorem mapM_eq_self {f : α → Except ε α} (h : ∀ x ∈ xs, f x = .ok x) : xs.mapM f = .ok xs := by
  induction xs with
  | nil => rfl
  | cons x rest ih =>
    rw [List.mapM_cons, h x (by simp), ih fun y hy => h y (.tail x hy)]
    rfl

end PillarCsi.CheckedComputations
