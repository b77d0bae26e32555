import Mathlib.Data.List.Basic

/-!
Histories of events, newest first, and the order in which they record events;
and logs, which only grow at their end, so that a position names one entry.
-/

namespace PillarCsi.History

variable {ε : Type*} {e x y : ε} {h log : List ε} {i : Nat}

def Before (h : List ε) (x y : ε) : Prop := [y, x].Sublist h

def Between (h : List ε) (x y z : ε) : Prop := [z, y, x].Sublist h

instance [DecidableEq ε] (h : List ε) (x y : ε) : Decidable (Before h x y) :=
  inferInstanceAs (Decidable ([y, x].Sublist h))

theorem sublist_cons_cons_iff {l : List ε} :
    (x :: l).Sublist (e :: h) ↔ (x :: l).Sublist h ∨ (x = e ∧ l.Sublist h) := by
  constructor
  · intro hsub
    cases hsub with
    | cons _ hsub => exact .inl hsub
    | cons_cons _ hsub => exact .inr ⟨rfl, hsub⟩
  · rintro (hsub | ⟨rfl, hsub⟩)
    · exact hsub.cons e
    · exact hsub.cons_cons x

theorem not_before_nil (x y : ε) : ¬ Before [] x y := by
  simp [Before]

theorem not_between_nil (x y z : ε) : ¬ Between [] x y z := by
  simp [Between]

theorem before_cons : Before (e :: h) x y ↔ Before h x y ∨ (y = e ∧ x ∈ h) := by
  rw [Before, sublist_cons_cons_iff, List.singleton_sublist]
  rfl

theorem between_cons {z : ε} : Between (e :: h) x y z ↔ Between h x y z ∨ (z = e ∧ Before h x y) :=
  sublist_cons_cons_iff

theorem getElem?_concat_of_some (h : log[i]? = some x) : (log ++ [y])[i]? = some x := by
  rw [List.getElem?_append_left (List.getElem?_eq_some_iff.mp h).1]
  exact h

theorem getElem?_concat_cases
    (h : (log ++ [y])[i]? = some x) : log[i]? = some x ∨ i = log.length ∧ x = y := by
  rcases Nat.lt_or_ge i log.length with hlt | hge
  · left
    rwa [List.getElem?_append_left hlt] at h
  · right
    rw [List.getElem?_append_right hge] at h
    obtain ⟨hlength, heq⟩ := List.getElem?_eq_some_iff.mp h
    have hi : i - log.length = 0 := by simpa using hlength
    exact ⟨by omega, by simpa [hi] using heq.symm⟩

end PillarCsi.History
