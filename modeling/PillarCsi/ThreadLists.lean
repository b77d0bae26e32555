import Mathlib.Data.List.Basic

/-!
Threads as a list of their states: one thread at a time moves on, and a counter
beside them follows the threads that are in some part of their code.
-/

namespace PillarCsi.ThreadLists

variable {τ : Type*} {threads : List τ} {i j : Nat} {old new t : τ}

/-- What a move does to the number of threads in a part of the code. -/
theorem countP_move (h : threads[i]? = some old) (new : τ) (inside : τ → Bool) :
    (threads.set i new).countP inside + (if inside old then 1 else 0) =
      threads.countP inside + (if inside new then 1 else 0) := by
  obtain ⟨hi, rfl⟩ := List.getElem?_eq_some_iff.mp h
  have hpos : inside threads[i] = true → 0 < threads.countP inside := fun hin =>
    List.countP_pos_iff.mpr ⟨threads[i], List.getElem_mem hi, hin⟩
  rw [List.countP_set hi]
  split <;> rename_i hin
  · have := hpos hin
    omega
  · omega

theorem mem_move (h : t ∈ threads.set i new) : t = new ∨ t ∈ threads :=
  (List.mem_or_eq_of_mem_set h).symm

theorem getElem?_move (h : threads[i]? = some old) :
    (threads.set i new)[j]? = if j = i then some new else threads[j]? := by
  obtain ⟨hi, -⟩ := List.getElem?_eq_some_iff.mp h
  rw [List.getElem?_set]
  by_cases hij : i = j
  · subst hij
    simp [hi]
  · simp [hij, Ne.symm hij]

/-- At most one thread is in a part of the code that counts at most one. -/
theorem eq_of_countP_le_one {inside : τ → Bool} (h : threads.countP inside ≤ 1) {a b : τ}
    (hi : threads[i]? = some a) (ha : inside a = true) (hj : threads[j]? = some b)
    (hb : inside b = true) : i = j := by
  induction threads generalizing i j with
  | nil => cases hi
  | cons t rest ih =>
    -- A thread of the rest is counted, so the first one is not.
    have hrest : ∀ {k : Nat} {c : τ}, rest[k]? = some c → inside c = true → inside t = false := by
      intro k c hk hc
      have hpos := List.countP_pos_iff.mpr ⟨c, List.mem_of_getElem? hk, hc⟩
      rw [List.countP_cons] at h
      cases ht : inside t with
      | false => rfl
      | true =>
        rw [if_pos ht] at h
        omega
    cases i with
    | zero =>
      obtain rfl : t = a := by simpa using hi
      cases j with
      | zero => rfl
      | succ j => exact absurd ha (by simp [hrest (by simpa using hj) hb])
    | succ i =>
      have hcount := List.countP_cons (p := inside) (a := t) (l := rest)
      cases j with
      | zero =>
        obtain rfl : t = b := by simpa using hj
        exact absurd hb (by simp [hrest (by simpa using hi) ha])
      | succ j => exact congrArg _ (ih (by omega) (by simpa using hi) (by simpa using hj))

end PillarCsi.ThreadLists
