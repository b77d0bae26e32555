import Mathlib.Data.List.Basic
import Mathlib.Tactic.Ring

/-!
Codes over bytes: words of which none begins another, texts with escapes of four
bytes, and numbers of a fixed width.
-/

namespace PillarCsi.ByteCodes

section Words

variable {α β : Type*} {f : α → List β} {xs ys : List α}

/-- The first word of a text is read back from it. -/
structure Readable (f : α → List β) : Prop where
  ne_nil : ∀ a, f a ≠ []
  eq_of_append : ∀ {a b xs ys}, f a ++ xs = f b ++ ys → a = b

theorem Readable.isPrefix_iff (hf : Readable f) {tail : List β} (htail : ∀ a ∈ xs, ¬ f a <+: tail) :
    xs.flatMap f <+: ys.flatMap f ++ tail ↔ xs <+: ys := by
  induction xs generalizing ys with
  | nil => simp
  | cons x xs ih =>
    rw [List.forall_mem_cons] at htail
    cases ys with
    | nil =>
      have hnot : ¬ (x :: xs).flatMap f <+: tail := fun h =>
        htail.1 ((List.prefix_append (f x) _).trans h)
      simpa using hnot
    | cons y ys =>
      rw [List.cons_prefix_cons, ← ih htail.2]
      simp only [List.flatMap_cons, List.append_assoc]
      constructor
      · rintro ⟨rest, h⟩
        rw [List.append_assoc] at h
        obtain rfl := hf.eq_of_append h
        exact ⟨rfl, rest, List.append_cancel_left h⟩
      · rintro ⟨rfl, h⟩
        exact (List.prefix_append_right_inj (f x)).mpr h

theorem Readable.flatMap_inj (hf : Readable f) (h : xs.flatMap f = ys.flatMap f) : xs = ys := by
  have hle : ∀ {xs ys : List α}, xs.flatMap f = ys.flatMap f → xs <+: ys := by
    intro xs ys h
    have htail : ∀ a ∈ xs, ¬ f a <+: [] := fun a _ ha => hf.ne_nil a (List.prefix_nil.mp ha)
    rw [← hf.isPrefix_iff htail, h]
    exact List.prefix_append _ _
  exact (hle h).eq_of_length_le (hle h.symm).length_le

/-- A text whose longer words are kept as they are has as many symbols as words
only if it has none of these. -/
theorem flatMap_eq_self_iff {word : α → List α}
    (hword : ∀ x, word x = [x] ∨ 1 < (word x).length) (xs : List α) :
    xs.flatMap word = xs ↔ ∀ x ∈ xs, word x = [x] := by
  have hlength : ∀ xs : List α, xs.length ≤ (xs.flatMap word).length := by
    intro xs
    induction xs with
    | nil => simp
    | cons x xs ih =>
      have hx : 1 ≤ (word x).length := by rcases hword x with h | h <;> simp [h, Nat.le_of_lt]
      simp only [List.flatMap_cons, List.length_append, List.length_cons]
      omega
  induction xs with
  | nil => simp
  | cons x xs ih =>
    rw [List.flatMap_cons, List.forall_mem_cons]
    constructor
    · intro h
      rcases hword x with hx | hx
      · rw [hx] at h
        exact ⟨hx, ih.mp (List.cons.inj h).2⟩
      · have heq := congrArg List.length h
        have hrest := hlength xs
        simp only [List.length_append, List.length_cons] at heq
        omega
    · rintro ⟨hx, hrest⟩
      rw [hx, ih.mpr hrest, List.singleton_append]

end Words

section Escapes

variable {α : Type*} (code : α → α → α → α → Option α)

/-- Reads a text from the left and replaces four symbols by what they stand for. -/
def replaceFours : List α → List α
  | a :: b :: c :: d :: rest =>
    match code a b c d with
    | some x => x :: replaceFours rest
    | none => a :: replaceFours (b :: c :: d :: rest)
  | rest => rest

variable {code}

theorem replaceFours_cons {a : α} (h : ∀ b c d, code a b c d = none) (rest : List α) :
    replaceFours code (a :: rest) = a :: replaceFours code rest := by
  match rest with
  | [] | [_] | [_, _] => rfl
  | b :: c :: d :: rest => rw [replaceFours, h]

/-- Replacing acts on the words of a text one by one. -/
theorem replaceFours_flatMap {β : Type*} {word next : β → List α}
    (h : ∀ x rest, replaceFours code (word x ++ rest) = next x ++ replaceFours code rest)
    (xs : List β) : replaceFours code (xs.flatMap word) = xs.flatMap next := by
  induction xs with
  | nil => rfl
  | cons x xs ih => rw [List.flatMap_cons, h, ih, List.flatMap_cons]

end Escapes

/-- The bytes of a number, the least significant one first. -/
def putUint : Nat → Nat → List UInt8
  | 0, _ => []
  | width + 1, n => UInt8.ofNat n :: putUint width (n / 256)

def getUint : List UInt8 → Nat
  | [] => 0
  | b :: rest => b.toNat + 256 * getUint rest

@[simp] theorem length_putUint (width n : Nat) : (putUint width n).length = width := by
  induction width generalizing n with
  | zero => rfl
  | succ width ih => rw [putUint, List.length_cons, ih]

theorem getUint_putUint {width n : Nat} (h : n < 256 ^ width) : getUint (putUint width n) = n := by
  induction width generalizing n with
  | zero => simpa [putUint, getUint, eq_comm] using h
  | succ width ih =>
    have hrest : n / 256 < 256 ^ width := by
      rw [pow_succ] at h
      exact Nat.div_lt_of_lt_mul (by omega)
    rw [putUint, getUint, ih hrest, UInt8.toNat_ofNat']
    omega

end PillarCsi.ByteCodes
