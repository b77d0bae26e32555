import PillarCsi.ByteCodes

/-!
The names in a mount table: how the kernel writes them, and the three decoders
(`csi/trim.go`, `agent/backend/devidle/devidle.go`,
`agent/backend/directory/directory_linux.go`).
-/

namespace PillarCsi.MountInfo

open ByteCodes

/-- The bytes that the kernel escapes; `#` only in the source of a mount. -/
def mangled (source : Bool) (b : UInt8) : Bool :=
  b = 32 || b = 9 || b = 10 || b = 92 || source && b = 35

/-- A backslash and three octal digits. -/
def octal (b : UInt8) : List UInt8 := [92, 48 + b / 64, 48 + b / 8 % 8, 48 + b % 8]

def kernelByte (source : Bool) (b : UInt8) : List UInt8 := if mangled source b then octal b else [b]

def kernelEscape (source : Bool) (s : List UInt8) : List UInt8 := s.flatMap (kernelByte source)

/-- The byte of an escape whose first digit is at most `top`. -/
def octalEscape (top a b c d : UInt8) : Option UInt8 :=
  if a = 92 ∧ (48 ≤ b ∧ b ≤ top) ∧ (48 ≤ c ∧ c ≤ 55) ∧ (48 ≤ d ∧ d ≤ 55) then
    some ((b - 48) <<< 6 ||| (c - 48) <<< 3 ||| (d - 48))
  else none

def unescapeMountInfo : List UInt8 → List UInt8 := replaceFours (octalEscape 55)

def unescapeMountinfoField : List UInt8 → List UInt8 := replaceFours (octalEscape 51)

/-- `strings.ReplaceAll` of four bytes by one. -/
def replaceAll (old : List UInt8) (new : UInt8) : List UInt8 → List UInt8 :=
  replaceFours fun a b c d => if [a, b, c, d] = old then some new else none

def decodeMountField (s : List UInt8) : List UInt8 :=
  replaceAll (octal 92) 92 (replaceAll (octal 9) 9 (replaceAll (octal 32) 32 s))

variable (source : Bool)

theorem kernelByte_cases (b : UInt8) : (b ≠ 92 ∧ kernelByte source b = [b]) ∨
    kernelByte source b = octal b ∧ (b = 32 ∨ b = 9 ∨ b = 10 ∨ b = 92 ∨ b = 35) := by
  unfold kernelByte
  split
  · rename_i h
    simp only [mangled, Bool.or_eq_true, decide_eq_true_eq, Bool.and_eq_true] at h
    exact .inr ⟨rfl, by tauto⟩
  · rename_i h
    exact .inl ⟨fun heq => h (by simp [mangled, heq]), rfl⟩

theorem unescape_kernelEscape {top : UInt8} (htop : top = 55 ∨ top = 51) (s : List UInt8) :
    replaceFours (octalEscape top) (kernelEscape source s) = s := by
  have hword : ∀ b rest, replaceFours (octalEscape top) (kernelByte source b ++ rest) =
      [b] ++ replaceFours (octalEscape top) rest := by
    intro b rest
    rcases kernelByte_cases source b with ⟨hne, hword⟩ | ⟨hword, hb⟩
    · rw [hword]
      exact replaceFours_cons (fun _ _ _ => if_neg fun h => hne h.1) rest
    · rw [hword]
      rcases htop with rfl | rfl <;> rcases hb with rfl | rfl | rfl | rfl | rfl <;> rfl
  rw [kernelEscape, replaceFours_flatMap hword, List.flatMap_singleton']

/-- A pass of `decodeMountField` over words of which some are decoded already. -/
theorem replaceAll_words {done : List UInt8} {b : UInt8} (hb : b = 32 ∨ b = 9 ∨ b = 92)
    (hdone : 92 ∉ done) (s : List UInt8) :
    replaceAll (octal b) b (s.flatMap fun x => if x ∈ done then [x] else kernelByte source x) =
      s.flatMap fun x => if x ∈ b :: done then [x] else kernelByte source x := by
  refine replaceFours_flatMap (fun x rest => ?_) s
  have hplain : ∀ {a} (rest : List UInt8), a ≠ 92 → replaceAll (octal b) b (a :: rest) =
      a :: replaceAll (octal b) b rest := fun rest h =>
    replaceFours_cons (fun _ _ _ => if_neg fun heq => h (List.cons.inj heq).1) rest
  change replaceAll (octal b) b _ = _ ++ replaceAll (octal b) b rest
  by_cases hx : x ∈ done
  · rw [if_pos hx, if_pos (.tail _ hx)]
    exact hplain rest fun heq => hdone (heq ▸ hx)
  rw [if_neg hx]
  rcases kernelByte_cases source x with ⟨hne, hword⟩ | ⟨hword, hspecial⟩
  · rw [hword, ite_self]
    exact hplain rest hne
  rw [hword]
  by_cases heq : x = b
  · rw [if_pos (heq ▸ .head _), heq, replaceAll]
    simp [octal, replaceFours]
  · -- another escape: its digits are no backslashes
    rw [if_neg (by simp [heq, hx])]
    have hother : octal x ≠ octal b := by
      rcases hb with rfl | rfl | rfl <;> rcases hspecial with rfl | rfl | rfl | rfl | rfl <;>
        first | exact absurd rfl heq | decide
    have hdigits : 48 + x / 64 ≠ 92 ∧ 48 + x / 8 % 8 ≠ 92 ∧ 48 + x % 8 ≠ 92 := by
      rcases hspecial with rfl | rfl | rfl | rfl | rfl <;> decide
    simp only [octal] at hother ⊢
    rw [List.cons_append, replaceAll, List.cons_append, List.cons_append, List.cons_append,
      replaceFours, if_neg hother]
    change 92 :: replaceAll (octal b) b _ = _
    rw [hplain _ hdigits.1, hplain _ hdigits.2.1, hplain _ hdigits.2.2]
    rfl

/-- What the three passes leave of a name: the escapes of a newline and of a
`#` stay. -/
theorem decodeMountField_kernelEscape (s : List UInt8) :
    decodeMountField (kernelEscape source s) =
      s.flatMap fun x => if x ∈ [92, 9, 32] then [x] else kernelByte source x := by
  have hfirst := @replaceAll_words source [] 32 (.inl rfl) (by simp) s
  simp only [List.not_mem_nil, if_false] at hfirst
  rw [decodeMountField, kernelEscape, hfirst, replaceAll_words source (.inr (.inl rfl)) (by decide),
    replaceAll_words source (.inr (.inr rfl)) (by decide)]

theorem decodedWord_cases (x : UInt8) :
    (if x ∈ [92, 9, 32] then [x] else kernelByte source x) = [x] ∧
        ¬ (x = 10 ∨ source = true ∧ x = 35) ∨
      (if x ∈ [92, 9, 32] then [x] else kernelByte source x) = octal x ∧
        (x = 10 ∨ source = true ∧ x = 35) := by
  by_cases hkept : x = 10 ∨ source = true ∧ x = 35
  · right
    rcases hkept with rfl | ⟨rfl, rfl⟩
    · exact ⟨by simp [kernelByte, mangled], .inl rfl⟩
    · exact ⟨by simp [kernelByte, mangled], .inr ⟨rfl, rfl⟩⟩
  · refine .inl ⟨?_, hkept⟩
    split
    · rfl
    · rename_i hspecial
      have hplain : mangled source x = false := by
        simp only [List.mem_cons, List.not_mem_nil, or_false, not_or] at hspecial hkept
        cases source <;> simp_all [mangled]
      simp [kernelByte, hplain]

/-- The first two decoders give back every name, the third one exactly those
without a newline and, in the source of a mount, without a `#`. -/
theorem mountinfo_decoded (s : List UInt8) :
    unescapeMountInfo (kernelEscape source s) = s ∧
      unescapeMountinfoField (kernelEscape source s) = s ∧
      (decodeMountField (kernelEscape source s) = s ↔ 10 ∉ s ∧ (source = true → 35 ∉ s)) := by
  refine ⟨unescape_kernelEscape source (.inl rfl) s, unescape_kernelEscape source (.inr rfl) s, ?_⟩
  -- an escape that stays has four bytes, so the text is longer than the name
  have hlong : ∀ x, 1 < (octal x).length := fun _ => by simp [octal]
  rw [decodeMountField_kernelEscape, flatMap_eq_self_iff fun x =>
    (decodedWord_cases source x).imp And.left fun h => h.1 ▸ hlong x]
  have hword : ∀ x, (if x ∈ [92, 9, 32] then [x] else kernelByte source x) = [x] ↔
      ¬ (x = 10 ∨ source = true ∧ x = 35) := by
    intro x
    rcases decodedWord_cases source x with h | h
    · exact iff_of_true h.1 h.2
    · refine iff_of_false (fun heq => ?_) (not_not.mpr h.2)
      rw [h.1] at heq
      exact absurd (hlong x) (by simp [heq])
  simp only [hword]
  constructor
  · intro h
    exact ⟨fun hmem => h 10 hmem (.inl rfl), fun hsource hmem => h 35 hmem (.inr ⟨hsource, rfl⟩)⟩
  · rintro ⟨hnewline, hhash⟩ x hx (rfl | ⟨hsource, rfl⟩)
    · exact hnewline hx
    · exact hhash hsource hx

/-- A directory whose name has a newline in it. -/
theorem newline_not_decoded :
    unescapeMountInfo (kernelEscape false [47, 97, 10, 98]) = [47, 97, 10, 98] ∧
      decodeMountField (kernelEscape false [47, 97, 10, 98]) = [47, 97, 92, 48, 49, 50, 98] := by
  decide

theorem mountinfo_decoded_space :
    decodeMountField (kernelEscape true [47, 97, 32, 92, 48, 52, 48]) =
      [47, 97, 32, 92, 48, 52, 48] :=
  (mountinfo_decoded true [47, 97, 32, 92, 48, 52, 48]).2.2.mpr (by decide)

end PillarCsi.MountInfo
