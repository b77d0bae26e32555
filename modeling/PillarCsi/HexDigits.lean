import Mathlib.Data.List.Basic

/-!
Bytes written in hexadecimal.  Encoding writes lower-case digits; decoding
takes digits of either case, so that it has a left inverse only on texts in
lower case.
-/

namespace PillarCsi.HexDigits

def lowerDigits : List Char :=
  ['0', '1', '2', '3', '4', '5', '6', '7', '8', '9', 'a', 'b', 'c', 'd', 'e', 'f']

def digit (n : Nat) : Char := lowerDigits.getD n '0'

/-- The value of a digit of either case. -/
def value (c : Char) : Option Nat :=
  if '0' ≤ c ∧ c ≤ '9' then some (c.toNat - '0'.toNat)
  else if 'a' ≤ c ∧ c ≤ 'f' then some (c.toNat - 'a'.toNat + 10)
  else if 'A' ≤ c ∧ c ≤ 'F' then some (c.toNat - 'A'.toNat + 10)
  else none

def encode (bytes : List UInt8) : List Char :=
  bytes.flatMap fun b => [digit (b.toNat / 16), digit (b.toNat % 16)]

def decode : List Char → Option (List UInt8)
  | [] => some []
  | [_] => none
  | high :: low :: rest =>
    match value high, value low, decode rest with
    | some h, some l, some bytes => some (UInt8.ofNat (h * 16 + l) :: bytes)
    | _, _, _ => none

theorem value_digit : ∀ n < 16, value (digit n) = some n := by decide

theorem digit_of_value {c : Char} (h : c ∈ lowerDigits) :
    ∃ n, n < 16 ∧ value c = some n ∧ digit n = c := by
  simp only [lowerDigits, List.mem_cons, List.not_mem_nil, or_false] at h
  rcases h with rfl | rfl | rfl | rfl | rfl | rfl | rfl | rfl | rfl | rfl | rfl | rfl | rfl |
    rfl | rfl | rfl
  all_goals exact ⟨_, by decide, rfl, rfl⟩

theorem encode_cons_ofNat {high low : Nat} (hhigh : high < 16) (hlow : low < 16)
    (bytes : List UInt8) : encode (UInt8.ofNat (high * 16 + low) :: bytes) =
      digit high :: digit low :: encode bytes := by
  have hbyte : (UInt8.ofNat (high * 16 + low)).toNat = high * 16 + low := by
    simp only [UInt8.toNat_ofNat']
    omega
  have hdiv : (high * 16 + low) / 16 = high := by omega
  have hmod : (high * 16 + low) % 16 = low := by omega
  simp only [encode, List.flatMap_cons, hbyte, hdiv, hmod]
  rfl

theorem encode_of_decode {text : List Char} {bytes : List UInt8}
    (hlower : ∀ c ∈ text, c ∈ lowerDigits) (h : decode text = some bytes) :
    encode bytes = text := by
  induction text using decode.induct generalizing bytes with
  | case1 =>
    cases h
    rfl
  | case2 => cases h
  | case3 high low rest _ _ _ hdecoded hl hh ih =>
    obtain ⟨n, hn, hvalue, hdigit⟩ := digit_of_value (hlower high (by simp))
    obtain ⟨m, hm, hvalue', hdigit'⟩ := digit_of_value (hlower low (by simp))
    simp only [decode, hvalue, hvalue', hdecoded, Option.some.injEq] at h
    subst h
    rw [encode_cons_ofNat hn hm, hdigit, hdigit',
      ih (fun c hc => hlower c (by simp [hc])) hdecoded]
  | case4 high low rest hnone ih =>
    simp only [decode] at h
    cases h

end PillarCsi.HexDigits
