import Mathlib.Data.List.Basic

/-!
How a tool reads its argument vector with `getopt`: clustered letters, values
attached to their letter or in the next word, `--` as the end of the options, and
everything else as positional.
-/

namespace PillarCsi.Getopt

/-- Whether an option letter takes a value; `none` for a letter the tool does
not know. -/
abbrev Arity := Char → Option Bool

/-- An option letter with its value, if it takes one. -/
abbrev Given := Char × Option (List Char)

structure Parsed where
  options : List Given
  positional : List (List Char)
  deriving DecidableEq, Repr

inductive GetoptError where
  | unknown (letter : Char)
  | missingValue (letter : Char)
  deriving DecidableEq, Repr

/-- The letters of one word; the last one may wait for its value. -/
def cluster (arity : Arity) : List Char → Except GetoptError (List Given × Option Char)
  | [] => .ok ([], none)
  | c :: rest =>
    match arity c with
    | none => .error (.unknown c)
    | some false =>
      match cluster arity rest with
      | .error e => .error e
      | .ok (given, waiting) => .ok ((c, none) :: given, waiting)
    | some true => if rest = [] then .ok ([], some c) else .ok ([(c, some rest)], none)

def Parsed.withOptions (given : List Given) (p : Parsed) : Parsed :=
  { p with options := given ++ p.options }

/-- The words after a letter that waits for its value, if one does. -/
def getopt (arity : Arity) : Option Char → List (List Char) → Except GetoptError Parsed
  | none, [] => .ok ⟨[], []⟩
  | some c, [] => .error (.missingValue c)
  | some c, word :: rest => (getopt arity none rest).map (·.withOptions [(c, some word)])
  | none, word :: rest =>
    match word with
    | ['-', '-'] => .ok ⟨[], rest⟩
    | '-' :: c :: cs =>
      match cluster arity (c :: cs) with
      | .error e => .error e
      | .ok (given, waiting) => (getopt arity waiting rest).map (·.withOptions given)
    | _ => (getopt arity none rest).map fun p => { p with positional := word :: p.positional }

/-- The words spell the options one letter a word, each with its value attached
or in the next word. -/
inductive Spells (arity : Arity) : List (List Char) → List Given → Prop
  | nil : Spells arity [] []
  | flag {c : Char} {words : List (List Char)} {given : List Given} (hdash : c ≠ '-')
      (harity : arity c = some false) (hrest : Spells arity words given) :
      Spells arity (['-', c] :: words) ((c, none) :: given)
  | attached {c : Char} {value : List Char} {words : List (List Char)} {given : List Given}
      (hdash : c ≠ '-') (hvalue : value ≠ []) (harity : arity c = some true)
      (hrest : Spells arity words given) :
      Spells arity (('-' :: c :: value) :: words) ((c, some value) :: given)
  | separate {c : Char} {value : List Char} {words : List (List Char)} {given : List Given}
      (hdash : c ≠ '-') (harity : arity c = some true) (hrest : Spells arity words given) :
      Spells arity (['-', c] :: value :: words) ((c, some value) :: given)

section Spells

variable {arity : Arity} {words others : List (List Char)} {given more : List Given}

theorem Spells.append (h : Spells arity words given) (hmore : Spells arity others more) :
    Spells arity (words ++ others) (given ++ more) := by
  induction h with
  | nil => exact hmore
  | flag hdash harity _ ih => exact .flag hdash harity ih
  | attached hdash hvalue harity _ ih => exact .attached hdash hvalue harity ih
  | separate hdash harity _ ih => exact .separate hdash harity ih

theorem withOptions_withOptions (front back : List Given) (p : Parsed) :
    (p.withOptions back).withOptions front = p.withOptions (front ++ back) := by
  simp [Parsed.withOptions]

theorem map_withOptions (front back : List Given) (r : Except GetoptError Parsed) :
    (r.map (·.withOptions back)).map (·.withOptions front) =
      r.map (·.withOptions (front ++ back)) := by
  cases r with
  | error e => rfl
  | ok p => exact congrArg Except.ok (withOptions_withOptions front back p)

theorem map_withOptions_nil (r : Except GetoptError Parsed) : r.map (·.withOptions []) = r := by
  cases r with
  | error e => rfl
  | ok p => rfl

theorem getopt_dash {c : Char} {cs : List Char} (hdash : c ≠ '-') (rest : List (List Char)) :
    getopt arity none (('-' :: c :: cs) :: rest) =
      match cluster arity (c :: cs) with
      | .error e => .error e
      | .ok (given, waiting) => (getopt arity waiting rest).map (·.withOptions given) := by
  rw [getopt]
  exact fun heq _ => hdash heq

theorem getopt_of_spells (h : Spells arity words given) (rest : List (List Char)) :
    getopt arity none (words ++ rest) = (getopt arity none rest).map (·.withOptions given) := by
  induction h with
  | nil => exact (map_withOptions_nil _).symm
  | flag hdash harity _ ih =>
    rw [List.cons_append, getopt_dash hdash]
    simp only [cluster, harity, ih, map_withOptions, List.singleton_append]
  | attached hdash hvalue harity _ ih =>
    rw [List.cons_append, getopt_dash hdash]
    simp only [cluster, harity, if_neg hvalue, ih, map_withOptions, List.singleton_append]
  | separate hdash harity _ ih =>
    rw [List.cons_append, List.cons_append, getopt_dash hdash]
    simp only [cluster, harity, if_true, getopt, ih, map_withOptions, List.singleton_append,
      List.nil_append]

theorem getopt_last (h : Spells arity words given) {word : List Char}
    (hword : word.head? ≠ some '-') :
    getopt arity none (words ++ [word]) = .ok ⟨given, [word]⟩ := by
  have hpositional : getopt arity none [word] = .ok ⟨[], [word]⟩ := by
    rw [getopt]
    · rfl
    · rintro rfl
      exact hword rfl
    · rintro c cs rfl
      exact hword rfl
  rw [getopt_of_spells h, hpositional]
  simp [Except.map, Parsed.withOptions]

end Spells

end PillarCsi.Getopt
