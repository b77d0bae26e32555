import Mathlib.Data.List.Basic
import Mathlib.Data.List.Flatten

/-!
Names made of parts that are joined by a separator: what replacing the
separator keeps, and the lexical cleaning of slash-separated paths.
-/

namespace PillarCsi.SeparatedNames

section Parts

variable {α : Type*} [DecidableEq α] {sep old new : α} {xs : List α} {ys : List (List α)}

theorem splitOn_append_cons (sep : α) (xs ys : List α) :
    (xs ++ sep :: ys).splitOn sep = xs.splitOn sep ++ ys.splitOn sep :=
  List.splitOnP_append_cons xs ys (by simp)

theorem splitOn_intercalate_flatMap (sep : α) (x : List α) (xs : List (List α)) :
    ([sep].intercalate (x :: xs)).splitOn sep = (x :: xs).flatMap (·.splitOn sep) := by
  induction xs generalizing x with
  | nil => simp
  | cons y ys ih =>
    rw [List.intercalate_cons_cons, List.append_assoc, List.singleton_append,
      splitOn_append_cons, ih y]
    simp

omit [DecidableEq α] in
theorem intercalate_append (sep : α) (x : List α) (xs : List (List α)) (hys : ys ≠ []) :
    [sep].intercalate (x :: xs ++ ys) = [sep].intercalate (x :: xs) ++ sep :: [sep].intercalate ys := by
  induction xs generalizing x with
  | nil =>
    obtain ⟨y, ys, rfl⟩ := List.exists_cons_of_ne_nil hys
    simp [List.intercalate_cons_cons]
  | cons z zs ih =>
    have hrest := ih z
    simp only [List.cons_append, List.intercalate_cons_cons] at hrest ⊢
    rw [hrest]
    simp

theorem not_mem_of_mem_splitOn {part : List α} (h : part ∈ xs.splitOn sep) : sep ∉ part := by
  induction xs generalizing part with
  | nil =>
    rw [List.splitOn_nil, List.mem_singleton] at h
    simp [h]
  | cons x xs ih =>
    rw [List.splitOn, List.splitOnP_cons_eq_if_modifyHead] at h
    split at h
    · rcases List.mem_cons.mp h with rfl | hrest
      · simp
      · exact ih hrest
    · rename_i hx
      obtain ⟨head, tail, hsplit⟩ := List.exists_cons_of_ne_nil (List.splitOn_ne_nil sep xs)
      change part ∈ List.modifyHead (List.cons x) (xs.splitOn sep) at h
      rw [hsplit, List.modifyHead_cons] at h
      rcases List.mem_cons.mp h with rfl | htail
      · have hhead : sep ∉ head := ih (by simp [hsplit])
        simp only [beq_iff_eq] at hx
        simp [hhead, Ne.symm hx]
      · exact ih (by simp [hsplit, htail])

theorem flatMap_splitOn_eq_self {xs : List (List α)} (hxs : ∀ x ∈ xs, sep ∉ x) :
    xs.flatMap (·.splitOn sep) = xs := by
  induction xs with
  | nil => rfl
  | cons x xs ih =>
    rw [List.flatMap_cons, List.splitOn_eq_singleton (hxs x (by simp)),
      ih fun y hy => hxs y (.tail _ hy), List.singleton_append]

theorem splitOn_inj {x y : List α} (h : x.splitOn sep = y.splitOn sep) : x = y := by
  calc x = [sep].intercalate (x.splitOn sep) := (List.intercalate_splitOn sep).symm
    _ = [sep].intercalate (y.splitOn sep) := by rw [h]
    _ = y := List.intercalate_splitOn sep

theorem flatMap_splitOn_inj {xs : List (List α)} (i : Nat)
    (hlength : xs.length = ys.length) (hxs : ∀ x ∈ xs.eraseIdx i, sep ∉ x)
    (hys : ∀ y ∈ ys.eraseIdx i, sep ∉ y)
    (h : xs.flatMap (·.splitOn sep) = ys.flatMap (·.splitOn sep)) : xs = ys := by
  induction xs generalizing ys i with
  | nil => exact (List.length_eq_zero_iff.mp hlength.symm).symm
  | cons x xs ih =>
    obtain ⟨y, ys, rfl⟩ := List.exists_cons_of_length_eq_add_one hlength.symm
    have htails : xs.length = ys.length := Nat.succ.inj hlength
    rw [List.flatMap_cons, List.flatMap_cons] at h
    cases i with
    | zero =>
      -- every other part is read back as it is
      rw [List.eraseIdx_cons_zero] at hxs hys
      rw [flatMap_splitOn_eq_self hxs, flatMap_splitOn_eq_self hys] at h
      obtain ⟨hhead, htail⟩ := List.append_inj' h htails
      rw [splitOn_inj hhead, htail]
    | succ i =>
      rw [List.eraseIdx_cons_succ, List.forall_mem_cons] at hxs hys
      rw [List.splitOn_eq_singleton hxs.1, List.splitOn_eq_singleton hys.1] at h
      obtain ⟨hhead, hrest⟩ := List.cons.inj h
      rw [hhead, ih i htails hxs.2 hys.2 hrest]

theorem intercalate_inj {xs : List (List α)} (i : Nat)
    (hlength : xs.length = ys.length) (hxs : ∀ x ∈ xs.eraseIdx i, sep ∉ x)
    (hys : ∀ y ∈ ys.eraseIdx i, sep ∉ y)
    (h : [sep].intercalate xs = [sep].intercalate ys) : xs = ys := by
  cases xs with
  | nil => exact (List.length_eq_zero_iff.mp hlength.symm).symm
  | cons x xs =>
    obtain ⟨y, ys, rfl⟩ := List.exists_cons_of_length_eq_add_one hlength.symm
    have hsplit := congrArg (List.splitOn sep) h
    rw [splitOn_intercalate_flatMap, splitOn_intercalate_flatMap] at hsplit
    exact flatMap_splitOn_inj i hlength hxs hys hsplit

def replaceAll (old new : α) (xs : List α) : List α := xs.map fun x => if x = old then new else x

theorem replaceAll_of_not_mem (h : old ∉ xs) : replaceAll old new xs = xs := by
  induction xs with
  | nil => rfl
  | cons x xs ih =>
    rw [List.mem_cons, not_or] at h
    simp only [replaceAll, List.map_cons, if_neg (Ne.symm h.1)] at ih ⊢
    rw [ih h.2]

theorem not_mem_replaceAll (hne : new ≠ old) (xs : List α) : old ∉ replaceAll old new xs := by
  intro h
  obtain ⟨x, -, hx⟩ := List.mem_map.mp h
  split at hx
  · exact hne hx
  · exact absurd hx ‹_›

theorem replaceAll_eq_intercalate (old new : α) (xs : List α) :
    replaceAll old new xs = [new].intercalate (xs.splitOn old) := by
  have hparts : ∀ parts : List (List α), (∀ part ∈ parts, old ∉ part) →
      replaceAll old new ([old].intercalate parts) = [new].intercalate parts := by
    intro parts
    induction parts with
    | nil => exact fun _ => rfl
    | cons part parts ih =>
      intro hmem
      have hpart : replaceAll old new part = part := replaceAll_of_not_mem (hmem part (by simp))
      cases parts with
      | nil => simpa using hpart
      | cons next parts =>
        have hrest := ih fun p hp => hmem p (.tail _ hp)
        simp only [List.intercalate_cons_cons, replaceAll, List.map_append, List.map_cons,
          List.map_nil, if_true] at hpart hrest ⊢
        rw [hpart, hrest]
  have hsplit := hparts (xs.splitOn old) fun part hpart => not_mem_of_mem_splitOn hpart
  rwa [List.intercalate_splitOn] at hsplit

/-- Two names with as many parts, of which only those at `i` may contain the
new separator, stay different. -/
theorem replaceAll_inj {ys : List α} (i : Nat)
    (hlength : (xs.splitOn old).length = (ys.splitOn old).length)
    (hxs : ∀ x ∈ (xs.splitOn old).eraseIdx i, new ∉ x)
    (hys : ∀ y ∈ (ys.splitOn old).eraseIdx i, new ∉ y)
    (h : replaceAll old new xs = replaceAll old new ys) : xs = ys := by
  rw [replaceAll_eq_intercalate, replaceAll_eq_intercalate] at h
  exact splitOn_inj (intercalate_inj i hlength hxs hys h)

end Parts

/-- One directory entry. -/
def IsName (name : List Char) : Prop :=
  name ≠ [] ∧ '/' ∉ name ∧ name ≠ ['.'] ∧ name ≠ ['.', '.']

instance (name : List Char) : Decidable (IsName name) :=
  inferInstanceAs (Decidable (_ ∧ _ ∧ _ ∧ _))

theorem isName_cons {c : Char} {name : List Char} (hdot : c ≠ '.') (hslash : '/' ∉ c :: name) :
    IsName (c :: name) := by
  refine ⟨by simp, hslash, ?_, ?_⟩ <;> simp [hdot]

/-- The part of a path that is read next, and those kept so far, last first. -/
def cleanStep (rooted : Bool) (kept : List (List Char)) (part : List Char) : List (List Char) :=
  if part = [] ∨ part = ['.'] then
    kept
  else if part = ['.', '.'] then
    match kept with
    | [] => if rooted then [] else [part]
    | last :: rest => if last = ['.', '.'] then part :: kept else rest
  else
    part :: kept

def cleanParts (rooted : Bool) (parts : List (List Char)) : List (List Char) :=
  (parts.foldl (cleanStep rooted) []).reverse

/-- The shortest path equivalent to `path` by lexical processing. -/
def clean (path : List Char) : List Char :=
  let rooted := decide (path.head? = some '/')
  let parts := cleanParts rooted (path.splitOn '/')
  if rooted then '/' :: ['/'].intercalate parts
  else if parts = [] then ['.']
  else ['/'].intercalate parts

/-- Joins the elements that are not empty and cleans the result. -/
def join (elements : List (List Char)) : List Char :=
  match elements.filter (· ≠ []) with
  | [] => []
  | first :: rest => clean (['/'].intercalate (first :: rest))

variable {rooted : Bool} {parts : List (List Char)}

theorem foldl_cleanStep
    (hparts : ∀ part ∈ parts, part ≠ ['.'] ∧ part ≠ ['.', '.']) (kept : List (List Char)) :
    parts.foldl (cleanStep rooted) kept = (parts.filter (· ≠ [])).reverse ++ kept := by
  induction parts generalizing kept with
  | nil => rfl
  | cons part parts ih =>
    obtain ⟨hdot, hdots⟩ := hparts part (by simp)
    rw [List.foldl_cons, ih fun p hp => hparts p (.tail _ hp)]
    by_cases hempty : part = [] <;> simp [cleanStep, hdot, hdots, hempty]

theorem cleanParts_eq_filter (hparts : ∀ part ∈ parts, part ≠ ['.'] ∧ part ≠ ['.', '.']) :
    cleanParts rooted parts = parts.filter (· ≠ []) := by
  rw [cleanParts, foldl_cleanStep hparts, List.append_nil, List.reverse_reverse]

theorem mem_cleanStep {kept : List (List Char)} {part p : List Char}
    (hkept : rooted = true → ['.', '.'] ∉ kept) (h : p ∈ cleanStep rooted kept part) :
    p ∈ kept ∨ p = part ∧ p ≠ [] ∧ p ≠ ['.'] ∧ (rooted = true → p ≠ ['.', '.']) := by
  cases kept <;> grind [cleanStep]

theorem mem_cleanParts {p : List Char} (h : p ∈ cleanParts rooted parts) :
    p ∈ parts ∧ p ≠ [] ∧ p ≠ ['.'] ∧ (rooted = true → p ≠ ['.', '.']) := by
  have hall : ∀ kept : List (List Char), (rooted = true → ['.', '.'] ∉ kept) →
      p ∈ parts.foldl (cleanStep rooted) kept →
      p ∈ kept ∨ p ∈ parts ∧ p ≠ [] ∧ p ≠ ['.'] ∧ (rooted = true → p ≠ ['.', '.']) := by
    clear h
    induction parts with
    | nil => exact fun _ _ h => .inl h
    | cons part parts ih =>
      intro kept hkept h
      have hnext : rooted = true → ['.', '.'] ∉ cleanStep rooted kept part := fun hr hmem =>
        (mem_cleanStep hkept hmem).elim (hkept hr) fun h => h.2.2.2 hr rfl
      rcases ih _ hnext h with hmem | ⟨hmem, hp⟩
      · rcases mem_cleanStep hkept hmem with hmem | ⟨rfl, hp⟩
        · exact .inl hmem
        · exact .inr ⟨.head _, hp⟩
      · exact .inr ⟨.tail _ hmem, hp⟩
  exact (hall [] (by simp) (List.mem_reverse.mp h)).resolve_left (by simp)

theorem cleanParts_filter : cleanParts rooted (parts.filter (· ≠ [])) = cleanParts rooted parts := by
  rw [cleanParts, cleanParts, List.foldl_filter]
  congr 2
  funext kept part
  by_cases hempty : part = [] <;> simp [cleanStep, hempty]

theorem flatMap_splitOn_filter (elements : List (List Char)) :
    ((elements.filter (· ≠ [])).flatMap (·.splitOn '/')).filter (· ≠ []) =
      (elements.flatMap (·.splitOn '/')).filter (· ≠ []) := by
  induction elements with
  | nil => rfl
  | cons element elements ih => by_cases hempty : element = [] <;> simp_all

theorem join_eq {top : List Char} {elements : List (List Char)} (htop : IsName top) :
    join (top :: elements) =
      let parts := cleanParts false (top :: elements.flatMap (·.splitOn '/'))
      if parts = [] then ['.'] else ['/'].intercalate parts := by
  obtain ⟨hne, hslash, -⟩ := htop
  have hfilter : (top :: elements).filter (· ≠ []) = top :: elements.filter (· ≠ []) := by
    simp [hne]
  have hhead : (['/'].intercalate (top :: elements.filter (· ≠ []))).head? ≠ some '/' := by
    obtain ⟨c, cs, rfl⟩ := List.exists_cons_of_ne_nil hne
    cases elements.filter (· ≠ []) with
    | nil => simpa using fun h => hslash (by simp [h])
    | cons e es => simpa [List.intercalate_cons_cons] using fun h => hslash (by simp [h])
  have hsplit : (['/'].intercalate (top :: elements.filter (· ≠ []))).splitOn '/' =
      top :: (elements.filter (· ≠ [])).flatMap (·.splitOn '/') := by
    rw [splitOn_intercalate_flatMap, List.flatMap_cons, List.splitOn_eq_singleton hslash]
    rfl
  have hclean : cleanParts false (top :: (elements.filter (· ≠ [])).flatMap (·.splitOn '/')) =
      cleanParts false (top :: elements.flatMap (·.splitOn '/')) := by
    rw [← cleanParts_filter, List.filter_cons_of_pos (by simp [hne]), flatMap_splitOn_filter,
      ← List.filter_cons_of_pos (by simp [hne]), cleanParts_filter]
  unfold join
  rw [hfilter]
  simp only [clean, hsplit, decide_eq_false hhead, hclean]
  simp

theorem join_cons {top : List Char} {elements : List (List Char)} (htop : IsName top)
    (hparts : ∀ part ∈ elements.flatMap (·.splitOn '/'), part ≠ ['.'] ∧ part ≠ ['.', '.']) :
    join (top :: elements) =
      ['/'].intercalate (top :: (elements.flatMap (·.splitOn '/')).filter (· ≠ [])) := by
  rw [join_eq htop, cleanParts_eq_filter (List.forall_mem_cons.mpr ⟨htop.2.2, hparts⟩),
    List.filter_cons_of_pos (by simpa using htop.1)]
  simp

end PillarCsi.SeparatedNames
