import PillarCsi.FalliblePrograms
import PillarCsi.SeparatedNames

/-!
A kernel object tree driven through a file system: making a directory makes an
object together with its attributes and groups, removing it destroys the
object, and a link pins what it points to.
-/

namespace PillarCsi.ItemTree

open FalliblePrograms SeparatedNames Program

/-- One directory entry. -/
structure Name where
  text : String
  isName : IsName text.toList
  deriving DecidableEq

theorem isName_of_decide (text : String) (h : decide (IsName text.toList) = true) :
    IsName text.toList :=
  of_decide_eq_true h

/-- What the check of a literal name evaluates to. -/
theorem accepted : true = true := rfl

def Name.of (text : String)
    (h : IsName text.toList := by exact isName_of_decide _ accepted) : Name := { text, isName := h }

@[simp] theorem Name.of_inj {a b : String} {ha : IsName a.toList} {hb : IsName b.toList} :
    Name.of a ha = Name.of b hb ↔ a = b := by
  simp [Name.of]

theorem isDigit_of_mem_toString {n : Nat} {c : Char} (h : c ∈ (toString n).toList) :
    c.isDigit = true := by
  rw [Nat.toString_eq_ofList_toDigits, String.toList_ofList] at h
  exact Nat.isDigit_of_mem_toDigits (by omega) (by omega) h

theorem slash_not_mem_toString (n : Nat) : '/' ∉ (toString n).toList :=
  fun h => absurd (isDigit_of_mem_toString h) (by decide)

theorem isName_append {front back : String} (hfront : IsName front.toList)
    (hdot : front.toList.head? ≠ some '.') (hback : '/' ∉ back.toList) :
    IsName (front ++ back).toList := by
  rw [String.toList_append]
  obtain ⟨c, rest, hcons⟩ := List.exists_cons_of_ne_nil hfront.1
  have hslash := hfront.2.1
  rw [hcons] at hdot hslash
  rw [hcons, List.cons_append]
  apply isName_cons
  · rintro rfl
    exact hdot rfl
  · rw [← List.cons_append, List.mem_append, not_or]
    exact ⟨hslash, hback⟩

def Name.ofNat (n : Nat) : Name where
  text := toString n
  isName := by
    have hne : (toString n).toList ≠ [] := by
      rw [Nat.toString_eq_ofList_toDigits, String.toList_ofList]
      exact Nat.toDigits_ne_nil
    obtain ⟨c, rest, hcons⟩ := List.exists_cons_of_ne_nil hne
    have hslash := slash_not_mem_toString n
    have hmem : c ∈ (toString n).toList := by
      rw [hcons]
      exact .head _
    have hdigit := isDigit_of_mem_toString hmem
    rw [hcons] at hslash ⊢
    apply isName_cons _ hslash
    rintro rfl
    exact absurd hdigit (by decide)

/-- An absolute path without dot entries. -/
abbrev Path := List Name

variable (dir : Path)

/-- One more part of a path that is read from left to right. -/
def descend (part : List Char) : Path :=
  if h : IsName part then
    dir ++ [{ text := String.ofList part, isName := by rwa [String.toList_ofList] }]
  else if part = ['.', '.'] then
    dir.dropLast
  else
    dir

/-- The path of `element`, which may hold separators, below `dir`. -/
def join (element : String) : Path := (element.toList.splitOn '/').foldl descend dir

theorem join_name (name : Name) : join dir name.text = dir ++ [name] := by
  unfold join
  rw [List.splitOn_eq_singleton name.isName.2.1]
  simp [descend, name.isName]

theorem join_of_isName {element : String} (h : IsName element.toList) :
    join dir element = dir ++ [Name.of element h] :=
  join_name dir (Name.of element h)

theorem not_prefix_of_diverge {dir place rest q : Path} (hplace : ¬place <+: rest)
    (hrest : ¬rest <+: place) (hq : dir ++ rest <+: q) : ¬dir ++ place <+: q := by
  intro hplaceq
  rcases List.prefix_or_prefix_of_prefix hq hplaceq with h | h
  · exact hrest ((List.prefix_append_right_inj dir).mp h)
  · exact hplace ((List.prefix_append_right_inj dir).mp h)

/-- A directory the kernel keeps in an item, an item made by `mkdir`, an
attribute, or a link. -/
inductive Node where
  | group
  | item
  | attr (value : String)
  | link (target : Path)
  deriving DecidableEq

def Node.isDir : Node → Bool
  | .group | .item => true
  | _ => false

def Node.isLink : Node → Bool
  | .link _ => true
  | _ => false

/-- An entry that keeps the directory above it from being removed. -/
def Node.holds : Node → Bool
  | .item | .link _ => true
  | _ => false

structure Tree where
  entries : List (Path × Node)
  deriving DecidableEq

variable {keep : Path × Node → Bool} {value : String} {target : Path} {node : Node}

namespace Tree

variable (t : Tree) (p : Path)

def lookup : Option Node := List.lookup p t.entries

def isDir : Bool := p = [] || (t.lookup p).any Node.isDir

def children (dir : Path) : List (Name × Node) :=
  t.entries.filterMap fun e =>
    if e.1.dropLast = dir then e.1.getLast?.map fun name => (name, e.2) else none

def put (node : Node) : Tree :=
  { entries := (p, node) :: t.entries.filter fun e => e.1 ≠ p }

/-- `p` and everything below it are gone. -/
def prune : Tree := { entries := t.entries.filter fun e => ¬p <+: e.1 }

/-- An item is pinned by links to it and by items and links below it. -/
def busy : Bool :=
  t.entries.any fun e => (p <+: e.1 && e.1 ≠ p && e.2.holds) || e.2 = .link p

def mkdir (populate : Path → List (Path × Node)) (p : Path) (t : Tree) : Option Tree :=
  if (t.lookup p).isSome || !t.isDir p.dropLast then
    none
  else
    some ((populate p).foldl (fun t e => t.put (p ++ e.1) e.2) (t.put p .item))

def rmdir (t : Tree) : Option Tree :=
  if t.lookup p = some .item ∧ ¬t.busy p then some (t.prune p) else none

def write (value : String) (t : Tree) : Option Tree :=
  match t.lookup p with
  | some (.attr _) => some (t.put p (.attr value))
  | _ => none

def symlink (target p : Path) (t : Tree) : Option Tree :=
  if (t.lookup p).isSome || !t.isDir p.dropLast || !t.isDir target then none
  else some (t.put p (.link target))

def unlink (t : Tree) : Option Tree :=
  match t.lookup p with
  | some (.link _) => some { entries := t.entries.filter fun e => e.1 ≠ p }
  | _ => none

section Lookup

variable {t t' : Tree} {p q : Path} {e : Path × Node}

theorem lookup_filter (h : ∀ node, keep (q, node) = true) :
    lookup { entries := t.entries.filter keep } q = t.lookup q := by
  unfold lookup
  dsimp only
  generalize t.entries = entries
  induction entries with
  | nil => rfl
  | cons e rest ih =>
    obtain ⟨r, node⟩ := e
    by_cases hr : q = r
    · subst hr
      rw [List.filter_cons_of_pos (h node)]
      simp
    · have hbeq : (q == r) = false := beq_eq_false_iff_ne.mpr hr
      cases hkeep : keep (r, node) with
      | true => rw [List.filter_cons_of_pos hkeep, List.lookup_cons, List.lookup_cons, ih]
      | false => rw [List.filter_cons_of_neg (by simp [hkeep]), List.lookup_cons, ih, hbeq]

@[simp] theorem lookup_put_self (node : Node) : (t.put p node).lookup p = some node := by
  simp [lookup, put]

theorem lookup_put_of_ne (h : q ≠ p) (node : Node) : (t.put p node).lookup q = t.lookup q := by
  have hkeep : lookup { entries := t.entries.filter fun e => e.1 ≠ p } q = t.lookup q :=
    lookup_filter fun _ => by simp [h]
  have hbeq : (q == p) = false := beq_eq_false_iff_ne.mpr h
  rw [← hkeep]
  simp [lookup, put, List.lookup_cons, hbeq]

theorem lookup_write (h : t.write p value = some t') :
    t' = t.put p (.attr value) ∧ ∃ old, t.lookup p = some (.attr old) := by
  unfold write at h
  split at h
  · rename_i old hold
    exact ⟨(Option.some.inj h).symm, old, hold⟩
  · cases h

theorem lookup_symlink (h : t.symlink target p = some t') :
    t' = t.put p (.link target) ∧ t.lookup p = none ∧ t.isDir p.dropLast = true := by
  unfold symlink at h
  split at h
  · cases h
  · rename_i hfree
    simp only [Bool.or_eq_true, Bool.not_eq_true', not_or, Bool.not_eq_true,
      Bool.not_eq_false] at hfree
    exact ⟨(Option.some.inj h).symm, by simpa using hfree.1.1, hfree.1.2⟩

theorem lookup_unlink (h : t.unlink p = some t') : (∃ target, t.lookup p = some (.link target)) ∧
      (∀ q, q ≠ p → t'.lookup q = t.lookup q) ∧ ∀ e ∈ t'.entries, e ∈ t.entries := by
  unfold unlink at h
  split at h
  · rename_i target htarget
    cases h
    refine ⟨⟨target, htarget⟩, fun q hq => ?_, fun e he => (List.mem_filter.mp he).1⟩
    exact lookup_filter fun _ => by simp [hq]
  · cases h

theorem lookup_rmdir (h : t.rmdir p = some t') :
    (∀ q, ¬p <+: q → t'.lookup q = t.lookup q) ∧ ∀ e ∈ t'.entries, e ∈ t.entries := by
  unfold rmdir at h
  split at h
  · cases h
    refine ⟨fun q hq => ?_, fun e he => (List.mem_filter.mp he).1⟩
    exact lookup_filter fun _ => by simp [hq]
  · cases h

theorem mem_put (h : e ∈ (t.put p node).entries) : e = (p, node) ∨ e ∈ t.entries := by
  rcases List.mem_cons.mp h with rfl | h
  · exact .inl rfl
  · exact .inr (List.mem_filter.mp h).1

section Mkdir

variable {populate : Path → List (Path × Node)}

variable (h : t.mkdir populate p = some t')

include h

theorem free_of_mkdir : t.lookup p = none ∧ t.isDir p.dropLast = true := by
  unfold mkdir at h
  split at h
  · cases h
  · rename_i hfree
    simp only [Bool.or_eq_true, Bool.not_eq_true', not_or, Bool.not_eq_true,
      Bool.not_eq_false] at hfree
    exact ⟨by simpa using hfree.1, hfree.2⟩

omit h in
theorem lookup_foldl_put {more : List (Path × Node)} (h : ∀ e ∈ more, q ≠ p ++ e.1) :
    (more.foldl (fun t e => t.put (p ++ e.1) e.2) t).lookup q = t.lookup q := by
  induction more generalizing t with
  | nil => rfl
  | cons e more ih =>
    rw [List.foldl_cons, ih fun e' he' => h e' (.tail _ he')]
    exact lookup_put_of_ne (h e (by simp)) e.2

theorem lookup_mkdir (q : Path) : t'.lookup q = t.lookup q ∨ (q = p ∧ t'.lookup q = some .item) ∨
      ∃ e ∈ populate p, q = p ++ e.1 ∧ t'.lookup q = some e.2 := by
  unfold mkdir at h
  split at h
  · cases h
  cases h
  -- The last part put at a place is the one that stands there.
  have hfold : ∀ (more : List (Path × Node)) (u : Tree),
      (more.foldl (fun t e => t.put (p ++ e.1) e.2) u).lookup q = u.lookup q ∨
        ∃ e ∈ more, q = p ++ e.1 ∧
          (more.foldl (fun t e => t.put (p ++ e.1) e.2) u).lookup q = some e.2 := by
    intro more
    induction more with
    | nil => exact fun u => .inl rfl
    | cons e more ih =>
      intro u
      rw [List.foldl_cons]
      rcases ih (u.put (p ++ e.1) e.2) with hsame | ⟨e', he', hq, hlookup⟩
      · by_cases hq : q = p ++ e.1
        · refine .inr ⟨e, by simp, hq, ?_⟩
          rw [hsame, hq, lookup_put_self]
        · exact .inl (hsame.trans (lookup_put_of_ne hq e.2))
      · exact .inr ⟨e', .tail _ he', hq, hlookup⟩
  rcases hfold (populate p) (t.put p .item) with hsame | hpart
  · by_cases hq : q = p
    · refine .inr (.inl ⟨hq, ?_⟩)
      rw [hsame, hq, lookup_put_self]
    · exact .inl (hsame.trans (lookup_put_of_ne hq _))
  · exact .inr (.inr hpart)

theorem lookup_mkdir_self (hpopulate : ∀ e ∈ populate p, e.1 ≠ []) : t'.lookup p = some .item := by
  unfold mkdir at h
  split at h
  · cases h
  cases h
  have hparts : ∀ e ∈ populate p, p ≠ p ++ e.1 := fun e he heq =>
    hpopulate e he (List.append_right_eq_self.mp heq.symm)
  rw [lookup_foldl_put hparts, lookup_put_self]

theorem mem_mkdir (he : e ∈ t'.entries) :
    e = (p, .item) ∨ (∃ part ∈ populate p, e = (p ++ part.1, part.2)) ∨ e ∈ t.entries := by
  unfold mkdir at h
  split at h
  · cases h
  cases h
  have hfold : ∀ (more : List (Path × Node)) (u : Tree),
      e ∈ (more.foldl (fun t e => t.put (p ++ e.1) e.2) u).entries →
        (∃ part ∈ more, e = (p ++ part.1, part.2)) ∨ e ∈ u.entries := by
    intro more
    induction more with
    | nil => exact fun u hu => .inr hu
    | cons part more ih =>
      intro u hu
      rcases ih _ hu with ⟨part', hpart', heq⟩ | hput
      · exact .inl ⟨part', .tail _ hpart', heq⟩
      · rcases mem_put hput with heq | hu
        · exact .inl ⟨part, by simp, heq⟩
        · exact .inr hu
  rcases hfold (populate p) (t.put p .item) he with hpart | hput
  · exact .inr (.inl hpart)
  · rcases mem_put hput with heq | hold
    · exact .inl heq
    · exact .inr (.inr hold)

end Mkdir

end Lookup

end Tree

/-- Part of a tree, by place and kind of entry. -/
abbrev Region := Path → Node → Bool

def view (region : Region) (t : Tree) : List (Path × Node) :=
  t.entries.filter fun e => region e.1 e.2

def Apart (region : Region) (p : Path) : Prop := ∀ node, region p node = false

section Frames

variable {region : Region} {p : Path} {t t' : Tree}

theorem view_filter (h : ∀ e ∈ t.entries, region e.1 e.2 = true → keep e = true) :
    view region { entries := t.entries.filter keep } = view region t := by
  unfold view
  rw [List.filter_filter]
  apply List.filter_congr
  intro e he
  cases hregion : region e.1 e.2 with
  | false => rfl
  | true => simpa using h e he hregion

theorem lookup_of_view (h : view region t' = view region t) (hp : ∀ node, region p node = true) :
    t'.lookup p = t.lookup p := by
  have hview : ∀ t : Tree, t.lookup p = List.lookup p (view region t) :=
    fun t => (Tree.lookup_filter hp).symm
  rw [hview, hview, h]

theorem mem_iff_of_view (h : view region t' = view region t)
    (hp : region p node = true) : (p, node) ∈ t'.entries ↔ (p, node) ∈ t.entries := by
  have hview : ∀ t : Tree, (p, node) ∈ t.entries ↔ (p, node) ∈ view region t := by simp [view, hp]
  rw [hview t', h, ← hview t]

variable (hp : Apart region p)

include hp

theorem view_put (node : Node) : view region (t.put p node) = view region t := by
  have hkeep : view region { entries := t.entries.filter fun e => e.1 ≠ p } = view region t := by
    apply view_filter
    intro e _ hregion
    rw [decide_eq_true_eq]
    rintro rfl
    exact Bool.false_ne_true ((hp e.2).symm.trans hregion)
  rw [← hkeep]
  unfold view Tree.put
  rw [List.filter_cons_of_neg]
  simp [hp node]

theorem view_write (h : t.write p value = some t') : view region t' = view region t := by
  unfold Tree.write at h
  split at h
  · cases h
    exact view_put hp _
  · cases h

theorem view_symlink (h : t.symlink target p = some t') : view region t' = view region t := by
  unfold Tree.symlink at h
  split at h
  · cases h
  · cases h
    exact view_put hp _

theorem view_unlink (h : t.unlink p = some t') : view region t' = view region t := by
  unfold Tree.unlink at h
  split at h
  · cases h
    apply view_filter
    intro e _ hregion
    rw [decide_eq_true_eq]
    rintro rfl
    exact Bool.false_ne_true ((hp e.2).symm.trans hregion)
  · cases h

theorem view_mkdir {populate : Path → List (Path × Node)}
    (hpopulate : ∀ e ∈ populate p, Apart region (p ++ e.1)) (h : t.mkdir populate p = some t') :
    view region t' = view region t := by
  unfold Tree.mkdir at h
  split at h
  · cases h
  cases h
  have hall : ∀ (more : List (Path × Node)) (u : Tree), (∀ e ∈ more, Apart region (p ++ e.1)) →
      view region (more.foldl (fun t e => t.put (p ++ e.1) e.2) u) = view region u := by
    intro more
    induction more with
    | nil => exact fun u _ => rfl
    | cons e more ih =>
      intro u hmore
      rw [List.foldl_cons, ih _ fun e' he' => hmore e' (.tail _ he')]
      exact view_put (hmore e (by simp)) e.2
  rw [hall _ _ hpopulate]
  exact view_put hp .item

/-- What is removed with an item holds nothing of the region, when the region
holds only items and links below it. -/
theorem view_rmdir (hbelow : ∀ q node, p <+: q → region q node = true → node.holds = true)
    (h : t.rmdir p = some t') : view region t' = view region t := by
  unfold Tree.rmdir at h
  split at h
  · rename_i hfree
    cases h
    apply view_filter
    intro e he hregion
    rw [decide_eq_true_eq]
    intro hunder
    have hne : e.1 ≠ p := by
      rintro rfl
      exact Bool.false_ne_true ((hp e.2).symm.trans hregion)
    apply hfree.2
    refine List.any_eq_true.mpr ⟨e, he, ?_⟩
    simp [hunder, hne, hbelow e.1 e.2 hunder hregion]
  · cases h

end Frames

end PillarCsi.ItemTree
