import Mathlib.Data.List.Basic
import Mathlib.Order.Basic

/-!
A file that is replaced by rename.

A rename is visible at once and survives a crash only after the directory was
synced.  The cell keeps the value a crash cannot lose and, oldest first, the
renamed values no sync has covered yet.
-/

namespace PillarCsi.DurableCell

structure Cell (α : Type*) where
  durable : Option α
  pending : List α
  deriving DecidableEq, Repr

/-- How far a replacement of the file got. -/
inductive WriteOutcome where
  | failedBeforeRename
  | failedAfterRename
  | synced
  deriving DecidableEq, Repr

namespace Cell

variable {α : Type*} {c a b c' : Cell α} {m d v : α} {p : α → Prop} {l : List α}

def empty : Cell α := ⟨none, []⟩

/-- Every value a crash can leave behind, oldest first. -/
def values (c : Cell α) : List α := c.durable.toList ++ c.pending

def visible (c : Cell α) : Option α := c.values.getLast?

def write (c : Cell α) (v : α) : WriteOutcome → Cell α
  | .failedBeforeRename => c
  | .failedAfterRename => { c with pending := c.pending ++ [v] }
  | .synced => ⟨some v, []⟩

/-- Syncing the directory covers every rename done so far. -/
def sync (c : Cell α) (ok : Bool) : Cell α :=
  if ok then ⟨c.visible, []⟩ else c

/-- The kernel writes the first `k` renames back on its own. -/
def flush (c : Cell α) (k : Nat) : Cell α :=
  ⟨(c.durable.toList ++ c.pending.take k).getLast?, c.pending.drop k⟩

/-- A crash keeps the durable value or one of the renames after it. -/
def crash (c : Cell α) (k : Nat) : Cell α := ⟨(c.flush k).durable, []⟩

@[simp] theorem visible_synced (v : α) : (⟨some v, []⟩ : Cell α).visible = some v := rfl

theorem visible_write (c : Cell α) (v : α) (o : WriteOutcome) :
    (c.write v o).visible = some v ∨ (c.write v o).visible = c.visible := by
  cases o with
  | failedBeforeRename => exact .inr rfl
  | failedAfterRename => exact .inl (by simp [write, visible, values])
  | synced => exact .inl rfl

theorem mem_values_of_visible (h : c.visible = some m) : m ∈ c.values := List.mem_of_getLast? h

theorem mem_values_of_durable (h : c.durable = some d) : d ∈ c.values := by
  simp [values, h]

theorem exists_visible_of_durable (h : c.durable = some d) : ∃ m, c.visible = some m := by
  have hne : c.values ≠ [] := List.ne_nil_of_mem (mem_values_of_durable h)
  exact ⟨c.values.getLast hne, List.getLast?_eq_some_getLast hne⟩

theorem mem_values_write {o : WriteOutcome}
    (h : m ∈ (c.write v o).values) : m ∈ c.values ∨ m = v := by
  cases o with
  | failedBeforeRename => exact .inl h
  | failedAfterRename =>
    simp only [write, values, List.mem_append, List.mem_singleton] at h ⊢
    tauto
  | synced =>
    right
    simpa [write, values] using h

theorem values_sync_sublist (c : Cell α) (ok : Bool) : (c.sync ok).values.Sublist c.values := by
  cases ok with
  | false => exact List.Sublist.refl _
  | true =>
    cases hv : c.visible with
    | none => simp [sync, values, hv]
    | some m => simpa [sync, values, hv] using mem_values_of_visible hv

theorem getLast?_toList_sublist (l : List α) : l.getLast?.toList.Sublist l := by
  cases h : l.getLast? with
  | none => simp
  | some m => simpa using List.mem_of_getLast? h

theorem values_flush_sublist (c : Cell α) (k : Nat) : (c.flush k).values.Sublist c.values := by
  have hsplit : c.values = (c.durable.toList ++ c.pending.take k) ++ c.pending.drop k := by
    simp [values]
  rw [hsplit]
  exact (getLast?_toList_sublist _).append (List.Sublist.refl _)

theorem values_crash_sublist (c : Cell α) (k : Nat) : (c.crash k).values.Sublist c.values := by
  refine List.Sublist.trans ?_ (values_flush_sublist c k)
  simp [crash, values]

def Writes (p : α → Prop) (c c' : Cell α) : Prop := ∀ v ∈ c'.values, v ∈ c.values ∨ p v

theorem Writes.refl (p : α → Prop) (c : Cell α) : c.Writes p c := fun _ hv => .inl hv

theorem Writes.trans (hab : a.Writes p b) (hbc : b.Writes p c) : a.Writes p c := by
  intro v hv
  rcases hbc v hv with hold | hnew
  · exact hab v hold
  · exact .inr hnew

theorem writes_write (c : Cell α) (hv : p v) (o : WriteOutcome) : c.Writes p (c.write v o) := by
  intro x hx
  rcases mem_values_write hx with hold | rfl
  · exact .inl hold
  · exact .inr hv

theorem writes_sync (p : α → Prop) (c : Cell α) (ok : Bool) : c.Writes p (c.sync ok) :=
  fun _ hv => .inl ((values_sync_sublist c ok).subset hv)

theorem writes_flush (p : α → Prop) (c : Cell α) (k : Nat) : c.Writes p (c.flush k) :=
  fun _ hv => .inl ((values_flush_sublist c k).subset hv)

theorem writes_crash (p : α → Prop) (c : Cell α) (k : Nat) : c.Writes p (c.crash k) :=
  fun _ hv => .inl ((values_crash_sublist c k).subset hv)

theorem Writes.forall_values (h : c.Writes p c')
    (hc : ∀ v ∈ c.values, p v) : ∀ v ∈ c'.values, p v :=
  fun v hv => (h v hv).elim (hc v) id

/-- `c'` comes from `c` by writes of values that satisfy `p` and by syncs. -/
inductive Evolves (p : α → Prop) (c : Cell α) : Cell α → Prop
  | refl : Evolves p c c
  | write {c' : Cell α} {v : α} (h : Evolves p c c') (hv : p v) (o : WriteOutcome) :
      Evolves p c (c'.write v o)
  | sync {c' : Cell α} (h : Evolves p c c') (ok : Bool) : Evolves p c (c'.sync ok)

theorem Evolves.trans (hab : a.Evolves p b) (hbc : b.Evolves p c) : a.Evolves p c := by
  induction hbc with
  | refl => exact hab
  | write _ hv o ih => exact .write ih hv o
  | sync _ ok ih => exact .sync ih ok

theorem Evolves.mono {q : α → Prop} (h : c.Evolves p c')
    (hpq : ∀ v, p v → q v) : c.Evolves q c' := by
  induction h with
  | refl => exact .refl
  | write _ hv o ih => exact .write ih (hpq _ hv) o
  | sync _ ok ih => exact .sync ih ok

theorem Evolves.writes (h : c.Evolves p c') : c.Writes p c' := by
  induction h with
  | refl => exact .refl p c
  | write _ hv o ih => exact ih.trans (writes_write _ hv o)
  | sync _ ok ih => exact ih.trans (writes_sync p _ ok)

@[simp] theorem visible_sync (c : Cell α) (ok : Bool) : (c.sync ok).visible = c.visible := by
  cases ok with
  | false => rfl
  | true =>
    change (c.visible.toList ++ []).getLast? = c.visible
    cases c.visible <;> rfl

@[simp] theorem visible_flush (c : Cell α) (k : Nat) : (c.flush k).visible = c.visible := by
  have hlast : ∀ l r : List α, (l.getLast?.toList ++ r).getLast? = (l ++ r).getLast? := by
    intro l r
    cases hl : l.getLast? with
    | none => simp [List.getLast?_eq_none_iff.mp hl]
    | some m => simp [List.getLast?_append, hl, List.getLast?_cons]
  simp only [visible, values, flush, hlast, List.append_assoc, List.take_append_drop]

theorem Evolves.visible (h : c.Evolves p c') :
    c'.visible = c.visible ∨ ∃ v, c'.visible = some v ∧ p v := by
  induction h with
  | refl => exact .inl rfl
  | @write c' v _ hv o ih =>
    rcases visible_write c' v o with hnew | hold
    · exact .inr ⟨v, hnew, hv⟩
    · rw [hold]
      exact ih
  | sync _ ok ih => simpa using ih

theorem getLast?_ne_none_of_durable (hm : c.durable = some m) :
    (c.durable.toList ++ l).getLast? ≠ none := by
  simp [List.getLast?_eq_none_iff, hm]

theorem Evolves.durable_ne_none (h : c.Evolves p c')
    (hc : c.durable ≠ none) : c'.durable ≠ none := by
  induction h with
  | refl => exact hc
  | write _ _ o ih =>
    cases o with
    | failedBeforeRename | failedAfterRename => exact ih
    | synced => exact Option.some_ne_none _
  | sync _ ok ih =>
    cases ok with
    | false => exact ih
    | true =>
      obtain ⟨d, hd⟩ := Option.ne_none_iff_exists'.mp ih
      exact getLast?_ne_none_of_durable hd

theorem flush_durable_ne_none (k : Nat) (hc : c.durable ≠ none) : (c.flush k).durable ≠ none := by
  obtain ⟨d, hd⟩ := Option.ne_none_iff_exists'.mp hc
  exact getLast?_ne_none_of_durable hd

section Order

variable [Preorder α] {x : α}

/-- Every rename replaces the file by a value that is not before it. -/
def Sorted (c : Cell α) : Prop := c.values.Pairwise (· ≤ ·)

def Advances (c c' : Cell α) : Prop :=
  ∀ d, c.durable = some d → ∃ d', c'.durable = some d' ∧ d ≤ d'

theorem le_getLast_of_mem (hl : l.Pairwise (· ≤ ·)) {y : α}
    (hx : x ∈ l) (hy : l.getLast? = some y) : x ≤ y := by
  obtain ⟨front, rfl⟩ := List.getLast?_eq_some_iff.mp hy
  rcases List.mem_append.mp hx with hfront | hlast
  · exact (List.pairwise_append.mp hl).2.2 x hfront y (by simp)
  · rw [List.mem_singleton.mp hlast]

section

variable (h : c.Sorted)

include h

theorem Sorted.le_visible (hx : x ∈ c.values) (hm : c.visible = some m) : x ≤ m :=
  le_getLast_of_mem h hx hm

theorem Sorted.durable_le (hd : c.durable = some d) (hx : x ∈ c.values) : d ≤ x := by
  have hvalues : c.values = d :: c.pending := by simp [values, hd]
  rw [Sorted, hvalues] at h
  rw [hvalues] at hx
  rcases List.mem_cons.mp hx with rfl | hpending
  · exact le_refl x
  · exact (List.pairwise_cons.mp h).1 x hpending

omit h in
theorem Sorted.empty : (Cell.empty : Cell α).Sorted := List.Pairwise.nil

theorem Sorted.write (hv : ∀ m, c.visible = some m → m ≤ v) (o : WriteOutcome) :
    (c.write v o).Sorted := by
  cases o with
  | failedBeforeRename => exact h
  | failedAfterRename =>
    have hvalues : (c.write v .failedAfterRename).values = c.values ++ [v] := by
      simp [Cell.write, values]
    rw [Sorted, hvalues]
    refine List.pairwise_append.mpr ⟨h, List.pairwise_singleton _ _, ?_⟩
    intro x hx y hy
    rw [List.mem_singleton.mp hy]
    have hne : c.values ≠ [] := List.ne_nil_of_mem hx
    have hlast := List.getLast?_eq_some_getLast hne
    exact (h.le_visible hx hlast).trans (hv _ hlast)
  | synced => exact List.pairwise_singleton _ _

theorem Sorted.sync (ok : Bool) : (c.sync ok).Sorted :=
  List.Pairwise.sublist (values_sync_sublist c ok) h

theorem Sorted.flush (k : Nat) : (c.flush k).Sorted :=
  List.Pairwise.sublist (values_flush_sublist c k) h

theorem Sorted.crash (k : Nat) : (c.crash k).Sorted :=
  List.Pairwise.sublist (values_crash_sublist c k) h

omit h in
theorem Advances.refl (c : Cell α) : c.Advances c :=
  fun d hd => ⟨d, hd, le_refl d⟩

omit h in
theorem Advances.trans (hab : a.Advances b) (hbc : b.Advances c) : a.Advances c := by
  intro d hd
  obtain ⟨e, he, hde⟩ := hab d hd
  obtain ⟨f, hf, hef⟩ := hbc e he
  exact ⟨f, hf, hde.trans hef⟩

theorem Sorted.advances_write
    (hv : ∀ m, c.visible = some m → m ≤ v) (o : WriteOutcome) : c.Advances (c.write v o) := by
  intro d hd
  cases o with
  | failedBeforeRename | failedAfterRename => exact ⟨d, hd, le_refl d⟩
  | synced =>
    obtain ⟨m, hm⟩ := exists_visible_of_durable hd
    exact ⟨v, rfl, (h.le_visible (mem_values_of_durable hd) hm).trans (hv m hm)⟩

theorem Sorted.advances_sync (ok : Bool) : c.Advances (c.sync ok) := by
  intro d hd
  cases ok with
  | false => exact ⟨d, hd, le_refl d⟩
  | true =>
    obtain ⟨m, hm⟩ := exists_visible_of_durable hd
    exact ⟨m, hm, h.le_visible (mem_values_of_durable hd) hm⟩

theorem Sorted.advances_flush (k : Nat) : c.Advances (c.flush k) := by
  intro d hd
  have hsub : (c.durable.toList ++ c.pending.take k).Pairwise (· ≤ ·) :=
    List.Pairwise.sublist ((List.Sublist.refl _).append (List.take_sublist _ _)) h
  have hmem : d ∈ c.durable.toList ++ c.pending.take k := by simp [hd]
  have hlast := List.getLast?_eq_some_getLast (List.ne_nil_of_mem hmem)
  exact ⟨_, hlast, le_getLast_of_mem hsub hmem hlast⟩

theorem Sorted.advances_crash (k : Nat) : c.Advances (c.crash k) := h.advances_flush k

end

/-- A property of the durable value that no later value can lose. -/
def Settled (p : α → Prop) (c : Cell α) : Prop := ∃ d, c.durable = some d ∧ p d

theorem Settled.advance (hp : ∀ a b, a ≤ b → p a → p b)
    (h : c.Settled p) (hadv : c.Advances c') : c'.Settled p := by
  obtain ⟨d, hd, hpd⟩ := h
  obtain ⟨d', hd', hle⟩ := hadv d hd
  exact ⟨d', hd', hp d d' hle hpd⟩

end Order

end Cell

end PillarCsi.DurableCell
