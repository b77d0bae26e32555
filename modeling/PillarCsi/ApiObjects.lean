import Mathlib.Data.List.Basic

/-!
One named object of an API server.  The object is created, updated and deleted
by clients that name the version they saw; a cache may answer with anything the
name has ever held.  A call may get lost, and so may its answer.
-/

namespace PillarCsi.ApiObjects

structure Object (α : Type) where
  version : Nat
  value : α
  deriving DecidableEq, Repr

structure Slot (α : Type) where
  live : Option (Object α) := none
  /-- What the name has held, the live object included. -/
  past : List (Option (Object α)) := [none]
  next : Nat := 0
  deriving DecidableEq, Repr

inductive Reply (α : Type) where
  | stored (object : Object α)
  | deleted
  | notFound
  | conflict
  | alreadyExists
  | invalid
  deriving DecidableEq, Repr

variable {α : Type}

def Slot.put (s : Slot α) (live : Option (Object α)) : Slot α :=
  { live := live, past := live :: s.past, next := s.next + 1 }

def Slot.create (s : Slot α) (value : α) : Slot α × Reply α :=
  match s.live with
  | some _ => (s, .alreadyExists)
  | none => (s.put (some ⟨s.next, value⟩), .stored ⟨s.next, value⟩)

/-- `valid old new`: the server accepts the change. -/
def Slot.update (valid : α → α → Bool) (s : Slot α) (version : Nat) (value : α) :
    Slot α × Reply α :=
  match s.live with
  | none => (s, .notFound)
  | some o =>
    if o.version ≠ version then (s, .conflict)
    else if valid o.value value = false then (s, .invalid)
    else (s.put (some ⟨s.next, value⟩), .stored ⟨s.next, value⟩)

/-- A delete without a version takes whatever is there. -/
def Slot.delete (s : Slot α) (version : Option Nat) : Slot α × Reply α :=
  match s.live with
  | none => (s, .notFound)
  | some o =>
    if version = none ∨ version = some o.version then (s.put none, .deleted)
    else (s, .conflict)

inductive Delivery where
  | lost
  /-- The call is carried out, and the client sees it fail. -/
  | unanswered
  | answered
  deriving DecidableEq, Repr

/-- The slot after a call, and what the client sees. -/
def deliver (delivery : Delivery) (s : Slot α) (call : Slot α × Reply α) :
    Slot α × Option (Reply α) :=
  match delivery with
  | .lost => (s, none)
  | .unanswered => (call.1, none)
  | .answered => (call.1, some call.2)

/-- Versions are never used twice. -/
structure Coherent (s : Slot α) : Prop where
  live_mem : s.live ∈ s.past
  fresh : ∀ o, some o ∈ s.past → o.version < s.next
  unique : ∀ o o', some o ∈ s.past → some o' ∈ s.past → o.version = o'.version → o = o'

theorem coherent_empty : Coherent ({} : Slot α) where
  live_mem := List.mem_singleton_self _
  fresh o ho := by simp at ho
  unique o o' ho := by simp at ho

/-- What a call does: nothing, or it puts a new object or none. -/
inductive Step (s : Slot α) : Slot α → Prop
  | refl : Step s s
  | store (value : α) : Step s (s.put (some ⟨s.next, value⟩))
  | remove : Step s (s.put none)

variable {s s' : Slot α}

theorem Step.coherent (h : Step s s') (hs : Coherent s) : Coherent s' := by
  cases h with
  | refl => exact hs
  | store value =>
    refine ⟨.head _, fun o ho => ?_, fun o o' ho ho' heq => ?_⟩
    · rcases List.mem_cons.mp ho with ho | ho
      · cases ho
        exact Nat.lt_succ_self s.next
      · exact Nat.lt_succ_of_lt (hs.fresh o ho)
    · -- the new version is above all others
      rcases List.mem_cons.mp ho with ho | ho <;> rcases List.mem_cons.mp ho' with ho' | ho'
      · exact (Option.some.inj ho).trans (Option.some.inj ho').symm
      · cases ho
        exact absurd heq (Nat.ne_of_gt (hs.fresh o' ho'))
      · cases ho'
        exact absurd heq (Nat.ne_of_lt (hs.fresh o ho))
      · exact hs.unique o o' ho ho' heq
  | remove =>
    have hold : ∀ o, some o ∈ none :: s.past → some o ∈ s.past := fun o ho => by
      simpa using ho
    refine ⟨.head _, fun o ho => Nat.lt_succ_of_lt (hs.fresh o (hold o ho)),
      fun o o' ho ho' => hs.unique o o' (hold o ho) (hold o' ho')⟩

theorem Step.past_subset (h : Step s s') : s.past ⊆ s'.past := by
  cases h with
  | refl => exact List.Subset.refl _
  | store value | remove => exact List.subset_cons_self _ _

/-- A call that leaves the slot as it is, or stores an object and answers with it. -/
inductive Stores (s : Slot α) : Slot α × Reply α → Prop
  | refused {reply : Reply α} (h : ∀ stored, reply ≠ .stored stored) : Stores s (s, reply)
  | stored (value : α) : Stores s (s.put (some ⟨s.next, value⟩), .stored ⟨s.next, value⟩)

theorem stores_create (value : α) : Stores s (s.create value) := by
  unfold Slot.create
  split
  · exact .refused nofun
  · exact .stored value

theorem stores_update (valid : α → α → Bool) (version : Nat) (value : α) :
    Stores s (s.update valid version value) := by
  unfold Slot.update
  split
  · exact .refused nofun
  split
  · exact .refused nofun
  split
  · exact .refused nofun
  · exact .stored value

theorem step_delete (version : Option Nat) : Step s (s.delete version).1 := by
  unfold Slot.delete
  split
  · exact .refl
  split
  · exact .remove
  · exact .refl

variable {delivery : Delivery} {call : Slot α × Reply α} {value : α} {o seen : Object α}

theorem Stores.step (h : Stores s call) : Step s call.1 := by
  cases h with
  | refused _ => exact .refl
  | stored value => exact .store value

theorem step_deliver (h : Step s call.1) : Step s (deliver delivery s call).1 := by
  cases delivery with
  | lost => exact .refl
  | unanswered | answered => exact h

theorem create_live (hlive : s.live = some o) : (s.create value).1 = s := by
  simp [Slot.create, hlive]

theorem update_live {valid : α → α → Bool} (hs : Coherent s)
    (hseen : some seen ∈ s.past) (hlive : s.live = some o) :
    (s.update valid seen.version value).1 = s ∨ o = seen := by
  unfold Slot.update
  rw [hlive]
  simp only
  split
  · exact .inl rfl
  · rename_i hversion
    exact .inr (hs.unique o seen (hlive ▸ hs.live_mem) hseen (not_not.mp hversion))

theorem delete_live (hs : Coherent s) (hseen : some seen ∈ s.past)
    (hlive : s.live = some o) : (s.delete (some seen.version)).1 = s ∨ o = seen := by
  unfold Slot.delete
  rw [hlive]
  simp only
  split
  · rename_i hversion
    have heq : seen.version = o.version := by simpa using hversion
    exact .inr (hs.unique o seen (hlive ▸ hs.live_mem) hseen heq.symm)
  · exact .inl rfl

theorem value_of_create (hlive : s.live = none)
    (h : (deliver delivery s (s.create value)).1.live = some o) : o.value = value := by
  have hcreate : s.create value = (s.put (some ⟨s.next, value⟩), .stored ⟨s.next, value⟩) := by
    simp [Slot.create, hlive]
  rw [hcreate] at h
  cases delivery with
  | lost => exact absurd (hlive.symm.trans h) nofun
  | unanswered | answered =>
    cases h
    rfl

theorem live_of_delete {version : Option Nat}
    (h : (deliver delivery s (s.delete version)).1.live = some o) : s.live = some o := by
  unfold Slot.delete at h
  cases delivery with
  | lost => exact h
  | _ =>
    simp only [deliver] at h
    split at h
    · exact h
    split at h
    · cases h
    · exact h

theorem deliver_eq_self (h : call.1 = s) : (deliver delivery s call).1 = s := by
  cases delivery with
  | lost => rfl
  | unanswered | answered => exact h

end PillarCsi.ApiObjects
