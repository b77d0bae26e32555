import PillarCsi.TransitionSystem

/-!
A versioned object that any number of clients update by compare-and-swap.

A client reads the object into a private snapshot, computes a new value from
the snapshot and writes it back on the condition that the version has not moved.
A refused computation and a lost race both leave the object as it is and drop
the snapshot, so a retry starts with a fresh read.
-/

namespace PillarCsi.OptimisticStore

open TransitionSystem

variable {ι β υ : Type*}

structure Versioned (β : Type*) where
  value : β
  version : Nat

structure Store (ι β : Type*) where
  object : Versioned β
  snapshots : ι → Option (Versioned β)

def Store.init (value : β) : Store ι β :=
  { object := { value := value, version := 0 }, snapshots := fun _ => none }

inductive StoreAction (ι υ : Type*) where
  | read (client : ι)
  | write (client : ι) (update : υ)

/-- One read or one conditional write.  `apply` computes the new value, or
refuses to write. -/
def step [DecidableEq ι] (apply : β → υ → Option β) (s : Store ι β) :
    StoreAction ι υ → Option (Store ι β)
  | .read client => some { s with snapshots := Function.update s.snapshots client (some s.object) }
  | .write client update =>
    match s.snapshots client with
    | none => none
    | some snapshot =>
      let dropped := Function.update s.snapshots client none
      match apply snapshot.value update with
      | none => some { s with snapshots := dropped }
      | some value =>
        if snapshot.version = s.object.version then
          some { object := { value := value, version := s.object.version + 1 }
                 snapshots := dropped }
        else
          some { s with snapshots := dropped }

/-- A snapshot at the current version shows the current value. -/
def Coherent (s : Store ι β) : Prop :=
  ∀ client snapshot, s.snapshots client = some snapshot →
    snapshot.version ≤ s.object.version ∧
      (snapshot.version = s.object.version → snapshot.value = s.object.value)

theorem coherent_init (value : β) : Coherent (Store.init value : Store ι β) := by
  intro client snapshot h
  cases h

variable [DecidableEq ι] {apply : β → υ → Option β} {s t : Store ι β}

theorem snapshots_of_dropped {snapshots : ι → Option (Versioned β)} {dropped client : ι}
    {snapshot : Versioned β} (h : Function.update snapshots dropped none client = some snapshot) :
    snapshots client = some snapshot := by
  by_cases hclient : client = dropped
  · subst hclient
    simp at h
  · rwa [Function.update_of_ne hclient] at h

/-- What one step does to the object: nothing, or one update applied to the
value it held. -/
theorem step_cases {action : StoreAction ι υ} (hs : Coherent s)
    (hstep : step apply s action = some t) : Coherent t ∧ (t.object = s.object ∨
        ∃ client update, action = .write client update ∧
          apply s.object.value update = some t.object.value) := by
  cases action with
  | read reader =>
    cases hstep
    refine ⟨fun client snapshot h => ?_, .inl rfl⟩
    change Function.update s.snapshots reader (some s.object) client = some snapshot at h
    by_cases hclient : client = reader
    · subst hclient
      rw [Function.update_self] at h
      cases h
      exact ⟨Nat.le_refl _, fun _ => rfl⟩
    · rw [Function.update_of_ne hclient] at h
      exact hs client snapshot h
  | write writer update =>
    have hkept : ∀ client snapshot,
        Function.update s.snapshots writer none client = some snapshot →
        snapshot.version ≤ s.object.version ∧
          (snapshot.version = s.object.version → snapshot.value = s.object.value) :=
      fun client snapshot h => hs client snapshot (snapshots_of_dropped h)
    simp only [step] at hstep
    split at hstep
    · cases hstep
    · rename_i snapshot hsnapshot
      split at hstep
      · cases hstep
        exact ⟨hkept, .inl rfl⟩
      · rename_i value hvalue
        split at hstep
        · rename_i hversion
          cases hstep
          refine ⟨fun client old h => ?_, .inr ⟨writer, update, rfl, ?_⟩⟩
          · -- The version moved past every remaining snapshot.
            have hle := (hkept client old h).1
            exact ⟨Nat.le_succ_of_le hle, fun heq => absurd heq (by simp; omega)⟩
          · rw [← (hs writer snapshot hsnapshot).2 hversion]
            exact hvalue
        · cases hstep
          exact ⟨hkept, .inl rfl⟩

/-- A run of the store is a run of atomic updates of its value, in the order of
the successful writes. -/
theorem run_atomic {actions : List (StoreAction ι υ)} (hs : Coherent s)
    (hrun : run (step apply) s actions = some t) :
    Coherent t ∧ ∃ updates, run apply s.object.value updates = some t.object.value := by
  induction actions generalizing s with
  | nil =>
    cases Option.some.inj hrun
    exact ⟨hs, [], rfl⟩
  | cons action rest ih =>
    obtain ⟨next, hnext, hrest⟩ := run_cons_eq_some hrun
    obtain ⟨hcoherent, hobject⟩ := step_cases hs hnext
    obtain ⟨ht, updates, hupdates⟩ := ih hcoherent hrest
    refine ⟨ht, ?_⟩
    rcases hobject with hsame | ⟨_, update, _, happly⟩
    · exact ⟨updates, by rwa [← hsame]⟩
    · exact ⟨update :: updates, by rwa [run_cons_of_step happly]⟩

end PillarCsi.OptimisticStore
