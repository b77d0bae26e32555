import PillarCsi.OptimisticStore
import PillarCsi.RecordMutations

/-!
The record of one volume name over time: lifecycles are created, written by any
number of controllers and removed.  Every record a client can ever read is
reached from the fresh record of its own lifecycle by committed mutations.
-/

namespace PillarCsi.RecordHistory

open TransitionSystem OptimisticStore VolumeRecord RecordMutations

/-- The object under the volume's name, and every UID the API server assigned
to it so far. -/
structure Resource where
  record : Option VolumeState
  issued : List String
  deriving DecidableEq, Repr

def Resource.empty : Resource := { record := none, issued := [] }

/-- A new object: the API server drops any status and assigns the UID. -/
def freshRecord (pvName uid : String) (successRecorded : Bool) (spec : VolumeStateSpec) :
    VolumeState :=
  { name := pvName, uid := uid, successRecorded := successRecorded, spec := spec }

inductive RecordWrite where
  | create (uid : String) (successRecorded : Bool) (spec : VolumeStateSpec)
  | update (driver : CSIDriver) (uid : String) (mutation : Mutation)
  | delete (uid : String)
  deriving DecidableEq, Repr

/-- The object a write leaves behind, or `none` when nothing is written. -/
def applyWrite (pvName : String) (resource : Resource) : RecordWrite → Option Resource
  | .create uid successRecorded spec =>
    if resource.record = none ∧ uid ≠ "" ∧ uid ∉ resource.issued ∧ validSpec spec then
      some { record := some (freshRecord pvName uid successRecorded spec)
             issued := uid :: resource.issued }
    else
      none
  | .update driver uid mutation =>
    match updateVolumeState driver pvName uid mutation resource.record with
    | .committed pvs => some { resource with record := some pvs }
    | _ => none
  | .delete uid =>
    match resource.record with
    | some pvs => if pvs.uid = uid then some { resource with record := none } else none
    | none => none

def Commit (pvs next : VolumeState) : Prop :=
  ∃ (m : Mutation) (mutated : VolumeState),
    m.mutate pvs = .ok mutated ∧ next = bumped m.bump mutated

abbrev Evolves : VolumeState → VolumeState → Prop :=
  Relation.ReflTransGen Commit

/-- The states a name's object goes through, one write at a time or through
compare-and-swap by the clients `ι`. -/
abbrev RecordStore (ι : Type*) := Store ι Resource

abbrev storeStep {ι : Type*} [DecidableEq ι] (pvName : String) :
    RecordStore ι → StoreAction ι RecordWrite → Option (RecordStore ι) :=
  step (applyWrite pvName)

variable {pvs : VolumeState}

theorem Commit.mutated {next : VolumeState} (h : Commit pvs next) : ∃ m, Mutated pvs m next := by
  obtain ⟨m, mutated, hmutate, rfl⟩ := h
  exact ⟨m, mutated_of_mutate hmutate⟩

theorem Commit.uid {next : VolumeState} (h : Commit pvs next) : next.uid = pvs.uid := by
  obtain ⟨m, hmutated⟩ := h.mutated
  exact hmutated.source.uid

theorem Evolves.uid {later : VolumeState} (h : Evolves pvs later) : later.uid = pvs.uid := by
  induction h with
  | refl => rfl
  | tail _ hcommit ih => exact hcommit.uid.trans ih

variable {pvName : String} {write : RecordWrite}

theorem applyWrite_cases {resource next : Resource}
    (h : applyWrite pvName resource write = some next) :
    (∃ uid successRecorded spec, uid ∉ resource.issued ∧ validSpec spec = true ∧
        next = { record := some (freshRecord pvName uid successRecorded spec)
                 issued := uid :: resource.issued }) ∨
      (∃ pvs pvs', resource.record = some pvs ∧ Commit pvs pvs' ∧
        next = { resource with record := some pvs' }) ∨
      next = { resource with record := none } := by
  cases write <;> simp only [applyWrite] at h
  case create uid successRecorded spec =>
    split at h
    · rename_i hfresh
      exact .inl ⟨uid, successRecorded, spec, hfresh.2.2.1, hfresh.2.2.2,
        (Option.some.inj h).symm⟩
    · cases h
  case update driver uid mutation =>
    split at h
    · rename_i pvs' hupdate
      obtain ⟨pvs, mutated, hrecord, -, hmutate, hbumped⟩ := updateVolumeState_committed hupdate
      exact .inr (.inl ⟨pvs, pvs', hrecord, ⟨mutation, mutated, hmutate, hbumped⟩,
        (Option.some.inj h).symm⟩)
    · cases h
  case delete uid =>
    split at h
    · split at h
      · exact .inr (.inr (Option.some.inj h).symm)
      · cases h
    · cases h

/-- The current record descends from the fresh record of its lifecycle. -/
def Traced (pvName : String) (resource : Resource) : Prop :=
  ∀ pvs, resource.record = some pvs → pvs.uid ∈ resource.issued ∧
    ∃ successRecorded spec, validSpec spec = true ∧
      Evolves (freshRecord pvName pvs.uid successRecorded spec) pvs

theorem applyWrite_traced {resource next : Resource}
    (hs : Traced pvName resource) (h : applyWrite pvName resource write = some next) :
    Traced pvName next := by
  intro pvs hpvs
  rcases applyWrite_cases h with ⟨uid, recorded, spec, -, hvalid, rfl⟩ |
    ⟨old, new, hold, hcommit, rfl⟩ | rfl
  · cases hpvs
    exact ⟨.head _, recorded, spec, hvalid, .refl⟩
  · cases hpvs
    obtain ⟨hissued, recorded, spec, hvalid, hevolves⟩ := hs old hold
    rw [hcommit.uid]
    exact ⟨hissued, recorded, spec, hvalid, hevolves.tail hcommit⟩
  · exact absurd hpvs (by simp)

/-- Whatever stands under the name later in the lifecycle of `pvs` descends from
`pvs`. -/
def Descends (pvs : VolumeState) (resource : Resource) : Prop :=
  pvs.uid ∈ resource.issued ∧
    ∀ later, resource.record = some later → later.uid = pvs.uid → Evolves pvs later

theorem applyWrite_descends {resource next : Resource} (hs : Descends pvs resource)
    (h : applyWrite pvName resource write = some next) : Descends pvs next := by
  obtain ⟨hissued, hlater⟩ := hs
  rcases applyWrite_cases h with ⟨uid, recorded, spec, hfresh, -, rfl⟩ |
    ⟨old, new, hold, hcommit, rfl⟩ | rfl
  · refine ⟨.tail _ hissued, fun later hrecord huid => ?_⟩
    -- The API server never assigns a UID twice.
    cases hrecord
    have hassigned : uid = pvs.uid := huid
    rw [hassigned] at hfresh
    exact absurd hissued hfresh
  · refine ⟨hissued, fun later hrecord huid => ?_⟩
    cases hrecord
    rw [hcommit.uid] at huid
    exact (hlater old hold huid).tail hcommit
  · exact ⟨hissued, fun later hrecord => absurd hrecord (by simp)⟩

variable {ι : Type*} [DecidableEq ι]

theorem reachable_traced {actions : List (StoreAction ι RecordWrite)} {s : RecordStore ι}
    (hrun : run (storeStep pvName) (Store.init Resource.empty) actions = some s) :
    Coherent s ∧ Traced pvName s.object.value := by
  obtain ⟨hcoherent, writes, hwrites⟩ := run_atomic (coherent_init _) hrun
  refine ⟨hcoherent, invariant_run (fun _ _ _ => applyWrite_traced) ?_ hwrites⟩
  intro pvs hpvs
  exact absurd hpvs (by simp [Store.init, Resource.empty])

theorem later_evolves {more : List (StoreAction ι RecordWrite)}
    {s t : RecordStore ι} (hcoherent : Coherent s) (htraced : Traced pvName s.object.value)
    (hrun : run (storeStep pvName) s more = some t) {later : VolumeState}
    (hpvs : s.object.value.record = some pvs) (hlater : t.object.value.record = some later)
    (huid : later.uid = pvs.uid) : Evolves pvs later := by
  obtain ⟨-, writes, hwrites⟩ := run_atomic hcoherent hrun
  have hstart : Descends pvs s.object.value := by
    refine ⟨(htraced pvs hpvs).1, fun other hother _ => ?_⟩
    rw [hpvs] at hother
    rw [Option.some.inj hother]
  exact (invariant_run (fun _ _ _ => applyWrite_descends) hstart hwrites).2 later hlater huid

end PillarCsi.RecordHistory
