import PillarCsi.StorageClasses
import PillarCsi.TransitionSystem

/-!
The re-creation of a StorageClass whose immutable fields have changed: record,
delete, create and clear, with crashes, lost calls and retries from stale views.
-/

namespace PillarCsi.StorageClassRecreation

open TransitionSystem ApiObjects StorageClasses

structure State where
  slots : Slots
  stage : Stage := .idle
  /-- The managed fields of the reconcile under way. -/
  wanted : Option DesiredStorageClass := none
  /-- The class that a re-create has deleted and that has not been created again. -/
  gone : Option (Object StorageClass) := none

inductive Action where
  /-- A reconcile starts from what the caches show, also in place of one that
  crashed. -/
  | reconcile (binding : Object Binding) (cached : Option (Object StorageClass))
      (observed : Observed)
  | advance (delivery : Delivery) (seen : Option (Object StorageClass))
  /-- What users and other controllers do.  They leave the record alone, and a
  class that is being re-created is not created by anyone else. -/
  | createClass (value : StorageClass)
  | editClass (version : Nat) (value : StorageClass)
  | removeClass
  | editBinding (value : Binding)

def goneAfter (stage : Stage) (gone before after : Option (Object StorageClass)) :
    Option (Object StorageClass) :=
  match before, after with
  | none, some _ => none
  | some o, none =>
    match stage with
    | .removing .. => some o
    | _ => gone
  | _, _ => gone

variable (s : State)

/-- One API call of the reconcile under way. -/
def advanced (delivery : Delivery) (seen : Option (Object StorageClass)) : State :=
  let (slots, stage) := advance s.slots s.stage delivery seen
  { s with
    slots := slots
    stage := stage
    gone := goneAfter s.stage s.gone s.slots.storageClass.live slots.storageClass.live }

def State.withClass (slot : Slot StorageClass) : State :=
  { s with slots := { s.slots with storageClass := slot } }

def State.writeBinding (value : Binding) : State :=
  { s with
    slots := { s.slots with
      binding := s.slots.binding.put (some ⟨s.slots.binding.next, value⟩) } }

def step : Action → Option State
  | .reconcile binding cached observed =>
    if some binding ∈ s.slots.binding.past ∧ cached ∈ s.slots.storageClass.past then
      some { s with
        stage := reconcile binding cached observed
        wanted := desiredStorageClassOver binding.value observed }
    else
      none
  | .advance delivery seen =>
    if seen ∈ s.slots.storageClass.past then some (advanced s delivery seen) else none
  | .createClass value =>
    if s.gone = none then some (s.withClass (s.slots.storageClass.create value).1) else none
  | .editClass version value =>
    some (s.withClass (s.slots.storageClass.update validClassUpdate version value).1)
  | .removeClass => some (s.withClass (s.slots.storageClass.delete none).1)
  | .editBinding value =>
    match s.slots.binding.live with
    | none => none
    | some o => some (s.writeBinding { value with carryOver := o.value.carryOver })

/-- Between the delete and the create, a cache shows the class as it was deleted
or not at all, and the deleted class is still one to replace. -/
def Fresh : Action → Prop
  | .reconcile binding cached observed =>
    ∀ deleted ∈ s.gone, ∀ o ∈ cached, o = deleted ∧
      ∀ desired ∈ desiredStorageClassOver binding.value observed,
        storageClassImmutableDrift deleted.value desired = true
  | .advance _ seen =>
    ∀ deleted ∈ s.gone, ∀ o ∈ seen, o = deleted ∧
      ∀ desired ∈ s.wanted, storageClassImmutableDrift deleted.value desired = true
  | _ => True

instance (s : State) (a : Action) : Decidable (Fresh s a) := by
  cases a <;> unfold Fresh <;> infer_instance

/-- The class keeps what the controller does not manage, and has the desired
fields. -/
structure Restored (deleted : StorageClass) (desired : DesiredStorageClass) (sc : StorageClass) :
    Prop where
  labels : sc.labels = deleted.labels
  annotations : sc.annotations = deleted.annotations
  allowedTopologies :
    desired.manageAllowedTopologies = false → sc.allowedTopologies = deleted.allowedTopologies
  managed : applyDesiredStorageClass sc desired = sc

variable {sc : StorageClass} {desired : DesiredStorageClass} {stage : Stage}
  {slot : Slot StorageClass} {value : Binding} {version : Nat}
  {binding checkpoint : Object Binding} {existing o deleted : Object StorageClass}

theorem restored_of_applied {deleted : StorageClass}
    (h : carryOverFrom sc = carryOverFrom deleted) :
    Restored deleted desired (applyDesiredStorageClass sc desired) := by
  obtain ⟨hlabels, hannotations, htopologies⟩ := CarryOver.mk.inj h
  refine ⟨hlabels, hannotations, fun hunmanaged => ?_, ?_⟩
  · simp [applyDesiredStorageClass, hunmanaged, htopologies]
  · cases hmanage : desired.manageAllowedTopologies <;> simp [applyDesiredStorageClass, hmanage]

theorem restored_replacement (binding : Binding) (existing : StorageClass)
    (desired : DesiredStorageClass) :
    Restored existing desired (replacement binding existing desired) := by
  obtain ⟨hlabels, hannotations, htopologies, hmanaged⟩ : Restored existing desired
    (applyDesiredStorageClass ((carryOverFrom existing).applyTo {}) desired) := restored_of_applied rfl
  refine ⟨hlabels, hannotations, htopologies, ?_⟩
  unfold replacement
  conv_rhs => rw [← hmanaged]
  rfl

theorem restored_of_created {binding : Binding} {deleted : StorageClass}
    (h : updateStorageClassFields binding {} desired (some (carryOverFrom deleted)) true =
      some sc) : Restored deleted desired sc := by
  have hsc := Option.some.inj h
  rw [← hsc]
  exact restored_of_applied rfl

theorem updateBinding_cases (slots : Slots) (delivery : Delivery) (version : Nat)
    (value : Binding) : (slots.updateBinding delivery version value).1 = slots ∧
        (∀ stored, (slots.updateBinding delivery version value).2 ≠ some (.stored stored)) ∨
      ∃ o, slots.binding.live = some o ∧ o.version = version ∧
        (slots.updateBinding delivery version value).1 =
          { slots with binding := slots.binding.put (some ⟨slots.binding.next, value⟩) } := by
  unfold Slots.updateBinding Slot.update
  cases hlive : slots.binding.live with
  | none => cases delivery <;> simp [deliver]
  | some o =>
    by_cases hversion : o.version = version
    · cases delivery <;> simp [deliver, hversion]
    · cases delivery <;> simp [deliver, hversion]

@[simp] theorem updateBinding_storageClass (slots : Slots) (delivery : Delivery) (version : Nat)
    (value : Binding) :
    (slots.updateBinding delivery version value).1.storageClass = slots.storageClass := rfl

/-- The class that is gone, if any, is this one. -/
def State.Replaces (existing : Object StorageClass) : Prop :=
  ∀ deleted, s.gone = some deleted → existing = deleted

/-- Of the class that is gone, if any, this is the record. -/
def State.Records (carryOver : Option CarryOver) : Prop :=
  ∀ deleted, s.gone = some deleted → carryOver = some (carryOverFrom deleted.value)

/-- The stage works from a class with the fields of the deleted one. -/
def StageInv : Stage → Prop
  | .finalizing binding => some binding ∈ s.slots.binding.past
  | .recording _ existing desired =>
    some existing ∈ s.slots.storageClass.past ∧ s.wanted = some desired ∧ s.Replaces existing
  | .removing _ existing desired =>
    some existing ∈ s.slots.storageClass.past ∧ s.wanted = some desired ∧ s.Replaces existing ∧
      ∀ b, s.slots.binding.live = some b →
        b.value.carryOver = some (carryOverFrom existing.value)
  | .recreating _ existing desired => s.wanted = some desired ∧ s.Replaces existing
  | .checking binding desired => some binding ∈ s.slots.binding.past ∧ s.wanted = some desired
  | .ensuring _ checkpoint desired =>
    s.wanted = some desired ∧ s.Records checkpoint.value.carryOver
  | .clearing _ => s.gone = none
  | .idle | .dropping _ | .releasing _ => True

structure Inv (s : State) : Prop where
  classes : Coherent s.slots.storageClass
  bindings : Coherent s.slots.binding
  absent : ∀ deleted, s.gone = some deleted → s.slots.storageClass.live = none
  recorded : ∀ b, s.slots.binding.live = some b → s.Records b.value.carryOver
  stage : StageInv s s.stage

variable {s s' : State} {delivery : Delivery} {seen : Option (Object StorageClass)}

@[simp] theorem goneAfter_self (stage : Stage) (gone live : Option (Object StorageClass)) :
    goneAfter stage gone live live = gone := by
  cases live <;> rfl

section

variable (h : Inv s)

include h

theorem Inv.quiet (hstage : StageInv s stage) : Inv { s with stage := stage } := by
  refine ⟨h.classes, h.bindings, h.absent, h.recorded, ?_⟩
  cases stage <;> exact hstage

omit h in
theorem StageInv.withClass (h : StageInv s stage)
    (hslot : Step s.slots.storageClass slot) : StageInv (s.withClass slot) stage := by
  cases stage with
  | recording binding existing desired | removing binding existing desired =>
    exact ⟨hslot.past_subset h.1, h.2⟩
  | _ => exact h

theorem Inv.withClass (hslot : Step s.slots.storageClass slot)
    (hlive : ∀ deleted, s.gone = some deleted → slot.live = none) (hstage : StageInv s stage) :
    Inv { s.withClass slot with stage := stage } := by
  have hclass : Inv (s.withClass slot) :=
    ⟨hslot.coherent h.classes, h.bindings, hlive, h.recorded, h.stage.withClass hslot⟩
  exact hclass.quiet (hstage.withClass hslot)

theorem Inv.writeBinding (hkept : s.Records value.carryOver)
    (hstage : StageInv (s.writeBinding value) stage) :
    Inv { s.writeBinding value with stage := stage } := by
  have hbinding : Coherent (s.writeBinding value).slots.binding :=
    (Step.store value).coherent h.bindings
  refine ⟨h.classes, hbinding, h.absent, fun b hb => ?_, ?_⟩
  · cases hb
    exact hkept
  · cases stage <;> exact hstage

theorem inv_updateBinding
    (hkept : ∀ b, s.slots.binding.live = some b → b.version = version →
      s.Records value.carryOver)
    (hquiet : (∀ stored, (s.slots.updateBinding delivery version value).2 ≠ some (.stored stored)) →
      StageInv s stage) (hwritten : StageInv (s.writeBinding value) stage) :
    Inv { s with slots := (s.slots.updateBinding delivery version value).1, stage := stage } := by
  rcases updateBinding_cases s.slots delivery version value with ⟨hsame, hreply⟩ | ⟨o, ho, hv, hput⟩
  · rw [hsame]
    exact h.quiet (hquiet hreply)
  · rw [hput]
    exact h.writeBinding (hkept o ho hv) hwritten

theorem inv_finalizing
    (hstage : s.stage = .finalizing binding) : Inv (advanced s delivery seen) := by
  have hmem : StageInv s (.finalizing binding) := hstage ▸ h.stage
  simp only [advanced, hstage, advance, updateBinding_storageClass, goneAfter_self]
  refine inv_updateBinding h (fun b hb hversion => ?_) (fun _ => trivial) trivial
  obtain rfl := h.bindings.unique b binding (hb ▸ h.bindings.live_mem) hmem hversion
  exact h.recorded b hb

theorem inv_recording (hstage : s.stage = .recording binding existing desired) :
    Inv (advanced s delivery seen) := by
  have hold : StageInv s (.recording binding existing desired) := hstage ▸ h.stage
  obtain ⟨hmem, hwanted, hsame⟩ := hold
  simp only [advanced, hstage, advance, updateBinding_storageClass, goneAfter_self]
  refine inv_updateBinding h (fun _ _ _ deleted hgone => ?_) (fun hreply => ?_) ?_
  · rw [hsame deleted hgone]
  · split
    · rename_i stored hstored
      exact absurd hstored (hreply stored)
    · trivial
  · split
    · refine ⟨hmem, hwanted, hsame, fun b hb => ?_⟩
      cases hb
      rfl
    · trivial

theorem inv_clearing
    (hstage : s.stage = .clearing checkpoint) : Inv (advanced s delivery seen) := by
  have hgone : StageInv s (.clearing checkpoint) := hstage ▸ h.stage
  simp only [advanced, hstage, advance]
  split
  · simp only [goneAfter_self]
    exact h.quiet trivial
  · simp only [updateBinding_storageClass, goneAfter_self]
    refine inv_updateBinding h (fun _ _ _ deleted hdeleted => ?_) (fun _ => trivial) trivial
    exact absurd (hgone.symm.trans hdeleted) nofun

theorem inv_removing (hstage : s.stage = .removing binding existing desired) :
    Inv (advanced s delivery seen) := by
  have hold : StageInv s (.removing binding existing desired) := hstage ▸ h.stage
  obtain ⟨hmem, hwanted, hsame, hrecord⟩ := hold
  have hrecreating : StageInv s (.recreating binding existing desired) := ⟨hwanted, hsame⟩
  -- the class goes, and the record is the one of the class
  have hremoved : ∀ stage, (∀ state : State, state.wanted = some desired →
      state.gone = some existing → StageInv state stage) →
      Inv { slots := { s.slots with storageClass := s.slots.storageClass.put none }
            stage := stage, wanted := s.wanted, gone := some existing } := by
    intro stage hnext
    refine ⟨Step.remove.coherent h.classes, h.bindings, fun _ _ => rfl,
      fun b hb deleted hgone => ?_, hnext _ hwanted rfl⟩
    cases hgone
    exact hrecord b hb
  simp only [advanced, hstage, advance, Slots.onClass, Slot.delete]
  cases hlive : s.slots.storageClass.live with
  | none =>
    cases delivery <;> simp only [deliver, hlive, goneAfter_self]
    · exact h.quiet trivial
    · exact h.quiet trivial
    · exact h.quiet hrecreating
  | some o =>
    by_cases hversion : existing.version = o.version
    · obtain rfl := h.classes.unique existing o hmem (hlive ▸ h.classes.live_mem) hversion
      cases delivery <;> simp only [deliver, hlive, or_true, if_true, goneAfter_self]
      · exact h.quiet trivial
      · exact hremoved .idle fun _ _ _ => trivial
      · refine hremoved _ fun state hstate hgone => ⟨hstate, fun deleted hdeleted => ?_⟩
        exact Option.mem_unique hgone hdeleted
    · have hconflict : ¬((some existing.version : Option Nat) = none ∨
          some existing.version = some o.version) := by
        simp [hversion]
      cases delivery <;> simp only [deliver, hlive, if_neg hconflict, goneAfter_self] <;>
        exact h.quiet trivial

theorem Inv.settled
    (hslot : Step s.slots.storageClass slot) (hstage : ∀ state : State, state.gone = none →
      StageInv state stage) : Inv { s.withClass slot with stage := stage, gone := none } :=
  ⟨hslot.coherent h.classes, h.bindings, nofun, fun _ _ => nofun, hstage _ rfl⟩

theorem Inv.gone_none (hlive : s.slots.storageClass.live = some o) : s.gone = none := by
  cases hgone : s.gone with
  | none => rfl
  | some deleted => exact absurd (h.absent deleted hgone) (hlive ▸ nofun)

/-- Where a reconcile goes on after a call that stores the class. -/
def onStored (next : Stage) : Option (Reply StorageClass) → Stage
  | some (.stored _) => next
  | _ => .idle

theorem inv_stores {call : Slot StorageClass × Reply StorageClass} {next : Stage}
    (hcall : Stores s.slots.storageClass call)
    (hnext : ∀ state : State, state.gone = none → StageInv state next) : Inv { s with
      slots := (s.slots.onClass delivery call).1
      stage := onStored next (s.slots.onClass delivery call).2
      gone := goneAfter s.stage s.gone s.slots.storageClass.live
        (s.slots.onClass delivery call).1.storageClass.live } := by
  simp only [Slots.onClass]
  cases hcall with
  | @refused reply hreply =>
    have hidle : onStored next (some reply) = .idle := by
      unfold onStored
      split
      · rename_i stored heq
        exact absurd (Option.some.inj heq) (hreply stored)
      · rfl
    cases delivery <;> simp only [deliver, goneAfter_self, hidle] <;> exact h.quiet trivial
  | stored value =>
    have hgone : ∀ o, goneAfter s.stage s.gone s.slots.storageClass.live (some o) = none := by
      intro o
      cases hlive : s.slots.storageClass.live with
      | none => rfl
      | some _ => exact h.gone_none hlive
    cases delivery <;> simp only [deliver, goneAfter_self]
    · exact h.quiet trivial
    · exact hgone _ ▸ h.settled (.store value) fun _ _ => trivial
    · exact hgone _ ▸ h.settled (.store value) hnext

theorem inv_recreating (hstage : s.stage = .recreating binding existing desired) :
    Inv (advanced s delivery seen) := by
  simp only [advanced, hstage, advance]
  rw [← hstage]
  exact inv_stores h (stores_create _) fun _ hgone => hgone

theorem inv_checking
    (hstage : s.stage = .checking binding desired) : Inv (advanced s delivery seen) := by
  have hold : StageInv s (.checking binding desired) := hstage ▸ h.stage
  simp only [advanced, hstage, advance, goneAfter_self]
  refine h.quiet ?_
  split
  · rename_i current hcurrent
    refine ⟨hold.2, ?_⟩
    split
    · rename_i hversion
      obtain rfl := h.bindings.unique current binding (hcurrent ▸ h.bindings.live_mem) hold.1
        hversion
      exact h.recorded current hcurrent
    · exact h.recorded current hcurrent
  · trivial

end

theorem ne_of_drift {binding : Binding} {sc' : StorageClass}
    {carryOver : Option CarryOver} (hdrift : storageClassImmutableDrift sc desired = true)
    (h : updateStorageClassFields binding sc desired carryOver false = some sc') : sc' ≠ sc := by
  rintro rfl
  have happlied : ∃ other, applyDesiredStorageClass other desired = sc' := by
    unfold updateStorageClassFields at h
    dsimp only at h
    split at h
    · cases h
    · exact ⟨_, Option.some.inj h⟩
  obtain ⟨other, rfl⟩ := happlied
  cases hmanage : desired.manageAllowedTopologies <;>
    simp [storageClassImmutableDrift, applyDesiredStorageClass, hmanage] at hdrift

/-- Where `CreateOrUpdate` goes on. -/
def ensured (checkpoint : Object Binding) : Stage :=
  if checkpoint.value.carryOver ≠ none then .clearing checkpoint else .idle

theorem stageInv_ensured (checkpoint : Object Binding) (state : State)
    (hgone : state.gone = none) : StageInv state (ensured checkpoint) := by
  unfold ensured
  split
  · exact hgone
  · trivial

theorem onStored_ensured (checkpoint : Object Binding) (reply : Option (Reply StorageClass)) :
    (if (match reply with | some (.stored _) => true | _ => false) = true ∧
        checkpoint.value.carryOver ≠ none then Stage.clearing checkpoint else .idle) =
      onStored (ensured checkpoint) reply := by
  unfold onStored ensured
  split <;> simp

theorem advance_ensuring (slots : Slots) (binding checkpoint : Object Binding)
    (desired : DesiredStorageClass) (delivery : Delivery) (seen : Option (Object StorageClass)) :
    advance slots (.ensuring binding checkpoint desired) delivery seen =
        (slots, .idle) ∨
      (∃ sc, updateStorageClassFields binding.value {} desired checkpoint.value.carryOver true =
          some sc ∧
        advance slots (.ensuring binding checkpoint desired) delivery seen =
          ((slots.onClass delivery (slots.storageClass.create sc)).1,
            onStored (ensured checkpoint)
              (slots.onClass delivery (slots.storageClass.create sc)).2)) ∨
      ∃ o sc, seen = some o ∧ updateStorageClassFields binding.value o.value desired
          checkpoint.value.carryOver false = some sc ∧ (sc = o.value ∧
            advance slots (.ensuring binding checkpoint desired) delivery seen =
              (slots, ensured checkpoint) ∨
          advance slots (.ensuring binding checkpoint desired) delivery seen =
            ((slots.onClass delivery (slots.storageClass.update validClassUpdate o.version sc)).1,
              onStored (ensured checkpoint) (slots.onClass delivery
                (slots.storageClass.update validClassUpdate o.version sc)).2)) := by
  simp only [advance, ensureStorageClass]
  cases seen with
  | none =>
    cases hfields : updateStorageClassFields binding.value {} desired checkpoint.value.carryOver
        true with
    | none => exact .inl (by simp)
    | some sc => exact .inr (.inl ⟨sc, rfl, congrArg (Prod.mk _) (onStored_ensured checkpoint _)⟩)
  | some o =>
    cases hfields : updateStorageClassFields binding.value o.value desired
        checkpoint.value.carryOver false with
    | none => exact .inl (by simp [hfields])
    | some sc =>
      refine .inr (.inr ⟨o, sc, rfl, hfields, ?_⟩)
      by_cases hsame : sc = o.value
      · exact .inl ⟨hsame, by simp [hfields, hsame, ensured]⟩
      · refine .inr ?_
        simp only [hfields, if_neg hsame]
        exact congrArg (Prod.mk _) (onStored_ensured checkpoint _)

theorem inv_ensuring (h : Inv s) (hstage : s.stage = .ensuring binding checkpoint desired)
    (hfresh : Fresh s (.advance delivery seen)) : Inv (advanced s delivery seen) := by
  have hold : StageInv s (.ensuring binding checkpoint desired) := hstage ▸ h.stage
  rcases advance_ensuring s.slots binding checkpoint desired delivery seen with
    hcall | ⟨sc, -, hcall⟩ | ⟨o, sc, rfl, hfields, ⟨rfl, hcall⟩ | hcall⟩
  · simp only [advanced, hstage, hcall, goneAfter_self]
    exact h.quiet trivial
  · simp only [advanced, hstage, hcall]
    rw [← hstage]
    exact inv_stores h (stores_create _) (stageInv_ensured checkpoint)
  · -- the deleted class would have to be updated
    have hgone : s.gone = none := by
      cases hgone : s.gone with
      | none => rfl
      | some deleted =>
        obtain ⟨rfl, hdrift⟩ := hfresh deleted hgone o rfl
        exact absurd rfl (ne_of_drift (hdrift desired hold.1) hfields)
    simp only [advanced, hstage, hcall, goneAfter_self]
    exact h.quiet (stageInv_ensured checkpoint s hgone)
  · simp only [advanced, hstage, hcall]
    rw [← hstage]
    exact inv_stores h (stores_update ..) (stageInv_ensured checkpoint)

theorem inv_dropping (h : Inv s)
    (hstage : s.stage = .dropping binding) : Inv (advanced s delivery seen) := by
  simp only [advanced, hstage, advance, Slots.onClass, Slot.delete]
  cases hlive : s.slots.storageClass.live with
  | none => cases delivery <;> simp only [deliver, hlive, goneAfter_self] <;> exact h.quiet trivial
  | some o =>
    have hgone := h.gone_none hlive
    cases delivery <;> simp only [deliver, hlive, goneAfter_self, true_or, if_true]
    · exact h.quiet trivial
    · rw [hgone]
      exact h.settled .remove fun _ _ => trivial
    · rw [hgone]
      exact h.settled .remove fun _ _ => trivial

theorem inv_releasing (h : Inv s)
    (hstage : s.stage = .releasing binding) : Inv (advanced s delivery seen) := by
  simp only [advanced, hstage, advance, goneAfter_self]
  have hslot : Step s.slots.binding (deliver delivery s.slots.binding
      (s.slots.binding.delete (some binding.version))).1 := step_deliver (step_delete _)
  exact ⟨h.classes, hslot.coherent h.bindings, h.absent,
    fun b hb => h.recorded b (live_of_delete hb), trivial⟩

theorem inv_advanced (h : Inv s) (hfresh : Fresh s (.advance delivery seen)) :
    Inv (advanced s delivery seen) := by
  cases hstage : s.stage with
  | idle =>
    simp only [advanced, hstage, advance, goneAfter_self]
    exact h.quiet trivial
  | finalizing binding => exact inv_finalizing h hstage
  | recording binding existing desired => exact inv_recording h hstage
  | removing binding existing desired => exact inv_removing h hstage
  | recreating binding existing desired => exact inv_recreating h hstage
  | checking binding desired => exact inv_checking h hstage
  | ensuring binding checkpoint desired => exact inv_ensuring h hstage hfresh
  | clearing checkpoint => exact inv_clearing h hstage
  | dropping binding => exact inv_dropping h hstage
  | releasing binding => exact inv_releasing h hstage

theorem stageInv_reconcile {cached : Option (Object StorageClass)} {observed : Observed}
    (hbinding : some binding ∈ s.slots.binding.past) (hcached : cached ∈ s.slots.storageClass.past)
    (hfresh : Fresh s (.reconcile binding cached observed)) :
    StageInv { s with wanted := desiredStorageClassOver binding.value observed }
      (reconcile binding cached observed) := by
  unfold reconcile reconcileDelete
  split
  · split
    · trivial
    · split <;> trivial
  split
  · exact hbinding
  split
  · trivial
  cases hdesired : desiredStorageClassOver binding.value observed with
  | none => trivial
  | some desired =>
    unfold reconcileStorageClass recreateStorageClass
    cases cached with
    | none => exact ⟨hbinding, rfl⟩
    | some existing =>
      have hgone : ∀ deleted, s.gone = some deleted → existing = deleted ∧
          storageClassImmutableDrift existing.value desired = true := by
        intro deleted hdeleted
        obtain ⟨rfl, hdrift⟩ := hfresh deleted hdeleted existing rfl
        exact ⟨rfl, hdrift desired hdesired⟩
      dsimp only
      split
      · trivial
      split
      · split
        · trivial
        split
        · trivial
        · exact ⟨hcached, rfl, fun deleted hdeleted => (hgone deleted hdeleted).1⟩
      · rename_i hnodrift
        exact ⟨rfl, fun deleted hdeleted => absurd (hgone deleted hdeleted).2 hnodrift⟩

theorem StageInv.editBinding {o : Object Binding}
    (h : StageInv s stage) (hlive : s.slots.binding.live = some o) :
    StageInv (s.writeBinding { value with carryOver := o.value.carryOver }) stage := by
  have hpast : s.slots.binding.past ⊆
      (s.writeBinding { value with carryOver := o.value.carryOver }).slots.binding.past :=
    List.subset_cons_self _ _
  cases stage with
  | finalizing binding => exact hpast h
  | checking binding desired => exact ⟨hpast h.1, h.2⟩
  | removing binding existing desired =>
    refine ⟨h.1, h.2.1, h.2.2.1, fun b hb => ?_⟩
    cases hb
    exact h.2.2.2 o hlive
  | _ => exact h

theorem step_inv (s : State) (a : Action) (s' : State) (h : Inv s) (hfresh : Fresh s a)
    (hstep : step s a = some s') : Inv s' := by
  cases a <;> simp only [step] at hstep
  case reconcile binding cached observed =>
    obtain ⟨hseen, rfl⟩ := of_guard hstep
    have hstage := stageInv_reconcile hseen.1 hseen.2 hfresh
    refine ⟨h.classes, h.bindings, h.absent, h.recorded, ?_⟩
    revert hstage
    cases reconcile binding cached observed <;> exact id
  case advance delivery seen =>
    obtain ⟨-, rfl⟩ := of_guard hstep
    exact inv_advanced h hfresh
  case createClass value =>
    obtain ⟨hgone, rfl⟩ := of_guard hstep
    exact h.withClass (stores_create value).step
      (fun deleted hdeleted => absurd (hgone.symm.trans hdeleted) nofun) h.stage
  case editClass version value =>
    cases hstep
    refine h.withClass (stores_update _ version value).step (fun deleted hgone => ?_) h.stage
    simp [Slot.update, h.absent deleted hgone]
  case removeClass =>
    cases hstep
    refine h.withClass (step_delete none) (fun deleted hgone => ?_) h.stage
    simp [Slot.delete, h.absent deleted hgone]
  case editBinding value =>
    split at hstep
    · cases hstep
    rename_i o ho
    cases hstep
    exact h.writeBinding (h.recorded o ho) (h.stage.editBinding ho)

theorem advance_created {slots : Slots} (hlive : slots.storageClass.live = none)
    (h : (advance slots stage delivery seen).1.storageClass.live = some o) :
    (advance slots stage delivery seen).1.binding = slots.binding ∧
      ((∃ binding existing desired, stage = .recreating binding existing desired ∧
          o.value = replacement binding.value existing.value desired) ∨
        ∃ binding checkpoint desired, stage = .ensuring binding checkpoint desired ∧
          updateStorageClassFields binding.value {} desired checkpoint.value.carryOver true =
            some o.value) := by
  have hnone : ∀ {p : Prop}, slots.storageClass.live = some o → p := fun hsome =>
    absurd (hlive.symm.trans hsome) nofun
  cases stage with
  | removing binding existing desired | dropping binding => exact hnone (live_of_delete h)
  | recreating binding existing desired =>
    exact ⟨rfl, .inl ⟨binding, existing, desired, rfl, value_of_create hlive h⟩⟩
  | ensuring binding checkpoint desired =>
    rcases advance_ensuring slots binding checkpoint desired delivery seen with
      hcall | ⟨sc, hfields, hcall⟩ | ⟨shown, sc, -, -, ⟨-, hcall⟩ | hcall⟩
    · rw [hcall] at h
      exact hnone h
    · rw [hcall] at h ⊢
      refine ⟨rfl, .inr ⟨binding, checkpoint, desired, rfl, ?_⟩⟩
      rw [hfields, value_of_create hlive h]
    · rw [hcall] at h
      exact hnone h
    · rw [hcall] at h
      have hnotFound : slots.storageClass.update validClassUpdate shown.version sc =
          (slots.storageClass, .notFound) := by
        simp [Slot.update, hlive]
      simp only [Slots.onClass, hnotFound, deliver_eq_self] at h
      exact hnone h
  | clearing checkpoint =>
    simp only [advance] at h
    split at h <;> exact hnone h
  | _ => exact hnone h

/-- Of a class that is gone, a call keeps the record, or it creates the class
again with all the class had. -/
theorem gone_advanced (h : Inv s) (hgone : s.gone = some deleted) :
    (advanced s delivery seen).gone = some deleted ∨
      (advanced s delivery seen).slots.binding = s.slots.binding ∧
        ∀ o, (advanced s delivery seen).slots.storageClass.live = some o →
          ∃ desired, s.wanted = some desired ∧ Restored deleted.value desired o.value := by
  have hlive := h.absent deleted hgone
  cases hafter : (advanced s delivery seen).slots.storageClass.live with
  | none =>
    refine .inl ?_
    show goneAfter s.stage s.gone s.slots.storageClass.live
      (advanced s delivery seen).slots.storageClass.live = some deleted
    rw [hafter, hlive, goneAfter_self, hgone]
  | some o =>
    obtain ⟨hbinding, hcreated⟩ := advance_created hlive hafter
    refine .inr ⟨hbinding, fun other hother => ?_⟩
    cases hother
    have hold := h.stage
    rcases hcreated with ⟨binding, existing, desired, hstage, hvalue⟩ |
      ⟨binding, checkpoint, desired, hstage, hvalue⟩
    · rw [hstage] at hold
      refine ⟨desired, hold.1, ?_⟩
      rw [hvalue, hold.2 deleted hgone]
      exact restored_replacement _ _ _
    · rw [hstage] at hold
      refine ⟨desired, hold.1, ?_⟩
      rw [hold.2 deleted hgone] at hvalue
      exact restored_of_created hvalue

theorem gone_step {a : Action} (h : Inv s) (hstep : step s a = some s')
    (hgone : s.gone = some deleted) : s'.gone = some deleted ∨ s'.slots.binding = s.slots.binding ∧
      ∀ o, s'.slots.storageClass.live = some o →
        ∃ desired, s.wanted = some desired ∧ Restored deleted.value desired o.value := by
  cases a <;> simp only [step] at hstep
  case advance delivery seen =>
    obtain ⟨-, rfl⟩ := of_guard hstep
    exact gone_advanced h hgone
  case reconcile binding cached observed =>
    obtain ⟨-, rfl⟩ := of_guard hstep
    exact .inl hgone
  case createClass value =>
    simp only [hgone] at hstep
    cases hstep
  case editClass version value =>
    cases hstep
    exact .inl hgone
  case removeClass =>
    cases hstep
    exact .inl hgone
  case editBinding value =>
    split at hstep
    · cases hstep
    · cases hstep
      exact .inl hgone

def Keeps (s : State) (a : Action) : Prop :=
  ∀ s', step s a = some s' → ∀ deleted, s.gone = some deleted →
    -- the class that exists again is the deleted one with the desired fields
    (∀ o, s'.slots.storageClass.live = some o →
      ∃ desired, s.wanted = some desired ∧ Restored deleted.value desired o.value) ∧
    -- and the record is not cleared before
    ∀ b, s.slots.binding.live = some b → b.value.carryOver ≠ none ∧
      ∀ b', s'.slots.binding.live = some b' → b'.value.carryOver ≠ none

theorem keeps_of_inv (s : State) (a : Action) (h : Inv s) (hfresh : Fresh s a) : Keeps s a := by
  intro s' hstep deleted hgone
  have hafter := step_inv s a s' h hfresh hstep
  have hrecord : ∀ b, s.slots.binding.live = some b → b.value.carryOver ≠ none := by
    intro b hb
    rw [h.recorded b hb deleted hgone]
    exact nofun
  rcases gone_step h hstep hgone with hstill | ⟨hbinding, hrestored⟩
  · refine ⟨fun o ho => ?_, fun b hb => ⟨hrecord b hb, fun b' hb' => ?_⟩⟩
    · exact absurd ((hafter.absent deleted hstill).symm.trans ho) nofun
    · rw [hafter.recorded b' hb' deleted hstill]
      exact nofun
  · refine ⟨hrestored, fun b hb => ⟨hrecord b hb, fun b' hb' => ?_⟩⟩
    rw [hbinding] at hb'
    exact hrecord b' hb'

/-- Before any re-create: any class, any binding and any history of both. -/
structure Starts (s : State) : Prop where
  classes : Coherent s.slots.storageClass
  bindings : Coherent s.slots.binding
  stage : s.stage = .idle
  gone : s.gone = none

theorem Starts.inv (h : Starts s) : Inv s := by
  refine ⟨h.classes, h.bindings, fun deleted hgone => ?_, fun _ _ deleted hgone => ?_, ?_⟩
  · exact absurd (h.gone.symm.trans hgone) nofun
  · exact absurd (h.gone.symm.trans hgone) nofun
  · rw [h.stage]
    trivial

/-- Wherever a re-create crashes and however often it is retried: the class that
exists again carries all that the deleted one did and the desired fields, and
until then the binding keeps the record. -/
theorem recreation_loses_nothing {actions : List Action} (hstarts : Starts s)
    (hfresh : AllSteps step Fresh s actions) : AllSteps step Keeps s actions :=
  AllSteps.of_invariant step_inv keeps_of_inv hstarts.inv hfresh

def sampleBinding : Binding :=
  { name := "b", uid := "uid-b", spec := { reclaimPolicy := .retain }, finalizer := true }

def plainClass : StorageClass :=
  { applyDesiredStorageClass {} (desiredStorageClassFor sampleBinding false none none) with
    reclaimPolicy := .delete
    owner := some (ownerRefOf sampleBinding) }

def labelledClass : StorageClass := { plainClass with labels := [("tier", "gold")] }

def recordedBinding : Binding :=
  { sampleBinding with carryOver := some (carryOverFrom labelledClass) }

def sampleState : State :=
  { slots :=
      { storageClass := Slot.put {} (some ⟨0, plainClass⟩)
        binding := Slot.put {} (some ⟨0, sampleBinding⟩) } }

theorem starts_sampleState : Starts sampleState where
  classes := (Step.store plainClass).coherent coherent_empty
  bindings := (Step.store sampleBinding).coherent coherent_empty
  stage := rfl
  gone := rfl

/-- The class gets a label; its re-create records and deletes it, and the create
is lost. -/
def interrupted : List Action :=
  [.editClass 0 labelledClass,
    .reconcile ⟨0, sampleBinding⟩ (some ⟨1, labelledClass⟩) {},
    .advance .answered none, .advance .answered none, .advance .lost none]

/-- A retry that finds the class gone. -/
def completed : List Action :=
  [.reconcile ⟨1, recordedBinding⟩ none {}, .advance .answered none, .advance .answered none,
    .advance .answered none]

theorem recreation_loses_nothing_lostCreate :
    AllSteps step Keeps sampleState (interrupted ++ completed) ∧
      ∃ s o b, run step sampleState (interrupted ++ completed) = some s ∧
        s.slots.storageClass.live = some o ∧ o.value.labels = [("tier", "gold")] ∧
        o.value.reclaimPolicy = .retain ∧ s.slots.binding.live = some b ∧
        b.value.carryOver = none := by
  refine ⟨recreation_loses_nothing starts_sampleState (by decide +kernel), ?_⟩
  simp only [exists_and_left]
  decide +kernel

/-- A retry whose cache still has the class without its label. -/
def staleRetry : List Action :=
  [.reconcile ⟨1, recordedBinding⟩ (some ⟨0, plainClass⟩) {},
    .advance .answered none, .advance .answered none]

/-- It writes its own record over the one of the deleted class. -/
theorem stale_retry_loses_label :
    ∃ s s' deleted o, run step sampleState (interrupted ++ staleRetry) = some s ∧
      s.gone = some deleted ∧ deleted.value.labels = [("tier", "gold")] ∧
      step s (.advance .answered none) = some s' ∧
      s'.slots.storageClass.live = some o ∧ o.value.labels = [] := by
  obtain ⟨s, hs, ⟨deleted, hdeleted, hlabels⟩, s', hs', o, ho, hlost⟩ :
      ∃ s, run step sampleState (interrupted ++ staleRetry) = some s ∧
        (∃ deleted, s.gone = some deleted ∧ deleted.value.labels = [("tier", "gold")]) ∧
        ∃ s', step s (.advance .answered none) = some s' ∧
          ∃ o, s'.slots.storageClass.live = some o ∧ o.value.labels = [] := by decide +kernel
  exact ⟨s, s', deleted, o, hs, hdeleted, hlabels, hs', ho, hlost⟩

end PillarCsi.StorageClassRecreation
