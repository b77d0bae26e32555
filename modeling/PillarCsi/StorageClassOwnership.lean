import PillarCsi.StorageClasses
import PillarCsi.TransitionSystem

/-!
Any number of PillarStorageClasses and StorageClasses, some of them hand-written:
which classes the reconciles of a binding touch.
-/

namespace PillarCsi.StorageClassOwnership

open TransitionSystem ApiObjects StorageClasses

structure Job where
  (bindingName className : String)
  stage : Stage

structure Cluster where
  classes : String → Slot StorageClass
  bindings : String → Slot Binding
  jobs : Nat → Option Job

def Cluster.empty : Cluster :=
  { classes := fun _ => {}, bindings := fun _ => {}, jobs := fun _ => none }

/-- What users and other controllers do to a StorageClass. -/
inductive ClassWrite where
  | create (value : StorageClass)
  | update (version : Nat) (value : StorageClass)
  | delete

/-- What they do to a PillarStorageClass.  A delete waits for the finalizer. -/
inductive BindingWrite where
  | create (value : Binding)
  | update (version : Nat) (value : Binding)
  | delete

inductive Action where
  /-- A reconcile starts from what the caches show, also in place of one that
  crashed. -/
  | reconcile (job : Nat) (name : String) (binding : Object Binding)
      (cached : Option (Object StorageClass)) (observed : Observed)
  | advance (job : Nat) (delivery : Delivery) (seen : Option (Object StorageClass))
  | writeClass (name : String) (write : ClassWrite)
  | writeBinding (name : String) (write : BindingWrite)

def ClassWrite.apply (slot : Slot StorageClass) : ClassWrite → Slot StorageClass
  | .create value => (slot.create value).1
  | .update version value => (slot.update validClassUpdate version value).1
  | .delete => (slot.delete none).1

def BindingWrite.apply (slot : Slot Binding) : BindingWrite → Slot Binding
  | .create value => (slot.create value).1
  | .update version value => (slot.update (fun old new => old.uid = new.uid) version value).1
  | .delete =>
    match slot.live with
    | none => slot
    | some o =>
      if o.value.finalizer then slot.put (some ⟨slot.next, { o.value with deleting := true }⟩)
      else slot.put none

def step (c : Cluster) : Action → Option Cluster
  | .reconcile id name binding cached observed =>
    let className := classNameOf binding.value
    if some binding ∈ (c.bindings name).past ∧ cached ∈ (c.classes className).past then
      some { c with
        jobs := Function.update c.jobs id
          (some ⟨name, className, reconcile binding cached observed⟩) }
    else
      none
  | .advance id delivery seen =>
    match c.jobs id with
    | none => none
    | some job =>
      if seen ∈ (c.classes job.className).past then
        let (slots, stage) := advance
          ⟨c.classes job.className, c.bindings job.bindingName⟩ job.stage delivery seen
        some
          { classes := Function.update c.classes job.className slots.storageClass
            bindings := Function.update c.bindings job.bindingName slots.binding
            jobs := Function.update c.jobs id (some { job with stage := stage }) }
      else
        none
  | .writeClass name write =>
    some { c with classes := Function.update c.classes name (write.apply (c.classes name)) }
  | .writeBinding name write =>
    some { c with bindings := Function.update c.bindings name (write.apply (c.bindings name)) }

/-- Nothing else controls the class. -/
def Unclaimed (uid : String) (sc : StorageClass) : Prop := ∀ ref, sc.owner = some ref → ref.uid = uid

def Controls (uid : String) (sc : StorageClass) : Prop := ∃ ref, sc.owner = some ref ∧ ref.uid = uid

def actor : Stage → Option Binding
  | .idle => none
  | .finalizing binding | .recording binding _ _ | .removing binding _ _ | .recreating binding _ _
  | .checking binding _ | .ensuring binding _ _ | .dropping binding | .releasing binding =>
    some binding.value
  | .clearing checkpoint => some checkpoint.value

variable {slot : Slot StorageClass} {c : Cluster}

section Calls

variable {slots : Slots} {stage : Stage} {delivery : Delivery}
  {seen : Option (Object StorageClass)} {binding : Object Binding} {sc : StorageClass}
  {desired : DesiredStorageClass} {o : Object StorageClass}

/-- What a re-create remembers of the class it saw. -/
def Sound (slot : Slot StorageClass) : Stage → Prop
  | .recording binding existing _ | .removing binding existing _ =>
    some existing ∈ slot.past ∧ Unclaimed binding.value.uid existing.value
  | _ => True

theorem Sound.mono {slot' : Slot StorageClass} (h : Sound slot stage)
    (hpast : slot.past ⊆ slot'.past) : Sound slot' stage := by
  cases stage with
  | recording binding existing desired | removing binding existing desired => exact ⟨hpast h.1, h.2⟩
  | _ => trivial

theorem sound_reconcile
    {cached : Option (Object StorageClass)} (observed : Observed) (hcached : cached ∈ slot.past) :
    Sound slot (reconcile binding cached observed) := by
  unfold reconcile reconcileDelete
  split
  · split
    · trivial
    · split <;> trivial
  split
  · trivial
  split
  · trivial
  split
  · trivial
  unfold reconcileStorageClass recreateStorageClass
  split
  · trivial
  rename_i existing
  split
  · trivial
  split
  · split
    · trivial
    rename_i howner
    split
    · trivial
    refine ⟨hcached, fun ref href => ?_⟩
    simpa [href] using howner
  · trivial

theorem updateBinding_stored {version : Nat} {value : Binding} {stored : Object Binding}
    (h : (slots.updateBinding delivery version value).2 = some (.stored stored)) :
    stored.value = value := by
  unfold Slots.updateBinding deliver Slot.update at h
  cases delivery with
  | lost | unanswered => cases h
  | answered =>
    cases hlive : slots.binding.live with
    | none => simp [hlive] at h
    | some o =>
      by_cases hversion : o.version = version
      · simp [hlive, hversion] at h
        rw [← h]
      · simp [hlive, hversion] at h

theorem step_ensure (binding checkpoint : Object Binding) (desired : DesiredStorageClass) :
    Step slots.storageClass
      (ensureStorageClass slots binding checkpoint desired delivery seen).1.storageClass := by
  unfold ensureStorageClass Slots.onClass
  split
  · split
    · exact .refl
    · exact step_deliver (stores_create _).step
  · split
    · exact .refl
    split
    · exact .refl
    · exact step_deliver (stores_update ..).step

theorem step_advance : Step slots.storageClass
    (advance slots stage delivery seen).1.storageClass := by
  cases stage with
  | removing binding existing desired => exact step_deliver (step_delete _)
  | recreating binding existing desired => exact step_deliver (stores_create _).step
  | ensuring binding checkpoint desired => exact step_ensure binding checkpoint desired
  | dropping binding => exact step_deliver (step_delete _)
  | clearing checkpoint =>
    unfold advance
    simp only
    split <;> exact .refl
  | _ => exact .refl

theorem sound_advance (h : Sound slots.storageClass stage) :
    Sound (advance slots stage delivery seen).1.storageClass
      (advance slots stage delivery seen).2 := by
  cases stage with
  | recording binding existing desired =>
    simp only [advance]
    split
    · rename_i stored hstored
      refine ⟨h.1, ?_⟩
      rw [updateBinding_stored hstored]
      exact h.2
    · trivial
  | removing binding existing desired | recreating binding existing desired
  | checking binding desired | ensuring binding checkpoint desired | clearing checkpoint
  | dropping binding =>
    simp only [advance]
    split <;> trivial
  | _ => trivial

/-- When a binding may touch the class that is there: it is deleted with its own
class, and no class is left from a former binding of its name. -/
def Safe (sc : StorageClass) : Stage → Prop
  | .ensuring binding _ _ =>
    ∀ ref, sc.owner = some ref → ref.names binding.value = true → ref.uid = binding.value.uid
  | .dropping binding => Controls binding.value.uid sc
  | _ => True

theorem Controls.unclaimed {uid : String} (h : Controls uid sc) : Unclaimed uid sc := by
  obtain ⟨ref, href, huid⟩ := h
  intro other hother
  obtain rfl := Option.mem_unique href hother
  exact huid

theorem names_of_updated {binding : Binding} {sc' : StorageClass} {carryOver : Option CarryOver}
    (h : updateStorageClassFields binding sc desired carryOver false = some sc') :
    ∀ ref, sc.owner = some ref → ref.names binding = true := by
  intro ref href
  by_contra hother
  cases carryOver with
  | none | some kept => simp [updateStorageClassFields, setControllerReference, href, hother] at h

/-- A stage that may change the class: nothing else controls it, and a binding's
deletion only takes a class the binding controls. -/
def Entitled (sc : StorageClass) (stage : Stage) : Prop :=
  ∃ binding, actor stage = some binding ∧ Unclaimed binding.uid sc ∧
    ∀ deleted, stage = .dropping deleted → Controls binding.uid sc

theorem ensure_touches {checkpoint : Object Binding} (hc : Coherent slots.storageClass)
    (hseen : seen ∈ slots.storageClass.past) (hlive : slots.storageClass.live = some o)
    (hsafe : Safe o.value (.ensuring binding checkpoint desired)) :
    (ensureStorageClass slots binding checkpoint desired delivery seen).1.storageClass =
        slots.storageClass ∨ Unclaimed binding.value.uid o.value := by
  unfold ensureStorageClass Slots.onClass
  split
  · split
    · exact .inl rfl
    · exact .inl (deliver_eq_self (create_live hlive))
  · rename_i shown
    split
    · exact .inl rfl
    rename_i sc hupdated
    split
    · exact .inl rfl
    rcases update_live hc hseen hlive with hsame | rfl
    · exact .inl (deliver_eq_self hsame)
    · exact .inr fun ref href => hsafe ref href (names_of_updated hupdated ref href)

theorem advance_touches (hc : Coherent slots.storageClass)
    (hsound : Sound slots.storageClass stage) (hseen : seen ∈ slots.storageClass.past)
    (hlive : slots.storageClass.live = some o) (hsafe : Safe o.value stage) :
    (advance slots stage delivery seen).1.storageClass = slots.storageClass ∨
      Entitled o.value stage := by
  cases stage with
  | removing binding existing desired =>
    rcases delete_live hc hsound.1 hlive with hsame | rfl
    · exact .inl (deliver_eq_self hsame)
    · exact .inr ⟨binding.value, rfl, hsound.2, nofun⟩
  | recreating binding existing desired => exact .inl (deliver_eq_self (create_live hlive))
  | ensuring binding checkpoint desired =>
    rcases ensure_touches hc hseen hlive hsafe with hsame | hunclaimed
    · exact .inl hsame
    · exact .inr ⟨binding.value, rfl, hunclaimed, nofun⟩
  | dropping binding => exact .inr ⟨binding.value, rfl, hsafe.unclaimed, fun _ _ => hsafe⟩
  | clearing checkpoint =>
    refine .inl ?_
    simp only [advance]
    split <;> rfl
  | _ => exact .inl rfl

end Calls

structure Inv (c : Cluster) : Prop where
  classes : ∀ name, Coherent (c.classes name)
  jobs : ∀ id job, c.jobs id = some job → Sound (c.classes job.className) job.stage

theorem inv_empty : Inv .empty where
  classes _ := coherent_empty
  jobs id job hjob := by cases hjob

theorem step_classWrite (slot : Slot StorageClass) (write : ClassWrite) :
    Step slot (write.apply slot) := by
  cases write with
  | create value => exact (stores_create value).step
  | update version value => exact (stores_update _ version value).step
  | delete => exact step_delete none

theorem Inv.moveClass (h : Inv c) {name : String} (hslot : Step (c.classes name) slot) :
    Inv { c with classes := Function.update c.classes name slot } := by
  refine ⟨fun other => ?_, fun id job hjob => ?_⟩
  · by_cases hother : other = name
    · subst hother
      simpa using hslot.coherent (h.classes other)
    · simpa [Function.update_of_ne hother] using h.classes other
  · have hsound := h.jobs id job hjob
    by_cases hother : job.className = name
    · subst hother
      simpa using hsound.mono hslot.past_subset
    · simpa [Function.update_of_ne hother] using hsound

theorem Inv.setJob (h : Inv c) {id : Nat} {job : Job}
    (hjob : Sound (c.classes job.className) job.stage) :
    Inv { c with jobs := Function.update c.jobs id (some job) } := by
  refine ⟨h.classes, fun other found hfound => ?_⟩
  by_cases hother : other = id
  · subst hother
    simp only [Function.update_self, Option.some.injEq] at hfound
    exact hfound ▸ hjob
  · simp only [Function.update_of_ne hother] at hfound
    exact h.jobs other found hfound

theorem step_inv (c : Cluster) (a : Action) (c' : Cluster) (h : Inv c)
    (hstep : step c a = some c') : Inv c' := by
  cases a with
  | reconcile id name binding cached observed =>
    simp only [step] at hstep
    obtain ⟨hcaches, rfl⟩ := of_guard hstep
    exact h.setJob (sound_reconcile observed hcaches.2)
  | advance id delivery seen =>
    simp only [step] at hstep
    split at hstep
    · cases hstep
    rename_i job hjob
    obtain ⟨-, rfl⟩ := of_guard hstep
    let slots : Slots := ⟨c.classes job.className, c.bindings job.bindingName⟩
    have hclass := @step_advance slots job.stage delivery seen
    have hsound : Sound (Function.update c.classes job.className
        (advance slots job.stage delivery seen).1.storageClass job.className)
          (advance slots job.stage delivery seen).2 := by
      rw [Function.update_self]
      exact sound_advance (h.jobs id job hjob)
    have hmoved := @Inv.setJob _ (h.moveClass hclass) id
      { job with stage := (advance slots job.stage delivery seen).2 } hsound
    exact ⟨hmoved.classes, hmoved.jobs⟩
  | writeClass name write =>
    cases hstep
    exact h.moveClass (step_classWrite _ write)
  | writeBinding name write =>
    cases hstep
    exact ⟨h.classes, h.jobs⟩

/-- The condition on a step of a reconcile: whatever class is there is safe for
it to touch. -/
def Guarded (c : Cluster) : Action → Prop
  | .advance id _ _ => ∀ job o, c.jobs id = some job →
      (c.classes job.className).live = some o → Safe o.value job.stage
  | _ => True

def Action.ofController : Action → Bool
  | .reconcile .. | .advance .. => true
  | .writeClass .. | .writeBinding .. => false

/-- However bindings and classes come and go and reconciles interleave and
crash: a step of the controller that meets the condition changes no class but
the one its binding selects, and that only while nothing else controls it; and
the deletion of a binding only deletes a class which the binding controls. -/
theorem foreign_classes_untouched {actions : List Action} {c c' : Cluster} {a : Action}
    (hrun : run step .empty actions = some c) (ha : a.ofController = true) (hsafe : Guarded c a)
    (hstep : step c a = some c') :
    ∀ name o, (c.classes name).live = some o → (c'.classes name).live = some o ∨
      ∃ id delivery seen job, a = .advance id delivery seen ∧ c.jobs id = some job ∧
        name = job.className ∧ Entitled o.value job.stage := by
  have hinv : Inv c := invariant_run step_inv inv_empty hrun
  cases a with
  | writeClass name write | writeBinding name write => cases ha
  | reconcile id name binding cached observed =>
    simp only [step] at hstep
    obtain ⟨-, rfl⟩ := of_guard hstep
    exact fun name o hlive => .inl hlive
  | advance id delivery seen =>
    simp only [step] at hstep
    split at hstep
    · cases hstep
    rename_i job hjob
    obtain ⟨hseen, rfl⟩ := of_guard hstep
    intro name o hlive
    by_cases hname : name = job.className
    · subst hname
      let slots : Slots := ⟨c.classes job.className, c.bindings job.bindingName⟩
      rcases @advance_touches slots job.stage delivery seen o (hinv.classes _)
        (hinv.jobs id job hjob) hseen hlive (hsafe job o hjob hlive) with hsame | hentitled
      · refine .inl ?_
        simp only [Function.update_self]
        rw [hsame]
        exact hlive
      · exact .inr ⟨id, delivery, seen, job, rfl, hjob, rfl, hentitled⟩
    · refine .inl ?_
      simp only [Function.update_of_ne hname]
      exact hlive

def sampleBinding (name : String) : Binding :=
  { name := name, uid := "uid-" ++ name, spec := { className := "fast" } }

def finalized (binding : Binding) : Binding := { binding with finalizer := true }

def deleted (binding : Binding) : Binding := { finalized binding with deleting := true }

def sampleClass (binding : Binding) : StorageClass :=
  { applyDesiredStorageClass {} (desiredStorageClassFor binding false none none) with
    owner := some (ownerRefOf binding) }

/-- The binding is created and gets its finalizer. -/
def admitted (id : Nat) (binding : Binding) : List Action :=
  [.writeBinding binding.name (.create binding),
    .reconcile id binding.name ⟨0, binding⟩ none {}, .advance id .answered none]

/-- The binding creates its class. -/
def provided (id : Nat) (binding : Binding) : List Action :=
  admitted id binding ++
    [.reconcile id binding.name ⟨1, finalized binding⟩ none {}, .advance id .answered none,
      .advance id .answered none]

/-- The binding is deleted, and its reconcile has found a class of its name. -/
def retired (id : Nat) (binding owner : Binding) : List Action :=
  [.writeBinding binding.name .delete,
    .reconcile id binding.name ⟨2, deleted binding⟩ (some ⟨0, sampleClass owner⟩) {}]

theorem foreign_classes_untouched_own : ∃ c c' o, run step .empty (provided 0 (sampleBinding "a") ++
        retired 0 (sampleBinding "a") (sampleBinding "a")) = some c ∧
      (c.classes "fast").live = some o ∧ step c (.advance 0 .answered none) = some c' ∧
      (c'.classes "fast").live = none ∧ Entitled o.value (.dropping ⟨2, deleted (sampleBinding "a")⟩) := by
  obtain ⟨c, hc, hlive, ⟨job, hjob, hname, hstage⟩, c', hc', hgone⟩ : ∃ c, run step .empty
      (provided 0 (sampleBinding "a") ++ retired 0 (sampleBinding "a") (sampleBinding "a")) = some c ∧
      (c.classes "fast").live = some ⟨0, sampleClass (sampleBinding "a")⟩ ∧
      (∃ job, c.jobs 0 = some job ∧ job.className = "fast" ∧
        job.stage = .dropping ⟨2, deleted (sampleBinding "a")⟩) ∧
      ∃ c', step c (.advance 0 .answered none) = some c' ∧ (c'.classes "fast").live = none := by
    decide +kernel
  have hsafe : Guarded c (.advance 0 .answered none) := by
    intro job' o hjob' ho
    obtain rfl := Option.mem_unique hjob hjob'
    rw [hname, hlive] at ho
    cases ho
    rw [hstage]
    exact ⟨_, rfl, rfl⟩
  rcases foreign_classes_untouched hc rfl hsafe hc' "fast" _ hlive with hkept | hentitled
  · rw [hgone] at hkept
    cases hkept
  · obtain ⟨id, delivery, seen, job', ha, hjob', -, hentitled⟩ := hentitled
    obtain ⟨rfl, rfl, rfl⟩ := Action.advance.inj ha
    obtain rfl := Option.mem_unique hjob hjob'
    exact ⟨c, c', _, hc, hlive, hc', hgone, hstage ▸ hentitled⟩

/-- A second binding of the same class name cannot get the class, but takes it
along when it is deleted. -/
theorem deletion_takes_foreign_class :
    ∃ c c' job, run step .empty (provided 0 (sampleBinding "a") ++ admitted 1 (sampleBinding "b") ++
        retired 1 (sampleBinding "b") (sampleBinding "a")) = some c ∧
      (c.classes "fast").live = some ⟨0, sampleClass (sampleBinding "a")⟩ ∧
      (sampleClass (sampleBinding "a")).owner = some (ownerRefOf (sampleBinding "a")) ∧
      c.jobs 1 = some job ∧ actor job.stage = some (deleted (sampleBinding "b")) ∧
      step c (.advance 1 .answered none) = some c' ∧ (c'.classes "fast").live = none := by
  obtain ⟨c, hc, hlive, ⟨job, hjob, hactor⟩, c', hc', hgone⟩ : ∃ c, run step .empty
      (provided 0 (sampleBinding "a") ++ admitted 1 (sampleBinding "b") ++
        retired 1 (sampleBinding "b") (sampleBinding "a")) = some c ∧
      (c.classes "fast").live = some ⟨0, sampleClass (sampleBinding "a")⟩ ∧
      (∃ job, c.jobs 1 = some job ∧ actor job.stage = some (deleted (sampleBinding "b"))) ∧
      ∃ c', step c (.advance 1 .answered none) = some c' ∧ (c'.classes "fast").live = none := by
    decide +kernel
  exact ⟨c, c', job, hc, hlive, rfl, hjob, hactor, hc', hgone⟩

end PillarCsi.StorageClassOwnership
