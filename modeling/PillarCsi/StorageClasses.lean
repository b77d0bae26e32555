import PillarCsi.ApiObjects

/-!
The StorageClass of a PillarStorageClass, and the reconcile that keeps it
(`internal/controller/pillarstorageclass_controller.go`), one API call at a time.
-/

namespace PillarCsi.StorageClasses

open ApiObjects

abbrev Topologies := List (List (String × List String))

inductive ReclaimPolicy where
  | delete
  | retain
  deriving DecidableEq, Repr

inductive VolumeBindingMode where
  | immediate
  | waitForFirstConsumer
  deriving DecidableEq, Repr

/-- A controlling owner reference.  `kind` is the kind with its API group. -/
structure OwnerRef where
  (kind name uid : String)
  deriving DecidableEq, Repr

structure StorageClass where
  owner : Option OwnerRef := none
  deleting : Bool := false
  labels : List (String × String) := []
  annotations : List (String × String) := []
  allowedTopologies : Topologies := []
  provisioner : String := ""
  parameters : List (String × String) := []
  mountOptions : List String := []
  reclaimPolicy : ReclaimPolicy := .delete
  volumeBindingMode : VolumeBindingMode := .immediate
  allowVolumeExpansion : Option Bool := none
  deriving DecidableEq, Repr

/-- The part of a StorageClass that a re-create keeps. -/
structure CarryOver where
  (labels annotations : List (String × String))
  allowedTopologies : Topologies
  deriving DecidableEq, Repr

variable (sc : StorageClass)

def carryOverFrom : CarryOver :=
  { labels := sc.labels, annotations := sc.annotations, allowedTopologies := sc.allowedTopologies }

def CarryOver.applyTo (carryOver : CarryOver) (sc : StorageClass) : StorageClass :=
  { sc with
    labels := carryOver.labels
    annotations := carryOver.annotations
    allowedTopologies := carryOver.allowedTopologies }

def blockCSIDriver : String := "pillar-csi.bhyoo.com"

def fileCSIDriver : String := "files.pillar-csi.bhyoo.com"

def isPillarCSIDriver (provisioner : String) : Bool :=
  provisioner = blockCSIDriver || provisioner = fileCSIDriver

structure BindingSpec where
  csiDriver : String := ""
  /-- `spec.storageClass`. -/
  className : String := ""
  reclaimPolicy : ReclaimPolicy := .delete
  volumeBindingMode : VolumeBindingMode := .immediate
  allowVolumeExpansion : Option Bool := none
  localAttach : Bool := false
  /-- `spec.filesystem`. -/
  fsType : String := ""
  mountOptions : Option (List String) := none
  deriving DecidableEq, Repr

def BindingSpec.effectiveCSIDriver (spec : BindingSpec) : String :=
  if spec.csiDriver = "" then blockCSIDriver else spec.csiDriver

/-- A PillarStorageClass. -/
structure Binding where
  (name uid : String)
  spec : BindingSpec := {}
  finalizer : Bool := false
  deleting : Bool := false
  carryOver : Option CarryOver := none
  statusClassName : String := ""
  deriving DecidableEq, Repr

variable (binding : Binding)

def storageClassNameFor : String :=
  if binding.spec.className ≠ "" then binding.spec.className else binding.name

structure DesiredStorageClass where
  provisioner : String
  parameters : List (String × String)
  mountOptions : List String
  reclaimPolicy : ReclaimPolicy
  volumeBindingMode : VolumeBindingMode
  allowVolumeExpansion : Option Bool
  allowedTopologies : Topologies
  manageAllowedTopologies : Bool
  deriving DecidableEq, Repr

/-- What a reconcile finds besides the binding and the class. -/
structure Observed where
  /-- Store, protocol and compatibility. -/
  ready : Bool := true
  protocolIsNFS : Bool := false
  /-- The node-stage Secret's name and namespace, if it can be told. -/
  stageSecret : Option (Option (String × String)) := some none
  localTopologies : Option Topologies := none
  /-- A claim or a volume still refers to the class. -/
  blocked : Bool := false
  deriving DecidableEq, Repr

def buildStorageClassParams (protocolIsNFS : Bool)
    (stageSecret : Option (String × String)) : List (String × String) :=
  let fsType :=
    if protocolIsNFS then "nfs"
    else if binding.spec.fsType = "" then "ext4" else binding.spec.fsType
  let params := [("pillar-csi.bhyoo.com/storage-class", binding.name),
    ("csi.storage.k8s.io/fstype", fsType)]
  match stageSecret with
  | none => params
  | some (name, space) =>
    params ++ [("csi.storage.k8s.io/node-stage-secret-name", name),
      ("csi.storage.k8s.io/node-stage-secret-namespace", space)]

def desiredStorageClassFor (protocolIsNFS : Bool)
    (stageSecret : Option (String × String)) (localTopologies : Option Topologies) :
    DesiredStorageClass :=
  let files : Bool := binding.spec.effectiveCSIDriver = fileCSIDriver
  let manage := files && binding.spec.localAttach && localTopologies.isSome
  { provisioner := binding.spec.effectiveCSIDriver
    parameters := buildStorageClassParams binding protocolIsNFS stageSecret
    mountOptions := binding.spec.mountOptions.getD []
    reclaimPolicy := binding.spec.reclaimPolicy
    volumeBindingMode := binding.spec.volumeBindingMode
    allowVolumeExpansion :=
      if files then some false else some (binding.spec.allowVolumeExpansion.getD true)
    allowedTopologies := if manage then localTopologies.getD [] else []
    manageAllowedTopologies := manage }

def desiredStorageClassOver (observed : Observed) : Option DesiredStorageClass :=
  match observed.stageSecret with
  | none => none
  | some secret =>
    some (desiredStorageClassFor binding observed.protocolIsNFS secret observed.localTopologies)

def applyDesiredStorageClass (desired : DesiredStorageClass) : StorageClass :=
  { sc with
    provisioner := desired.provisioner
    parameters := desired.parameters
    mountOptions := desired.mountOptions
    reclaimPolicy := desired.reclaimPolicy
    volumeBindingMode := desired.volumeBindingMode
    allowVolumeExpansion := desired.allowVolumeExpansion
    allowedTopologies :=
      if desired.manageAllowedTopologies then desired.allowedTopologies
      else sc.allowedTopologies }

def storageClassImmutableDrift (desired : DesiredStorageClass) : Bool :=
  sc.provisioner ≠ desired.provisioner || sc.parameters ≠ desired.parameters ||
    sc.mountOptions ≠ desired.mountOptions || sc.reclaimPolicy ≠ desired.reclaimPolicy ||
    sc.volumeBindingMode ≠ desired.volumeBindingMode ||
    (desired.manageAllowedTopologies && sc.allowedTopologies ≠ desired.allowedTopologies)

/-- The API server only lets metadata and the expansion switch change. -/
def validClassUpdate (old new : StorageClass) : Bool :=
  old.provisioner = new.provisioner && old.parameters = new.parameters &&
    old.mountOptions = new.mountOptions && old.reclaimPolicy = new.reclaimPolicy &&
    old.volumeBindingMode = new.volumeBindingMode &&
    old.allowedTopologies = new.allowedTopologies

def bindingKind : String := "pillar-csi.bhyoo.com/PillarStorageClass"

def ownerRefOf : OwnerRef :=
  { kind := bindingKind, name := binding.name, uid := binding.uid }

/-- The reference is compared by kind and name, not by UID. -/
def OwnerRef.names (ref : OwnerRef) (binding : Binding) : Bool :=
  ref.kind = bindingKind && ref.name = binding.name

def setControllerReference (sc : StorageClass) : Option StorageClass :=
  match sc.owner with
  | none => some { sc with owner := some (ownerRefOf binding) }
  | some ref =>
    if ref.names binding then some { sc with owner := some (ownerRefOf binding) } else none

/-- `updateStorageClassFields`.  `created`: the object is not stored yet. -/
def updateStorageClassFields (sc : StorageClass)
    (desired : DesiredStorageClass) (carryOver : Option CarryOver) (created : Bool) :
    Option StorageClass :=
  let sc :=
    match carryOver with
    | some kept => if created then kept.applyTo sc else sc
    | none => sc
  match setControllerReference binding sc with
  | none => none
  | some sc => some (applyDesiredStorageClass sc desired)

def replacement (existing : StorageClass) (desired : DesiredStorageClass) : StorageClass :=
  { applyDesiredStorageClass ((carryOverFrom existing).applyTo {}) desired with
    owner := some (ownerRefOf binding) }

/-- What the next API call of a reconcile is. -/
inductive Stage where
  | idle
  /-- The finalizer is added. -/
  | finalizing (binding : Object Binding)
  /-- `recreateStorageClass`: record, delete, create. -/
  | recording (binding : Object Binding) (existing : Object StorageClass)
      (desired : DesiredStorageClass)
  | removing (binding : Object Binding) (existing : Object StorageClass)
      (desired : DesiredStorageClass)
  | recreating (binding : Object Binding) (existing : Object StorageClass)
      (desired : DesiredStorageClass)
  /-- `carryOverCheckpoint` of an absent class. -/
  | checking (binding : Object Binding) (desired : DesiredStorageClass)
  /-- `CreateOrUpdate`. -/
  | ensuring (binding checkpoint : Object Binding) (desired : DesiredStorageClass)
  | clearing (checkpoint : Object Binding)
  /-- `reconcileDelete`: the class, then the finalizer. -/
  | dropping (binding : Object Binding)
  | releasing (binding : Object Binding)
  deriving DecidableEq, Repr

instance : LawfulBEq (Option (Object Binding)) := inferInstance

instance : LawfulBEq (Option (Object StorageClass)) := inferInstance

def recreateStorageClass (binding : Object Binding) (existing : Object StorageClass)
    (desired : DesiredStorageClass) : Stage :=
  if existing.value.owner.any (·.uid ≠ binding.value.uid) then .idle
  else if existing.value.deleting then .idle
  else .recording binding existing desired

/-- Up to its first API call.  `cached` is the class as the cache has it. -/
def reconcileStorageClass (binding : Object Binding) (cached : Option (Object StorageClass))
    (desired : DesiredStorageClass) : Stage :=
  match cached with
  | none => .checking binding desired
  | some existing =>
    if isPillarCSIDriver existing.value.provisioner ∧
        existing.value.provisioner ≠ desired.provisioner then .idle
    else if storageClassImmutableDrift existing.value desired then
      recreateStorageClass binding existing desired
    else .ensuring binding binding desired

def reconcileDelete (binding : Object Binding) (cached : Option (Object StorageClass))
    (observed : Observed) : Stage :=
  if binding.value.finalizer = false ∨ observed.blocked then .idle
  else if cached.isSome then .dropping binding else .releasing binding

def reconcile (binding : Object Binding) (cached : Option (Object StorageClass))
    (observed : Observed) : Stage :=
  if binding.value.deleting then reconcileDelete binding cached observed
  else if binding.value.finalizer = false then .finalizing binding
  else if observed.ready = false then .idle
  else
    match desiredStorageClassOver binding.value observed with
    | none => .idle
    | some desired => reconcileStorageClass binding cached desired

def classNameOf : String :=
  if binding.deleting ∧ binding.statusClassName ≠ "" then binding.statusClassName
  else storageClassNameFor binding

/-- The names a reconcile works on. -/
structure Slots where
  storageClass : Slot StorageClass
  binding : Slot Binding
  deriving DecidableEq, Repr

variable (slots : Slots)

def Slots.updateBinding (delivery : Delivery) (version : Nat) (value : Binding) :
    Slots × Option (Reply Binding) :=
  let call := deliver delivery slots.binding
    (slots.binding.update (fun _ _ => true) version value)
  ({ slots with binding := call.1 }, call.2)

def Slots.onClass (delivery : Delivery)
    (call : Slot StorageClass × Reply StorageClass) : Slots × Option (Reply StorageClass) :=
  let call := deliver delivery slots.storageClass call
  ({ slots with storageClass := call.1 }, call.2)

/-- `CreateOrUpdate` on the class the cache shows now. -/
def ensureStorageClass (binding checkpoint : Object Binding)
    (desired : DesiredStorageClass) (delivery : Delivery)
    (seen : Option (Object StorageClass)) : Slots × Bool :=
  match seen with
  | none =>
    match updateStorageClassFields binding.value {} desired checkpoint.value.carryOver true with
    | none => (slots, false)
    | some sc =>
      let (slots, reply) := slots.onClass delivery (slots.storageClass.create sc)
      (slots, match reply with | some (.stored _) => true | _ => false)
  | some o =>
    match updateStorageClassFields binding.value o.value desired checkpoint.value.carryOver
        false with
    | none => (slots, false)
    | some sc =>
      if sc = o.value then (slots, true)
      else
        let (slots, reply) := slots.onClass delivery
          (slots.storageClass.update validClassUpdate o.version sc)
        (slots, match reply with | some (.stored _) => true | _ => false)

/-- One API call of a reconcile, and where it goes on.  `seen` is what the cache
answers to `CreateOrUpdate`. -/
def advance (stage : Stage) (delivery : Delivery)
    (seen : Option (Object StorageClass)) : Slots × Stage :=
  match stage with
  | .idle => (slots, .idle)
  | .finalizing binding =>
    ((slots.updateBinding delivery binding.version
      { binding.value with finalizer := true }).1, .idle)
  | .recording binding existing desired =>
    let (slots, reply) := slots.updateBinding delivery binding.version
      { binding.value with carryOver := some (carryOverFrom existing.value) }
    (slots, match reply with
      | some (.stored recorded) => .removing recorded existing desired
      | _ => .idle)
  | .removing binding existing desired =>
    let (slots, reply) := slots.onClass delivery
      (slots.storageClass.delete (some existing.version))
    (slots, match reply with
      | some .deleted | some .notFound => .recreating binding existing desired
      | _ => .idle)
  | .recreating binding existing desired =>
    let (slots, reply) := slots.onClass delivery
      (slots.storageClass.create (replacement binding.value existing.value desired))
    (slots, match reply with
      | some (.stored _) => .clearing binding
      | _ => .idle)
  | .checking binding desired =>
    (slots, match delivery, slots.binding.live with
      | .answered, some current =>
        .ensuring binding (if current.version = binding.version then binding else current)
          desired
      | _, _ => .idle)
  | .ensuring binding checkpoint desired =>
    let (slots, ensured) := ensureStorageClass slots binding checkpoint desired delivery seen
    (slots, if ensured ∧ checkpoint.value.carryOver ≠ none then .clearing checkpoint else .idle)
  | .clearing checkpoint =>
    if checkpoint.value.carryOver = none then (slots, .idle)
    else
      ((slots.updateBinding delivery checkpoint.version
        { checkpoint.value with carryOver := none }).1, .idle)
  | .dropping binding =>
    let (slots, reply) := slots.onClass delivery (slots.storageClass.delete none)
    (slots, match reply with
      | some .deleted | some .notFound => .releasing binding
      | _ => .idle)
  | .releasing binding =>
    -- the last finalizer of a deleted object takes the object with it
    let call := deliver delivery slots.binding (slots.binding.delete (some binding.version))
    ({ slots with binding := call.1 }, .idle)

end PillarCsi.StorageClasses
