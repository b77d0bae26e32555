import PillarCsi.StorageClasses
import PillarCsi.TransitionSystem

/-!
The deletion guard of a PillarStore (`internal/controller/volume_references.go`,
`pillarstore_controller.go`), on every cluster that creating, editing and
deleting objects can lead to.
-/

namespace PillarCsi.StoreDeletion

open TransitionSystem
open StorageClasses (OwnerRef bindingKind isPillarCSIDriver)

inductive ZFSVolumeType where
  | zvol
  | dataset
  deriving DecidableEq, Repr

inductive BackendSpec where
  | zfs (volumeType : ZFSVolumeType) (pool : String)
  | lvm (volumeGroup : String)
  | directory (logicalPool hostRoot : String)
  deriving DecidableEq, Repr

def BackendSpec.kind : BackendSpec → String
  | .zfs .dataset _ => "zfs-dataset"
  | .zfs .zvol _ => "zfs-zvol"
  | .lvm _ => "lvm-lv"
  | .directory _ _ => "directory"

def BackendSpec.poolName : BackendSpec → String
  | .zfs _ pool => pool
  | .lvm volumeGroup => volumeGroup
  | .directory logicalPool _ => logicalPool

structure Store where
  (name uid agentRef : String)
  backend : BackendSpec
  deriving DecidableEq, Repr

/-- The fields that the webhook keeps: the backend member and its pool, but not
the volume type of a ZFS store. -/
def sameIdentity : BackendSpec → BackendSpec → Bool
  | .zfs _ pool, .zfs _ pool' => pool = pool'
  | .lvm volumeGroup, .lvm volumeGroup' => volumeGroup = volumeGroup'
  | .directory logicalPool hostRoot, .directory logicalPool' hostRoot' =>
    logicalPool = logicalPool' && hostRoot = hostRoot'
  | _, _ => false

def validStoreUpdate (old new : Store) : Bool :=
  old.agentRef = new.agentRef && sameIdentity old.backend new.backend

/-- A PillarStorageClass. -/
structure Binding where
  (name storeRef className : String)
  statusClassName : String := ""
  deriving DecidableEq, Repr

/-- `ValidateUpdate` of a PillarStorageClass. -/
def validBindingUpdate (old new : Binding) : Bool :=
  old.storeRef = new.storeRef && old.className = new.className

structure StorageClass where
  name : String
  owner : Option OwnerRef := none
  /-- The parameters `storage-class` of a generated class and `store-ref` of a
  hand-written one. -/
  binding : String := ""
  storeRef : String := ""
  deriving DecidableEq, Repr

/-- A PersistentVolumeClaim. -/
structure Claim where
  (space name uid : String)
  storageClassName : Option String
  deriving DecidableEq, Repr

structure ClaimRef where
  (space name uid : String)
  deriving DecidableEq, Repr

inductive ProtocolID where
  | nvmeofTCP
  | iscsi
  | nfs
  deriving DecidableEq, Repr

def ProtocolID.text : ProtocolID → String
  | .nvmeofTCP => "nvmeof-tcp"
  | .iscsi => "iscsi"
  | .nfs => "nfs"

/-- A PillarVolumeState.  `origin` is the UID of the store it was provisioned
through, which the object does not say. -/
structure VolumeState where
  (name volumeID agentVolumeID agentRef backendType protocolType : String)
  claimRef : Option ClaimRef
  origin : Option String
  deriving DecidableEq, Repr

structure CSISource where
  (driver volumeHandle : String)
  deriving DecidableEq, Repr

structure PersistentVolume where
  name : String
  csi : Option CSISource
  storageClassName : String
  origin : Option String
  deriving DecidableEq, Repr

structure Cluster where
  stores : List Store := []
  bindings : List Binding := []
  classes : List StorageClass := []
  claims : List Claim := []
  volumeStates : List VolumeState := []
  volumes : List PersistentVolume := []
  /-- What `CreateVolume` has answered with, as it was recorded. -/
  created : List VolumeState := []
  /-- The store UIDs given out so far. -/
  uids : List String := []
  deriving DecidableEq, Repr

def cutSlash : List Char → Option (List Char × List Char)
  | [] => none
  | c :: rest =>
    if c = '/' then some ([], rest)
    else (cutSlash rest).map fun (front, back) => (c :: front, back)

def splitN : Nat → List Char → List (List Char)
  | 0, _ => []
  | 1, text => [text]
  | n + 2, text =>
    match cutSlash text with
    | none => [text]
    | some (front, back) => front :: splitN (n + 1) back

structure VolumeRef where
  (agent protocol backend pool : String)
  deriving DecidableEq, Repr

def poolOfAgentVolumeID (agentVolumeID : String) : String :=
  match cutSlash agentVolumeID.toList with
  | none => ""
  | some (pool, _) => String.ofList pool

def volumeRefFromVolumeState (pvs : VolumeState) : VolumeRef :=
  { agent := pvs.agentRef
    protocol := pvs.protocolType
    backend := pvs.backendType
    pool := poolOfAgentVolumeID pvs.agentVolumeID }

def volumeRefFromHandle (volumeHandle : String) : Option VolumeRef :=
  match splitN 4 volumeHandle.toList with
  | [agent, protocol, backend, agentVolumeID] =>
    if agent = [] then none
    else
      some
        { agent := String.ofList agent
          protocol := String.ofList protocol
          backend := String.ofList backend
          pool := poolOfAgentVolumeID (String.ofList agentVolumeID) }
  | _ => none

def volumeRefFromPV (pv : PersistentVolume) : Option VolumeRef :=
  match pv.csi with
  | none => none
  | some csi => if isPillarCSIDriver csi.driver then volumeRefFromHandle csi.volumeHandle else none

def VolumeRef.inStore (ref : VolumeRef) (store : Store) : Bool :=
  ref.agent = store.agentRef && ref.backend = store.backend.kind &&
    ref.pool = store.backend.poolName

/-- The stores that class names are attributed to so far. -/
structure Attribution where
  stores : String → Option String
  ambiguous : String → Bool

def Attribution.empty : Attribution := { stores := fun _ => none, ambiguous := fun _ => false }

def Attribution.add (m : Attribution) (scName storeName : String) : Attribution :=
  if scName = "" || m.ambiguous scName then m
  else
    match m.stores scName with
    | none => { m with stores := Function.update m.stores scName (some storeName) }
    | some owner =>
      if owner = storeName then m
      else
        { stores := Function.update m.stores scName none
          ambiguous := Function.update m.ambiguous scName true }

variable (bindings : List Binding)

def bindingStore (name : String) : Option String :=
  (bindings.find? (·.name = name)).map (·.storeRef)

def addClass (m : Attribution) (sc : StorageClass) : Attribution :=
  match sc.owner with
  | none => m
  | some owner =>
    if owner.kind = bindingKind then
      match bindingStore bindings owner.name with
      | none => m
      | some store => m.add sc.name store
    else m

def addRecorded (classes : List StorageClass) (m : Attribution) (binding : Binding) : Attribution :=
  if binding.statusClassName = "" || classes.any (·.name = binding.statusClassName) then m
  else m.add binding.statusClassName binding.storeRef

def storageClassStores (classes : List StorageClass) : Attribution :=
  bindings.foldl (addRecorded classes) (classes.foldl (addClass bindings) .empty)

def volumeBlocksStore (scName : String) (ref : VolumeRef) (store : Store)
    (scStores : Attribution) : Bool :=
  match scStores.stores scName with
  | some owner => owner = store.name
  | none => ref.inStore store

def pvcOfVolumeState (claims : List Claim) (pvs : VolumeState) : Option Claim :=
  match pvs.claimRef with
  | none => none
  | some ref =>
    if ref.space = "" || ref.name = "" then none
    else
      match claims.find? (fun claim => claim.space = ref.space && claim.name = ref.name) with
      | none => none
      | some claim => if claim.uid = ref.uid then some claim else none

variable (c : Cluster)

def classOfVolumeState (pvs : VolumeState) : String :=
  match c.volumes.find? (·.name = pvs.name) with
  | some pv => pv.storageClassName
  | none =>
    match pvcOfVolumeState c.claims pvs with
    | some claim => claim.storageClassName.getD ""
    | none => ""

def maxListedBlockers : Nat := 10

def addBlockers (kind : String) (names : List String) (blockers : List String) : List String :=
  if names = [] then blockers
  else
    let listed :=
      if names.length > maxListedBlockers then
        String.intercalate ", " (names.take maxListedBlockers) ++ ", ... and " ++
          toString (names.length - maxListedBlockers) ++ " more"
      else String.intercalate ", " names
    blockers ++ [kind ++ " [" ++ listed ++ "]"]

variable (store : Store)

def pvBlocks (pv : PersistentVolume) : Bool :=
  match volumeRefFromPV pv with
  | none => false
  | some ref =>
    volumeBlocksStore pv.storageClassName ref store (storageClassStores c.bindings c.classes)

def volumeStateBlocks (pvs : VolumeState) : Bool :=
  volumeBlocksStore (classOfVolumeState c pvs) (volumeRefFromVolumeState pvs) store
    (storageClassStores c.bindings c.classes)

def storeDeletionBlockers : List String :=
  let referencing := (c.bindings.filter (·.storeRef = store.name)).map (·.name)
  let pvs := (c.volumes.filter (pvBlocks c store)).map (·.name)
  let volumeStates := (c.volumeStates.filter (volumeStateBlocks c store)).map (·.name)
  addBlockers "PillarVolumeState(s)" volumeStates
    (addBlockers "PersistentVolume(s)" pvs (addBlockers "PillarStorageClass(s)" referencing []))

inductive Action where
  | createStore (store : Store)
  | editStore (store : Store)
  | deleteStore (name : String)
  /-- Created, or edited in its spec or its status. -/
  | writeBinding (binding : Binding)
  | deleteBinding (name : String)
  | writeClass (sc : StorageClass)
  | deleteClass (name : String)
  | createClaim (claim : Claim)
  | deleteClaim (space name : String)
  /-- `CreateVolume` for a class as the provisioner has read it. -/
  | provision (name : String) (sc : StorageClass) (protocol : ProtocolID) (leaf : String)
      (claimRef : Option ClaimRef)
  | createPV (pvs : VolumeState) (driver storageClassName : String)
  | createRecord (pvs : VolumeState)
  | createStaticPV (pv : PersistentVolume)
  /-- Everything but the source of a PersistentVolume can change. -/
  | editPV (name storageClassName : String)
  | deletePV (name : String)
  | deleteVolumeState (name : String)
  deriving DecidableEq, Repr

def resolveStore (sc : StorageClass) : Option Store :=
  let storeName :=
    if sc.binding ≠ "" then (bindingStore c.bindings sc.binding).getD "" else sc.storeRef
  c.stores.find? (·.name = storeName)

def agentVolumeID (leaf : String) : String := store.backend.poolName ++ "/" ++ leaf

def volumeID (protocol : ProtocolID) (leaf : String) : String :=
  store.agentRef ++ "/" ++ protocol.text ++ "/" ++ store.backend.kind ++ "/" ++
    agentVolumeID store leaf

def provisioned (name : String) (protocol : ProtocolID) (leaf : String)
    (claimRef : Option ClaimRef) : VolumeState :=
  { name := name
    volumeID := volumeID store protocol leaf
    agentVolumeID := agentVolumeID store leaf
    agentRef := store.agentRef
    backendType := store.backend.kind
    protocolType := protocol.text
    claimRef := claimRef
    origin := some store.uid }

def editedStore (new old : Store) : Store :=
  if old.name = new.name ∧ validStoreUpdate old new then { new with uid := old.uid } else old

def step : Action → Option Cluster
  | .createStore store =>
    -- the schema asks for an agent
    if c.stores.all (·.name ≠ store.name) ∧ store.uid ∉ c.uids ∧ store.agentRef ≠ "" then
      some { c with stores := store :: c.stores, uids := store.uid :: c.uids }
    else none
  | .editStore store => some { c with stores := c.stores.map (editedStore store) }
  | .deleteStore name => some { c with stores := c.stores.filter (·.name ≠ name) }
  | .writeBinding binding =>
    if c.bindings.all (fun old => old.name ≠ binding.name || validBindingUpdate old binding) then
      some { c with bindings := binding :: c.bindings.filter (·.name ≠ binding.name) }
    else none
  | .deleteBinding name => some { c with bindings := c.bindings.filter (·.name ≠ name) }
  | .writeClass sc => some { c with classes := sc :: c.classes.filter (·.name ≠ sc.name) }
  | .deleteClass name => some { c with classes := c.classes.filter (·.name ≠ name) }
  | .createClaim claim =>
    if c.claims.all (fun old => old.space ≠ claim.space || old.name ≠ claim.name) then
      some { c with claims := claim :: c.claims }
    else none
  | .deleteClaim space name =>
    some { c with claims := c.claims.filter fun claim => claim.space ≠ space || claim.name ≠ name }
  | .provision name sc protocol leaf claimRef =>
    match resolveStore c sc with
    | none => none
    | some store =>
      if c.volumeStates.all (·.name ≠ name) then
        some { c with
          volumeStates := provisioned store name protocol leaf claimRef :: c.volumeStates
          created := provisioned store name protocol leaf claimRef :: c.created }
      else none
  | .createPV pvs driver storageClassName =>
    -- the record may be gone by then
    if pvs ∈ c.created ∧ c.volumes.all (·.name ≠ pvs.name) ∧ isPillarCSIDriver driver then
      some { c with
        volumes :=
          { name := pvs.name, csi := some ⟨driver, pvs.volumeID⟩
            storageClassName := storageClassName, origin := pvs.origin } :: c.volumes }
    else none
  | .createRecord pvs =>
    if c.volumeStates.all (·.name ≠ pvs.name) then
      some { c with volumeStates := { pvs with origin := none } :: c.volumeStates }
    else none
  | .createStaticPV pv =>
    if c.volumes.all (·.name ≠ pv.name) then
      some { c with volumes := { pv with origin := none } :: c.volumes }
    else none
  | .editPV name storageClassName =>
    some { c with
      volumes := c.volumes.map fun pv =>
        if pv.name = name then { pv with storageClassName := storageClassName } else pv }
  | .deletePV name => some { c with volumes := c.volumes.filter (·.name ≠ name) }
  | .deleteVolumeState name => some { c with volumeStates := c.volumeStates.filter (·.name ≠ name) }

variable {front : List Char} {m : Attribution} {scName : String} {a b : Store} {c' : Cluster}
  {pvs : VolumeState}

theorem cutSlash_append (back : List Char) (h : '/' ∉ front) :
    cutSlash (front ++ '/' :: back) = some (front, back) := by
  induction front with
  | nil => rfl
  | cons c rest ih =>
    have hc : c ≠ '/' := fun heq => h (heq ▸ (.head _))
    simp [cutSlash, hc, ih fun hrest => h (.tail _ hrest)]

theorem splitN_append (n : Nat) (back : List Char) (h : '/' ∉ front) :
    splitN (n + 2) (front ++ '/' :: back) = front :: splitN (n + 1) back := by
  simp [splitN, cutSlash_append back h]

theorem slash_notMem_text (protocol : ProtocolID) : '/' ∉ protocol.text.toList := by
  cases protocol <;> decide

theorem slash_notMem_kind (backend : BackendSpec) : '/' ∉ backend.kind.toList := by
  have hkinds : ∀ kind ∈ ["zfs-dataset", "zfs-zvol", "lvm-lv", "directory"], '/' ∉ kind.toList := by
    decide
  refine hkinds _ ?_
  cases backend with
  | zfs volumeType pool => cases volumeType <;> simp [BackendSpec.kind]
  | lvm volumeGroup | directory logicalPool hostRoot => simp [BackendSpec.kind]

/-- A store whose names can be told apart in a volume handle. -/
structure Plain (store : Store) : Prop where
  agent_ne : store.agentRef ≠ ""
  agent : '/' ∉ store.agentRef.toList
  pool : '/' ∉ store.backend.poolName.toList

variable {store : Store}

theorem poolOf_agentVolumeID (h : Plain store) (leaf : String) :
    poolOfAgentVolumeID (agentVolumeID store leaf) = store.backend.poolName := by
  have htext : (agentVolumeID store leaf).toList =
      store.backend.poolName.toList ++ '/' :: leaf.toList := by
    simp [agentVolumeID, String.toList_append]
  simp [poolOfAgentVolumeID, htext, cutSlash_append _ h.pool]

theorem volumeRef_of_volumeID (h : Plain store) (protocol : ProtocolID)
    (leaf : String) : volumeRefFromHandle (volumeID store protocol leaf) = some
        { agent := store.agentRef
          protocol := protocol.text
          backend := store.backend.kind
          pool := store.backend.poolName } := by
  have hsplit : splitN 4 (volumeID store protocol leaf).toList =
      [store.agentRef.toList, protocol.text.toList, store.backend.kind.toList,
        (agentVolumeID store leaf).toList] := by
    have htext : (volumeID store protocol leaf).toList =
        store.agentRef.toList ++ '/' :: (protocol.text.toList ++ '/' ::
          (store.backend.kind.toList ++ '/' :: (agentVolumeID store leaf).toList)) := by
      simp [volumeID, String.toList_append]
    rw [htext, splitN_append 2 _ h.agent, splitN_append 1 _ (slash_notMem_text protocol),
      splitN_append 0 _ (slash_notMem_kind _)]
    rfl
  have hagent : store.agentRef.toList ≠ [] := by simpa using h.agent_ne
  simp [volumeRefFromHandle, hsplit, hagent, poolOf_agentVolumeID h]

def Claims (binding : Binding) (scName : String) : Prop :=
  scName ≠ "" ∧ (binding.statusClassName = scName ∨ ∃ sc ∈ c.classes, sc.name = scName ∧
    ∃ owner, sc.owner = some owner ∧ owner.kind = bindingKind ∧ owner.name = binding.name)

def Justified (m : Attribution) : Prop :=
  ∀ scName store, m.stores scName = some store →
    ∃ binding ∈ c.bindings, Claims c binding scName ∧ binding.storeRef = store

variable {c : Cluster}

theorem Justified.add (h : Justified c m) {store : String}
    (hclaim : scName ≠ "" → ∃ binding ∈ c.bindings, Claims c binding scName ∧
      binding.storeRef = store) : Justified c (m.add scName store) := by
  unfold Attribution.add
  split
  · exact h
  rename_i hname
  have hne : scName ≠ "" := fun heq => hname (by simp [heq])
  split
  · intro other owner howner
    by_cases hother : other = scName
    · subst hother
      simp only [Function.update_self] at howner
      cases howner
      exact hclaim hne
    · simp only [Function.update_of_ne hother] at howner
      exact h other owner howner
  · split
    · exact h
    · intro other owner howner
      by_cases hother : other = scName
      · subst hother
        simp only [Function.update_self] at howner
        cases howner
      · simp only [Function.update_of_ne hother] at howner
        exact h other owner howner

theorem Justified.addClass (h : Justified c m) {sc : StorageClass}
    (hsc : sc ∈ c.classes) : Justified c (addClass c.bindings m sc) := by
  unfold StoreDeletion.addClass
  split
  · exact h
  rename_i owner howner
  split
  · rename_i hkind
    split
    · exact h
    rename_i store hstore
    refine h.add fun hne => ?_
    obtain ⟨binding, hfind, rfl⟩ := Option.map_eq_some_iff.mp hstore
    have hname : binding.name = owner.name := by simpa using List.find?_some hfind
    exact ⟨binding, List.mem_of_find?_eq_some hfind,
      ⟨hne, .inr ⟨sc, hsc, rfl, owner, howner, hkind, hname.symm⟩⟩, rfl⟩
  · exact h

theorem Justified.addRecorded (h : Justified c m)
    {binding : Binding} (hbinding : binding ∈ c.bindings) :
    Justified c (addRecorded c.classes m binding) := by
  unfold StoreDeletion.addRecorded
  split
  · exact h
  · exact h.add fun hne => ⟨binding, hbinding, ⟨hne, .inl rfl⟩, rfl⟩

theorem justified_foldl {α : Type} {f : Attribution → α → Attribution}
    {items : List α} (hf : ∀ m, ∀ item ∈ items, Justified c m → Justified c (f m item))
    (hm : Justified c m) : Justified c (items.foldl f m) := by
  induction items generalizing m with
  | nil => exact hm
  | cons item rest ih =>
    exact ih (fun m other hother => hf m other (.tail _ hother))
      (hf m item (.head _) hm)

theorem justified_storageClassStores (c : Cluster) :
    Justified c (storageClassStores c.bindings c.classes) := by
  have hempty : Justified c .empty := fun _ _ hnone => nomatch hnone
  exact justified_foldl (fun m binding hbinding hm => hm.addRecorded hbinding)
    (justified_foldl (fun m sc hsc hm => hm.addClass hsc) hempty)

def SamePlace (home store : Store) : Prop :=
  home.agentRef = store.agentRef ∧ home.backend.kind = store.backend.kind ∧
    home.backend.poolName = store.backend.poolName

structure Placed (c : Cluster) (uid : String) (home : Store) : Prop where
  plain : Plain home
  used : uid ∈ c.uids
  place : ∀ store ∈ c.stores, store.uid = uid → SamePlace home store

structure Inv (c : Cluster) : Prop where
  used : ∀ store ∈ c.stores, store.uid ∈ c.uids
  unique : ∀ store ∈ c.stores, ∀ other ∈ c.stores, store.uid = other.uid → store = other
  plain : ∀ store ∈ c.stores, Plain store
  created : ∀ pvs ∈ c.created, ∀ uid, pvs.origin = some uid →
    ∃ home name protocol leaf claimRef, Placed c uid home ∧
      pvs = { provisioned home name protocol leaf claimRef with origin := some uid }
  volumeStates : ∀ pvs ∈ c.volumeStates, pvs.origin = none ∨ pvs ∈ c.created
  volumes : ∀ pv ∈ c.volumes, pv.origin = none ∨
    ∃ pvs ∈ c.created, pv.origin = pvs.origin ∧
      ∃ driver, isPillarCSIDriver driver = true ∧ pv.csi = some ⟨driver, pvs.volumeID⟩

/-- A store's names hold no slash, and an edit does not turn zvols into datasets
or back. -/
def Orderly (c : Cluster) : Action → Prop
  | .createStore store => '/' ∉ store.agentRef.toList ∧ '/' ∉ store.backend.poolName.toList
  | .editStore store => ∀ old ∈ c.stores, (editedStore store old).backend.kind = old.backend.kind
  | _ => True

instance (c : Cluster) (a : Action) : Decidable (Orderly c a) := by
  cases a <;> unfold Orderly <;> infer_instance

theorem poolName_of_sameIdentity {old new : BackendSpec} (h : sameIdentity old new = true) :
    old.poolName = new.poolName := by
  cases old <;> cases new <;> simp [sameIdentity] at h <;> simp [BackendSpec.poolName, h]

theorem editedStore_uid (new old : Store) : (editedStore new old).uid = old.uid := by
  unfold editedStore
  split <;> rfl

theorem samePlace_editedStore {new old : Store}
    (h : (editedStore new old).backend.kind = old.backend.kind) :
    SamePlace old (editedStore new old) := by
  refine ⟨?_, h.symm, ?_⟩
  · unfold editedStore
    split
    · rename_i hedit
      simp only [validStoreUpdate, Bool.and_eq_true, decide_eq_true_eq] at hedit
      exact hedit.2.1
    · rfl
  · unfold editedStore
    split
    · rename_i hedit
      simp only [validStoreUpdate, Bool.and_eq_true, decide_eq_true_eq] at hedit
      exact poolName_of_sameIdentity hedit.2.2
    · rfl

theorem SamePlace.trans {d : Store} (h : SamePlace a b) (h' : SamePlace b d) : SamePlace a d :=
  ⟨h.1.trans h'.1, h.2.1.trans h'.2.1, h.2.2.trans h'.2.2⟩

theorem Plain.of_samePlace (h : Plain a) (hab : SamePlace a b) : Plain b :=
  ⟨hab.1 ▸ h.agent_ne, hab.1 ▸ h.agent, hab.2.2 ▸ h.pool⟩

/-- How stores and UIDs may change under what was provisioned. -/
structure Keeps (c c' : Cluster) : Prop where
  uids : c.uids ⊆ c'.uids
  stores : ∀ store' ∈ c'.stores, store'.uid ∉ c.uids ∨
    ∃ store ∈ c.stores, store.uid = store'.uid ∧ SamePlace store store'

theorem Keeps.placed (h : Keeps c c') {uid : String} {home : Store}
    (hplaced : Placed c uid home) : Placed c' uid home := by
  refine ⟨hplaced.plain, h.uids hplaced.used, fun store' hstore' huid => ?_⟩
  rcases h.stores store' hstore' with hnew | ⟨store, hstore, hsame, hplace⟩
  · exact absurd (huid ▸ hplaced.used) hnew
  · exact (hplaced.place store hstore (hsame.trans huid)).trans hplace

theorem Keeps.of_stores (huids : c'.uids = c.uids)
    (hstores : c'.stores ⊆ c.stores) : Keeps c c' where
  uids := huids ▸ List.Subset.refl _
  stores store' hstore' := .inr ⟨store', hstores hstore', rfl, rfl, rfl, rfl⟩

theorem Inv.keep (h : Inv c) (hkeeps : Keeps c c') (hcreated : c'.created = c.created)
    (hused : ∀ store ∈ c'.stores, store.uid ∈ c'.uids)
    (hunique : ∀ store ∈ c'.stores, ∀ other ∈ c'.stores, store.uid = other.uid → store = other)
    (hplain : ∀ store ∈ c'.stores, Plain store)
    (hstates : ∀ pvs ∈ c'.volumeStates, pvs.origin = none ∨ pvs ∈ c.volumeStates)
    (hvolumes : ∀ pv ∈ c'.volumes, pv.origin = none ∨
      ∃ old ∈ c.volumes, old.origin = pv.origin ∧ old.csi = pv.csi) : Inv c' := by
  refine ⟨hused, hunique, hplain, ?_, ?_, ?_⟩ <;> rw [hcreated]
  · intro pvs hpvs uid huid
    obtain ⟨home, name, protocol, leaf, claimRef, hplaced, heq⟩ := h.created pvs hpvs uid huid
    exact ⟨home, name, protocol, leaf, claimRef, hkeeps.placed hplaced, heq⟩
  · exact fun pvs hpvs => (hstates pvs hpvs).elim .inl (h.volumeStates pvs)
  · intro pv hpv
    rcases hvolumes pv hpv with hnone | ⟨old, hold, horigin, hcsi⟩
    · exact .inl hnone
    · rw [← horigin, ← hcsi]
      exact h.volumes old hold

theorem Inv.others (h : Inv c) (hstores : c'.stores = c.stores) (huids : c'.uids = c.uids)
    (hcreated : c'.created = c.created)
    (hstates : ∀ pvs ∈ c'.volumeStates, pvs.origin = none ∨ pvs ∈ c.volumeStates)
    (hvolumes : ∀ pv ∈ c'.volumes, pv.origin = none ∨
      ∃ old ∈ c.volumes, old.origin = pv.origin ∧ old.csi = pv.csi) : Inv c' := by
  refine h.keep (.of_stores huids (hstores ▸ List.Subset.refl _)) hcreated ?_ ?_ ?_ hstates hvolumes
  · rw [hstores, huids]
    exact h.used
  · rw [hstores]
    exact h.unique
  · rw [hstores]
    exact h.plain

theorem inv_empty : Inv {} := by
  constructor <;> intro x hx <;> cases hx

theorem inv_createStore (h : Inv c) (huid : store.uid ∉ c.uids) (hplain : Plain store) :
    Inv { c with stores := store :: c.stores, uids := store.uid :: c.uids } := by
  have hold : ∀ other ∈ c.stores, other.uid ≠ store.uid := fun other hother heq =>
    huid (heq ▸ h.used other hother)
  refine h.keep ⟨List.subset_cons_self _ _, fun store' hstore' => ?_⟩ rfl (fun other hother => ?_)
    (fun a ha b hb hab => ?_) (fun other hother => ?_) (fun pvs hpvs => .inr hpvs)
    (fun pv hpv => .inr ⟨pv, hpv, rfl, rfl⟩)
  · rcases List.mem_cons.mp hstore' with rfl | hstore'
    · exact .inl huid
    · exact .inr ⟨store', hstore', rfl, rfl, rfl, rfl⟩
  · rcases List.mem_cons.mp hother with rfl | hother
    · exact .head _
    · exact .tail _ (h.used other hother)
  · rcases List.mem_cons.mp ha with hnew | ha' <;> rcases List.mem_cons.mp hb with hnew' | hb'
    · exact hnew.trans hnew'.symm
    · exact absurd (hnew ▸ hab.symm) (hold b hb')
    · exact absurd (hnew' ▸ hab) (hold a ha')
    · exact h.unique a ha' b hb' hab
  · rcases List.mem_cons.mp hother with rfl | hother
    · exact hplain
    · exact h.plain other hother

theorem inv_editStore (h : Inv c)
    (hkind : ∀ old ∈ c.stores, (editedStore store old).backend.kind = old.backend.kind) :
    Inv { c with stores := c.stores.map (editedStore store) } := by
  refine h.keep ⟨List.Subset.refl _, fun store' hstore' => ?_⟩ rfl (fun store' hstore' => ?_)
    (fun a ha b hb hab => ?_) (fun store' hstore' => ?_) (fun pvs hpvs => .inr hpvs)
    (fun pv hpv => .inr ⟨pv, hpv, rfl, rfl⟩)
  · obtain ⟨old, hold, rfl⟩ := List.mem_map.mp hstore'
    exact .inr ⟨old, hold, (editedStore_uid store old).symm, samePlace_editedStore (hkind old hold)⟩
  · obtain ⟨old, hold, rfl⟩ := List.mem_map.mp hstore'
    rw [editedStore_uid]
    exact h.used old hold
  · obtain ⟨old, hold, rfl⟩ := List.mem_map.mp ha
    obtain ⟨old', hold', rfl⟩ := List.mem_map.mp hb
    rw [editedStore_uid, editedStore_uid] at hab
    rw [h.unique old hold old' hold' hab]
  · obtain ⟨old, hold, rfl⟩ := List.mem_map.mp hstore'
    exact (h.plain old hold).of_samePlace (samePlace_editedStore (hkind old hold))

theorem inv_deleteStore (h : Inv c) (name : String) :
    Inv { c with stores := c.stores.filter (·.name ≠ name) } := by
  have hsubset : c.stores.filter (·.name ≠ name) ⊆ c.stores := List.filter_subset_self _
  exact h.keep (.of_stores rfl hsubset) rfl (fun store hstore => h.used store (hsubset hstore))
    (fun a ha b hb => h.unique a (hsubset ha) b (hsubset hb))
    (fun store hstore => h.plain store (hsubset hstore)) (fun pvs hpvs => .inr hpvs)
    (fun pv hpv => .inr ⟨pv, hpv, rfl, rfl⟩)

theorem inv_provision (h : Inv c) (hstore : store ∈ c.stores)
    (name : String) (protocol : ProtocolID) (leaf : String) (claimRef : Option ClaimRef) :
    Inv { c with
      volumeStates := provisioned store name protocol leaf claimRef :: c.volumeStates
      created := provisioned store name protocol leaf claimRef :: c.created } := by
  have hplaced : Placed c store.uid store := by
    refine ⟨h.plain store hstore, h.used store hstore, fun other hother heq => ?_⟩
    rw [h.unique other hother store hstore heq]
    exact ⟨rfl, rfl, rfl⟩
  refine ⟨h.used, h.unique, h.plain, fun pvs hpvs uid huid => ?_, fun pvs hpvs => ?_,
    fun pv hpv => ?_⟩
  · rcases List.mem_cons.mp hpvs with rfl | hpvs
    · cases huid
      exact ⟨store, name, protocol, leaf, claimRef, ⟨hplaced.plain, hplaced.used, hplaced.place⟩, rfl⟩
    · obtain ⟨home, name, protocol, leaf, claimRef, hold, heq⟩ := h.created pvs hpvs uid huid
      exact ⟨home, name, protocol, leaf, claimRef, ⟨hold.plain, hold.used, hold.place⟩, heq⟩
  · rcases List.mem_cons.mp hpvs with rfl | hpvs
    · exact .inr (.head _)
    · exact (h.volumeStates pvs hpvs).imp_right (.tail _)
  · refine (h.volumes pv hpv).imp_right ?_
    rintro ⟨pvs, hpvs, hrest⟩
    exact ⟨pvs, .tail _ hpvs, hrest⟩

theorem inv_createPV (h : Inv c) (hpvs : pvs ∈ c.created)
    {driver : String} (hdriver : isPillarCSIDriver driver = true) (className : String) :
    Inv { c with
      volumes :=
        { name := pvs.name, csi := some ⟨driver, pvs.volumeID⟩
          storageClassName := className, origin := pvs.origin } :: c.volumes } := by
  refine ⟨h.used, h.unique, h.plain, fun pvs hpvs uid huid => ?_, h.volumeStates, fun pv hpv => ?_⟩
  · obtain ⟨home, name, protocol, leaf, claimRef, hold, heq⟩ := h.created pvs hpvs uid huid
    exact ⟨home, name, protocol, leaf, claimRef, ⟨hold.plain, hold.used, hold.place⟩, heq⟩
  · rcases List.mem_cons.mp hpv with rfl | hpv
    · exact .inr ⟨pvs, hpvs, rfl, driver, hdriver, rfl⟩
    · exact h.volumes pv hpv

theorem step_inv (c : Cluster) (a : Action) (c' : Cluster) (h : Inv c) (horderly : Orderly c a)
    (hstep : step c a = some c') : Inv c' := by
  have hsame : ∀ {volumes : List PersistentVolume}, volumes ⊆ c.volumes →
      ∀ pv ∈ volumes, pv.origin = none ∨
        ∃ old ∈ c.volumes, old.origin = pv.origin ∧ old.csi = pv.csi :=
    fun hsubset pv hpv => .inr ⟨pv, hsubset hpv, rfl, rfl⟩
  cases a <;> simp only [step] at hstep
  case createStore store =>
    obtain ⟨hnew, rfl⟩ := of_guard hstep
    exact inv_createStore h hnew.2.1 ⟨hnew.2.2, horderly.1, horderly.2⟩
  case editStore store =>
    cases hstep
    exact inv_editStore h horderly
  case deleteStore name =>
    cases hstep
    exact inv_deleteStore h name
  case writeBinding binding | createClaim claim =>
    obtain ⟨-, rfl⟩ := of_guard hstep
    exact h.others rfl rfl rfl (fun pvs hpvs => .inr hpvs) (hsame (List.Subset.refl _))
  case deleteBinding name | writeClass sc | deleteClass name | deleteClaim space name =>
    cases hstep
    exact h.others rfl rfl rfl (fun pvs hpvs => .inr hpvs) (hsame (List.Subset.refl _))
  case provision name sc protocol leaf claimRef =>
    split at hstep
    · cases hstep
    rename_i store hstore
    obtain ⟨-, rfl⟩ := of_guard hstep
    exact inv_provision h (List.mem_of_find?_eq_some hstore) name protocol leaf claimRef
  case createPV pvs driver className =>
    obtain ⟨⟨hpvs, -, hdriver⟩, rfl⟩ := of_guard hstep
    exact inv_createPV h hpvs hdriver className
  case createRecord pvs =>
    obtain ⟨-, rfl⟩ := of_guard hstep
    refine h.others rfl rfl rfl (fun other hother => ?_) (hsame (List.Subset.refl _))
    rcases List.mem_cons.mp hother with rfl | hother
    · exact .inl rfl
    · exact .inr hother
  case createStaticPV pv =>
    obtain ⟨-, rfl⟩ := of_guard hstep
    refine h.others rfl rfl rfl (fun pvs hpvs => .inr hpvs) fun other hother => ?_
    rcases List.mem_cons.mp hother with rfl | hother
    · exact .inl rfl
    · exact .inr ⟨other, hother, rfl, rfl⟩
  case editPV name className =>
    cases hstep
    refine h.others rfl rfl rfl (fun pvs hpvs => .inr hpvs) fun pv hpv => ?_
    obtain ⟨old, hold, rfl⟩ := List.mem_map.mp hpv
    refine .inr ⟨old, hold, ?_⟩
    split <;> exact ⟨rfl, rfl⟩
  case deletePV name =>
    cases hstep
    exact h.others rfl rfl rfl (fun pvs hpvs => .inr hpvs) (hsame (List.filter_subset_self _))
  case deleteVolumeState name =>
    cases hstep
    exact h.others rfl rfl rfl (fun pvs hpvs => .inr (List.filter_subset_self _ hpvs))
      (hsame (List.Subset.refl _))

/-- No binding of another store has taken the class name of a volume that was
provisioned through the store. -/
structure Undisputed (c : Cluster) (store : Store) : Prop where
  volumes : ∀ pv ∈ c.volumes, pv.origin = some store.uid →
    ∀ binding ∈ c.bindings, Claims c binding pv.storageClassName → binding.storeRef = store.name
  volumeStates : ∀ pvs ∈ c.volumeStates, pvs.origin = some store.uid →
    ∀ binding ∈ c.bindings, Claims c binding (classOfVolumeState c pvs) →
      binding.storeRef = store.name

theorem volumeBlocksStore_of_inStore {ref : VolumeRef}
    (hclaims : ∀ binding ∈ c.bindings, Claims c binding scName → binding.storeRef = store.name)
    (href : ref.inStore store = true) :
    volumeBlocksStore scName ref store (storageClassStores c.bindings c.classes) = true := by
  unfold volumeBlocksStore
  split
  · rename_i owner howner
    obtain ⟨binding, hbinding, hclaim, rfl⟩ := justified_storageClassStores c scName owner howner
    simp [hclaims binding hbinding hclaim]
  · exact href

theorem pvBlocks_of_origin (h : Inv c) (hstore : store ∈ c.stores)
    (hundisputed : Undisputed c store) {pv : PersistentVolume} (hpv : pv ∈ c.volumes)
    (horigin : pv.origin = some store.uid) : pvBlocks c store pv = true := by
  rcases h.volumes pv hpv with hnone | ⟨pvs, hpvs, hsame, driver, hdriver, hcsi⟩
  · rw [hnone] at horigin
    cases horigin
  obtain ⟨home, name, protocol, leaf, claimRef, hplaced, rfl⟩ :=
    h.created pvs hpvs store.uid (hsame.symm.trans horigin)
  change pv.csi = some ⟨driver, volumeID home protocol leaf⟩ at hcsi
  obtain ⟨hagent, hkind, hpool⟩ := hplaced.place store hstore rfl
  simp only [pvBlocks, volumeRefFromPV, hcsi, hdriver, if_true,
    volumeRef_of_volumeID hplaced.plain protocol leaf]
  refine volumeBlocksStore_of_inStore (hundisputed.volumes pv hpv horigin) ?_
  simp [VolumeRef.inStore, hagent, hkind, hpool]

theorem volumeStateBlocks_of_origin (h : Inv c)
    (hstore : store ∈ c.stores) (hundisputed : Undisputed c store)
    (hpvs : pvs ∈ c.volumeStates) (horigin : pvs.origin = some store.uid) :
    volumeStateBlocks c store pvs = true := by
  have hcreated : pvs ∈ c.created := by
    refine (h.volumeStates pvs hpvs).resolve_left fun hnone => ?_
    rw [hnone] at horigin
    cases horigin
  obtain ⟨home, name, protocol, leaf, claimRef, hplaced, heq⟩ :=
    h.created pvs hcreated store.uid horigin
  obtain ⟨hagent, hkind, hpool⟩ := hplaced.place store hstore rfl
  have hlocation : volumeRefFromVolumeState pvs =
      { agent := store.agentRef, protocol := protocol.text, backend := store.backend.kind
        pool := store.backend.poolName } := by
    rw [heq, ← hagent, ← hkind, ← hpool, ← poolOf_agentVolumeID hplaced.plain leaf]
    rfl
  refine volumeBlocksStore_of_inStore (hundisputed.volumeStates pvs hpvs horigin) ?_
  simp [VolumeRef.inStore, hlocation]

theorem addBlockers_eq_nil {kind : String} {names blockers : List String}
    (h : addBlockers kind names blockers = []) : names = [] ∧ blockers = [] := by
  unfold addBlockers at h
  split at h
  · exact ⟨‹_›, h⟩
  · simp at h

/-- Whatever was created, edited and deleted before: when the guard finds
nothing, no volume that was provisioned through the store is left, unless its
class name has been taken by another store. -/
theorem unblocked_store_unused {actions : List Action} {c : Cluster} {store : Store}
    (hrun : run step {} actions = some c) (horderly : AllSteps step Orderly {} actions)
    (hstore : store ∈ c.stores) (hundisputed : Undisputed c store)
    (hguard : storeDeletionBlockers c store = []) : (∀ pv ∈ c.volumes, pv.origin ≠ some store.uid) ∧
      ∀ pvs ∈ c.volumeStates, pvs.origin ≠ some store.uid := by
  have hinv : Inv c := invariant_run_of_allSteps step_inv inv_empty horderly hrun
  obtain ⟨hstates, hguard⟩ := addBlockers_eq_nil hguard
  obtain ⟨hvolumes, -⟩ := addBlockers_eq_nil hguard
  rw [List.map_eq_nil_iff, List.filter_eq_nil_iff] at hstates hvolumes
  exact ⟨fun pv hpv horigin => hvolumes pv hpv
      (pvBlocks_of_origin hinv hstore hundisputed hpv horigin),
    fun pvs hpvs horigin => hstates pvs hpvs
      (volumeStateBlocks_of_origin hinv hstore hundisputed hpvs horigin)⟩

def firstStore : Store :=
  { name := "first", uid := "uid-1", agentRef := "node-a", backend := .zfs .zvol "tank" }

def secondStore : Store :=
  { name := "second", uid := "uid-2", agentRef := "node-a", backend := .lvm "vg0" }

def handWritten : List Action :=
  [.createStore firstStore, .createStore secondStore,
    .writeClass { name := "fast", storeRef := "first" },
    .provision "pvc-1" { name := "fast", storeRef := "first" } .nvmeofTCP "pvc-1" none,
    .createPV (provisioned firstStore "pvc-1" .nvmeofTCP "pvc-1" none) "pillar-csi.bhyoo.com" "fast",
    .deleteClass "fast"]

/-- The volume is deleted, and the second store gets one, whose record is removed
before its PersistentVolume is created. -/
def replaced : List Action :=
  [.deletePV "pvc-1", .deleteVolumeState "pvc-1",
    .provision "pvc-2" { name := "slow", storeRef := "second" } .iscsi "pvc-2" none,
    .deleteVolumeState "pvc-2",
    .createPV (provisioned secondStore "pvc-2" .iscsi "pvc-2" none) "pillar-csi.bhyoo.com" "slow"]

def replacedCluster : Cluster :=
  { stores := [secondStore, firstStore]
    created := [provisioned secondStore "pvc-2" .iscsi "pvc-2" none,
      provisioned firstStore "pvc-1" .nvmeofTCP "pvc-1" none]
    volumes :=
      [{ name := "pvc-2"
         csi := some ⟨"pillar-csi.bhyoo.com", "node-a/iscsi/lvm-lv/vg0/pvc-2"⟩
         storageClassName := "slow", origin := some "uid-2" }]
    uids := ["uid-2", "uid-1"] }

theorem unblocked_store_unused_replaced :
    run step {} (handWritten ++ replaced) = some replacedCluster ∧
      storeDeletionBlockers replacedCluster firstStore = [] ∧
      (∀ pv ∈ replacedCluster.volumes, pv.origin ≠ some firstStore.uid) ∧
      ∀ pvs ∈ replacedCluster.volumeStates, pvs.origin ≠ some firstStore.uid := by
  have hrun : run step {} (handWritten ++ replaced) = some replacedCluster := by decide +kernel
  have hguard : storeDeletionBlockers replacedCluster firstStore = [] := by decide +kernel
  have hundisputed : Undisputed replacedCluster firstStore := by
    constructor <;> intro _ _ _ binding hbinding <;> cases hbinding
  exact ⟨hrun, hguard, unblocked_store_unused hrun (by decide +kernel)
    (.tail _ (.head _)) hundisputed hguard⟩

def reused : List Action :=
  [.writeBinding { name := "b", storeRef := "second", className := "fast" },
    .writeClass
      { name := "fast", owner := some ⟨bindingKind, "b", "uid-b"⟩, binding := "b" },
    .writeBinding
      { name := "b", storeRef := "second", className := "fast", statusClassName := "fast" }]

theorem reused_class_hides_volume :
    ∃ c pv pvs, run step {} (handWritten ++ reused) = some c ∧ firstStore ∈ c.stores ∧
      storeDeletionBlockers c firstStore = [] ∧ pv ∈ c.volumes ∧ pv.origin = some firstStore.uid ∧
      pvs ∈ c.volumeStates ∧ pvs.origin = some firstStore.uid := by
  simp only [exists_and_left]
  decide +kernel

end PillarCsi.StoreDeletion
