import Mathlib.Data.List.Destutter
import PillarCsi.FilesystemTeardown
import PillarCsi.LockOrder
import PillarCsi.Nvmet
import PillarCsi.TargetNames

/-!
The locks an agent's requests take (`targetMu`, `fencingMu`, `drainGate` of
`internal/agent/server.go`, the configfs path locks of
`internal/agent/nvmeof/configfs.go`, the mutex of the NFS manager), in the order
the handlers take them.  What a request does while it holds them is left out.
-/

namespace PillarCsi.AgentLocks

open TransitionSystem ItemTree Nvmet TargetNames FencingAdmission OwnershipOperations
open AdoptedFilesystem (Server)
open FilesystemTeardown (sampleServer sampleRequest)
open LockOrder

inductive Lock where
  | drainGate
  | target (protocol : ProtocolType) (targetID : String)
  | fencing (volumeID : String)
  | configfs (path : Path)
  | nfsManager
  deriving DecidableEq

abbrev Section := Block Lock

def lock (l : Lock) (body : Section) : Section := .hold l .exclusive body

inductive Use where
  | host (hostNQN : String)
  /-- `linkSubsystemToPort`, `unlinkFromPort`: attributes are written under the
  port's lock. -/
  | port (id : Name) (attrs : List Name)
  | file (path : Path)
  | manager

def writeFile (path : Path) : Section := lock (.configfs path) .skip

variable (nvmet : Host)

def Use.section : Use → Section
  | .host hostNQN => lock (.configfs (NvmetTarget.hostDir nvmet hostNQN)) .skip
  | .port id attrs =>
    let dir := NvmetTarget.portDir nvmet id
    lock (.configfs dir) (.all (attrs.map fun attr => writeFile (dir ++ [attr])))
  | .file path => writeFile path
  | .manager => lock .nfsManager .skip

def mutation (uses : List Use) : Section := .all (uses.map (·.section nvmet))

variable (volumeID : String)

/-- `fenced`, `fencedChecked`, `fencedImport`, `recheckFence`, `retireFence`. -/
def fenced (mutate : Section) : Section := lock (.fencing volumeID) mutate

variable (protocol : ProtocolType)

/-- The ID a protocol's handler locks, if it gets that far. -/
def targetID (volumeID : String) : Option String :=
  if protocol = .nfs then some volumeID else (volumeTargetID protocol volumeID).toOption

/-- Export, unexport, allow and deny. -/
def handle (volumeID : String) (uses : List Use) : Section :=
  match targetID protocol volumeID with
  | none => .skip
  | some id => lock (.target protocol id) (fenced volumeID (mutation nvmet uses))

def setLocalAttach (volumeID : String) (uses : List Use) : Section :=
  if protocol = .nfs then .skip else handle nvmet protocol volumeID uses

structure Item where
  volumeID : String
  resolved : Bool
  prepare : List Use := []
  link : List Use := []

def compact (ids : List String) : List String := (ids.insertionSort (· ≤ ·)).destutter (· ≠ ·)

def lockTargets (items : List Item) : List String :=
  compact ((items.filter (·.resolved)).filterMap fun item => targetID protocol item.volumeID)

/-- `Reconcile` of one protocol: all exports are prepared before any is linked.
The NFS handler has no second phase. -/
def reconcile (items : List Item) : Section :=
  .holdAll ((lockTargets protocol items).map (.target protocol))
    (.seq (.all (items.map fun item => fenced item.volumeID (mutation nvmet item.prepare)))
      (if protocol = .nfs then .skip else
        .all (items.map fun item => fenced item.volumeID (mutation nvmet item.link))))

/-- `path.Clean` leaves a relative path with these components as it is. -/
def cleanRelative (parts : List String) : Bool :=
  (parts.dropWhile (· = "..")).all fun part => part ≠ "" && part ≠ "." && part ≠ ".."

def cleanAbsolute (path : String) : Bool :=
  match path.toList with
  | '/' :: [] => true
  | '/' :: rest => (rest.splitOn '/').all fun part => part ≠ [] && part ≠ ['.'] && part ≠ ['.', '.']
  | _ => false

variable (a : FilesystemAdoption)

def validDirectoryAdoption : Bool :=
  cleanAbsolute a.canonicalSource && a.filesystemID ≠ "" && a.inode ≠ 0 && a.projectID ≠ 0 &&
    (a.filesystemType = "ext4" || a.filesystemType = "xfs")

def validZFSDatasetAdoption : Bool :=
  a.filesystemType = "zfs" && (a.hostPath = "" || cleanAbsolute a.hostPath)

variable (server : Server)

def filesystemFenceKey (a : FilesystemAdoption) : Option String :=
  let key := server.fenceID a
  if key = "" ∨ a.canonicalSource = "" then none
  else if a.kind = "directory" then if validDirectoryAdoption a then some key else none
  else if a.kind = "zfs-dataset" then if validZFSDatasetAdoption a then some key else none
  else none

/-- Adopted datasets are direct children of the configured parent: the leaf is
the name a managed dataset would have. -/
def legacyFilesystemVolumeID : Option String :=
  if a.kind ≠ "zfs-dataset" then some ""
  else
    let parts := (a.canonicalSource.toList.splitOn '/').map String.ofList
    if parts.length < 2 ∨ parts.headD "" = "" ∨ cleanRelative parts = false then none
    else some (parts.headD "" ++ "/" ++ parts.getLastD "")

structure FilesystemSource where
  (key legacyID : String)
  deriving DecidableEq, Repr

variable (call : FilesystemCall)

def filesystemOperationSource : Option FilesystemSource :=
  match filesystemFenceKey server call.adoption with
  | none => none
  | some key =>
    if 0 < call.capacity ∧ server.sourceAllowed call.adoption = false then none
    else
      match VolumeNames.poolFromVolumeID call.volumeID with
      | .error _ => none
      | .ok _ =>
        (legacyFilesystemVolumeID call.adoption).map fun legacyID =>
          { key := key, legacyID := legacyID }

def FilesystemSource.twoLocks (source : FilesystemSource) : Bool :=
  source.legacyID ≠ "" && source.legacyID ≠ source.key

def filesystemOperation (uses : List Use) : Section :=
  match filesystemOperationSource server call with
  | none => .skip
  | some source =>
    let native := fenced source.key (mutation nvmet uses)
    if source.twoLocks then fenced source.legacyID native else native

def releaseFilesystem (uses : List Use) : Section :=
  match filesystemFenceKey server call.adoption with
  | none => .skip
  | some key =>
    .seq (fenced key .skip)
      (.seq (filesystemOperation nvmet server call uses) (fenced key .skip))

inductive DesiredVolume where
  /-- Its proxy first, then each of its exports. -/
  | adopted (call : FilesystemCall) (uses : List (List Use))
  | managed (exports : List (ProtocolType × Item))

inductive Request where
  | exportVolume (protocol : ProtocolType) (volumeID : String) (uses : List Use)
  | unexportVolume (protocol : ProtocolType) (volumeID : String) (uses : List Use)
  | allowInitiator (protocol : ProtocolType) (volumeID : String) (uses : List Use)
  | denyInitiator (protocol : ProtocolType) (volumeID : String) (uses : List Use)
  | setLocalAttach (protocol : ProtocolType) (volumeID : String) (uses : List Use)
  | reconcileState (volumes : List DesiredVolume)
  | createVolume (volumeID : String)
  | expandVolume (volumeID : String) (uses : List Use)
  /-- A dataset is first withdrawn from the NFS manager. -/
  | deleteVolume (volumeID : String) (dataset : Bool)
  | importVolume (volumeID : String)
  | releaseVolume (protocol : ProtocolType) (volumeID : String) (uses : List Use)
  | transferVolumeOwnership (volumeID : String)
  /-- The import, export, unexport, allow, deny and local attach of an adopted
  filesystem. -/
  | filesystem (call : FilesystemCall) (uses : List Use)
  | releaseFilesystem (call : FilesystemCall) (uses : List Use)
  /-- With the target locks it finds. -/
  | drain (targets : List (ProtocolType × String))

def DesiredVolume.exports : DesiredVolume → List (ProtocolType × Item)
  | .adopted _ _ => []
  | .managed exports => exports

def DesiredVolume.filesystems : DesiredVolume → Section
  | .adopted call uses => .all (uses.map (filesystemOperation nvmet server call))
  | .managed _ => .skip

/-- Adopted filesystems as they are listed, then one `Reconcile` per protocol in
first-seen order. -/
def reconcileVolumes (volumes : List DesiredVolume) : Section :=
  let exports := volumes.flatMap DesiredVolume.exports
  let protocols := (exports.map Prod.fst).eraseDups
  .seq (.all (volumes.map (·.filesystems nvmet server)))
    (.all (protocols.map fun protocol =>
      reconcile nvmet protocol ((exports.filter (·.1 = protocol)).map Prod.snd)))

def Request.handler : Request → Section
  | .exportVolume protocol volumeID uses | .unexportVolume protocol volumeID uses
  | .allowInitiator protocol volumeID uses | .denyInitiator protocol volumeID uses =>
    handle nvmet protocol volumeID uses
  | .setLocalAttach protocol volumeID uses => AgentLocks.setLocalAttach nvmet protocol volumeID uses
  | .reconcileState volumes => reconcileVolumes nvmet server volumes
  | .createVolume volumeID | .importVolume volumeID | .transferVolumeOwnership volumeID =>
    fenced volumeID .skip
  | .expandVolume volumeID uses => fenced volumeID (mutation nvmet uses)
  | .deleteVolume volumeID dataset =>
    .seq (if dataset then handle nvmet .nfs volumeID [.manager, .manager] else .skip)
      (fenced volumeID .skip)
  | .releaseVolume protocol volumeID uses =>
    .seq (fenced volumeID .skip)
      (.seq (handle nvmet protocol volumeID uses) (fenced volumeID .skip))
  | .filesystem call uses => filesystemOperation nvmet server call uses
  | .releaseFilesystem call uses => AgentLocks.releaseFilesystem nvmet server call uses
  | .drain targets => .all (targets.map fun target => lock (.target target.1 target.2) .skip)

variable (request : Request)

/-- `DrainGuardInterceptor` and `Drain`. -/
def Request.section : Section :=
  match request with
  | .drain _ => .hold .drainGate .exclusive (request.handler nvmet server)
  | _ => .hold .drainGate .shared (request.handler nvmet server)

def Request.calls : Request → List FilesystemCall
  | .filesystem call _ | .releaseFilesystem call _ => [call]
  | .reconcileState volumes => volumes.flatMap fun
      | .adopted call _ => [call]
      | .managed _ => []
  | _ => []

def Request.sources : List FilesystemSource :=
  (request.calls.filterMap (filesystemOperationSource server)).filter (·.twoLocks)

/-- The names that are locked one after the other can be put in an order: no
circle of datasets has the legacy name of each as the native key of the next. -/
def Uncrossed (requests : List Request) : Prop :=
  ∃ height : String → Nat, ∀ source ∈ requests.flatMap (·.sources server),
    height source.legacyID < height source.key

variable {server : Server}

section Order

/-- Gate, targets, fences, then what a mutation locks: a configfs path after the
paths that contain it. -/
def level : Lock → Nat
  | .drainGate => 0
  | .target _ _ => 1
  | .fencing _ => 2
  | .configfs path => 3 + path.length
  | .nfsManager => 3

/-- Within their levels, targets by ID and fences by height. -/
def rank (height : String → Nat) (l : Lock) : Nat ×ₗ Nat ×ₗ String :=
  toLex (level l, match l with
    | .target _ id => toLex (0, id)
    | .fencing id => toLex (height id, "")
    | _ => toLex (0, ""))

variable {height : String → Nat} {held : List Lock} {nvmet : Host}

theorem rank_lt_of_level_lt {a b : Lock} (h : level a < level b) : rank height a < rank height b :=
  Prod.Lex.toLex_lt_toLex.mpr (.inl h)

theorem level_le_of_rank_lt {a b : Lock} (h : rank height a < rank height b) :
    level a ≤ level b := by
  rcases Prod.Lex.toLex_lt_toLex.mp h with hlt | ⟨heq, -⟩
  · exact hlt.le
  · exact heq.le

theorem nested_lock {l : Lock} {body : Section} (habove : ∀ h ∈ held, level h < level l)
    (hbody : body.Nested (rank height) (l :: held)) : (lock l body).Nested (rank height) held :=
  ⟨fun h hh => rank_lt_of_level_lt (habove h hh), hbody⟩

theorem nested_use (use : Use) (habove : ∀ h ∈ held, level h < 3) :
    (use.section nvmet).Nested (rank height) held := by
  have hpath : ∀ path : Path, ∀ h ∈ held, level h < level (.configfs path) :=
    fun path h hh => (habove h hh).trans_le (Nat.le_add_right 3 path.length)
  cases use with
  | host hostNQN => exact nested_lock (hpath _) trivial
  | file path => exact nested_lock (hpath path) trivial
  | manager => exact nested_lock habove trivial
  | port id attrs =>
    refine nested_lock (hpath _) (Block.nested_all fun b hb => ?_)
    obtain ⟨attr, -, rfl⟩ := List.mem_map.mp hb
    refine nested_lock (fun h hh => ?_) trivial
    -- the attribute's path is longer than its port's
    rcases List.mem_cons.mp hh with rfl | hh
    · simp [level]
    · exact hpath _ h hh

theorem nested_mutation (uses : List Use) (habove : ∀ h ∈ held, level h < 3) :
    (mutation nvmet uses).Nested (rank height) held := by
  refine Block.nested_all fun b hb => ?_
  obtain ⟨use, -, rfl⟩ := List.mem_map.mp hb
  exact nested_use use habove

theorem nested_fenced (uses : List Use)
    (habove : ∀ h ∈ held, rank height h < rank height (.fencing volumeID)) :
    (fenced volumeID (mutation nvmet uses)).Nested (rank height) held := by
  refine ⟨habove, nested_mutation uses fun h hh => ?_⟩
  rcases List.mem_cons.mp hh with rfl | hh
  · exact Nat.lt_succ_self 2
  · exact Nat.lt_succ_of_le (level_le_of_rank_lt (habove h hh))

theorem nested_fenced_skip (habove : ∀ h ∈ held, level h < 2) :
    (fenced volumeID .skip).Nested (rank height) held :=
  nested_lock habove trivial

theorem nested_handle (protocol : ProtocolType) (volumeID : String) (uses : List Use)
    (habove : ∀ h ∈ held, level h < 1) :
    (handle nvmet protocol volumeID uses).Nested (rank height) held := by
  unfold handle
  split
  · trivial
  refine nested_lock habove (nested_fenced volumeID uses fun h hh => rank_lt_of_level_lt ?_)
  rcases List.mem_cons.mp hh with rfl | hh
  · exact Nat.lt_succ_self 1
  · exact (habove h hh).trans (Nat.lt_succ_self 1)

theorem pairwise_compact (ids : List String) : (compact ids).Pairwise (· < ·) := by
  have hsorted : (compact ids).Pairwise (· ≤ ·) :=
    (List.pairwise_insertionSort (· ≤ ·) ids).sublist (List.destutter_sublist _ _)
  have hne : (compact ids).IsChain (· ≠ ·) := List.isChain_destutter _ _
  refine List.isChain_iff_pairwise.mp (List.isChain_iff_getElem.mpr fun i hi => ?_)
  exact lt_of_le_of_ne (List.pairwise_iff_getElem.mp hsorted i (i + 1) _ hi (Nat.lt_succ_self i))
    (List.isChain_iff_getElem.mp hne i hi)

theorem nested_reconcile (protocol : ProtocolType) (items : List Item)
    (habove : ∀ h ∈ held, level h < 1) :
    (reconcile nvmet protocol items).Nested (rank height) held := by
  have hphase : ∀ uses : Item → List Use, (Block.all (items.map fun item =>
      fenced item.volumeID (mutation nvmet (uses item)))).Nested (rank height)
        (((lockTargets protocol items).map (Lock.target protocol)).reverse ++ held) := by
    intro uses
    refine Block.nested_all fun b hb => ?_
    obtain ⟨item, -, rfl⟩ := List.mem_map.mp hb
    refine nested_fenced item.volumeID (uses item) fun h hh => rank_lt_of_level_lt ?_
    rcases List.mem_append.mp hh with hh | hh
    · obtain ⟨id, -, rfl⟩ := List.mem_map.mp (List.mem_reverse.mp hh)
      exact Nat.lt_succ_self 1
    · exact (habove h hh).trans (Nat.lt_succ_self 1)
  refine Block.nested_holdAll ?_ ?_ ⟨hphase Item.prepare, ?_⟩
  · rw [List.pairwise_map]
    refine (pairwise_compact _).imp fun {a b} hlt => ?_
    exact Prod.Lex.toLex_lt_toLex.mpr (.inr ⟨rfl, Prod.Lex.toLex_lt_toLex.mpr (.inr ⟨rfl, hlt⟩)⟩)
  · intro l hl h hh
    obtain ⟨id, -, rfl⟩ := List.mem_map.mp hl
    exact rank_lt_of_level_lt (habove h hh)
  · split
    · trivial
    · exact hphase Item.link

theorem nested_filesystemOperation (call : FilesystemCall) (uses : List Use)
    (hheight : ∀ source, filesystemOperationSource server call = some source →
      source.twoLocks = true → height source.legacyID < height source.key)
    (habove : ∀ h ∈ held, level h < 2) :
    (filesystemOperation nvmet server call uses).Nested (rank height) held := by
  unfold filesystemOperation
  split
  · trivial
  rename_i source hsource
  have hkey : ∀ h ∈ held, rank height h < rank height (.fencing source.key) :=
    fun h hh => rank_lt_of_level_lt (habove h hh)
  simp only
  split
  · rename_i htwo
    have hlegacy : rank height (.fencing source.legacyID) < rank height (.fencing source.key) :=
      Prod.Lex.toLex_lt_toLex.mpr
        (.inr ⟨rfl, Prod.Lex.toLex_lt_toLex.mpr (.inl (hheight source hsource htwo))⟩)
    refine nested_lock habove (nested_fenced source.key uses ?_)
    exact List.forall_mem_cons.mpr ⟨hlegacy, hkey⟩
  · exact nested_fenced source.key uses hkey

theorem nested_handler
    (hheight : ∀ source ∈ request.sources server, height source.legacyID < height source.key)
    (habove : ∀ h ∈ held, level h < 1) :
    (request.handler nvmet server).Nested (rank height) held := by
  have hfence : ∀ h ∈ held, level h < 2 := fun h hh => (habove h hh).trans (by omega)
  have hcall : ∀ call ∈ request.calls, ∀ uses,
      (filesystemOperation nvmet server call uses).Nested (rank height) held := by
    intro call hcall uses
    refine nested_filesystemOperation call uses (fun source hsource htwo => ?_) hfence
    exact hheight source
      (List.mem_filter.mpr ⟨List.mem_filterMap.mpr ⟨call, hcall, hsource⟩, htwo⟩)
  cases request with
  | exportVolume protocol volumeID uses | unexportVolume protocol volumeID uses
  | allowInitiator protocol volumeID uses | denyInitiator protocol volumeID uses =>
    exact nested_handle protocol volumeID uses habove
  | setLocalAttach protocol volumeID uses =>
    show (AgentLocks.setLocalAttach nvmet protocol volumeID uses).Nested (rank height) held
    unfold AgentLocks.setLocalAttach
    split
    · trivial
    · exact nested_handle protocol volumeID uses habove
  | reconcileState volumes =>
    refine ⟨Block.nested_all fun b hb => ?_, Block.nested_all fun b hb => ?_⟩
    · obtain ⟨volume, hvolume, rfl⟩ := List.mem_map.mp hb
      cases volume with
      | managed exports => trivial
      | adopted call uses =>
        refine Block.nested_all fun b hb => ?_
        obtain ⟨used, -, rfl⟩ := List.mem_map.mp hb
        exact hcall call (List.mem_flatMap.mpr ⟨_, hvolume, List.mem_singleton_self call⟩) used
    · obtain ⟨protocol, -, rfl⟩ := List.mem_map.mp hb
      exact nested_reconcile protocol _ habove
  | createVolume volumeID | importVolume volumeID | transferVolumeOwnership volumeID =>
    exact nested_fenced_skip volumeID hfence
  | expandVolume volumeID uses =>
    exact nested_fenced volumeID uses fun h hh => rank_lt_of_level_lt (hfence h hh)
  | deleteVolume volumeID dataset =>
    refine ⟨?_, nested_fenced_skip volumeID hfence⟩
    cases dataset with
    | false => trivial
    | true => exact nested_handle .nfs volumeID _ habove
  | releaseVolume protocol volumeID uses =>
    exact ⟨nested_fenced_skip volumeID hfence, nested_handle protocol volumeID uses habove,
      nested_fenced_skip volumeID hfence⟩
  | filesystem call uses => exact hcall call (List.mem_singleton_self call) uses
  | releaseFilesystem call uses =>
    show (AgentLocks.releaseFilesystem nvmet server call uses).Nested (rank height) held
    unfold AgentLocks.releaseFilesystem
    split
    · trivial
    · rename_i key _
      exact ⟨nested_fenced_skip key hfence, hcall call (List.mem_singleton_self call) uses,
        nested_fenced_skip key hfence⟩
  | drain targets =>
    refine Block.nested_all fun b hb => ?_
    obtain ⟨target, -, rfl⟩ := List.mem_map.mp hb
    exact nested_lock habove trivial

theorem nested_section
    (hheight : ∀ source ∈ request.sources server, height source.legacyID < height source.key) :
    (request.section nvmet server).Nested (rank height) [] := by
  have hinner : (request.handler nvmet server).Nested (rank height) [.drainGate] :=
    nested_handler request hheight fun h hh => by
      rw [List.mem_singleton.mp hh]
      exact Nat.zero_lt_one
  unfold Request.section
  split <;> exact ⟨nofun, hinner⟩

end Order

/-- One thread per request, which may come more than once and return early. -/
def Starts (server : Server) (requests : List Request) (s : State Lock) : Prop :=
  ∃ sections : List Section, s = start sections ∧
    ∀ b ∈ sections, ∃ request ∈ requests, Block.Cut (request.section nvmet server) b

/-- However any requests interleave: none wait for each other in a circle, some
unfinished one can always go on, no schedule goes on for ever, and from every
state all of them can be finished. -/
theorem requests_never_deadlock (nvmet : Host) (server : Server) {requests : List Request}
    (hnames : Uncrossed server requests) {s₀ s : State Lock}
    (hstart : Starts nvmet server requests s₀) {schedule : List Nat}
    (hrun : run step s₀ schedule = some s) : (∀ i, ¬ Relation.TransGen (Waits s) i i) ∧
      (¬ Finished s → ∃ i s', step s i = some s') ∧
      (∀ more s', run step s more = some s' → more.length ≤ remaining s) ∧
      ∃ more s', run step s more = some s' ∧ Finished s' := by
  obtain ⟨sections, rfl, hcut⟩ := hstart
  obtain ⟨height, hheight⟩ := hnames
  have hnested : ∀ b ∈ sections, b.Nested (rank height) [] := by
    intro b hb
    obtain ⟨request, hrequest, hcut⟩ := hcut b hb
    refine Block.Nested.cut hcut (nested_section request fun source hsource => ?_)
    exact hheight source (List.mem_flatMap.mpr ⟨request, hrequest, hsource⟩)
  have hordered : Ordered (rank height) s := invariant_run step_ordered (ordered_start hnested) hrun
  refine ⟨hordered.not_cyclic, hordered.progress, fun more s' hmore => ?_, hordered.completes⟩
  exact (Nat.le_add_right _ _).trans (length_add_remaining_le hmore)

def sampleNvmet : Host :=
  { kernel := { root := [.of "config"] }, parseIP := fun _ => none
    deriveIdentity := fun _ => ⟨"", "", ""⟩ }

/-- Two reconciles of the same volumes in different orders, one of them with a
repetition, a release of an adopted dataset and a drain. -/
def sampleRequests : List Request :=
  let item (volumeID : String) : ProtocolType × Item :=
    (.nvmeofTCP, { volumeID := volumeID, resolved := true, prepare := [.host "h"],
                   link := [.port (.of "1") [.of "addr_trtype"]] })
  [.reconcileState [.managed [item "p/b", item "p/a", item "p/b"]],
    .reconcileState [.managed [item "p/a", item "p/b"]],
    .releaseFilesystem (sampleRequest 1).unpinned [.manager],
    .drain [(.nvmeofTCP, nqnPrefix ++ "p.a")]]

theorem requests_never_deadlock_reconciles : Uncrossed sampleServer sampleRequests ∧
      ∃ s, run step (start (sampleRequests.map (·.section sampleNvmet sampleServer)))
          [0, 1, 2, 0, 0, 3] = some s ∧ ¬ Finished s ∧ (∀ i, ¬ Relation.TransGen (Waits s) i i) ∧
        ∃ more s', run step s more = some s' ∧ Finished s' := by
  have hnames : Uncrossed sampleServer sampleRequests :=
    ⟨String.length, by decide +kernel⟩
  have hstart : Starts sampleNvmet sampleServer sampleRequests
      (start (sampleRequests.map (·.section sampleNvmet sampleServer))) := by
    refine ⟨_, rfl, fun b hb => ?_⟩
    obtain ⟨request, hrequest, rfl⟩ := List.mem_map.mp hb
    exact ⟨request, hrequest, .refl _⟩
  have hruns : (run step (start (sampleRequests.map (·.section sampleNvmet sampleServer)))
      [0, 1, 2, 0, 0, 3]).any (fun s => s.any (·.todo ≠ [])) = true := by decide +kernel
  obtain ⟨s, hs, hbusy⟩ := (Option.any_eq_true ..).mp hruns
  obtain ⟨hcycle, -, -, hcompletes⟩ :=
    requests_never_deadlock sampleNvmet sampleServer hnames hstart hs
  refine ⟨hnames, s, hs, fun hdone => ?_, hcycle, hcompletes⟩
  obtain ⟨t, ht, htodo⟩ := List.any_eq_true.mp hbusy
  exact (of_decide_eq_true htodo) (hdone t ht)

/-- Two datasets, the legacy name of each the native key of the other: each
request gets its legacy name and waits for the other's. -/
theorem crossed_deadlock (nvmet : Host) {first second : FilesystemCall}
    {a b : FilesystemSource} (hfirst : filesystemOperationSource server first = some a)
    (hsecond : filesystemOperationSource server second = some b) (htwo : a.twoLocks = true)
    (hab : a.legacyID = b.key) (hba : b.legacyID = a.key) (hb : b.twoLocks = true) :
    ∃ s₀ schedule s, Starts nvmet server [.filesystem first [], .filesystem second []] s₀ ∧
      run step s₀ schedule = some s ∧ Waits s 0 1 ∧ Waits s 1 0 ∧ ∀ i, step s i = none := by
  have hne : b.key ≠ a.key := by
    rw [← hab]
    simp only [FilesystemSource.twoLocks, Bool.and_eq_true, decide_eq_true_eq] at htwo
    exact htwo.2
  let waiting (mine theirs : String) : Thread Lock :=
    { todo := [.acquire (.fencing theirs) .exclusive, .release (.fencing theirs),
        .release (.fencing mine), .release .drainGate]
      held := [(.fencing mine, .exclusive), (.drainGate, .shared)]
      pending := true }
  refine ⟨start [(Request.filesystem first []).section nvmet server,
      (Request.filesystem second []).section nvmet server], [0, 1, 0, 0, 1, 1, 0, 1],
    [waiting b.key a.key, waiting a.key b.key],
    ⟨_, rfl, fun section_ hsection => ?_⟩, ?_, ?_, ?_, ?_⟩
  · simp only [List.mem_cons, List.not_mem_nil, or_false] at hsection
    rcases hsection with rfl | rfl
    · exact ⟨_, .head _, .refl _⟩
    · exact ⟨_, .tail _ (.head _), .refl _⟩
  · simp [start, Request.section, Request.handler, filesystemOperation, hfirst, hsecond, htwo, hb,
      fenced, lock, mutation, Block.events, Block.all, run, step, hab, hba, Thread.hinders,
      Thread.blocks, Thread.claims, Mode.conflicts, hne, waiting]
  · exact ⟨_, _, .fencing a.key, .exclusive, rfl, rfl, rfl, by
      simp [Thread.hinders, Thread.blocks, Mode.conflicts, waiting]⟩
  · exact ⟨_, _, .fencing b.key, .exclusive, rfl, rfl, rfl, by
      simp [Thread.hinders, Thread.blocks, Mode.conflicts, waiting]⟩
  · intro i
    rcases i with _ | _ | n
    · simp [step, Thread.hinders, Thread.blocks, Mode.conflicts, waiting]
    · simp [step, Thread.hinders, Thread.blocks, Mode.conflicts, waiting]
    · simp [step]

/-- The withdrawal of a dataset of a pool named `filesystem`, whose leaf is the
digest of another resource. -/
def crossedCall (server : Server) (resourceID other : String) : FilesystemCall :=
  { adoption :=
      { kind := "zfs-dataset"
        canonicalSource := "filesystem/" ++ server.digest "zfs-dataset" other
        resourceID := resourceID, hostPath := "", filesystemType := "zfs", filesystemID := ""
        inode := 0, projectID := 0 }
    volumeID := "filesystem/" ++ resourceID, capacity := 0, importing := false }

theorem crossed_names_deadlock : ∃ s₀ schedule s, Starts sampleNvmet sampleServer
        [.filesystem (crossedCall sampleServer "1" "2") [],
          .filesystem (crossedCall sampleServer "2" "1") []] s₀ ∧
      run step s₀ schedule = some s ∧ Relation.TransGen (Waits s) 0 0 ∧ ¬ Finished s ∧
      ∀ i, step s i = none := by
  have hfirst : filesystemOperationSource sampleServer (crossedCall sampleServer "1" "2") =
      some { key := "filesystem/1", legacyID := "filesystem/2" } := by decide +kernel
  have hsecond : filesystemOperationSource sampleServer (crossedCall sampleServer "2" "1") =
      some { key := "filesystem/2", legacyID := "filesystem/1" } := by decide +kernel
  obtain ⟨s₀, schedule, s, hstart, hrun, h₀, h₁, hstuck⟩ :=
    crossed_deadlock sampleNvmet hfirst hsecond (by decide) rfl rfl (by decide)
  refine ⟨s₀, schedule, s, hstart, hrun, .tail (.single h₀) h₁, fun hdone => ?_, hstuck⟩
  obtain ⟨t, -, lock, mode, ht, -, hhead, -⟩ := h₀
  simp [hdone t (List.mem_of_getElem? ht)] at hhead

end PillarCsi.AgentLocks
