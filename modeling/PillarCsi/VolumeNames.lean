import PillarCsi.SeparatedNames

/-!
What an agent volume ID names: its pool, and the zvol or logical volume that
create, expand and delete act on (`internal/agent/server.go`,
`internal/agent/backend/zfs/zfs.go`, `internal/agent/backend/lvm/lvm.go`).
-/

namespace PillarCsi.VolumeNames

open SeparatedNames

/-- A request that is refused before anything is done. -/
structure InvalidArgument where
  message : String
  deriving DecidableEq, Repr

def poolFromVolumeID (volumeID : String) : Except InvalidArgument String :=
  let pool := volumeID.toList.takeWhile (· ≠ '/')
  if pool = [] ∨ '/' ∉ volumeID.toList then
    .error { message := s!"volumeID {volumeID.quote}: expected \"<pool>/<name>\" format" }
  else
    .ok (String.ofList pool)

def trimPrefix (s front : List Char) : List Char :=
  if front <+: s then s.drop front.length else s

structure ZvolBackend where
  pool : String
  parentDataset : String := ""
  deriving DecidableEq, Repr

def volumeName (pool volumeID : String) : List Char :=
  trimPrefix volumeID.toList (pool.toList ++ ['/'])

def ZvolBackend.datasetName (z : ZvolBackend) (volumeID : String) : String :=
  if z.parentDataset ≠ "" then
    String.ofList (join [z.pool.toList, z.parentDataset.toList, volumeName z.pool volumeID])
  else
    String.ofList (join [z.pool.toList, volumeName z.pool volumeID])

def validateAgentZFS (z : ZvolBackend) : Bool :=
  z.pool != "" &&
    (z.parentDataset.toList.splitOn '/').all fun part => part ≠ ['.'] && part ≠ ['.', '.']

structure LvmBackend where
  vg : String
  thinpool : String := ""
  deriving DecidableEq, Repr

def LvmBackend.lvName (b : LvmBackend) (volumeID : String) : String :=
  String.ofList (volumeName b.vg volumeID)

def lvmNameChar (c : Char) : Bool :=
  c.isAlphanum || c = '_' || c = '+' || c = '.' || c = '-'

def validateVGName (vg : String) : Bool :=
  vg != "" && vg.length ≤ 128 && vg != "." && vg != ".." &&
    vg.toList.all lvmNameChar && vg.toList.head?.all fun c => c ≠ '-' && c ≠ '.'

inductive BlockBackend where
  | zvol (z : ZvolBackend)
  | lvm (b : LvmBackend)
  deriving DecidableEq, Repr

def BlockBackend.poolName : BlockBackend → String
  | .zvol z => z.pool
  | .lvm b => b.vg

def BlockBackend.validate : BlockBackend → Bool
  | .zvol z => validateAgentZFS z
  | .lvm b => validateVGName b.vg

/-- What a backend asks its tool to do. -/
inductive Operation where
  | create (capacityBytes : Int) (thin : Bool) (options : List String)
  | expand (requestedBytes : Int)
  | delete
  deriving DecidableEq, Repr

inductive Command where
  | zfs (arguments : List String) (dataset : String)
  | lvcreate (arguments : List String) (lv vg : String)
  | lvm (tool : String) (arguments : List String) (operand : String)
  deriving DecidableEq, Repr

/-- A dataset or a logical volume. -/
inductive Resource where
  | dataset (name : String)
  | logicalVolume (name : String)
  deriving DecidableEq, Repr

def Command.resource : Command → Resource
  | .zfs _ dataset => .dataset dataset
  | .lvcreate _ lv vg => .logicalVolume (vg ++ "/" ++ lv)
  | .lvm _ _ operand => .logicalVolume operand

def ZvolBackend.command (z : ZvolBackend) (volumeID : String) : Operation → Command
  | .create capacityBytes _ properties =>
    .zfs (["create", "-V", toString capacityBytes] ++ properties.flatMap fun p => ["-o", p])
      (z.datasetName volumeID)
  | .expand requestedBytes => .zfs ["set", "volsize=" ++ toString requestedBytes]
      (z.datasetName volumeID)
  | .delete => .zfs ["destroy"] (z.datasetName volumeID)

/-- Only a create looks at the name. -/
def LvmBackend.command (b : LvmBackend) (volumeID : String) : Operation → Option Command
  | .create capacityBytes thin extraFlags =>
    if b.lvName volumeID = "" then
      none
    else
      let size := toString capacityBytes ++ "b"
      let arguments :=
        if thin ∧ b.thinpool ≠ "" then ["-y", "--virtualsize", size, "--thinpool", b.thinpool]
        else ["-y", "-L", size]
      some (.lvcreate (arguments ++ extraFlags) (b.lvName volumeID) b.vg)
  | .expand requestedBytes =>
    some (.lvm "lvextend" ["-L", toString requestedBytes ++ "b"]
      (b.vg ++ "/" ++ b.lvName volumeID))
  | .delete => some (.lvm "lvremove" ["-y"] (b.vg ++ "/" ++ b.lvName volumeID))

def BlockBackend.command (backend : BlockBackend) (volumeID : String) (op : Operation) :
    Option Command :=
  match backend with
  | .zvol z => some (z.command volumeID op)
  | .lvm b => b.command volumeID op

def BlockBackend.root : BlockBackend → String
  | .zvol z => String.ofList (join [z.pool.toList, z.parentDataset.toList])
  | .lvm b => b.vg

def BlockBackend.resource (backend : BlockBackend) (name : String) : Resource :=
  match backend with
  | .zvol _ => .dataset name
  | .lvm _ => .logicalVolume name

/-- A request for `volumeID` reaches `backend`: the backend is registered under
the pool of the ID, which is one entry as every pool of the tools is. -/
def Reaches (volumeID : String) (backend : BlockBackend) : Prop :=
  poolFromVolumeID volumeID = .ok backend.poolName ∧ backend.validate = true ∧
    IsName backend.poolName.toList

instance (volumeID : String) (backend : BlockBackend) : Decidable (Reaches volumeID backend) :=
  inferInstanceAs (Decidable (_ ∧ _ ∧ _))

def zfsNameChar (c : Char) : Bool :=
  c.isAlphanum || c = '-' || c = '_' || c = '.' || c = ':' || c = ' '

/-- The tools take the text for the name of one volume: it has no `@`, `#` or
`%`, which ask for a snapshot, a bookmark or a received state of a zvol. -/
def BlockBackend.legalName (backend : BlockBackend) (name : List Char) : Bool :=
  IsName name &&
    match backend with
    | .zvol _ => name.all zfsNameChar
    | .lvm _ => name.all lvmNameChar && name.head? ≠ some '-'

/-- The resource is one volume right below the root of the backend. -/
def BlockBackend.DirectChild (backend : BlockBackend) (resource : Resource) : Prop :=
  ∃ leaf, backend.legalName leaf = true ∧
    resource = backend.resource (backend.root ++ "/" ++ String.ofList leaf)

def PlainID (backend : BlockBackend) (volumeID : String) : Prop :=
  backend.legalName (volumeName backend.poolName volumeID) = true

instance (backend : BlockBackend) (volumeID : String) : Decidable (PlainID backend volumeID) :=
  inferInstanceAs (Decidable (_ = _))

section Confinement

variable {backend other : BlockBackend} {volumeID otherID pool : String}

theorem takeWhile_append_slash {front : List Char} (h : '/' ∉ front) (rest : List Char) :
    (front ++ '/' :: rest).takeWhile (· ≠ '/') = front := by
  rw [List.takeWhile_append_of_pos]
  · simp
  · intro c hc
    rw [decide_eq_true_eq]
    rintro rfl
    exact h hc

theorem toList_of_poolFromVolumeID (h : poolFromVolumeID volumeID = .ok pool) :
    volumeID.toList = pool.toList ++ '/' :: volumeName pool volumeID := by
  unfold poolFromVolumeID at h
  dsimp only at h
  split at h
  · cases h
  rename_i haccepted
  obtain rfl := Except.ok.inj h
  rw [not_or, not_not] at haccepted
  set front := volumeID.toList.takeWhile (· ≠ '/')
  have hrest : ∃ rest, volumeID.toList = front ++ '/' :: rest := by
    obtain ⟨before, after, hsplit, hbefore⟩ := List.eq_append_cons_of_mem haccepted.2
    refine ⟨after, ?_⟩
    have hfront : front = before := by
      change volumeID.toList.takeWhile (· ≠ '/') = before
      rw [hsplit, takeWhile_append_slash hbefore]
    rw [hfront]
    exact hsplit
  obtain ⟨rest, hrest⟩ := hrest
  have hname : volumeName (String.ofList front) volumeID = rest := by
    rw [volumeName, trimPrefix, String.toList_ofList, hrest, if_pos ⟨rest, by simp⟩]
    simp
  rw [hname, String.toList_ofList]
  exact hrest

theorem volumeID_inj (h : poolFromVolumeID volumeID = .ok pool)
    (hother : poolFromVolumeID otherID = .ok pool)
    (hname : volumeName pool volumeID = volumeName pool otherID) : volumeID = otherID := by
  apply String.toList_inj.mp
  rw [toList_of_poolFromVolumeID h, toList_of_poolFromVolumeID hother, hname]

/-- The entries between the pool and the volumes of a backend. -/
def BlockBackend.parents : BlockBackend → List (List Char)
  | .zvol z => (z.parentDataset.toList.splitOn '/').filter (· ≠ [])
  | .lvm _ => []

theorem parents_isName (hvalid : backend.validate = true) :
    ∀ part ∈ backend.parents, IsName part := by
  intro part hpart
  cases backend with
  | lvm b => cases hpart
  | zvol z =>
    obtain ⟨hmem, hne⟩ := List.mem_filter.mp hpart
    have hdots := (Bool.and_eq_true_iff.mp hvalid).2
    have hdot := List.all_eq_true.mp hdots part hmem
    simp only [Bool.and_eq_true, decide_eq_true_eq] at hne hdot
    exact ⟨hne, not_mem_of_mem_splitOn hmem, hdot.1, hdot.2⟩

theorem datasetName_eq {z : ZvolBackend} (hvalid : validateAgentZFS z = true)
    (hpool : IsName z.pool.toList)
    (hname : ∀ part ∈ (volumeName z.pool volumeID).splitOn '/', IsName part) :
    z.datasetName volumeID = String.ofList (['/'].intercalate (z.pool.toList ::
      (BlockBackend.zvol z).parents ++ (volumeName z.pool volumeID).splitOn '/')) := by
  have hdots := List.all_eq_true.mp (Bool.and_eq_true_iff.mp hvalid).2
  have hkept : ((volumeName z.pool volumeID).splitOn '/').filter (· ≠ []) =
      (volumeName z.pool volumeID).splitOn '/' :=
    List.filter_eq_self.mpr fun part hpart => by simpa using (hname part hpart).1
  have hleaf : ∀ part ∈ (volumeName z.pool volumeID).splitOn '/',
      part ≠ ['.'] ∧ part ≠ ['.', '.'] := fun part hpart => (hname part hpart).2.2
  unfold ZvolBackend.datasetName
  split
  · rw [join_cons hpool] <;> simp only [List.flatMap_cons, List.flatMap_nil, List.append_nil]
    · rw [List.filter_append, hkept]
      rfl
    · intro part hpart
      rcases List.mem_append.mp hpart with hparent | hlast
      · simpa using hdots part hparent
      · exact hleaf part hlast
  · rename_i hparent
    rw [not_not] at hparent
    have hnone : (BlockBackend.zvol z).parents = [] := by
      change (z.parentDataset.toList.splitOn '/').filter (· ≠ []) = []
      simp [hparent]
    rw [hnone, join_cons hpool] <;>
      simp only [List.flatMap_cons, List.flatMap_nil, List.append_nil]
    · rw [hkept]
      rfl
    · exact hleaf

theorem root_eq (hvalid : backend.validate = true) (hpool : IsName backend.poolName.toList) :
    backend.root =
      String.ofList (['/'].intercalate (backend.poolName.toList :: backend.parents)) := by
  cases backend with
  | lvm b => simp [BlockBackend.root, BlockBackend.parents, BlockBackend.poolName]
  | zvol z =>
    have hdots := List.all_eq_true.mp (Bool.and_eq_true_iff.mp hvalid).2
    change IsName z.pool.toList at hpool
    simp only [BlockBackend.root, BlockBackend.poolName]
    rw [join_cons hpool] <;> simp only [List.flatMap_cons, List.flatMap_nil, List.append_nil]
    · rfl
    · exact fun part hpart => by simpa using hdots part hpart

theorem PlainID.isName (h : PlainID backend volumeID) :
    IsName (volumeName backend.poolName volumeID) :=
  of_decide_eq_true (Bool.and_eq_true_iff.mp h).1

theorem command_delete (backend : BlockBackend) (volumeID : String) :
    ∃ command, backend.command volumeID .delete = some command := by
  cases backend with
  | zvol z => exact ⟨_, rfl⟩
  | lvm b => exact ⟨_, rfl⟩

theorem command_resource (hvalid : backend.validate = true) (hpool : IsName backend.poolName.toList)
    (hname : IsName (volumeName backend.poolName volumeID)) {op : Operation} {command : Command}
    (hcommand : backend.command volumeID op = some command) :
    command.resource = backend.resource (String.ofList (['/'].intercalate
      (backend.poolName.toList :: backend.parents ++ [volumeName backend.poolName volumeID]))) := by
  cases backend with
  | zvol z =>
    cases hcommand
    have hleaf : (volumeName z.pool volumeID).splitOn '/' = [volumeName z.pool volumeID] :=
      List.splitOn_eq_singleton hname.2.1
    have hdataset := datasetName_eq hvalid hpool (hleaf ▸ List.forall_mem_singleton.mpr hname)
    rw [hleaf] at hdataset
    cases op <;> exact congrArg Resource.dataset hdataset
  | lvm b =>
    have hoperand : b.vg ++ "/" ++ b.lvName volumeID = String.ofList (['/'].intercalate
        (b.vg.toList :: [] ++ [volumeName b.vg volumeID])) := by
      apply String.toList_inj.mp
      simp [LvmBackend.lvName, List.intercalate_cons_cons]
    cases op with
    | create capacityBytes thin options =>
      simp only [BlockBackend.command, LvmBackend.command] at hcommand
      split at hcommand
      · cases hcommand
      · cases hcommand
        exact congrArg Resource.logicalVolume hoperand
    | expand requestedBytes | delete =>
      cases hcommand
      exact congrArg Resource.logicalVolume hoperand

theorem command_below_root (hvalid : backend.validate = true)
    (hpool : IsName backend.poolName.toList)
    (hname : IsName (volumeName backend.poolName volumeID)) {op : Operation} {command : Command}
    (hcommand : backend.command volumeID op = some command) : command.resource = backend.resource
      (backend.root ++ "/" ++ String.ofList (volumeName backend.poolName volumeID)) := by
  rw [command_resource hvalid hpool hname hcommand, root_eq hvalid hpool,
    intercalate_append _ _ _ (by simp)]
  congr 1
  apply String.toList_inj.mp
  simp

theorem entries_inj (hbackend : backend.validate = true) (hother : other.validate = true)
    (hpool : IsName backend.poolName.toList) (hpool' : IsName other.poolName.toList)
    (hplain : IsName (volumeName backend.poolName volumeID))
    (hplain' : IsName (volumeName other.poolName otherID))
    (h : backend.resource (String.ofList (['/'].intercalate
        (backend.poolName.toList :: backend.parents ++ [volumeName backend.poolName volumeID]))) =
      other.resource (String.ofList (['/'].intercalate
        (other.poolName.toList :: other.parents ++ [volumeName other.poolName otherID])))) :
    backend.poolName = other.poolName ∧
      volumeName backend.poolName volumeID = volumeName other.poolName otherID := by
  have hslash : ∀ {b : BlockBackend} {id : String}, b.validate = true → IsName b.poolName.toList →
      IsName (volumeName b.poolName id) →
      ∀ part ∈ b.poolName.toList :: b.parents ++ [volumeName b.poolName id], '/' ∉ part := by
    intro b id hvalid hpool hid part hpart
    rcases List.mem_append.mp hpart with hfront | hlast
    · rcases List.mem_cons.mp hfront with rfl | hparent
      · exact hpool.2.1
      · exact (parents_isName hvalid part hparent).2.1
    · rw [List.mem_singleton.mp hlast]
      exact hid.2.1
  have hname : String.ofList (['/'].intercalate
        (backend.poolName.toList :: backend.parents ++ [volumeName backend.poolName volumeID])) =
      String.ofList (['/'].intercalate
        (other.poolName.toList :: other.parents ++ [volumeName other.poolName otherID])) := by
    cases backend <;> cases other
    · exact Resource.dataset.inj h
    · cases h
    · cases h
    · exact Resource.logicalVolume.inj h
  have hparts := congrArg (List.splitOn '/') (String.ofList_inj.mp hname)
  rw [List.splitOn_intercalate _ (hslash hbackend hpool hplain) (by simp),
    List.splitOn_intercalate _ (hslash hother hpool' hplain') (by simp)] at hparts
  obtain ⟨hsame, hrest⟩ := List.cons.inj hparts
  refine ⟨String.toList_inj.mp hsame, ?_⟩
  have hlast := congrArg List.getLast? hrest
  simpa using hlast

/-- Every name below a pool has its plain ID. -/
theorem poolFromVolumeID_append (hpool : IsName pool.toList) (leaf : List Char) :
    poolFromVolumeID (String.ofList (pool.toList ++ '/' :: leaf)) = .ok pool ∧
      volumeName pool (String.ofList (pool.toList ++ '/' :: leaf)) = leaf := by
  constructor
  · simp only [poolFromVolumeID, String.toList_ofList, takeWhile_append_slash hpool.2.1]
    rw [if_neg, String.ofList_toList]
    simp only [not_or, not_not]
    exact ⟨hpool.1, by simp⟩
  · rw [volumeName, trimPrefix, String.toList_ofList, if_pos ⟨leaf, by simp⟩]
    simp

/-- The plain IDs are those that name volumes of their own: each names one
volume right below the root, that no other plain ID names, and an accepted ID
that is not plain names something else or the volume of a plain ID. -/
theorem volumes_confined (backend : BlockBackend) (volumeID : String)
    (hreaches : Reaches volumeID backend) :
    ((∀ op command, backend.command volumeID op = some command →
        backend.DirectChild command.resource) ∧
      ∀ other otherID, Reaches otherID other → PlainID other otherID → volumeID ≠ otherID →
        ∀ op op' command command', backend.command volumeID op = some command →
          other.command otherID op' = some command' → command.resource ≠ command'.resource) ↔
      PlainID backend volumeID := by
  obtain ⟨hid, hvalid, hpool⟩ := hreaches
  constructor
  · rintro ⟨hchild, hapart⟩
    obtain ⟨command, hcommand⟩ := command_delete backend volumeID
    obtain ⟨leaf, hlegal, hresource⟩ := hchild .delete command hcommand
    -- the plain ID of the volume that is named
    let plainID := String.ofList (backend.poolName.toList ++ '/' :: leaf)
    obtain ⟨hplainPool, hleaf⟩ := poolFromVolumeID_append hpool leaf
    have hplain : PlainID backend plainID := by
      rw [PlainID, hleaf]
      exact hlegal
    obtain ⟨command', hcommand'⟩ := command_delete backend plainID
    have hresource' := command_below_root hvalid hpool hplain.isName hcommand'
    rw [hleaf, ← hresource] at hresource'
    by_contra hnot
    have hne : volumeID ≠ plainID := by
      rintro rfl
      exact hnot hplain
    exact hapart backend plainID ⟨hplainPool, hvalid, hpool⟩ hplain hne .delete .delete command
      command' hcommand hcommand' hresource'.symm
  · intro hplain
    constructor
    · intro op command hcommand
      exact ⟨_, hplain, command_below_root hvalid hpool hplain.isName hcommand⟩
    · rintro other otherID ⟨hid', hvalid', hpool'⟩ hplain' hne op op' command command' hcommand
        hcommand' heq
      rw [command_resource hvalid hpool hplain.isName hcommand,
        command_resource hvalid' hpool' hplain'.isName hcommand'] at heq
      obtain ⟨hsame, hname⟩ := entries_inj hvalid hvalid' hpool hpool' hplain.isName
        hplain'.isName heq
      rw [← hsame] at hid' hname
      exact hne (volumeID_inj hid hid' hname)

end Confinement

def k8sZvols : BlockBackend := .zvol { pool := "tank", parentDataset := "k8s" }

def dataVG : BlockBackend := .lvm { vg := "data-vg" }

theorem volumes_confined_twoClaims :
    (∀ op command, k8sZvols.command "tank/pvc-1" op = some command →
        k8sZvols.DirectChild command.resource) ∧
      ∀ op command, k8sZvols.command "tank/pvc-2" op = some command →
        command.resource ≠ .dataset "tank/k8s/pvc-1" := by
  obtain ⟨hchild, hapart⟩ := (volumes_confined k8sZvols "tank/pvc-1" (by decide)).mpr (by decide)
  refine ⟨hchild, fun op command hcommand heq => ?_⟩
  exact hapart k8sZvols "tank/pvc-2" (by decide) (by decide) (by decide) .delete op
    (.zfs ["destroy"] "tank/k8s/pvc-1") command rfl hcommand heq.symm

/-- An empty name destroys the parent dataset or names the whole volume group,
a dot-dot name leaves the parent, a name with an `@` destroys a snapshot of
another volume, and two IDs name one volume. -/
theorem accepted_ids_escape : (Reaches "tank/" k8sZvols ∧
        k8sZvols.command "tank/" .delete = some (.zfs ["destroy"] k8sZvols.root)) ∧
      (Reaches "tank/.." k8sZvols ∧
        k8sZvols.command "tank/.." .delete = some (.zfs ["destroy"] "tank")) ∧
      (Reaches "tank/pvc-1@daily" k8sZvols ∧ k8sZvols.command "tank/pvc-1@daily" .delete =
        some (.zfs ["destroy"] "tank/k8s/pvc-1@daily")) ∧
      (Reaches "tank//pvc-1" k8sZvols ∧ Reaches "tank/pvc-1" k8sZvols ∧
        k8sZvols.command "tank//pvc-1" .delete = k8sZvols.command "tank/pvc-1" .delete) ∧
      Reaches "data-vg/" dataVG ∧
        dataVG.command "data-vg/" .delete = some (.lvm "lvremove" ["-y"] "data-vg/") := by
  decide

end PillarCsi.VolumeNames
