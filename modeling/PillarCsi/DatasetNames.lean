import PillarCsi.VolumeNames
import Mathlib.Data.List.DropRight
import Mathlib.Data.List.Nodup

/-!
Names that the ZFS backends give and take back: the dataset and the mount path
of a filesystem volume (`internal/agent/backend/zfs/dataset.go`), and the volume
IDs of the zvols that are listed.
-/

namespace PillarCsi.DatasetNames

open SeparatedNames VolumeNames

variable (s : List Char)

/-- `strings.Trim(s, "/")`. -/
def trimSlashes : List Char := (s.dropWhile (· = '/')).rdropWhile (· = '/')

def normalizeDataset : List Char :=
  let c := clean (trimSlashes s)
  if c = ['.'] then [] else c

theorem splitOn_trimSlashes :
    ((trimSlashes s).splitOn '/').filter (· ≠ []) = (s.splitOn '/').filter (· ≠ []) := by
  have hfront : ((s.dropWhile (· = '/')).splitOn '/').filter (· ≠ []) =
      (s.splitOn '/').filter (· ≠ []) := by
    induction s with
    | nil => rfl
    | cons c s ih =>
      by_cases hc : c = '/'
      · have hsplit := splitOn_append_cons '/' [] s
        rw [List.nil_append] at hsplit
        rw [hc, List.dropWhile_cons_of_pos (by simp), ih, hsplit]
        simp
      · rw [List.dropWhile_cons_of_neg (by simpa using hc)]
  rw [← hfront, trimSlashes]
  induction s.dropWhile (· = '/') using List.reverseRecOn with
  | nil => rfl
  | append_singleton t c ih =>
    by_cases hc : c = '/'
    · rw [hc, List.rdropWhile_concat_pos _ _ _ (by simp), ih, splitOn_append_cons]
      simp
    · rw [List.rdropWhile_concat_neg _ _ _ (by simpa using hc)]

theorem head?_trimSlashes : (trimSlashes s).head? ≠ some '/' := by
  intro h
  obtain ⟨back, hback⟩ := List.rdropWhile_prefix (· = '/') (s.dropWhile (· = '/'))
  have hnot := List.head?_dropWhile_not (fun c => decide (c = '/')) s
  rw [trimSlashes] at h
  rw [← hback, List.head?_append, h] at hnot
  simp at hnot

theorem normalizeDataset_cleanParts :
    normalizeDataset s = ['/'].intercalate (cleanParts false (s.splitOn '/')) := by
  rw [← cleanParts_filter, ← splitOn_trimSlashes, cleanParts_filter]
  simp only [normalizeDataset, clean, decide_eq_false (head?_trimSlashes s)]
  cases hkept : cleanParts false ((trimSlashes s).splitOn '/') with
  | nil => simp
  | cons part rest =>
    have hmem : ∀ p ∈ part :: rest, '/' ∉ p ∧ p ≠ ['.'] := by
      intro p hp
      obtain ⟨hp, -, hdot, -⟩ := mem_cleanParts (hkept ▸ hp)
      exact ⟨not_mem_of_mem_splitOn hp, hdot⟩
    have hne : ['/'].intercalate (part :: rest) ≠ ['.'] := by
      intro h
      have hsplit := congrArg (List.splitOn '/') h
      rw [List.splitOn_intercalate _ (fun p hp => (hmem p hp).1) (by simp),
        List.splitOn_eq_singleton (by decide)] at hsplit
      exact (hmem part (.head _)).2 (List.cons.inj hsplit).1
    simp [hne]

theorem normalizeDataset_eq {s : List Char}
    (hdots : ∀ part ∈ s.splitOn '/', part ≠ ['.'] ∧ part ≠ ['.', '.']) :
    normalizeDataset s = ['/'].intercalate ((s.splitOn '/').filter (· ≠ [])) := by
  rw [normalizeDataset_cleanParts, cleanParts_eq_filter hdots]

structure VolumeInfo where
  volumeID : String
  capacityBytes : Int
  devicePath : List Char

/-- A line of `zfs list`: the name, and the volsize unless it is no number. -/
abbrev Line := List Char × Option Int

def datasetPrefix (z : ZvolBackend) : List Char :=
  if z.parentDataset ≠ "" then z.pool.toList ++ '/' :: z.parentDataset.toList ++ ['/']
  else z.pool.toList ++ ['/']

def listVolumes (z : ZvolBackend) (devZvolBase : List Char) (lines : List Line) :
    Option (List VolumeInfo) :=
  lines.mapM fun line => do
    let volName := trimPrefix line.1 (datasetPrefix z)
    let volumeID := String.ofList (z.pool.toList ++ '/' :: volName)
    let sizeBytes ← line.2
    return {
      volumeID := volumeID, capacityBytes := sizeBytes
      devicePath := join [devZvolBase, (z.datasetName volumeID).toList] }

/-- A zvol below the provisioning root: the names on the way to it. -/
structure Zvol where
  path : List (List Char)
  volsize : Int
  below : path ≠ []
  names : ∀ part ∈ path, IsName part

def Zvol.name (v : Zvol) (z : ZvolBackend) : List Char :=
  ['/'].intercalate (z.pool.toList :: (BlockBackend.zvol z).parents ++ v.path)

section Listing

variable {z : ZvolBackend} (hvalid : validateAgentZFS z = true) (hpool : IsName z.pool.toList)

theorem trimPrefix_append (front rest : List Char) : trimPrefix (front ++ rest) front = rest := by
  simp [trimPrefix]

theorem Zvol.splitOn_path (v : Zvol) : (['/'].intercalate v.path).splitOn '/' = v.path :=
  List.splitOn_intercalate _ (fun part hpart => (v.names part hpart).2.1) v.below

def listedID (z : ZvolBackend) (v : Zvol) : String :=
  String.ofList (z.pool.toList ++ '/' :: trimPrefix (v.name z) (datasetPrefix z))

theorem volumeName_listedID (v : Zvol) :
    volumeName z.pool (listedID z v) = trimPrefix (v.name z) (datasetPrefix z) := by
  have htrim := trimPrefix_append (z.pool.toList ++ ['/']) (trimPrefix (v.name z) (datasetPrefix z))
  rw [volumeName, listedID, String.toList_ofList]
  simpa using htrim

include hvalid hpool in
theorem names_isName_of_path {path : List (List Char)} (hpath : ∀ part ∈ path, IsName part) :
    ∀ part ∈ z.pool.toList :: (BlockBackend.zvol z).parents ++ path, IsName part := by
  have hparents := parents_isName (show (BlockBackend.zvol z).validate = true from hvalid)
  exact List.forall_mem_append.mpr ⟨List.forall_mem_cons.mpr ⟨hpool, hparents⟩, hpath⟩

include hvalid hpool in
theorem Zvol.splitOn_name (v : Zvol) :
    (v.name z).splitOn '/' = z.pool.toList :: (BlockBackend.zvol z).parents ++ v.path := by
  have hnames := names_isName_of_path hvalid hpool v.names
  exact List.splitOn_intercalate _ (fun part hpart => (hnames part hpart).2.1) (by simp)

include hvalid in
/-- The prefix that the listing strips is the one that naming puts before. -/
theorem name_eq (hcanonical : normalizeDataset z.parentDataset.toList = z.parentDataset.toList)
    (v : Zvol) : v.name z = datasetPrefix z ++ ['/'].intercalate v.path := by
  have hdots := List.all_eq_true.mp (Bool.and_eq_true_iff.mp hvalid).2
  have hparent := normalizeDataset_eq fun part hpart => by simpa using hdots part hpart
  rw [hcanonical] at hparent
  rw [Zvol.name, intercalate_append _ _ _ v.below]
  unfold datasetPrefix
  have hparents : (BlockBackend.zvol z).parents =
    (z.parentDataset.toList.splitOn '/').filter (· ≠ []) := rfl
  rw [hparents]
  cases hkept : (z.parentDataset.toList.splitOn '/').filter (· ≠ []) with
  | nil =>
    rw [hkept] at hparent
    have hempty : z.parentDataset = "" := String.toList_inj.mp hparent
    simp [hempty]
  | cons part rest =>
    rw [hkept] at hparent
    have hne : z.parentDataset ≠ "" := by
      intro hempty
      rw [hempty] at hkept
      simp at hkept
    rw [if_pos hne, hparent, List.intercalate_cons_cons]
    simp

include hvalid hpool in
/-- A parent dataset that is spelled with an empty part starts no name. -/
theorem canonical_of_isPrefix {v : Zvol} (h : datasetPrefix z <+: v.name z) :
    normalizeDataset z.parentDataset.toList = z.parentDataset.toList := by
  by_cases hempty : z.parentDataset = ""
  · rw [hempty]
    decide
  obtain ⟨rest, hrest⟩ := h
  have hdots := List.all_eq_true.mp (Bool.and_eq_true_iff.mp hvalid).2
  have hsplit := v.splitOn_name hvalid hpool
  rw [← hrest, datasetPrefix, if_pos hempty, List.append_assoc, List.append_assoc,
    List.cons_append, splitOn_append_cons, List.singleton_append, splitOn_append_cons] at hsplit
  have hparts : ∀ part ∈ z.parentDataset.toList.splitOn '/', part ≠ [] := by
    intro part hpart
    have hmem : part ∈ z.pool.toList :: (BlockBackend.zvol z).parents ++ v.path := by
      rw [← hsplit]
      simp [hpart]
    exact (names_isName_of_path hvalid hpool v.names part hmem).1
  rw [normalizeDataset_eq fun part hpart => by simpa using hdots part hpart,
    List.filter_eq_self.mpr fun part hpart => by simpa using hparts part hpart]
  exact List.intercalate_splitOn '/'

include hvalid in
theorem listedID_of_canonical
    (hcanonical : normalizeDataset z.parentDataset.toList = z.parentDataset.toList) (v : Zvol) :
    volumeName z.pool (listedID z v) = ['/'].intercalate v.path := by
  rw [volumeName_listedID, name_eq hvalid hcanonical, trimPrefix_append]

include hvalid hpool in
theorem datasetName_listedID_iff (v : Zvol) :
    (z.datasetName (listedID z v)).toList = v.name z ↔
      normalizeDataset z.parentDataset.toList = z.parentDataset.toList := by
  constructor
  · intro hname
    by_contra hother
    -- nothing is stripped, and naming puts the root before the whole name
    have hwhole : volumeName z.pool (listedID z v) = v.name z := by
      rw [volumeName_listedID, trimPrefix, if_neg fun h => hother (canonical_of_isPrefix hvalid hpool h)]
    have hsplit := v.splitOn_name hvalid hpool
    have hnames := names_isName_of_path hvalid hpool v.names
    have hdataset : (z.datasetName (listedID z v)).toList = ['/'].intercalate (z.pool.toList ::
        (BlockBackend.zvol z).parents ++ (v.name z).splitOn '/') := by
      rw [datasetName_eq hvalid hpool (by rwa [hwhole, hsplit]), String.toList_ofList, hwhole]
    have hparts := congrArg (List.splitOn '/') (hdataset.symm.trans hname)
    rw [hsplit, List.splitOn_intercalate _ (fun part hpart =>
      (names_isName_of_path hvalid hpool hnames part hpart).2.1) (by simp)] at hparts
    have hlength := congrArg List.length hparts
    simp only [List.length_append, List.length_cons] at hlength
    omega
  · intro hcanonical
    have hpath := listedID_of_canonical hvalid hcanonical v
    have hparts : ∀ part ∈ (volumeName z.pool (listedID z v)).splitOn '/', IsName part := by
      rw [hpath, v.splitOn_path]
      exact v.names
    rw [datasetName_eq hvalid hpool hparts, String.toList_ofList, hpath, v.splitOn_path]
    rfl

theorem mapM_map_some {α β γ : Type} {f : α → β} {g : β → Option γ} {k : α → γ} {xs : List α}
    (h : ∀ x ∈ xs, g (f x) = some (k x)) : (xs.map f).mapM g = some (xs.map k) := by
  induction xs with
  | nil => rfl
  | cons x xs ih =>
    obtain ⟨hx, hrest⟩ := List.forall_mem_cons.mp h
    rw [List.map_cons, List.mapM_cons, hx, ih hrest]
    rfl

theorem listVolumes_eq (devZvolBase : List Char) (zvols : List Zvol) :
    listVolumes z devZvolBase (zvols.map fun v => (v.name z, some v.volsize)) =
      some (zvols.map fun v => ⟨listedID z v, v.volsize,
        join [devZvolBase, (z.datasetName (listedID z v)).toList]⟩) :=
  mapM_map_some fun _ _ => rfl

include hvalid hpool in
/-- The ID that a volume was created with is the listed one unless a part of it
is no name. -/
theorem eq_listedID_iff
    (hcanonical : normalizeDataset z.parentDataset.toList = z.parentDataset.toList)
    {volumeID : String} (hid : poolFromVolumeID volumeID = .ok z.pool) {v : Zvol}
    (hname : (z.datasetName volumeID).toList = v.name z) :
    volumeID = listedID z v ↔ ∀ part ∈ (volumeName z.pool volumeID).splitOn '/', IsName part := by
  constructor
  · rintro rfl
    rw [listedID_of_canonical hvalid hcanonical, v.splitOn_path]
    exact v.names
  · intro hparts
    rw [datasetName_eq hvalid hpool hparts, String.toList_ofList] at hname
    have hsplit := congrArg (List.splitOn '/') hname
    rw [v.splitOn_name hvalid hpool, List.splitOn_intercalate _ (fun part hpart =>
      (names_isName_of_path hvalid hpool hparts part hpart).2.1) (by simp)] at hsplit
    have hpath := List.append_cancel_left hsplit
    apply String.toList_inj.mp
    rw [toList_of_poolFromVolumeID hid, listedID, String.toList_ofList, ← volumeName_listedID,
      listedID_of_canonical hvalid hcanonical, ← hpath, List.intercalate_splitOn]

end Listing

/-- The listing took back what naming gave: one volume for each zvol, in order,
under different IDs that name the zvols. -/
structure Inverted (z : ZvolBackend) (devZvolBase : List Char) (zvols : List Zvol)
    (volumes : List VolumeInfo) : Prop where
  listed : listVolumes z devZvolBase (zvols.map fun v => (v.name z, some v.volsize)) = some volumes
  named : volumes.map (fun v => (z.datasetName v.volumeID).toList) = zvols.map (Zvol.name · z)
  distinct : (volumes.map (·.volumeID)).Nodup

/-- Whatever different zvols there are below the provisioning root, the listing
takes naming back exactly if the parent dataset is in canonical spelling, and a
volume is listed under the ID it was created with exactly if, in addition, every
part of that ID is a name. -/
theorem listing_inverts_naming {z : ZvolBackend} (hvalid : validateAgentZFS z = true)
    (hpool : IsName z.pool.toList) (devZvolBase : List Char) (zvols : List Zvol)
    (hnodup : (zvols.map (Zvol.name · z)).Nodup) :
    ((∃ volumes, Inverted z devZvolBase zvols volumes) ↔
        zvols = [] ∨ normalizeDataset z.parentDataset.toList = z.parentDataset.toList) ∧
      ∀ volumeID, poolFromVolumeID volumeID = .ok z.pool →
        (z.datasetName volumeID).toList ∈ zvols.map (Zvol.name · z) →
        ((∃ volumes, Inverted z devZvolBase zvols volumes ∧
            volumeID ∈ volumes.map (·.volumeID)) ↔
          normalizeDataset z.parentDataset.toList = z.parentDataset.toList ∧
            ∀ part ∈ (volumeName z.pool volumeID).splitOn '/', IsName part) := by
  have hlisted := listVolumes_eq (z := z) devZvolBase zvols
  set volumes : List VolumeInfo := zvols.map fun v => ⟨listedID z v, v.volsize,
    join [devZvolBase, (z.datasetName (listedID z v)).toList]⟩ with hvolumes
  have hids : volumes.map (·.volumeID) = zvols.map (listedID z) := by simp [hvolumes]
  have hcanonical : ∀ {given}, Inverted z devZvolBase zvols given → given = volumes ∧
      (zvols = [] ∨ normalizeDataset z.parentDataset.toList = z.parentDataset.toList) := by
    intro given hinverted
    obtain rfl := Option.some.inj (hlisted.symm.trans hinverted.listed)
    refine ⟨rfl, ?_⟩
    have hnamed := hinverted.named
    cases zvols with
    | nil => exact .inl rfl
    | cons v zvols =>
      right
      exact (datasetName_listedID_iff hvalid hpool v).mp (List.cons.inj hnamed).1
  have hinverted : normalizeDataset z.parentDataset.toList = z.parentDataset.toList →
      Inverted z devZvolBase zvols volumes := by
    intro hcanonical
    have hnames : volumes.map (fun v => (z.datasetName v.volumeID).toList) =
        zvols.map (Zvol.name · z) := by
      rw [hvolumes, List.map_map]
      exact List.map_congr_left fun v _ => (datasetName_listedID_iff hvalid hpool v).mpr hcanonical
    refine ⟨hlisted, hnames, List.Nodup.of_map (fun id => (z.datasetName id).toList) ?_⟩
    rw [List.map_map]
    exact hnames ▸ hnodup
  constructor
  · constructor
    · rintro ⟨given, hgiven⟩
      exact (hcanonical hgiven).2
    · rintro (rfl | h)
      · exact ⟨[], rfl, rfl, List.nodup_nil⟩
      · exact ⟨volumes, hinverted h⟩
  · intro volumeID hid hcreated
    obtain ⟨v, hv, hname⟩ := List.mem_map.mp hcreated
    constructor
    · rintro ⟨given, hgiven, hmem⟩
      obtain ⟨rfl, hempty | h⟩ := hcanonical hgiven
      · rw [hempty] at hv
        cases hv
      · rw [hids] at hmem
        obtain ⟨w, -, rfl⟩ := List.mem_map.mp hmem
        have hw := (datasetName_listedID_iff hvalid hpool w).mpr h
        exact ⟨h, (eq_listedID_iff hvalid hpool h hid hw).mp rfl⟩
    · rintro ⟨h, hparts⟩
      refine ⟨volumes, hinverted h, ?_⟩
      rw [hids, (eq_listedID_iff hvalid hpool h hid hname.symm).mpr hparts]
      exact List.mem_map_of_mem hv

def k8sZvol : Zvol := ⟨["pvc-1".toList], 1024, by simp, by decide⟩

theorem listing_inverts_naming_k8s :
    ∃ volumes, Inverted { pool := "tank", parentDataset := "k8s" } "/dev/zvol".toList [k8sZvol]
        volumes ∧ "tank/pvc-1" ∈ volumes.map (·.volumeID) := by
  have hlisting := listing_inverts_naming (z := { pool := "tank", parentDataset := "k8s" })
    (by decide) (by decide) "/dev/zvol".toList [k8sZvol] (by simp)
  exact (hlisting.2 "tank/pvc-1" (by decide) (by decide)).mpr ⟨by decide, by decide⟩

/-- With a trailing slash, which the layout validation takes for the same parent,
the listed ID names another dataset. -/
theorem listing_of_other_spelling : normalizeDataset "k8s/".toList = normalizeDataset "k8s".toList ∧
      validateAgentZFS { pool := "tank", parentDataset := "k8s/" } = true ∧
      ((listVolumes { pool := "tank", parentDataset := "k8s/" } "/dev/zvol".toList
          [("tank/k8s/pvc-1".toList, some 1024)]).map fun volumes => volumes.map fun v =>
        (v.volumeID, ({ pool := "tank", parentDataset := "k8s/" } : ZvolBackend).datasetName
          v.volumeID)) = some [("tank/tank/k8s/pvc-1", "tank/k8s/tank/k8s/pvc-1")] := by
  decide

structure DatasetBackend where
  (pool parentDataset mountRoot : List Char)

def validVolumeCharacter (c : Char) : Bool :=
  c.isAlphanum || c = '_' || c = '-' || c = '.' || c = ':'

def validVolumeLeaf : Bool :=
  s ≠ [] && s ≠ ['.'] && s ≠ ['.', '.'] && s.head? ≠ some '-' && s.all validVolumeCharacter

def validDatasetPath (allowEmpty : Bool) : Bool :=
  if s = [] then allowEmpty
  else if s.head? = some '/' ∨ '\\' ∈ s then false
  else (s.splitOn '/').all validVolumeLeaf

inductive ResolveError where
  | invalidLayout
  | layoutMismatch
  | unsafeName
  deriving DecidableEq

variable (d : DatasetBackend)

def DatasetBackend.validLayout : Bool :=
  validVolumeLeaf d.pool && validDatasetPath d.parentDataset true

def DatasetBackend.resolve (volumeID : List Char) : Except ResolveError (List Char × List Char) :=
  if d.validLayout = false then .error .invalidLayout
  else if ¬ (d.pool ++ ['/']) <+: volumeID then .error .layoutMismatch
  else
    let leaf := trimPrefix volumeID (d.pool ++ ['/'])
    if validVolumeLeaf leaf = false then .error .unsafeName
    else if d.parentDataset = [] then .ok (d.pool ++ '/' :: leaf, leaf)
    else .ok (d.pool ++ '/' :: normalizeDataset d.parentDataset ++ '/' :: leaf, leaf)

def components (path : List Char) : List (List Char) := cleanParts true (path.splitOn '/')

/-- `filepath.Rel` of absolute paths, in components. -/
def rel : List (List Char) → List (List Char) → List (List Char)
  | b :: base, t :: target =>
    if b = t then rel base target
    else List.replicate (base.length + 1) ['.', '.'] ++ t :: target
  | base, target => List.replicate base.length ['.', '.'] ++ target

def DatasetBackend.candidate (leaf : List Char) : List Char :=
  let parent := normalizeDataset d.parentDataset
  clean (join ([d.mountRoot, d.pool] ++ (if parent ≠ [] then [parent] else []) ++ [leaf]))

def DatasetBackend.mountPath (leaf : List Char) : List Char :=
  if d.mountRoot.head? ≠ some '/' then []
  else if d.validLayout = false ∨ validVolumeLeaf leaf = false then []
  else if (rel (components (clean d.mountRoot)) (components (d.candidate leaf))).head? =
      some ['.', '.'] then []
  else d.candidate leaf

theorem isName_of_validVolumeLeaf {s : List Char} (h : validVolumeLeaf s = true) : IsName s := by
  simp only [validVolumeLeaf, Bool.and_eq_true, decide_eq_true_eq, List.all_eq_true] at h
  obtain ⟨⟨⟨⟨hne, hdot⟩, hdots⟩, -⟩, hchars⟩ := h
  exact ⟨hne, fun hmem => absurd (hchars '/' hmem) (by decide), hdot, hdots⟩

def DatasetBackend.parents : List (List Char) :=
  if d.parentDataset = [] then [] else d.parentDataset.splitOn '/'

theorem parents_isName_of_valid {d : DatasetBackend} (h : d.validLayout = true) :
    ∀ part ∈ d.parents, IsName part := by
  intro part hpart
  have hpath := (Bool.and_eq_true_iff.mp h).2
  unfold validDatasetPath at hpath
  unfold DatasetBackend.parents at hpart
  split at hpart
  · cases hpart
  · rw [if_neg ‹_›] at hpath
    split at hpath
    · cases hpath
    · exact isName_of_validVolumeLeaf (List.all_eq_true.mp hpath part hpart)

theorem normalizeDataset_parent {d : DatasetBackend} (h : d.validLayout = true) :
    normalizeDataset d.parentDataset = d.parentDataset := by
  by_cases hempty : d.parentDataset = []
  · rw [hempty]
    decide
  · have hparts := parents_isName_of_valid h
    rw [DatasetBackend.parents, if_neg hempty] at hparts
    rw [normalizeDataset_eq fun part hpart => (hparts part hpart).2.2,
      List.filter_eq_self.mpr fun part hpart => by simpa using (hparts part hpart).1]
    exact List.intercalate_splitOn '/'

section Confinement

variable {d : DatasetBackend} {volumeID dataset leaf : List Char} {parts : List (List Char)}

def DatasetBackend.names (d : DatasetBackend) (leaf : List Char) : List (List Char) :=
  d.pool :: d.parents ++ [leaf]

theorem names_isName (hlayout : d.validLayout = true) (hleaf : IsName leaf) :
    ∀ part ∈ d.names leaf, IsName part := by
  have hpool := isName_of_validVolumeLeaf (Bool.and_eq_true_iff.mp hlayout).1
  have hparents := parents_isName_of_valid hlayout
  simpa [DatasetBackend.names, or_imp, forall_and, hpool, hleaf] using hparents

theorem resolve_ok (h : d.resolve volumeID = .ok (dataset, leaf)) :
    d.validLayout = true ∧ IsName leaf ∧ volumeID = d.pool ++ '/' :: leaf ∧
      dataset = ['/'].intercalate (d.names leaf) := by
  unfold DatasetBackend.resolve at h
  split at h
  · cases h
  split at h
  · cases h
  rename_i hlayout hfront
  rw [Bool.not_eq_false] at hlayout
  obtain ⟨rest, rfl⟩ := not_not.mp hfront
  simp only [trimPrefix_append] at h
  split at h
  · cases h
  rename_i hleaf
  rw [Bool.not_eq_false] at hleaf
  rw [normalizeDataset_parent hlayout] at h
  split at h <;> cases h <;> refine ⟨hlayout, isName_of_validVolumeLeaf hleaf, by simp, ?_⟩ <;>
    rw [DatasetBackend.names, DatasetBackend.parents]
  · rw [if_pos ‹_›]
    simp [List.intercalate_cons_cons]
  · rw [if_neg ‹_›, intercalate_append _ _ _ (List.cons_ne_nil leaf []),
      List.intercalate_cons_of_ne_nil (List.splitOn_ne_nil _ _), List.intercalate_splitOn]
    simp

theorem cleanParts_append (front : List (List Char)) (hparts : ∀ part ∈ parts, IsName part) :
    cleanParts true (front ++ parts) = cleanParts true front ++ parts := by
  have hkept : parts.filter (· ≠ []) = parts :=
    List.filter_eq_self.mpr fun part hpart => by simpa using (hparts part hpart).1
  rw [cleanParts, cleanParts, List.foldl_append,
    foldl_cleanStep fun part hpart => (hparts part hpart).2.2, hkept]
  simp

theorem components_isName (path : List Char) : ∀ part ∈ components path, IsName part := by
  intro part hpart
  obtain ⟨hmem, hne, hdot, hdots⟩ := mem_cleanParts hpart
  exact ⟨hne, not_mem_of_mem_splitOn hmem, hdot, hdots rfl⟩

theorem clean_rooted {path : List Char} (h : path.head? = some '/') :
    clean path = '/' :: ['/'].intercalate (components path) := by
  simp [clean, components, h]

theorem components_intercalate (hne : parts ≠ []) (hparts : ∀ part ∈ parts, IsName part) :
    components ('/' :: ['/'].intercalate parts) = parts := by
  have hsplit := splitOn_append_cons '/' [] (['/'].intercalate parts)
  rw [List.splitOn_intercalate _ (fun part hpart => (hparts part hpart).2.1) hne] at hsplit
  have hclean := cleanParts_append (List.splitOn '/' []) hparts
  rw [List.nil_append] at hsplit
  rw [components, hsplit, hclean]
  rfl

theorem candidate_eq (hroot : d.mountRoot.head? = some '/') (hlayout : d.validLayout = true)
    (hleaf : IsName leaf) :
    d.candidate leaf = '/' :: ['/'].intercalate (components d.mountRoot ++ d.names leaf) := by
  have hnames := names_isName hlayout hleaf
  obtain ⟨c, root, hcons⟩ : ∃ c root, d.mountRoot = c :: root :=
    List.exists_cons_of_ne_nil fun h => by simp [h] at hroot
  let rest := d.pool :: (if d.parentDataset ≠ [] then [d.parentDataset] else []) ++ [leaf]
  have hpool : IsName d.pool := hnames _ (by simp [DatasetBackend.names])
  have hrest : rest.flatMap (·.splitOn '/') = d.names leaf := by
    have hone := List.splitOn_eq_singleton hpool.2.1
    have hlast := List.splitOn_eq_singleton hleaf.2.1
    by_cases hempty : d.parentDataset = [] <;>
      simp [rest, DatasetBackend.names, DatasetBackend.parents, hempty, hone, hlast]
  have hkept : (d.mountRoot :: rest).filter (· ≠ []) = d.mountRoot :: rest := by
    by_cases hempty : d.parentDataset = [] <;>
      simp [rest, hempty, hpool.1, hleaf.1, hcons]
  have hhead : (['/'].intercalate (d.mountRoot :: rest)).head? = some '/' := by
    rw [List.intercalate_cons_of_ne_nil (by simp [rest]), hcons]
    simpa [hcons] using hroot
  have hjoin : join (d.mountRoot :: rest) =
      '/' :: ['/'].intercalate (components d.mountRoot ++ d.names leaf) := by
    unfold join
    rw [hkept]
    simp only
    rw [clean_rooted hhead, components, splitOn_intercalate_flatMap, List.flatMap_cons, hrest,
      cleanParts_append _ hnames]
    rfl
  unfold DatasetBackend.candidate
  rw [normalizeDataset_parent hlayout]
  change clean (join (d.mountRoot :: rest)) = _
  rw [hjoin, clean_rooted rfl, components_intercalate]
  · simp [DatasetBackend.names]
  · exact List.forall_mem_append.mpr ⟨components_isName _, hnames⟩

theorem mountPath_eq (h : d.mountPath leaf ≠ []) :
    d.mountRoot.head? = some '/' ∧ (d.mountPath leaf).head? = some '/' ∧
      components (d.mountPath leaf) = components d.mountRoot ++ d.names leaf := by
  unfold DatasetBackend.mountPath at h ⊢
  split at h
  · exact absurd rfl h
  split at h
  · exact absurd rfl h
  split at h
  · exact absurd rfl h
  rename_i hroot hvalid hrel
  rw [if_neg hroot, if_neg hvalid, if_neg hrel]
  rw [not_not] at hroot
  rw [not_or, Bool.not_eq_false, Bool.not_eq_false] at hvalid
  have hleaf := isName_of_validVolumeLeaf hvalid.2
  rw [candidate_eq hroot hvalid.1 hleaf]
  refine ⟨hroot, rfl, components_intercalate (by simp [DatasetBackend.names]) ?_⟩
  exact List.forall_mem_append.mpr ⟨components_isName _, names_isName hvalid.1 hleaf⟩

/-- Every dataset and mount path of a backend is an entry of its own right
below the parent, whatever the configuration and the volume ID. -/
theorem datasets_confined (d : DatasetBackend) :
    (∀ volumeID dataset leaf, d.resolve volumeID = .ok (dataset, leaf) →
      dataset.splitOn '/' = d.pool :: d.parents ++ [leaf] ∧
      ∀ other dataset' leaf', d.resolve other = .ok (dataset', leaf') → other ≠ volumeID →
        dataset' ≠ dataset ∧ leaf' ≠ leaf) ∧ ∀ leaf, d.mountPath leaf ≠ [] →
      d.mountRoot.head? = some '/' ∧ (d.mountPath leaf).head? = some '/' ∧
      (∃ below ≠ [], components (d.mountPath leaf) = components d.mountRoot ++ below) ∧
      ∀ other, other ≠ leaf → d.mountPath other ≠ d.mountPath leaf ∧ (d.mountPath other ≠ [] →
        ¬ components (d.mountPath leaf) <+: components (d.mountPath other)) := by
  constructor
  · intro volumeID dataset leaf h
    obtain ⟨hlayout, hleaf, rfl, rfl⟩ := resolve_ok h
    have hsplit : ∀ {leaf}, IsName leaf →
        (['/'].intercalate (d.names leaf)).splitOn '/' = d.names leaf := fun hleaf =>
      List.splitOn_intercalate _ (fun part hpart => (names_isName hlayout hleaf part hpart).2.1)
        (by simp [DatasetBackend.names])
    refine ⟨hsplit hleaf, fun other dataset' leaf' hother hne => ?_⟩
    obtain ⟨-, hleaf', rfl, rfl⟩ := resolve_ok hother
    have hleaves : leaf' ≠ leaf := fun heq => hne (by rw [heq])
    refine ⟨fun heq => hleaves ?_, hleaves⟩
    have hnames := congrArg (List.splitOn '/') heq
    rw [hsplit hleaf, hsplit hleaf'] at hnames
    simpa [DatasetBackend.names] using hnames
  · intro leaf h
    obtain ⟨hroot, hhead, hparts⟩ := mountPath_eq h
    have hprefix : ∀ other, other ≠ leaf → d.mountPath other ≠ [] →
        ¬ components (d.mountPath leaf) <+: components (d.mountPath other) := by
      intro other hne hother hle
      rw [hparts, (mountPath_eq hother).2.2] at hle
      have heq := hle.eq_of_length (by simp [DatasetBackend.names])
      exact hne (by simpa [DatasetBackend.names] using heq.symm)
    refine ⟨hroot, hhead, ⟨d.names leaf, by simp [DatasetBackend.names], hparts⟩, ?_⟩
    refine fun other hne => ⟨fun heq => ?_, hprefix other hne⟩
    exact hprefix other hne (heq ▸ h) (heq ▸ List.prefix_rfl)

def k8sDatasets : DatasetBackend :=
  { pool := "tank".toList, parentDataset := "k8s".toList, mountRoot := "/srv/../volumes".toList }

theorem datasets_confined_k8s :
    (∃ dataset leaf, k8sDatasets.resolve "tank/pvc-1".toList = .ok (dataset, leaf) ∧
      dataset.splitOn '/' = k8sDatasets.pool :: k8sDatasets.parents ++ [leaf]) ∧
    k8sDatasets.mountPath "pvc-1".toList = "/volumes/tank/k8s/pvc-1".toList ∧
    ¬ components (k8sDatasets.mountPath "pvc-1".toList) <+:
      components (k8sDatasets.mountPath "pvc-10".toList) := by
  have hresolve : k8sDatasets.resolve "tank/pvc-1".toList =
      .ok ("tank/k8s/pvc-1".toList, "pvc-1".toList) := by decide +kernel
  obtain ⟨hdatasets, hmounts⟩ := datasets_confined k8sDatasets
  obtain ⟨-, -, -, hother⟩ := hmounts "pvc-1".toList (by decide +kernel)
  exact ⟨⟨_, _, hresolve, (hdatasets _ _ _ hresolve).1⟩, by decide +kernel,
    (hother "pvc-10".toList (by decide)).2 (by decide +kernel)⟩

end Confinement

end PillarCsi.DatasetNames
