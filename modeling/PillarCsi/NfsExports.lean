import Mathlib.Data.List.Sort
import Mathlib.Data.List.Dedup
import Mathlib.Data.String.Basic
import PillarCsi.CheckedComputations

/-!
The admission policy of one NFS export: how a policy is normalised, whom it
admits, the options it asks for and when options read back enforce them.
-/

namespace PillarCsi.NfsExports

open CheckedComputations

/-- Numeric addresses as the network library reads and prints them: what it
printed it reads back. -/
structure Addresses where
  Addr : Type
  unicastAddress : String → Option Addr
  is4 : Addr → Bool
  text : Addr → String
  unicastAddress_text : ∀ s a, unicastAddress s = some a → unicastAddress (text a) = some a

inductive Squash where
  | unset
  | root
  | none
  | all
  | other (text : String)
  deriving DecidableEq, Repr

structure Export where
  (volumeID path bindAddress version : String)
  squash : Squash
  (readOnly aclEnabled : Bool)
  clients : List String
  active : Bool
  (sourceKey fenceUID : String)
  deriving DecidableEq, Repr

/-- One field of a comma-separated option text: a word, or a setting with a
value. -/
inductive Flag where
  | word (text : String)
  | setting (key value : String)
  deriving DecidableEq, Repr

def rootVolumeID : String := "::pillar-nfs-root::"

def nfsVersion : String := "4.2"

inductive NfsError where
  | canceled
  | volumeIDRequired
  | unsafePath (path : String)
  | address (text : String)
  | version (text : String)
  | squash (text : String)
  | clientFamily (client : String)
  | notUnderRoot (path : String)
  | pseudorootPolicy
  | configurationMismatch
  | persistedIdentity
  | persistedListener
  | stateUnreadable
  | ownershipLock
  | runtimeIdentity
  | runtimeStart
  | runtimeHealth
  | runtimeClose
  | notRunning
  | closed
  | daemon
  | listing
  | granting
  | revoking
  | persisting
  | mountTable
  | unavailable (volumeID : String)
  | foreignExport (path : String)
  | foreignConflict (volumeID : String)
  | readbackMismatch (path : String)
  | readbackMissing
  | reservedIdentity
  | notADirectory (path : String)
  | bindAddressConflict
  | pathChanged
  | hintChanged
  | pathTaken
  | notExported
  deriving DecidableEq, Repr

/-- `safeExportPath`: absolute, clean, not the root and free of characters that
the admission table gives a meaning to. -/
def safeExportPath (path : String) : Bool :=
  (match path.toList.splitOn '/' with
    | [] :: parts => parts.all fun part => part ≠ [] ∧ part ≠ ['.'] ∧ part ≠ ['.', '.']
    | _ => false) &&
  path.toList.all fun c => c ∉ [' ', '\t', '\r', '\n', '\x00', ':', '(', ')', '\\']

/-- An installation of the manager: its configuration, the address library and
how the admission table shows the options of a grant. -/
structure Config where
  addresses : Addresses
  bind : addresses.Addr
  exportRoot : String
  /-- The file system identity of a volume, a digest of its ID. -/
  FSID : String → String
  /-- The options a grant is listed with: defaults are filled in, the file
  system identity stays. -/
  readback : List Flag → List Flag
  /-- There is a `BeforeActivate` guard. -/
  guarded : Bool
  bind_readable : addresses.unicastAddress (addresses.text bind) = some bind
  exportRoot_safe : safeExportPath exportRoot = true
  readback_fsid : ∀ flags value,
    Flag.setting "fsid" value ∈ readback flags ↔ Flag.setting "fsid" value ∈ flags

variable (config : Config)

def Config.bindAddress : String := config.addresses.text config.bind

/-- `ExportPath`, on paths that `safeExportPath` accepts: the path relative to
the export root. -/
def exportPath (path : String) : Except NfsError String :=
  if (config.exportRoot.toList ++ ['/']) <+: path.toList then
    .ok (String.ofList (path.toList.drop config.exportRoot.length))
  else .error (.notUnderRoot path)

theorem ne_exportRoot_of_exportPath {path rel : String} (h : exportPath config path = .ok rel) :
    path ≠ config.exportRoot := by
  rintro rfl
  unfold exportPath at h
  split at h
  · rename_i hunder
    have hlength := hunder.length_le
    simp at hlength
  · cases h

def sortCompact (clients : List String) : List String :=
  (clients.insertionSort (· ≤ ·)).dedup

variable {clients : List String} {client : String} {e : Export} {actual wanted : List Flag}

@[simp] theorem mem_sortCompact : client ∈ sortCompact clients ↔ client ∈ clients := by
  simp [sortCompact]

theorem pairwise_sortCompact (clients : List String) : (sortCompact clients).Pairwise (· < ·) := by
  have hsorted : (sortCompact clients).Pairwise (· ≤ ·) :=
    (List.pairwise_insertionSort (· ≤ ·) clients).sublist (List.dedup_sublist _)
  have hnodup : (sortCompact clients).Pairwise (· ≠ ·) := List.nodup_dedup _
  exact (hsorted.and hnodup).imp fun h => lt_of_le_of_ne h.1 h.2

theorem sortCompact_of_pairwise (h : clients.Pairwise (· < ·)) : sortCompact clients = clients := by
  have hsorted : clients.Pairwise (· ≤ ·) := h.imp le_of_lt
  have hnodup : clients.Nodup := h.imp ne_of_lt
  rw [sortCompact, hsorted.insertionSort_eq, hnodup.dedup]

section Normalisation

variable (addresses : Addresses) (bind : addresses.Addr)

def normalizeClient (client : String) : Except NfsError String :=
  match addresses.unicastAddress client with
  | none => .error (.address client)
  | some ip =>
    if addresses.is4 ip = addresses.is4 bind then .ok (addresses.text ip)
    else .error (.clientFamily client)

def normalizeClients (clients : List String) : Except NfsError (List String) := do
  let canonical ← clients.mapM (normalizeClient addresses bind)
  pure (sortCompact canonical)

def normalizeSquash : Squash → Except NfsError Squash
  | .unset => .ok .root
  | .other text => .error (.squash text)
  | squash => .ok squash

/-- `normalizePolicy`: the default version and squash filled in, others
refused. -/
def normalizePolicy (e : Export) : Except NfsError Export :=
  if e.version = "" ∨ e.version = nfsVersion then
    (normalizeSquash e.squash).map fun squash => { e with version := nfsVersion, squash := squash }
  else .error (.version e.version)

def normalized (e : Export) : Except NfsError Export :=
  if e.volumeID = "" then .error .volumeIDRequired
  else if safeExportPath e.path = false then .error (.unsafePath e.path)
  else
    match addresses.unicastAddress e.bindAddress with
    | none => .error (.address e.bindAddress)
    | some addr => do
      let e ← normalizePolicy { e with bindAddress := addresses.text addr }
      let clients ← normalizeClients addresses addr e.clients
      pure { e with clients := if e.aclEnabled then clients else [] }

/-- Client addresses in the listener's family, as the library prints them,
sorted and without repetition. -/
structure Canonical (clients : List String) : Prop where
  sorted : clients.Pairwise (· < ·)
  readable : ∀ client ∈ clients, normalizeClient addresses bind client = .ok client

variable {addresses bind}

theorem normalizeClient_idem {canonical : String}
    (h : normalizeClient addresses bind client = .ok canonical) :
    normalizeClient addresses bind canonical = .ok canonical := by
  unfold normalizeClient at h
  split at h
  · cases h
  · rename_i ip hip
    split at h
    · rename_i hfamily
      cases h
      simp [normalizeClient, addresses.unicastAddress_text client ip hip, hfamily]
    · cases h

theorem canonical_of_normalizeClients {canonical : List String}
    (h : normalizeClients addresses bind clients = .ok canonical) :
    Canonical addresses bind canonical := by
  obtain ⟨texts, hmap, h⟩ := exists_of_bind_eq_ok h
  cases h
  refine ⟨pairwise_sortCompact texts, fun client hclient => ?_⟩
  exact forall_mem_of_mapM_eq_ok (fun _ _ _ => normalizeClient_idem) hmap client
    (mem_sortCompact.mp hclient)

theorem Canonical.normalizeClients_eq (h : Canonical addresses bind clients) :
    normalizeClients addresses bind clients = .ok clients := by
  rw [normalizeClients, mapM_eq_self h.readable]
  exact congrArg Except.ok (sortCompact_of_pairwise h.sorted)

theorem Canonical.filter (h : Canonical addresses bind clients)
    (keep : String → Bool) : Canonical addresses bind (clients.filter keep) :=
  ⟨h.sorted.sublist List.filter_sublist,
    fun client hclient => h.readable client (List.mem_of_mem_filter hclient)⟩

theorem canonical_nil : Canonical addresses bind [] := ⟨.nil, by simp⟩

theorem canonical_sortCompact
    (h : ∀ client ∈ clients, normalizeClient addresses bind client = .ok client) :
    Canonical addresses bind (sortCompact clients) :=
  ⟨pairwise_sortCompact clients, fun client hclient => h client (mem_sortCompact.mp hclient)⟩

variable (addresses) in
structure Normal (e : Export) : Prop where
  volumeID : e.volumeID ≠ ""
  path : safeExportPath e.path = true
  address : ∃ addr, addresses.unicastAddress e.bindAddress = some addr ∧
    addresses.text addr = e.bindAddress ∧ Canonical addresses addr e.clients
  version : e.version = nfsVersion
  squash : e.squash = .root ∨ e.squash = .none ∨ e.squash = .all
  open_clients : e.aclEnabled = false → e.clients = []

theorem normalizeSquash_ok {squash normal : Squash} (h : normalizeSquash squash = .ok normal) :
    normal = .root ∨ normal = .none ∨ normal = .all := by
  cases squash <;> cases h <;> simp

theorem normalized_ok {e' : Export} (h : normalized addresses e = .ok e') :
    Normal addresses e' ∧ ∃ address version squash clients,
      e' = { e with bindAddress := address, version := version, squash := squash,
                    clients := clients } := by
  unfold normalized at h
  split at h
  · cases h
  · rename_i hid
    split at h
    · cases h
    · rename_i hpath
      split at h
      · cases h
      · rename_i addr haddr
        obtain ⟨policy, hpolicy, h⟩ := exists_of_bind_eq_ok h
        obtain ⟨clients, hclients, h⟩ := exists_of_bind_eq_ok h
        cases h
        unfold normalizePolicy at hpolicy
        split at hpolicy
        · obtain ⟨squash, hsquash, rfl⟩ := exists_of_map_eq_ok hpolicy
          refine ⟨⟨hid, by simpa using hpath, ⟨addr, ?_, rfl, ?_⟩, rfl,
            normalizeSquash_ok hsquash, ?_⟩, _, _, _, _, rfl⟩
          · exact addresses.unicastAddress_text _ _ haddr
          · dsimp only
            split
            · exact canonical_of_normalizeClients hclients
            · exact canonical_nil
          · intro hacl
            simp_all
        · cases hpolicy

/-- The clients of a normalised policy are those of the request, as the library
prints them. -/
theorem normalized_clients {e' : Export} (h : normalized addresses e = .ok e') :
    ∀ client ∈ e'.clients, ∃ given ∈ e.clients, ∃ ip,
      addresses.unicastAddress given = some ip ∧ addresses.text ip = client := by
  unfold normalized at h
  split at h
  · cases h
  split at h
  · cases h
  split at h
  · cases h
  obtain ⟨policy, hpolicy, h⟩ := exists_of_bind_eq_ok h
  obtain ⟨clients, hclients, h⟩ := exists_of_bind_eq_ok h
  cases h
  have hsame : policy.clients = e.clients := by
    unfold normalizePolicy at hpolicy
    split at hpolicy
    · obtain ⟨squash, -, rfl⟩ := exists_of_map_eq_ok hpolicy
      rfl
    · cases hpolicy
  obtain ⟨texts, hmap, htexts⟩ := exists_of_bind_eq_ok hclients
  cases htexts
  intro client hclient
  dsimp only at hclient
  split at hclient
  · refine forall_mem_of_mapM_eq_ok (Q := fun client => ∃ given ∈ e.clients, ∃ ip,
      addresses.unicastAddress given = some ip ∧ addresses.text ip = client)
      (fun given hgiven text htext => ?_) hmap client (mem_sortCompact.mp hclient)
    unfold normalizeClient at htext
    split at htext
    · cases htext
    · rename_i ip hip
      split at htext
      · exact ⟨given, hsame ▸ hgiven, ip, hip, Except.ok.inj htext⟩
      · cases htext
  · cases hclient

theorem Normal.normalized_withClients (h : Normal addresses e) {addr : addresses.Addr}
    (haddr : addresses.unicastAddress e.bindAddress = some addr)
    (htext : addresses.text addr = e.bindAddress) (clients : List String) :
    normalized addresses { e with clients := clients } =
      (normalizeClients addresses addr clients).map fun canonical =>
        { e with clients := if e.aclEnabled then canonical else [] } := by
  have hsquash : normalizeSquash e.squash = .ok e.squash := by
    rcases h.squash with hs | hs | hs <;> rw [hs] <;> rfl
  have hpolicy : normalizePolicy { e with clients := clients, bindAddress := addresses.text addr } =
      .ok { e with clients := clients } := by
    rw [normalizePolicy, if_pos (Or.inr h.version), hsquash, htext]
    simp [Except.map, ← h.version]
  rw [normalized, if_neg h.volumeID, if_neg (by simp [h.path]), haddr]
  simp only [hpolicy, Bind.bind, Except.bind]
  cases normalizeClients addresses addr clients <;> rfl

theorem Normal.normalized_eq (h : Normal addresses e) : normalized addresses e = .ok e := by
  obtain ⟨addr, haddr, htext, hcanonical⟩ := h.address
  have hclients : (if e.aclEnabled then e.clients else []) = e.clients := by
    split
    · rfl
    · next hacl => rw [h.open_clients (by simpa using hacl)]
  have hself := h.normalized_withClients haddr htext e.clients
  rw [hcanonical.normalizeClients_eq] at hself
  simpa [Except.map, hclients] using hself

end Normalisation

/-- `clients`: nobody while inactive, everybody without access control. -/
def Export.admitted (e : Export) : List String :=
  if e.active = false then []
  else if e.aclEnabled = false then ["*"]
  else e.clients

/-- Both ownership hints of an adopted filesystem are there. -/
def Export.adopted (e : Export) : Prop :=
  e.volumeID ≠ rootVolumeID ∧ e.sourceKey ≠ "" ∧ e.fenceUID ≠ ""
  deriving Decidable

def Export.fsid (e : Export) : String :=
  if e.volumeID = rootVolumeID then "0" else config.FSID e.volumeID

def Export.squashWord (e : Export) : String :=
  match e.squash with
  | .none => "no_root_squash"
  | .all => "all_squash"
  | _ => "root_squash"

def Export.options (e : Export) : List Flag :=
  [.word (if e.readOnly then "ro" else "rw"), .word "sync", .word "no_subtree_check",
    .word "secure", .setting "sec" "sys", .setting "fsid" (e.fsid config), .word e.squashWord] ++
    if e.adopted then [.word "nohide"] else []

/-- `optionValue`: the first value that the options give a key. -/
def optionValue (options : List Flag) (key : String) : String :=
  match options with
  | [] => ""
  | .setting k value :: rest => if k = key then value else optionValue rest key
  | .word _ :: rest => optionValue rest key

/-- The word that takes back a word of the options. -/
def opposite : Flag → Option Flag
  | .word "ro" => some (.word "rw")
  | .word "rw" => some (.word "ro")
  | .word "root_squash" => some (.word "no_root_squash")
  | .word "no_root_squash" => some (.word "root_squash")
  | .word "all_squash" => some (.word "no_all_squash")
  | .word "secure" => some (.word "insecure")
  | .word "sync" => some (.word "async")
  | .word "no_subtree_check" => some (.word "subtree_check")
  | .word "nohide" => some (.word "hide")
  | _ => none

def optionsMatch (actual wanted : List Flag) : Bool :=
  decide (.word "crossmnt" ∉ actual) &&
  (wanted.all fun option => decide (option ∈ actual) &&
    (match opposite option with
      | some other => decide (other ∉ actual)
      | none => true)) &&
  decide (.word "nohide" ∈ actual ↔ .word "nohide" ∈ wanted)

def Says (options : List Flag) (yes no : String) : Prop :=
  Flag.word yes ∈ options ∧ Flag.word no ∉ options

/-- The options enforce a policy: its access mode, squash mode and security
flags without their opposites, its file system identity, and the traversal of
an adopted dataset and of no other. -/
structure Enforces (e : Export) (options : List Flag) : Prop where
  access : if e.readOnly then Says options "ro" "rw" else Says options "rw" "ro"
  squash : match e.squash with
    | .none => Says options "no_root_squash" "root_squash"
    | .all => Says options "all_squash" "no_all_squash"
    | _ => Says options "root_squash" "no_root_squash"
  secure : Says options "secure" "insecure"
  flavour : Flag.setting "sec" "sys" ∈ options
  sync : Says options "sync" "async"
  subtree : Says options "no_subtree_check" "subtree_check"
  identity : Flag.setting "fsid" (e.fsid config) ∈ options
  traversal : Flag.word "nohide" ∈ options ↔ e.adopted
  crossing : Flag.word "crossmnt" ∉ options

variable {config}

theorem says_of_optionsMatch (h : optionsMatch actual wanted = true)
    {yes no : String} (hyes : Flag.word yes ∈ wanted)
    (hno : opposite (.word yes) = some (.word no)) : Says actual yes no := by
  simp only [optionsMatch, Bool.and_eq_true, List.all_eq_true] at h
  have hboth := h.1.2 _ hyes
  simp only [hno, decide_eq_true_eq] at hboth
  exact hboth

theorem mem_of_optionsMatch (h : optionsMatch actual wanted = true)
    {flag : Flag} (hflag : flag ∈ wanted) : flag ∈ actual := by
  simp only [optionsMatch, Bool.and_eq_true, List.all_eq_true] at h
  simpa using (h.1.2 _ hflag).1

theorem enforces_of_optionsMatch
    (h : optionsMatch actual (e.options config) = true) : Enforces config e actual := by
  have hword : ∀ word, Flag.word word ∈ e.options config → ∀ other,
      opposite (.word word) = some (.word other) → Says actual word other :=
    fun _ hmem _ hother => says_of_optionsMatch h hmem hother
  have htraversal : Flag.word "nohide" ∈ e.options config ↔ e.adopted := by
    unfold Export.options Export.squashWord
    split <;> split <;> split <;> simp_all
  have hshape := h
  simp only [optionsMatch, Bool.and_eq_true, decide_eq_true_eq] at hshape
  refine
    { access := ?_
      squash := ?_
      secure := hword "secure" (by simp [Export.options]) _ rfl
      flavour := mem_of_optionsMatch h (by simp [Export.options])
      sync := hword "sync" (by simp [Export.options]) _ rfl
      subtree := hword "no_subtree_check" (by simp [Export.options]) _ rfl
      identity := mem_of_optionsMatch h (by simp [Export.options])
      traversal := hshape.2.trans htraversal
      crossing := hshape.1.1 }
  · split
    · next hmode => exact hword "ro" (by simp [Export.options, hmode]) _ rfl
    · next hmode => exact hword "rw" (by simp [Export.options, hmode]) _ rfl
  · split
    · rename_i hsquash
      exact hword "no_root_squash" (by simp [Export.options, Export.squashWord, hsquash]) _ rfl
    · rename_i hsquash
      exact hword "all_squash" (by simp [Export.options, Export.squashWord, hsquash]) _ rfl
    · rename_i hnone hall
      refine hword "root_squash" ?_ _ rfl
      have hsquash : e.squashWord = "root_squash" := by
        unfold Export.squashWord
        split
        · next hsquash => exact absurd hsquash hnone
        · next hsquash => exact absurd hsquash hall
        · rfl
      simp [Export.options, hsquash]

/-- The options give one file system identity. -/
def Identified (options : List Flag) (fsid : String) : Prop :=
  ∀ value, Flag.setting "fsid" value ∈ options ↔ value = fsid

theorem identified_options (e : Export) : Identified (e.options config) (e.fsid config) := by
  intro value
  unfold Export.options
  split <;> simp

variable {options : List Flag}

theorem Identified.readback {fsid : String} (h : Identified options fsid) :
    Identified (config.readback options) fsid :=
  fun value => (config.readback_fsid options value).trans (h value)

theorem optionValue_mem {key value : String}
    (h : Flag.setting key value ∈ options) : Flag.setting key (optionValue options key) ∈ options := by
  induction options with
  | nil => cases h
  | cons flag rest ih =>
    cases flag with
    | word text =>
      have hrest : Flag.setting key value ∈ rest := by simpa using h
      exact .tail _ (ih hrest)
    | setting k v =>
      by_cases hk : k = key
      · simp [optionValue, hk]
      · have hrest : Flag.setting key value ∈ rest := by
          rcases List.mem_cons.mp h with heq | hrest
          · cases heq
            exact absurd rfl hk
          · exact hrest
        simp only [optionValue, hk, if_false]
        exact .tail _ (ih hrest)

theorem Identified.optionValue_eq {fsid : String}
    (h : Identified options fsid) : optionValue options "fsid" = fsid :=
  (h _).mp (optionValue_mem ((h fsid).mpr rfl))

end PillarCsi.NfsExports
