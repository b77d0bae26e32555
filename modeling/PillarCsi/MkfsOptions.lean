import PillarCsi.Getopt
import PillarCsi.SeparatedNames

/-!
The mkfs options a cluster user may set (`csi/mkfs_options.go`), the argument
vector of the mkfs run (`csi/mounter_format_linux.go`,
`csi/mkfs_xfs_profile_linux.go`), and what the tool reads in it.
-/

namespace PillarCsi.MkfsOptions

open Getopt

def defaultFsType : String := "ext4"

def xfsFsType : String := "xfs"

def isSpace (c : Char) : Bool :=
  c.toNat ∈ [0x09, 0x0a, 0x0b, 0x0c, 0x0d, 0x20, 0x85, 0xa0, 0x1680, 0x2000, 0x2001, 0x2002, 0x2003,
    0x2004, 0x2005, 0x2006, 0x2007, 0x2008, 0x2009, 0x200a, 0x2028, 0x2029, 0x202f, 0x205f, 0x3000]

def trimSpace (s : List Char) : List Char := ((s.dropWhile isSpace).reverse.dropWhile isSpace).reverse

def splitComma (s : List Char) : List (List Char) := s.splitOn ','

/-- What stands before the first `=`. -/
def cutKey (token : List Char) : List Char := token.takeWhile (· ≠ '=')

def checkAll (check : α → Except String Unit) : List α → Except String Unit
  | [] => .ok ()
  | a :: rest =>
    match check a with
    | .error e => .error e
    | .ok () => checkAll check rest

theorem checkAll_ok {check : α → Except String Unit} {items : List α}
    (h : checkAll check items = .ok ()) : ∀ a ∈ items, check a = .ok () := by
  induction items with
  | nil => simp
  | cons a rest ih =>
    rw [checkAll] at h
    split at h
    · cases h
    · rename_i ha
      exact List.forall_mem_cons.mpr ⟨ha, ih h⟩

structure MkfsFlag where
  takesValue : Bool := false
  /-- The keys of a comma-separated `key[=value]` list. -/
  subopts : Option (List String) := none
  deniedValues : List String := []
  deriving DecidableEq, Repr

def keyed (subopts : List String) : MkfsFlag := { takesValue := true, subopts := some subopts }

variable (fsType : String)

/-- The flags of each filesystem type, by the letter after the dash. -/
def mkfsFlags : Option (List (Char × MkfsFlag)) :=
  if fsType = defaultFsType then
    some
      [('b', { takesValue := true }),
       ('C', { takesValue := true }),
       ('D', {}),
       ('e', { takesValue := true }),
       ('E', keyed
         ["assume_storage_prezeroed", "discard", "encoding", "encoding_flags",
          "lazy_itable_init", "lazy_journal_init", "no_copy_xattrs", "nodiscard",
          "num_backup_sb", "orphan_file_size", "packed_meta_blocks", "quotatype",
          "resize", "root_owner", "stride", "stripe_width", "stripe-width", "test_fs"]),
       ('F', {}),
       ('g', { takesValue := true }),
       ('G', { takesValue := true }),
       ('i', { takesValue := true }),
       ('I', { takesValue := true }),
       ('j', {}),
       ('J', keyed ["fast_commit_size", "location", "size"]),
       ('L', { takesValue := true }),
       ('m', { takesValue := true }),
       ('M', { takesValue := true }),
       ('N', { takesValue := true }),
       ('o', { takesValue := true }),
       ('O', { takesValue := true, deniedValues := ["journal_dev", "^journal_dev"] }),
       ('q', {}),
       ('r', { takesValue := true }),
       ('T', { takesValue := true }),
       ('U', { takesValue := true }),
       ('v', {})]
  else if fsType = xfsFsType then
    some
      [('b', keyed ["size"]),
       ('d', keyed
         ["agcount", "agsize", "concurrency", "cowextsize", "daxinherit",
          "extszinherit", "noalign", "size", "su", "sunit", "sw", "swidth"]),
       ('f', {}),
       ('i', keyed
         ["align", "attr", "exchange", "maxpct", "nrext64", "projid32bit", "size", "sparse"]),
       ('K', {}),
       ('l', keyed ["agnum", "internal", "lazy-count", "size", "su", "sunit", "version"]),
       ('L', { takesValue := true }),
       ('m', keyed
         ["autofsck", "bigtime", "crc", "finobt", "inobtcount", "metadir", "reflink", "rmapbt",
          "uuid"]),
       ('n', keyed ["ftype", "parent", "size", "version"]),
       ('q', {}),
       ('s', keyed ["size"])]
  else none

def flagName (letter : Char) : String := String.ofList ['-', letter]

/-- `%q` of the first two bytes of an option: of a letter outside ASCII they hold
one byte. -/
def quoteFlagName (letter : Char) : String :=
  if letter.toNat < 128 then (flagName letter).quote
  else "\"-\\x" ++
    String.ofList (Nat.toDigits 16 ((String.utf8EncodeChar letter).headD 0).toNat) ++ "\""

def allowedFlagNames (flags : List (Char × MkfsFlag)) : List String :=
  (flags.map fun f => flagName f.1).mergeSort (· ≤ ·)

def validateMkfsToken (name : String) (spec : MkfsFlag) (token : List Char) : Except String Unit :=
  if String.ofList token ∈ spec.deniedValues then
    .error s!"mkfs option {name} {(String.ofList token).quote} is not allowed for {fsType}"
  else
    match spec.subopts with
    | none => .ok ()
    | some subopts =>
      let key := String.ofList (cutKey token)
      if key ∈ subopts then .ok ()
      else .error (s!"mkfs option {name} sub-option {key.quote} is not allowed for {fsType} " ++
        "(allowed: " ++ String.intercalate "," subopts ++ ")")

def validateMkfsValue (name : String) (spec : MkfsFlag) (value : List Char) : Except String Unit :=
  if trimSpace value = [] ∨ '\x00' ∈ value then
    .error (s!"mkfs option {name} for {fsType} has an empty or invalid value " ++
      s!"{(String.ofList value).quote}")
  else checkAll (validateMkfsToken fsType name spec) (splitComma value)

def notAFlag (i : Nat) (opt : String) : String :=
  s!"mkfs option {i} {opt.quote} is not a single-letter flag such as \"-L\": " ++
    "positional arguments and long options are not accepted"

def validateMkfsOptionsFrom (fsType : String) (flags : List (Char × MkfsFlag)) :
    Nat → List String → Except String Unit
  | _, [] => .ok ()
  | i, opt :: rest =>
    match opt.toList with
    | '-' :: letter :: value =>
      if letter = '-' then .error (notAFlag i opt)
      else
        match flags.lookup letter with
        | none => .error (s!"mkfs option {quoteFlagName letter} is not allowed for {fsType} " ++
            "(allowed: " ++ String.intercalate " " (allowedFlagNames flags) ++ ")")
        | some spec =>
          if spec.takesValue = false then
            if value ≠ [] then
              .error (s!"mkfs option {i} {opt.quote}: {flagName letter} takes no value; " ++
                "list each flag separately")
            else validateMkfsOptionsFrom fsType flags (i + 1) rest
          else if value ≠ [] then
            match validateMkfsValue fsType (flagName letter) spec value with
            | .error e => .error e
            | .ok () => validateMkfsOptionsFrom fsType flags (i + 1) rest
          else
            match rest with
            | [] => .error s!"mkfs option {flagName letter} for {fsType} is missing its value"
            | next :: others =>
              match validateMkfsValue fsType (flagName letter) spec next.toList with
              | .error e => .error e
              | .ok () => validateMkfsOptionsFrom fsType flags (i + 2) others
    | _ => .error (notAFlag i opt)

def validateMkfsOptions (opts : List String) : Except String Unit :=
  match mkfsFlags fsType with
  | none =>
    if opts ≠ [] then .error s!"mkfs options are not supported for filesystem type {fsType.quote}"
    else .ok ()
  | some flags => validateMkfsOptionsFrom fsType flags 0 opts

/-- The sections of an mkfs.xfs configuration file with the letters that take
the same options. -/
def xfsProfileSections : List (String × Char) :=
  [("block", 'b'), ("data", 'd'), ("inode", 'i'), ("log", 'l'), ("metadata", 'm'), ("naming", 'n'),
   ("realtime", 'r'), ("sector", 's')]

/-- The sub-option keys that the user's options set, with their flags. -/
def xfsUserSubopts (flags : List (Char × MkfsFlag)) : List String → List (Char × List Char)
  | [] => []
  | opt :: rest =>
    match opt.toList with
    | _ :: letter :: value =>
      let keys (value : List Char) := (splitComma value).map fun token => (letter, cutKey token)
      if ((flags.lookup letter).map (·.takesValue)).getD false = false then
        xfsUserSubopts flags rest
      else if value ≠ [] then keys value ++ xfsUserSubopts flags rest
      else
        match rest with
        | [] => []
        | next :: others => keys next.toList ++ xfsUserSubopts flags others
    | _ => xfsUserSubopts flags rest

/-- The profile's walk: the flag of the section, its options so far, and the
arguments of the sections before it. -/
structure ProfileWalk where
  flag : Option Char
  subopts : List (List Char)
  args : List String

def ProfileWalk.flush (w : ProfileWalk) : ProfileWalk :=
  match w.flag with
  | some letter =>
    if w.subopts = [] then w
    else
      { w with
        subopts := []
        args := w.args ++ [flagName letter, String.ofList ([','].intercalate w.subopts)] }
  | none => { w with subopts := [] }

def xfsProfileLine (userSet : List (Char × List Char)) (n : Nat) (w : ProfileWalk) (raw : List Char) :
    Except String ProfileWalk :=
  let line := trimSpace raw
  match line with
  | [] => .ok w
  | '#' :: _ => .ok w
  | ';' :: _ => .ok w
  | '[' :: body =>
    match (if body.getLast? = some ']' then
      xfsProfileSections.lookup (String.ofList (trimSpace body.dropLast)) else none) with
    | none => .error s!"line {n + 1}: unsupported section {(String.ofList line).quote}"
    | some letter => .ok { w.flush with flag := some letter }
  | _ =>
    let key := trimSpace (cutKey line)
    let value := trimSpace ((line.dropWhile (· ≠ '=')).drop 1)
    match w.flag with
    | none => .error (s!"line {n + 1}: {(String.ofList line).quote} is not a key=value option " ++
        "of a section")
    | some letter =>
      if '=' ∉ line ∨ key = [] ∨ value = [] then
        .error (s!"line {n + 1}: {(String.ofList line).quote} is not a key=value option " ++
          "of a section")
      else if (letter, key) ∈ userSet then .ok w
      else .ok { w with subopts := w.subopts ++ [key ++ '=' :: value] }

def xfsProfileLines (userSet : List (Char × List Char)) :
    Nat → ProfileWalk → List (List Char) → Except String ProfileWalk
  | _, w, [] => .ok w
  | n, w, line :: rest =>
    match xfsProfileLine userSet n w line with
    | .error e => .error e
    | .ok next => xfsProfileLines userSet (n + 1) next rest

def xfsProfileArgs (profile : String) (formatOptions : List String) : Except String (List String) :=
  let userSet := xfsUserSubopts ((mkfsFlags xfsFsType).getD []) formatOptions
  match xfsProfileLines userSet 0 ⟨none, [], []⟩ (profile.toList.splitOn '\n') with
  | .error e => .error e
  | .ok w => .ok w.flush.args

/-- `profile` is what reading the profile file gives. -/
def mkfsArgs (source : String) (formatOptions : List String)
    (profile : Except String String) : Except String (List String) :=
  if fsType = defaultFsType then .ok (["-F", "-m0"] ++ formatOptions ++ [source])
  else if fsType = xfsFsType then
    match profile with
    | .error e => .error s!"read the mkfs.xfs compatibility profile: {e}"
    | .ok content =>
      match xfsProfileArgs content formatOptions with
      | .error e => .error s!"mkfs.xfs compatibility profile: {e}"
      | .ok defaults => .ok (defaults ++ formatOptions ++ [source])
  else .ok (formatOptions ++ [source])

/-- The letters of an option string, with a value and without. -/
def optstring (valued plain : String) : Arity := fun c =>
  if c ∈ valued.toList then some true else if c ∈ plain.toList then some false else none

/-- The options of `mke2fs` and `mkfs.xfs`; another tool gets the device only. -/
def toolOptions : Arity :=
  if fsType = defaultFsType then optstring "begilmorstdCEGIJLMNORTUz" "cjnqvDFKSV"
  else if fsType = xfsFsType then optstring "bcdilLmnprs" "KNqCfV"
  else fun _ => none

variable {letter : Char} {spec : MkfsFlag} {name : String} {opts args : List String}
  {value : List Char}

section Options

variable {fsType : String} {flags : List (Char × MkfsFlag)}

theorem toolOptions_of_mem (hflags : mkfsFlags fsType = some flags) :
    ∀ f ∈ flags, toolOptions fsType f.1 = some f.2.takesValue ∧ f.1 ≠ '-' := by
  unfold mkfsFlags at hflags
  split at hflags
  · rename_i hext
    subst hext
    cases hflags
    decide
  split at hflags
  · rename_i hxfs
    subst hxfs
    cases hflags
    decide
  · cases hflags

theorem mem_of_lookup (h : flags.lookup letter = some spec) : (letter, spec) ∈ flags := by
  induction flags with
  | nil => cases h
  | cons f rest ih =>
    rw [List.lookup_cons] at h
    split at h
    · rename_i heq
      cases h
      rw [eq_of_beq heq]
      exact .head _
    · exact .tail _ (ih h)

/-- An option that the allowlist has, with a value that passed its check. -/
def Accepted (fsType : String) (flags : List (Char × MkfsFlag)) (given : Given) : Prop :=
  ∃ spec, flags.lookup given.1 = some spec ∧
    ∀ value, given.2 = some value →
      validateMkfsValue fsType (flagName given.1) spec value = .ok ()

theorem spells_of_validate (hflags : mkfsFlags fsType = some flags) (i : Nat) (opts : List String)
    (hvalid : validateMkfsOptionsFrom fsType flags i opts = .ok ()) :
    ∃ given, Spells (toolOptions fsType) (opts.map (·.toList)) given ∧
      ∀ o ∈ given, Accepted fsType flags o := by
  have harity : ∀ letter spec, flags.lookup letter = some spec →
      toolOptions fsType letter = some spec.takesValue := fun letter spec hlookup =>
    (toolOptions_of_mem hflags _ (mem_of_lookup hlookup)).1
  fun_induction validateMkfsOptionsFrom fsType flags i opts with
  | case1 i => exact ⟨[], .nil, by simp⟩
  | case5 i opt rest letter value hopt hdash spec hlookup hplain hvalue ih =>
    -- a flag without a value
    obtain ⟨given, hspells, haccepted⟩ := ih hvalid
    refine ⟨(letter, none) :: given, ?_, List.forall_mem_cons.mpr ⟨⟨spec, hlookup, ?_⟩, haccepted⟩⟩
    · rw [List.map_cons, hopt, not_not.mp hvalue]
      exact .flag hdash ((harity letter spec hlookup).trans (by rw [hplain])) hspells
    · exact fun _ heq => nomatch heq
  | case7 i opt rest letter value hopt hdash spec hlookup hvalued hvalue hcheck ih =>
    -- the value in the same word
    obtain ⟨given, hspells, haccepted⟩ := ih hvalid
    have htakes : spec.takesValue = true := Bool.not_eq_false _ ▸ hvalued
    refine ⟨(letter, some value) :: given, ?_,
      List.forall_mem_cons.mpr ⟨⟨spec, hlookup, ?_⟩, haccepted⟩⟩
    · rw [List.map_cons, hopt]
      exact .attached hdash hvalue ((harity letter spec hlookup).trans (by rw [htakes])) hspells
    · rintro _ ⟨⟩
      exact hcheck
  | case10 i opt letter value hopt hdash spec hlookup hvalued hvalue next others hcheck ih =>
    -- the value in the next word
    obtain ⟨given, hspells, haccepted⟩ := ih hvalid
    have htakes : spec.takesValue = true := Bool.not_eq_false _ ▸ hvalued
    refine ⟨(letter, some next.toList) :: given, ?_,
      List.forall_mem_cons.mpr ⟨⟨spec, hlookup, ?_⟩, haccepted⟩⟩
    · rw [List.map_cons, List.map_cons, hopt, not_not.mp hvalue]
      exact .separate hdash ((harity letter spec hlookup).trans (by rw [htakes])) hspells
    · rintro _ ⟨⟩
      exact hcheck
  | _ => cases hvalid

end Options

def profileLetters : List Char := xfsProfileSections.map (·.2)

theorem toolOptions_of_profile (h : letter ∈ profileLetters) :
    toolOptions xfsFsType letter = some true ∧ letter ≠ '-' := by
  have hall : profileLetters.all fun letter =>
      toolOptions xfsFsType letter = some true ∧ letter ≠ '-' := by decide
  simpa using List.all_eq_true.mp hall letter h

/-- The walk's arguments spell options of the profile's sections. -/
structure Walked (w : ProfileWalk) : Prop where
  sections : ∀ letter, w.flag = some letter → letter ∈ profileLetters
  spelled : ∃ given, Spells (toolOptions xfsFsType) (w.args.map (·.toList)) given ∧
    ∀ o ∈ given, o.1 ∈ profileLetters

section Profile

variable {w next : ProfileWalk} {userSet : List (Char × List Char)} {n : Nat}

theorem Walked.flush (h : Walked w) : Walked w.flush := by
  unfold ProfileWalk.flush
  split
  · rename_i letter hflag
    split
    · exact h
    · obtain ⟨given, hspells, hgiven⟩ := h.spelled
      have hletter := h.sections letter hflag
      obtain ⟨harity, hdash⟩ := toolOptions_of_profile hletter
      refine ⟨h.sections, given ++ [(letter, some ([','].intercalate w.subopts))], ?_, ?_⟩
      · simp only [List.map_append, List.map_cons, List.map_nil, flagName, String.toList_ofList]
        exact hspells.append (.separate hdash harity .nil)
      · intro o ho
        rcases List.mem_append.mp ho with hold | hnew
        · exact hgiven o hold
        · rw [List.mem_singleton.mp hnew]
          exact hletter
  · exact ⟨h.sections, h.spelled⟩

theorem mem_profileLetters
    (h : xfsProfileSections.lookup name = some letter) : letter ∈ profileLetters := by
  have hmem : ∀ pairs : List (String × Char), pairs.lookup name = some letter →
      letter ∈ pairs.map (·.2) := by
    intro pairs
    induction pairs with
    | nil => exact fun hnone => nomatch hnone
    | cons pair rest ih =>
      intro hlookup
      rw [List.lookup_cons] at hlookup
      split at hlookup
      · rw [← Option.some.inj hlookup]
        exact .head _
      · exact .tail _ (ih hlookup)
  exact hmem xfsProfileSections h

theorem walked_line {raw : List Char} (h : Walked w)
    (hline : xfsProfileLine userSet n w raw = .ok next) : Walked next := by
  unfold xfsProfileLine at hline
  dsimp only at hline
  split at hline
  · obtain rfl := Except.ok.inj hline
    exact h
  · obtain rfl := Except.ok.inj hline
    exact h
  · obtain rfl := Except.ok.inj hline
    exact h
  · split at hline
    · cases hline
    · rename_i letter hsection
      obtain rfl := Except.ok.inj hline
      split at hsection
      · refine ⟨?_, h.flush.spelled⟩
        rintro _ ⟨⟩
        exact mem_profileLetters hsection
      · cases hsection
  · split at hline
    · cases hline
    · split at hline
      · cases hline
      split at hline
      · obtain rfl := Except.ok.inj hline
        exact h
      · obtain rfl := Except.ok.inj hline
        exact ⟨h.sections, h.spelled⟩

theorem walked_lines {lines : List (List Char)}
    (h : Walked w) (hlines : xfsProfileLines userSet n w lines = .ok next) : Walked next := by
  induction lines generalizing n w with
  | nil =>
    obtain rfl := Except.ok.inj hlines
    exact h
  | cons line rest ih =>
    rw [xfsProfileLines] at hlines
    split at hlines
    · cases hlines
    · rename_i w' hline
      exact ih (walked_line h hline) hlines

theorem spells_of_profile {profile : String} (hargs : xfsProfileArgs profile opts = .ok args) :
    ∃ given, Spells (toolOptions xfsFsType) (args.map (·.toList)) given ∧
      ∀ o ∈ given, o.1 ∈ profileLetters := by
  unfold xfsProfileArgs at hargs
  dsimp only at hargs
  split at hargs
  · cases hargs
  · rename_i w hlines
    obtain rfl := Except.ok.inj hargs
    have hstart : Walked ⟨none, [], []⟩ := ⟨fun _ heq => (nomatch heq), [], .nil, by simp⟩
    exact (walked_lines hstart hlines).flush.spelled

end Profile

/-- Of the allowlist, or of the sections that the xfs profile may have. -/
def AllowListed (letter : Char) : Prop :=
  (∃ flags, mkfsFlags fsType = some flags ∧ letter ∈ flags.map (·.1)) ∨
    (fsType = xfsFsType ∧ letter ∈ profileLetters)

/-- White space as the C library has it. -/
def isBlank (c : Char) : Bool := c.toNat ∈ [0x09, 0x0a, 0x0b, 0x0c, 0x0d, 0x20]

/-- The feature names of a `-O` value as `mke2fs` splits it. -/
def featureWords (value : List Char) : List (List Char) :=
  (value.splitOnP fun c => c = ',' ∨ isBlank c).filter (· ≠ [])

/-- `strtol` of a whole text in base ten. -/
def strtol (s : List Char) : Option Int :=
  let number (sign : Int) (digits : List Char) : Option Int :=
    if digits ≠ [] ∧ digits.all Char.isDigit then
      let n := sign * digits.foldl (fun (n : Int) c => 10 * n + (c.toNat - 48)) 0
      some (max (-0x8000000000000000) (min 0x7fffffffffffffff n))
    else none
  match s with
  | '-' :: digits => number (-1) digits
  | '+' :: digits => number 1 digits
  | digits => number 1 digits

def journalDev : List Char := "journal_dev".toList

/-- The names by which `mke2fs` knows the feature: its own in any case, and bit 3
of the incompatible features, a number that is read into 32 bits. -/
def NamesJournalDev (name : List Char) : Prop :=
  name.map Char.toLower = journalDev ∨
    (name.take 9).map Char.toLower = "feature_i".toList ∧
      (strtol (name.drop 9)).map (Int.bmod · 0x100000000) = some 3

instance (name : List Char) : Decidable (NamesJournalDev name) :=
  inferInstanceAs (Decidable (_ ∨ _))

/-- A feature may have a sign, of which only `+` sets it. -/
def setsJournalDev : List Char → Bool
  | '+' :: name => NamesJournalDev name
  | name => NamesJournalDev name

def EnablesJournalDev (value : List Char) : Prop :=
  ∃ word ∈ featureWords value, setsJournalDev word = true

instance (value : List Char) : Decidable (EnablesJournalDev value) :=
  inferInstanceAs (Decidable (∃ word ∈ featureWords value, _))

/-- The feature is spelled in no other way than the one that the check knows. -/
def PlainFeatures (value : List Char) : Prop :=
  ∀ word ∈ featureWords value, setsJournalDev word = true →
    word = journalDev ∧ word ∈ splitComma value

instance (value : List Char) : Decidable (PlainFeatures value) :=
  inferInstanceAs (Decidable (∀ word ∈ featureWords value, _))

theorem enablesJournalDev_iff {fsType : String} (hdenied : "journal_dev" ∈ spec.deniedValues)
    (hvalid : validateMkfsValue fsType name spec value = .ok ()) :
    ¬ EnablesJournalDev value ↔ PlainFeatures value := by
  constructor
  · intro hnot word hword hsets
    exact absurd ⟨word, hword, hsets⟩ hnot
  · rintro hplain ⟨word, hword, hsets⟩
    obtain ⟨rfl, htoken⟩ := hplain word hword hsets
    unfold validateMkfsValue at hvalid
    split at hvalid
    · cases hvalid
    have hchecked := checkAll_ok hvalid journalDev htoken
    have hname : String.ofList journalDev = "journal_dev" := String.ofList_toList
    rw [validateMkfsToken, hname, if_pos hdenied] at hchecked
    cases hchecked

theorem spells_of_mkfsArgs {fsType source : String}
    {profile : Except String String} (hvalid : validateMkfsOptions fsType opts = .ok ())
    (hargs : mkfsArgs fsType source opts profile = .ok args) :
    ∃ words given, args.map (·.toList) = words ++ [source.toList] ∧
      Spells (toolOptions fsType) words given ∧ (∀ o ∈ given, AllowListed fsType o.1) ∧
      ∀ value, ('O', some value) ∈ given → (¬ EnablesJournalDev value ↔ PlainFeatures value) := by
  unfold mkfsArgs at hargs
  split at hargs
  · -- ext4
    rename_i hext
    subst hext
    obtain rfl := Except.ok.inj hargs
    obtain ⟨flags, hflags⟩ : ∃ flags, mkfsFlags defaultFsType = some flags := ⟨_, rfl⟩
    unfold validateMkfsOptions at hvalid
    rw [hflags] at hvalid
    obtain ⟨given, hspells, haccepted⟩ := spells_of_validate hflags 0 opts hvalid
    have hdefaults : Spells (toolOptions defaultFsType) [['-', 'F'], ['-', 'm', '0']]
        [('F', none), ('m', some ['0'])] :=
      .flag (by decide) (by decide) (.attached (by decide) (by decide) (by decide) .nil)
    have hlisted : ∀ o ∈ [('F', none), ('m', some ['0'])], o.1 ∈ flags.map (·.1) := by
      cases hflags
      decide
    refine ⟨_, _, ?_, hdefaults.append hspells, ?_, ?_⟩
    · simp
    · intro o ho
      rcases List.mem_append.mp ho with hdefault | huser
      · exact .inl ⟨flags, hflags, hlisted o hdefault⟩
      · obtain ⟨spec, hlookup, -⟩ := haccepted o huser
        exact .inl ⟨flags, hflags, List.mem_map_of_mem (mem_of_lookup hlookup)⟩
    · intro value hvalue
      rcases List.mem_append.mp hvalue with hdefault | huser
      · simp at hdefault
      · obtain ⟨spec, hlookup, hcheck⟩ := haccepted _ huser
        have hdenied : "journal_dev" ∈ spec.deniedValues := by
          cases hflags
          cases hlookup
          decide
        exact enablesJournalDev_iff hdenied (hcheck value rfl)
  split at hargs
  · -- xfs, whose profile comes first
    rename_i hxfs
    subst hxfs
    split at hargs
    · cases hargs
    split at hargs
    · cases hargs
    rename_i defaults hdefaults
    obtain rfl := Except.ok.inj hargs
    obtain ⟨flags, hflags⟩ : ∃ flags, mkfsFlags xfsFsType = some flags := ⟨_, rfl⟩
    unfold validateMkfsOptions at hvalid
    rw [hflags] at hvalid
    obtain ⟨given, hspells, haccepted⟩ := spells_of_validate hflags 0 opts hvalid
    obtain ⟨profiled, hprofile, hletters⟩ := spells_of_profile hdefaults
    refine ⟨_, _, ?_, hprofile.append hspells, ?_, ?_⟩
    · simp
    · intro o ho
      rcases List.mem_append.mp ho with hdefault | huser
      · exact .inr ⟨rfl, hletters o hdefault⟩
      · obtain ⟨spec, hlookup, -⟩ := haccepted o huser
        exact .inl ⟨flags, hflags, List.mem_map_of_mem (mem_of_lookup hlookup)⟩
    · intro value hvalue
      rcases List.mem_append.mp hvalue with hdefault | huser
      · have hfeature : 'O' ∉ profileLetters := by decide
        exact absurd (hletters _ hdefault) hfeature
      · obtain ⟨spec, hlookup, -⟩ := haccepted _ huser
        cases hflags
        cases hlookup
  · -- another tool gets no options at all
    rename_i hext hxfs
    obtain rfl := Except.ok.inj hargs
    have hnone : mkfsFlags fsType = none := by rw [mkfsFlags, if_neg hext, if_neg hxfs]
    unfold validateMkfsOptions at hvalid
    rw [hnone] at hvalid
    obtain rfl : opts = [] := by
      by_contra hopts
      simp [hopts] at hvalid
    exact ⟨[], [], rfl, .nil, by simp, by simp⟩

/-- For accepted options, any filesystem type and any profile, the tool reads
only allow-listed flags and no positional argument but the device; and it does
not enable `journal_dev` exactly if no `-O` value has another spelling of it. -/
theorem mkfs_options_confined (fsType source : String) (opts args : List String)
    (profile : Except String String) (hvalid : validateMkfsOptions fsType opts = .ok ())
    (hargs : mkfsArgs fsType source opts profile = .ok args)
    (hsource : source.toList.head? ≠ some '-') :
    ∃ parsed, getopt (toolOptions fsType) none (args.map (·.toList)) = .ok parsed ∧
      parsed.positional = [source.toList] ∧ (∀ o ∈ parsed.options, AllowListed fsType o.1) ∧
      ((∀ value, ('O', some value) ∈ parsed.options → ¬ EnablesJournalDev value) ↔
        ∀ value, ('O', some value) ∈ parsed.options → PlainFeatures value) := by
  obtain ⟨words, given, hwords, hspells, hallowed, hfeatures⟩ := spells_of_mkfsArgs hvalid hargs
  refine ⟨⟨given, [source.toList]⟩, ?_, rfl, hallowed, ?_⟩
  · rw [hwords]
    exact getopt_last hspells hsource
  · exact forall_congr' fun value => forall_congr' fun hvalue => hfeatures value hvalue

/-- The options of a claim with attached and separate values. -/
theorem mkfs_options_confined_ext4 :
    let opts := ["-E", "lazy_itable_init=0", "-m1", "-O", "+extent ^has_journal", "-q"]
    ∃ parsed, getopt (toolOptions "ext4") none
        ((["-F", "-m0"] ++ opts ++ ["/dev/sdb"]).map (·.toList)) = .ok parsed ∧
      parsed.positional = ["/dev/sdb".toList] ∧
      ∀ value, ('O', some value) ∈ parsed.options → ¬ EnablesJournalDev value := by
  intro opts
  obtain ⟨parsed, hparsed, hpositional, -, hfeatures⟩ := mkfs_options_confined "ext4" "/dev/sdb"
    opts _ (.error "") (by decide +kernel) rfl (by decide)
  refine ⟨parsed, hparsed, hpositional, hfeatures.mpr fun value hvalue => ?_⟩
  obtain rfl := Except.ok.inj ((show _ = Except.ok
    { options := [('F', none), ('m', some ['0']), ('E', some "lazy_itable_init=0".toList),
        ('m', some ['1']), ('O', some "+extent ^has_journal".toList), ('q', none)],
      positional := ["/dev/sdb".toList] } by decide +kernel).symm.trans hparsed)
  obtain rfl : value = "+extent ^has_journal".toList := by simpa using hvalue
  decide +kernel

/-- A signed feature name, one behind a blank, one in capitals and one by its bit
pass the check and enable the feature. -/
theorem journal_dev_accepted :
    (∃ parsed, validateMkfsOptions "ext4" ["-O", "+journal_dev"] = .ok () ∧
      getopt (toolOptions "ext4") none
        ((["-F", "-m0"] ++ ["-O", "+journal_dev"] ++ ["/dev/sdb"]).map (·.toList)) = .ok parsed ∧
      mkfsArgs "ext4" "/dev/sdb" ["-O", "+journal_dev"] (.error "") =
        .ok (["-F", "-m0"] ++ ["-O", "+journal_dev"] ++ ["/dev/sdb"]) ∧
      ('O', some "+journal_dev".toList) ∈ parsed.options ∧
      EnablesJournalDev "+journal_dev".toList) ∧
    ["extent journal_dev", "JOURNAL_DEV", "FEATURE_I3"].all fun value =>
      validateMkfsOptions "ext4" ["-O", value] = .ok () ∧ EnablesJournalDev value.toList := by
  refine ⟨⟨_, by decide +kernel, rfl, rfl, by decide, by decide +kernel⟩, by decide +kernel⟩

end PillarCsi.MkfsOptions
