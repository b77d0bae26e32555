import PillarCsi.ByteCodes
import PillarCsi.HexDigits

/-!
The files of the fencing marks (`internal/agent/fencing.go`) and the scan for
adopted owners among them (`internal/agent/filesystem_legacy_owner.go`).
-/

namespace PillarCsi.MarkFilenames

open ByteCodes HexDigits

def fencingSuffix : List Char := ".mark".toList

def escapeByte (b : UInt8) : List Char :=
  let c := Char.ofNat b.toNat
  if c.isAlphanum ∨ c = '.' ∨ c = '-' then [c]
  else ['_', digit (b.toNat / 16), digit (b.toNat % 16)]

/-- The name of the mark of a volume ID or of a native filesystem key. -/
def fencingFilename (volumeID : List UInt8) : List Char :=
  volumeID.flatMap escapeByte ++ fencingSuffix

structure Entry where
  name : List Char
  isDir : Bool := false

def trimSuffix (s back : List Char) : List Char :=
  if back <:+ s then s.take (s.length - back.length) else s

def filesystemPrefix : List UInt8 := "filesystem/".toList.map fun c => UInt8.ofNat c.toNat

def Entry.scanned (entry : Entry) : Bool :=
  !entry.isDir && (trimSuffix (fencingFilename filesystemPrefix) fencingSuffix).isPrefixOf
    entry.name && fencingSuffix.isSuffixOf entry.name

/-- `activeMark` reads a mark and says whether it names a live owner. -/
def hasActiveZFSFilesystemOwner {ε : Type} (activeMark : List Char → Except ε Bool) :
    List Entry → Except ε Bool
  | [] => .ok false
  | entry :: entries =>
    if entry.scanned then
      match activeMark entry.name with
      | .ok false => hasActiveZFSFilesystemOwner activeMark entries
      | found => found
    else hasActiveZFSFilesystemOwner activeMark entries

def directory (keys : List (List UInt8)) : List Entry := keys.map fun key => ⟨fencingFilename key, false⟩

/-- The byte whose escape a text starts with. -/
def firstByte : List Char → UInt8
  | '_' :: high :: low :: _ => UInt8.ofNat ((value high).getD 0 * 16 + (value low).getD 0)
  | c :: _ => UInt8.ofNat c.toNat
  | [] => 0

theorem firstByte_escapeByte (b : UInt8) (rest : List Char) :
    firstByte (escapeByte b ++ rest) = b := by
  have hb := b.toNat_lt
  simp only [escapeByte]
  split
  · rename_i h
    have hne : Char.ofNat b.toNat ≠ '_' := fun heq => absurd (heq ▸ h) (by decide)
    have hchar : (Char.ofNat b.toNat).toNat = b.toNat := by
      rw [Char.ofNat, dif_pos (.inl (by omega))]
      rfl
    rw [List.singleton_append, firstByte, hchar, UInt8.ofNat_toNat]
    exact fun _ _ _ heq _ => hne heq
  · simp only [List.cons_append, firstByte]
    rw [value_digit _ (by omega), value_digit _ (by omega), Option.getD_some, Option.getD_some,
      Nat.div_add_mod', UInt8.ofNat_toNat]

theorem readable_escapeByte : Readable escapeByte where
  ne_nil b := by
    simp only [escapeByte]
    split <;> simp
  eq_of_append {a b xs ys} h := by rw [← firstByte_escapeByte a xs, h, firstByte_escapeByte]

theorem slash_not_mem_escapeByte (b : UInt8) : '/' ∉ escapeByte b := by
  have hb := b.toNat_lt
  have hdigit : ∀ n < 16, '/' ≠ digit n := by decide
  simp only [escapeByte]
  split
  · rename_i h
    intro hmem
    rw [← List.mem_singleton.mp hmem] at h
    exact absurd h (by decide)
  · simp [hdigit (b.toNat / 16) (by omega), hdigit (b.toNat % 16) (by omega)]

theorem scanned_iff (key : List UInt8) :
    Entry.scanned ⟨fencingFilename key, false⟩ = true ↔ filesystemPrefix <+: key := by
  have htrim : trimSuffix (fencingFilename filesystemPrefix) fencingSuffix =
      filesystemPrefix.flatMap escapeByte := by decide
  have hall : filesystemPrefix.all fun b => ¬ escapeByte b <+: fencingSuffix := by decide
  have htail : ∀ b ∈ filesystemPrefix, ¬ escapeByte b <+: fencingSuffix := by simpa using hall
  rw [Entry.scanned, htrim, ← readable_escapeByte.isPrefix_iff htail]
  simp [fencingFilename]

theorem filter_scanned (keys : List (List UInt8)) :
    (directory keys).filter Entry.scanned = directory (keys.filter (filesystemPrefix <+: ·)) := by
  induction keys with
  | nil => rfl
  | cons key keys ih =>
    simp only [directory, List.map_cons, List.filter_cons, scanned_iff] at ih ⊢
    by_cases h : filesystemPrefix <+: key <;> simp [h, ih]

theorem hasActiveZFSFilesystemOwner_filter {ε : Type} (activeMark : List Char → Except ε Bool)
    (entries : List Entry) : hasActiveZFSFilesystemOwner activeMark (entries.filter Entry.scanned) =
      hasActiveZFSFilesystemOwner activeMark entries := by
  induction entries with
  | nil => rfl
  | cons entry entries ih =>
    by_cases h : entry.scanned = true <;>
      simp [hasActiveZFSFilesystemOwner, h, ih]

/-- Different keys have different files, which lie in the directory itself, and
the scan reads the marks of the keys that start with the filesystem prefix and no
others. -/
theorem fencingFilename_names :
    (∀ key other, fencingFilename key = fencingFilename other → key = other) ∧
      (∀ key, '/' ∉ fencingFilename key) ∧ ∀ keys : List (List UInt8),
        (directory keys).filter Entry.scanned =
          directory (keys.filter (filesystemPrefix <+: ·)) ∧
        ∀ (ε : Type) (activeMark : List Char → Except ε Bool),
          hasActiveZFSFilesystemOwner activeMark (directory keys) =
            hasActiveZFSFilesystemOwner activeMark
              (directory (keys.filter (filesystemPrefix <+: ·))) := by
  refine ⟨fun key other h => ?_, fun key h => ?_, fun keys => ⟨filter_scanned keys, ?_⟩⟩
  · exact readable_escapeByte.flatMap_inj (List.append_cancel_right h)
  · rcases List.mem_append.mp h with hmem | hmem
    · obtain ⟨b, -, hb⟩ := List.mem_flatMap.mp hmem
      exact slash_not_mem_escapeByte b hb
    · exact absurd hmem (by decide)
  · intro ε activeMark
    rw [← filter_scanned, hasActiveZFSFilesystemOwner_filter]

end PillarCsi.MarkFilenames
