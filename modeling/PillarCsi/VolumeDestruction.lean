import Mathlib.Data.List.Infix
import PillarCsi.VolumeNames

/-!
What the deletion of a zvol or of a logical volume makes of the answer of its
tool (`internal/agent/backend/zfs/zfs.go`, `internal/agent/backend/lvm/lvm.go`).
-/

namespace PillarCsi.VolumeDestruction

open VolumeNames

/-- What a command left: the text of its exit error, and both its streams. -/
structure Answer where
  failure : Option String
  output : String
  deriving DecidableEq, Repr

def contains (text : List Char) (part : String) : Bool :=
  decide (part.toList <:+: text)

/-- `strings.ToLower`, as far as ASCII letters come out of it. -/
def toLower (c : Char) : Char :=
  if c = '\u212a' then 'k' else if c = '\u0130' then 'i' else c.toLower

def isSpace (c : Char) : Bool :=
  let n := c.toNat
  (9 ≤ n && n ≤ 13) || n = 0x20 || n = 0x85 || n = 0xa0 || n = 0x1680 ||
    (0x2000 ≤ n && n ≤ 0x200a) || n = 0x2028 || n = 0x2029 || n = 0x202f || n = 0x205f || n = 0x3000

def trimSpace (s : String) : String :=
  String.ofList (((s.toList.dropWhile isSpace).reverse.dropWhile isSpace).reverse)

/-- The output of `zfs` says that something does not exist. -/
def zvolNotExistOutput (out : List Char) : Bool :=
  contains out "dataset does not exist" || contains out "does not exist"

/-- The output of an LVM tool says that something was not found. -/
def lvmNotExistOutput (out : List Char) : Bool :=
  let s := out.map toLower
  contains s "failed to find logical volume" || contains s "not found" ||
    contains s "volume group" && contains s "not found" || contains s "no such logical volume"

def isNotExistOutput : BlockBackend → List Char → Bool
  | .zvol _ => zvolNotExistOutput
  | .lvm _ => lvmNotExistOutput

/-- What a delete runs, and the title of its error. -/
def destroyCommand (backend : BlockBackend) (volumeID : String) : Command × String :=
  match backend with
  | .zvol z => (z.command volumeID .delete, "zfs destroy " ++ z.datasetName volumeID)
  | .lvm b =>
    (.lvm "lvremove" ["-y"] (b.vg ++ "/" ++ b.lvName volumeID),
      "lvremove " ++ b.vg ++ "/" ++ b.lvName volumeID)

def delete (backend : BlockBackend) (exec : Command → Answer) (volumeID : String) :
    Except String Unit :=
  let (command, title) := destroyCommand backend volumeID
  let answer := exec command
  match answer.failure with
  | none => .ok ()
  | some err =>
    if isNotExistOutput backend answer.output.toList then .ok ()
    else .error (title ++ ": " ++ err ++ "\n" ++ trimSpace answer.output)

/-- The texts by which the backends tell a missing volume. -/
def markers : BlockBackend → List String
  | .zvol _ => ["does not exist"]
  | .lvm _ => ["failed to find logical volume", "not found", "no such logical volume"]

/-- Only the LVM backend reads the output in lower case. -/
def folded : BlockBackend → List Char → List Char
  | .zvol _, out => out
  | .lvm _, out => out.map toLower

/-- The other texts that are looked for contain a marker. -/
theorem isNotExistOutput_iff {backend : BlockBackend} {out : List Char} :
    isNotExistOutput backend out = true ↔
      ∃ marker ∈ markers backend, marker.toList <:+: folded backend out := by
  cases backend with
  | zvol z =>
    have hlonger : "dataset does not exist".toList <:+: out → "does not exist".toList <:+: out :=
      fun h => List.IsInfix.trans ⟨"dataset ".toList, [], by decide⟩ h
    simp only [isNotExistOutput, zvolNotExistOutput, contains, Bool.or_eq_true, decide_eq_true_eq,
      markers, folded, List.mem_singleton, exists_eq_left]
    exact or_iff_right_of_imp hlonger
  | lvm b =>
    simp only [isNotExistOutput, lvmNotExistOutput, contains, Bool.or_eq_true, Bool.and_eq_true,
      decide_eq_true_eq, markers, folded, List.mem_cons, List.not_mem_nil, or_false,
      exists_eq_or_imp, exists_eq_left]
    constructor
    · rintro (((hfind | hfound) | ⟨-, hfound⟩) | hsuch)
      · exact .inl hfind
      · exact .inr (.inl hfound)
      · exact .inr (.inl hfound)
      · exact .inr (.inr hsuch)
    · rintro (hfind | hfound | hsuch)
      · exact .inl (.inl (.inl hfind))
      · exact .inl (.inl (.inr hfound))
      · exact .inr hsuch

theorem delete_eq_ok_iff {backend : BlockBackend} {exec : Command → Answer} {volumeID : String} :
    delete backend exec volumeID = .ok () ↔
      (exec (destroyCommand backend volumeID).1).failure = none ∨
        ∃ marker ∈ markers backend, marker.toList <:+:
          folded backend (exec (destroyCommand backend volumeID).1).output.toList := by
  rw [← isNotExistOutput_iff]
  unfold delete
  dsimp only
  split
  · rename_i hsuccess
    exact iff_of_true rfl (.inl hsuccess)
  · rename_i err hfailure
    rw [hfailure]
    split <;> simp_all

def lines (out : String) : List (List Char) :=
  out.toList.splitOn '\n'

/-- The lines by which the tools report that a volume is missing. -/
def reported (resource : Resource) (line : List Char) : Bool :=
  match resource with
  | .dataset name =>
    trimSpace (String.ofList line) = "cannot open '" ++ name ++ "': dataset does not exist"
  | .logicalVolume name =>
    trimSpace (String.ofList line) = "Failed to find logical volume \"" ++ name ++ "\""

/-- The command succeeded, or a line of its output states that this very volume
does not exist. -/
def Answer.StatesGone (answer : Answer) (resource : Resource) : Prop :=
  answer.failure = none ∨ ∃ line ∈ lines answer.output, reported resource line = true

instance (answer : Answer) (resource : Resource) : Decidable (answer.StatesGone resource) :=
  inferInstanceAs (Decidable (_ ∨ _))

/-- The answer of a destroy command, and whether the volume is there after it.
The tool tells the truth about the volume. -/
structure Destroyed (resource : Resource) where
  answer : Answer
  present : Bool
  gone : answer.StatesGone resource → present = false

/-- Deletes that succeed leave no volume exactly if the answer states that it is
gone or has none of the backend's markers in it: a marker in any other answer
is taken for that statement. -/
theorem delete_leaves_no_volume (backend : BlockBackend) (volumeID : String)
    (exec : Command → Answer) :
    (delete backend exec volumeID = .ok () →
        ∀ destroyed : Destroyed (destroyCommand backend volumeID).1.resource,
          destroyed.answer = exec (destroyCommand backend volumeID).1 →
            destroyed.present = false) ↔
      (exec (destroyCommand backend volumeID).1).StatesGone
          (destroyCommand backend volumeID).1.resource ∨
        ∀ marker ∈ markers backend, ¬ marker.toList <:+:
          folded backend (exec (destroyCommand backend volumeID).1).output.toList := by
  constructor
  · intro hgone
    by_contra hcondition
    rw [not_or, not_forall] at hcondition
    obtain ⟨hunstated, marker, hmarker⟩ := hcondition
    rw [Classical.not_imp, not_not] at hmarker
    -- nothing in the answer keeps the volume from being there
    have hpresent := hgone (delete_eq_ok_iff.mpr (.inr ⟨marker, hmarker⟩))
      ⟨_, true, fun hstated => absurd hstated hunstated⟩ rfl
    cases hpresent
  · intro hcondition hok destroyed hanswer
    apply destroyed.gone
    rw [hanswer]
    rcases hcondition with hstated | hunmarked
    · exact hstated
    · rcases delete_eq_ok_iff.mp hok with hsuccess | ⟨marker, hmem, hmarker⟩
      · exact .inl hsuccess
      · exact absurd hmarker (hunmarked marker hmem)

/-- A volume that is gone already, in a volume group with a missing disk. -/
def retriedAnswer : Answer :=
  { failure := some "exit status 5",
    output := "  WARNING: Device for PV nY3kR1 not found or rejected by a filter.\n" ++
      "  Failed to find logical volume \"data-vg/pvc-1\"\n" }

theorem delete_leaves_no_volume_retry :
    delete (.lvm { vg := "data-vg" }) (fun _ => retriedAnswer) "data-vg/pvc-1" = .ok () ∧
      ∀ destroyed : Destroyed (.logicalVolume "data-vg/pvc-1"),
        destroyed.answer = retriedAnswer → destroyed.present = false := by
  have hdelete : delete (.lvm { vg := "data-vg" }) (fun _ => retriedAnswer) "data-vg/pvc-1" =
      .ok () := by decide +kernel
  exact ⟨hdelete, (delete_leaves_no_volume (.lvm { vg := "data-vg" }) "data-vg/pvc-1"
    fun _ => retriedAnswer).mpr (.inl (by decide +kernel)) hdelete⟩

/-- A logical volume that is mounted, in a volume group with a missing disk. -/
def mountedAnswer : Answer :=
  { failure := some "exit status 5",
    output := "  WARNING: Device for PV nY3kR1 not found or rejected by a filter.\n" ++
      "  Logical volume data-vg/pvc-1 contains a filesystem in use.\n" }

/-- The volume stays, no line says that it is missing, and the delete succeeds. -/
theorem mounted_volume_deleted :
    ∃ destroyed : Destroyed (.logicalVolume "data-vg/pvc-1"),
      destroyed.answer = mountedAnswer ∧ destroyed.present = true ∧
        delete (.lvm { vg := "data-vg" }) (fun _ => destroyed.answer) "data-vg/pvc-1" = .ok () := by
  have hunstated : ¬ mountedAnswer.StatesGone (.logicalVolume "data-vg/pvc-1") := by decide +kernel
  have hdelete : delete (.lvm { vg := "data-vg" }) (fun _ => mountedAnswer) "data-vg/pvc-1" =
      .ok () := by decide +kernel
  exact ⟨⟨mountedAnswer, true, fun h => absurd h hunstated⟩, rfl, rfl, hdelete⟩

end PillarCsi.VolumeDestruction
