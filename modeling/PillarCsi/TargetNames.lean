import Mathlib.Data.List.TakeWhile
import PillarCsi.Lio
import PillarCsi.VolumeNames

/-!
The target ID and the backstore name of a volume (`internal/agent/target_id.go`,
`internal/agent/lio/target.go`).
-/

namespace PillarCsi.TargetNames

open SeparatedNames ItemTree VolumeNames Lio

inductive ProtocolType where
  | unspecified
  | nvmeofTCP
  | iscsi
  | nfs
  deriving DecidableEq, Repr

inductive TargetIDError where
  | invalidArgument (message : String)
  | unimplemented (message : String)
  deriving DecidableEq, Repr

def nqnPrefix : String := "nqn.2026-01.com.bhyoo.pillar-csi:"

def dotted (volumeID : String) : String := String.ofList (replaceAll '/' '.' volumeID.toList)

def volumeTargetID (protocol : ProtocolType) (volumeID : String) : Except TargetIDError String :=
  match protocol with
  | .nvmeofTCP => .ok (nqnPrefix ++ dotted volumeID)
  | .iscsi =>
    let iqn := ownedIQNPrefix ++ dotted volumeID
    if maxIQNLength < iqn.utf8ByteSize then
      .error (.invalidArgument (s!"volumeTargetID: volume {volumeID.quote}: target IQN " ++
        s!"{iqn.quote} is {iqn.utf8ByteSize} bytes, longer than the iSCSI limit of {maxIQNLength}"))
    else
      .ok iqn
  | .unspecified => .error (.invalidArgument "volumeTargetID: protocol_type is required")
  | .nfs => .error (.unimplemented
      "volumeTargetID: protocol PROTOCOL_TYPE_NFS target ID derivation is not implemented")

section Names

variable {volumeID otherID pool : String}

theorem pool_of_poolFromVolumeID (h : poolFromVolumeID volumeID = .ok pool) :
    pool.toList ≠ [] ∧ '/' ∉ pool.toList := by
  unfold poolFromVolumeID at h
  dsimp only at h
  split at h
  · cases h
  rename_i haccepted
  obtain rfl := Except.ok.inj h
  rw [not_or] at haccepted
  rw [String.toList_ofList]
  refine ⟨haccepted.1, fun hmem => ?_⟩
  simpa using List.mem_takeWhile_imp hmem

theorem slash_not_mem_dotted (volumeID : String) : '/' ∉ (dotted volumeID).toList := by
  rw [dotted, String.toList_ofList]
  exact not_mem_replaceAll (by decide) _

/-- Of the accepted IDs only `./` has no name of its own: its dots are `..`. -/
theorem isName_dotted (h : poolFromVolumeID volumeID = .ok pool) (hne : volumeID ≠ "./") :
    IsName (dotted volumeID).toList := by
  obtain ⟨hpool, hslash⟩ := pool_of_poolFromVolumeID h
  have hid := toList_of_poolFromVolumeID h
  have hmap : (dotted volumeID).toList = replaceAll '/' '.' pool.toList ++
      '.' :: replaceAll '/' '.' (volumeName pool volumeID) := by
    rw [dotted, String.toList_ofList, hid]
    simp [replaceAll]
  rw [replaceAll_of_not_mem hslash] at hmap
  obtain ⟨c, rest, hcons⟩ := List.exists_cons_of_ne_nil hpool
  refine ⟨?_, slash_not_mem_dotted volumeID, ?_, fun hdots => hne ?_⟩
  · simp [hmap]
  · simp [hmap, hcons]
  · -- two dots: a pool of one dot and an empty name
    rw [hmap, hcons, List.cons_append, List.cons.injEq] at hdots
    obtain ⟨rfl, hrest⟩ := hdots
    obtain ⟨rfl, hname⟩ : rest = [] ∧ replaceAll '/' '.' (volumeName pool volumeID) = [] := by
      cases rest with
      | nil => simpa using hrest
      | cons d rest => simp at hrest
    have hempty : volumeName pool volumeID = [] := List.map_eq_nil_iff.mp hname
    apply String.toList_inj.mp
    rw [hid, hcons, hempty]
    rfl

theorem backstoreNameForIQN_eq (name : String) :
    backstoreNameForIQN (ownedIQNPrefix ++ name) = name := by
  unfold backstoreNameForIQN
  rw [String.toList_append, if_pos (List.prefix_append _ _), List.drop_left]
  exact String.ofList_toList

def nqnName (volumeID : String) : Name :=
  .of (nqnPrefix ++ dotted volumeID)
    (isName_append (by decide) (by decide) (slash_not_mem_dotted volumeID))

def iqnName (volumeID : String) : Name :=
  .of (ownedIQNPrefix ++ dotted volumeID)
    (isName_append (by decide) (by decide) (slash_not_mem_dotted volumeID))

theorem volumeTargetID_iscsi {target : String} : volumeTargetID .iscsi volumeID = .ok target ↔
    target = ownedIQNPrefix ++ dotted volumeID ∧ target.utf8ByteSize ≤ maxIQNLength := by
  unfold volumeTargetID
  dsimp only
  split
  · rename_i hlong
    refine iff_of_false (by simp) ?_
    rintro ⟨rfl, hshort⟩
    omega
  · rename_i hshort
    constructor
    · rintro ⟨⟩
      exact ⟨rfl, by omega⟩
    · rintro ⟨rfl, -⟩
      rfl

end Names

end PillarCsi.TargetNames
