import Mathlib.Algebra.Group.Nat.Defs
import Mathlib.Data.List.Basic
import Mathlib.Order.Nat

/-!
The chunks of the periodic trim (`internal/csi/trim.go`), in 64-bit arithmetic.
The size is measured once, with the first chunk, and the last chunk reaches to
the end of the address space.
-/

namespace PillarCsi.TrimCoverage

/-- The range of one FITRIM call. -/
structure Range where
  (offset length : UInt64)
  deriving DecidableEq

/-- What the surroundings answer to one chunk; the filesystem may have another
size at each. -/
structure Attempt where
  (interrupted unlocked : Bool)
  /-- The stage record and the mount passed their checks. -/
  staged : Bool
  fsSize : Option UInt64
  fitrim : Bool

inductive Ended where
  | interrupted
  | deferred
  | failed
  | finished
  deriving DecidableEq

inductive Chunk where
  | refused
  | tried (range : Range) (last ok : Bool) (size : UInt64)

def trimChunk (chunk offset size : UInt64) (a : Attempt) : Chunk :=
  if a.staged = false then .refused
  else
    match if offset = 0 then a.fsSize else some size with
    | none => .refused
    | some size =>
      -- the subtraction is reached only when the size exceeds the chunk
      let last := decide (size ≤ chunk) || decide (size - chunk ≤ offset)
      let length := if last then 18446744073709551615 - offset else chunk
      .tried ⟨offset, length⟩ last a.fitrim size

/-- The loop from its `i`-th chunk on: the ranges passed to FITRIM and how it
ended, which is open when `fuel` chunks were not enough. -/
def trimVolume (chunk : UInt64) (env : Nat → Attempt) :
    Nat → Nat → UInt64 → UInt64 → List Range × Option Ended
  | 0, _, _, _ => ([], none)
  | fuel + 1, i, offset, size =>
    if (env i).interrupted then ([], some .interrupted)
    else if (env i).unlocked = false then ([], some .deferred)
    else
      match trimChunk chunk offset size (env i) with
      | .refused => ([], some .failed)
      | .tried range last ok size =>
        if ok = false then ([range], some .failed)
        else if last then ([range], some .finished)
        else
          let rest := trimVolume chunk env fuel (i + 1) (offset + chunk) size
          (range :: rest.1, rest.2)

def Succeeds (a : Attempt) : Prop :=
  a.interrupted = false ∧ a.unlocked ∧ a.staged ∧ a.fsSize.isSome ∧ a.fitrim

def Range.stop (r : Range) : Nat := r.offset.toNat + r.length.toNat

/-- The ranges follow one another from `lo` to `hi`, none running backwards. -/
def Tiles : Nat → List Range → Nat → Prop
  | lo, [], hi => lo = hi
  | lo, r :: rest, hi => r.offset.toNat = lo ∧ Tiles r.stop rest hi

variable {rs : List Range}

theorem Tiles.le {lo hi : Nat} (h : Tiles lo rs hi) : lo ≤ hi := by
  induction rs generalizing lo with
  | nil => exact Nat.le_of_eq h
  | cons r rest ih =>
    have hrest := ih h.2
    have hstart := h.1
    simp only [Range.stop] at hrest
    omega

theorem Tiles.bounds {lo hi : Nat} (h : Tiles lo rs hi) :
    ∀ r ∈ rs, lo ≤ r.offset.toNat ∧ r.stop ≤ hi := by
  induction rs generalizing lo with
  | nil => exact fun _ hr => absurd hr List.not_mem_nil
  | cons r rest ih =>
    intro s hs
    rcases List.mem_cons.mp hs with rfl | hs
    · exact ⟨h.1.ge, h.2.le⟩
    · have hrest := ih h.2 s hs
      have hstart := h.1
      simp only [Range.stop] at hrest ⊢
      omega

theorem Tiles.disjoint {lo hi : Nat} (h : Tiles lo rs hi) :
    rs.Pairwise fun r s => r.stop ≤ s.offset.toNat := by
  induction rs generalizing lo with
  | nil => exact .nil
  | cons r rest ih => exact .cons (fun s hs => (h.2.bounds s hs).1) (ih h.2)

theorem Tiles.chain {lo hi : Nat} (h : Tiles lo rs hi) :
    rs.IsChain fun r s => s.offset.toNat = r.stop := by
  induction rs generalizing lo with
  | nil => exact .nil
  | cons r rest ih =>
    cases rest with
    | nil => exact .singleton r
    | cons s rest => exact .cons_cons h.2.1 (ih h.2)

theorem Tiles.covered {lo hi b : Nat} (h : Tiles lo rs hi) (hlo : lo ≤ b)
    (hhi : b < hi) : ∃ r ∈ rs, r.offset.toNat ≤ b ∧ b < r.stop := by
  induction rs generalizing lo with
  | nil =>
    have heq : lo = hi := h
    omega
  | cons r rest ih =>
    by_cases hb : b < r.stop
    · exact ⟨r, .head _, h.1 ▸ hlo, hb⟩
    · obtain ⟨s, hs, hcover⟩ := ih h.2 (Nat.le_of_not_lt hb)
      exact ⟨s, .tail r hs, hcover⟩

section Loop

variable {chunk : UInt64} {env : Nat → Attempt} (hpos : 0 < chunk) (hok : ∀ i, Succeeds (env i))
include hok

/-- A chunk that succeeds decides from the size in force, which the first one
measures. -/
theorem trimVolume_step {fuel i : Nat} {offset size : UInt64}
    (hsize : offset = 0 → (env i).fsSize = some size) {old : UInt64}
    (hold : offset ≠ 0 → old = size) : trimVolume chunk env (fuel + 1) i offset old =
      if size ≤ chunk ∨ size - chunk ≤ offset then
        ([⟨offset, 18446744073709551615 - offset⟩], some .finished)
      else
        let rest := trimVolume chunk env fuel (i + 1) (offset + chunk) size
        (⟨offset, chunk⟩ :: rest.1, rest.2) := by
  obtain ⟨hrun, hlock, hstaged, _, hfitrim⟩ := hok i
  have hmeasured : (if offset = 0 then (env i).fsSize else some old) = some size := by
    split
    · exact hsize ‹_›
    · rw [hold ‹_›]
  simp only [trimVolume, hrun, hlock, trimChunk, hstaged, hmeasured, hfitrim]
  by_cases hlast : size ≤ chunk ∨ size - chunk ≤ offset
  · simp [hlast]
  · simp [hlast]

include hpos

/-- `n` whole chunks and the open-ended one are left at `offset`. -/
theorem trimVolume_tiles (n fuel i : Nat) (offset size old : UInt64)
    (hsize : offset = 0 → (env i).fsSize = some size) (hold : offset ≠ 0 → old = size)
    (hfuel : n < fuel) (hmore : n = 0 ∨ offset.toNat + n * chunk.toNat < size.toNat)
    (hend : size.toNat ≤ offset.toNat + (n + 1) * chunk.toNat) :
    (trimVolume chunk env fuel i offset old).2 = some .finished ∧
      (trimVolume chunk env fuel i offset old).1.length = n + 1 ∧
      Tiles offset.toNat (trimVolume chunk env fuel i offset old).1 18446744073709551615 := by
  have hchunk : 0 < chunk.toNat := UInt64.lt_iff_toNat_lt.mp hpos
  have hbound := size.toNat_lt
  induction n generalizing fuel i offset old with
  | zero =>
    have hlast : size ≤ chunk ∨ size - chunk ≤ offset := by
      by_cases hle : size ≤ chunk
      · exact .inl hle
      · have hlt := UInt64.lt_iff_toNat_lt.mp (UInt64.not_le.mp hle)
        refine .inr (UInt64.le_iff_toNat_le.mpr ?_)
        rw [UInt64.toNat_sub_of_le _ _ (UInt64.le_iff_toNat_le.mpr (Nat.le_of_lt hlt))]
        omega
    have hlength : (18446744073709551615 - offset).toNat = 18446744073709551615 - offset.toNat := by
      have := offset.toNat_lt
      exact UInt64.toNat_sub_of_le _ _ (UInt64.le_iff_toNat_le.mpr (by simp; omega))
    have hoffset := offset.toNat_lt
    obtain ⟨fuel, rfl⟩ : ∃ k, fuel = k + 1 := ⟨fuel - 1, by omega⟩
    rw [trimVolume_step hok hsize hold, if_pos hlast]
    refine ⟨rfl, rfl, rfl, ?_⟩
    show offset.toNat + (18446744073709551615 - offset).toNat = 18446744073709551615
    omega
  | succ n ih =>
    have hlt : offset.toNat + (n + 1) * chunk.toNat < size.toNat := hmore.resolve_left (by omega)
    rw [Nat.succ_mul] at hlt hend
    have hnext : (offset + chunk).toNat = offset.toNat + chunk.toNat := by
      rw [UInt64.toNat_add]
      exact Nat.mod_eq_of_lt (by omega)
    have hlast : ¬ (size ≤ chunk ∨ size - chunk ≤ offset) := by
      have hle : chunk ≤ size := UInt64.le_iff_toNat_le.mpr (by omega)
      simp only [UInt64.le_iff_toNat_le, UInt64.toNat_sub_of_le _ _ hle]
      omega
    have hne : offset + chunk ≠ 0 := by
      intro h
      rw [h] at hnext
      simp at hnext
      omega
    obtain ⟨fuel, rfl⟩ : ∃ k, fuel = k + 1 := ⟨fuel - 1, by omega⟩
    obtain ⟨hended, hcount, htiles⟩ := ih fuel (i + 1) (offset + chunk) size
      (fun h => absurd h hne) (fun _ => rfl) (by omega) (.inr (by omega)) (by omega)
    rw [trimVolume_step hok hsize hold, if_neg hlast]
    refine ⟨hended, ?_, rfl, ?_⟩
    · simp [hcount]
    · rw [hnext] at htiles
      exact htiles

end Loop

/-- The loop ends by itself, its ranges follow one another without a gap from 0
to the end of the address space, and there are as many as whole chunks fit. -/
theorem trimVolume_covers {chunk : UInt64} {env : Nat → Attempt} (hpos : 0 < chunk)
    (hok : ∀ i, Succeeds (env i)) {size : UInt64} (hsize : (env 0).fsSize = some size) {fuel : Nat}
    (hfuel : max 1 ((size.toNat + chunk.toNat - 1) / chunk.toNat) ≤ fuel) (old : UInt64) :
    let trim := trimVolume chunk env fuel 0 0 old
    trim.2 = some .finished ∧
      trim.1.length = max 1 ((size.toNat + chunk.toNat - 1) / chunk.toNat) ∧
      (trim.1.head?.map Range.offset) = some 0 ∧
      trim.1.IsChain (fun r s => s.offset.toNat = r.stop) ∧
      trim.1.Pairwise (fun r s => r.stop ≤ s.offset.toNat) ∧
      (∀ b < 2 ^ 64 - 1, ∃ r ∈ trim.1, r.offset.toNat ≤ b ∧ b < r.stop) ∧
      ∀ r ∈ trim.1, r.stop ≤ 2 ^ 64 - 1 := by
  have hchunk : 0 < chunk.toNat := UInt64.lt_iff_toNat_lt.mp hpos
  have hfloor := Nat.mul_div_le (size.toNat + chunk.toNat - 1) chunk.toNat
  have hceil := Nat.lt_mul_div_succ (size.toNat + chunk.toNat - 1) hchunk
  generalize (size.toNat + chunk.toNat - 1) / chunk.toNat = q at *
  rw [Nat.mul_comm] at hfloor
  rw [Nat.mul_add_one, Nat.mul_comm] at hceil
  -- one chunk even of an empty filesystem
  obtain ⟨n, hn, hmore, hend⟩ : ∃ n, max 1 q = n + 1 ∧
      (n = 0 ∨ n * chunk.toNat < size.toNat) ∧ size.toNat ≤ (n + 1) * chunk.toNat := by
    cases q with
    | zero => exact ⟨0, rfl, .inl rfl, by omega⟩
    | succ q =>
      refine ⟨q, by omega, .inr ?_, by omega⟩
      rw [Nat.succ_mul] at hfloor
      omega
  obtain ⟨hended, hcount, htiles⟩ := trimVolume_tiles hpos hok n fuel 0 0 size old
    (fun _ => hsize) (fun h => absurd rfl h) (by omega) (by simpa using hmore) (by simpa using hend)
  refine ⟨hended, hn ▸ hcount, ?_, htiles.chain, htiles.disjoint,
    fun b hb => htiles.covered (Nat.zero_le b) hb, fun r hr => (htiles.bounds r hr).2⟩
  cases hranges : (trimVolume chunk env fuel 0 0 old).1 with
  | nil => simp [hranges] at hcount
  | cons r rest =>
    rw [hranges] at htiles
    exact congrArg some (UInt64.toNat_inj.mp htiles.1)

/-- Three bytes beyond two chunks: two whole ranges and the open one, although
the filesystem has grown after the first. -/
theorem trimVolume_covers_grown :
    (trimVolume 16 (fun i => ⟨false, true, true, some (35 + 64 * i.toUInt64), true⟩) 3 0 0 0).1 =
        [⟨0, 16⟩, ⟨16, 16⟩, ⟨32, 18446744073709551583⟩] ∧
      (trimVolume 16 (fun i => ⟨false, true, true, some (35 + 64 * i.toUInt64), true⟩) 3 0 0 0).2 =
        some .finished :=
  ⟨by decide, (trimVolume_covers (by decide) (fun _ => ⟨rfl, rfl, rfl, rfl, rfl⟩) rfl
    (by decide) 0).1⟩

end PillarCsi.TrimCoverage
