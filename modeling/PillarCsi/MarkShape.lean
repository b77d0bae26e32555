import Mathlib.Data.List.Nodup
import PillarCsi.OwnershipTransfer

/-!
The shape of a fencing mark.

Marks are built in six places, each carrying over its own selection of fields.
Whatever the tokens, the failures and the power losses, every mark on the disk
names its owner, lists a retired lifecycle once, pins what it preserves and
records only the transfer that made its owner the owner; and a mark that
replaces another one forgets no retired lifecycle.
-/

namespace PillarCsi.MarkShape

open DurableCell FencingAdmission MarkOrder FencedOperations OwnershipOperations
open OwnershipContracts AgentRuns FencingOrder OwnershipTransfer TransitionSystem

/-- What `WellFormed` leaves out. -/
structure Named (m : FencingMark) : Prop where
  endedUIDs_nodup : m.endedUIDs.Nodup
  owner_named : m.volumeUID ≠ ""
  transfer_owner : ∀ t, m.transfer = some t → t.toUID = m.volumeUID

theorem Named.sameLifecycle {a b : FencingMark} (ha : Named a) (h : SameLifecycle a b) :
    Named b where
  endedUIDs_nodup := h.endedUIDs ▸ ha.endedUIDs_nodup
  owner_named := h.volumeUID ▸ ha.owner_named
  transfer_owner := by
    rw [h.transfer, h.volumeUID]
    exact ha.transfer_owner

variable {m : FencingMark} {uids : List String} {uid : String} {s t : AgentState}

theorem Named.ended (h : Named m) : Named { m with ended := true } :=
  ⟨h.endedUIDs_nodup, h.owner_named, h.transfer_owner⟩

theorem nodup_concat (h : uids.Nodup) (huid : uid ∉ uids) : (uids ++ [uid]).Nodup := by
  simpa using h.concat huid

theorem nodup_appendUID (h : uids.Nodup) : (appendUID uids uid).Nodup := by
  unfold appendUID
  split
  · exact h
  · rename_i huid
    exact nodup_concat h huid

variable {stored : Option FencingMark}

section Operations

variable {volumeID : String} {token : FencingToken} {op : FenceOp}
  {auth : RecoveryAuthorization}

theorem admits_named {adm : FenceAdmission}
    (h : Admits token op stored adm) (htoken : token.volumeUID ≠ "")
    (hstored : ∀ m, stored = some m → Named m) : Named adm.next := by
  cases h with
  | first => exact ⟨List.nodup_nil, htoken, nofun⟩
  | @successor m => exact ⟨nodup_appendUID (hstored m rfl).endedUIDs_nodup, htoken, nofun⟩
  | terminalRetry | sameGeneration => exact hstored _ rfl
  | @advance m =>
    have hm := hstored m rfl
    exact ⟨hm.endedUIDs_nodup, hm.owner_named, hm.transfer_owner⟩

theorem named_of_writtenBy {a : AgentAction}
    (h : WrittenBy volumeID stored a m) (hstored : ∀ m, stored = some m → Named m) : Named m := by
  cases h with
  | admitted htoken hadm hnext => exact (admits_named hadm htoken hstored).sameLifecycle hnext
  | destroyed htoken hadm hnext =>
    exact ((admits_named hadm htoken hstored).sameLifecycle hnext).ended
  | imported htoken hadm hpin =>
    have hnamed := admits_named hadm htoken hstored
    obtain rfl := pinImportSource_ok hpin
    exact ⟨hnamed.endedUIDs_nodup, hnamed.owner_named, hnamed.transfer_owner⟩
  | retiredFirst htoken _ => exact ⟨List.nodup_singleton _, htoken, nofun⟩
  | retiredOther hm hfresh =>
    have hnamed := hstored _ hm
    exact ⟨nodup_concat hnamed.endedUIDs_nodup hfresh, hnamed.owner_named, hnamed.transfer_owner⟩
  | retiredOwner hm hadm howner =>
    have hold := hstored _ hm
    have hnamed := admits_named hadm (howner ▸ hold.owner_named) (hm ▸ hstored)
    have hfresh := admits_owner_endedUIDs hadm howner ▸ admits_not_retired hadm
    exact ⟨nodup_concat hold.endedUIDs_nodup hfresh, hnamed.owner_named, hnamed.transfer_owner⟩
  | retried hm => exact hstored _ hm
  | transferred hm _ hsignatures hadmitted =>
    obtain ⟨-, -, -, -, rfl⟩ := transferAdmittedMark_ok hadmitted
    refine ⟨nodup_appendUID (hstored _ hm).endedUIDs_nodup,
      newVolumeUID_of_verifyTransferSignatures hsignatures, ?_⟩
    intro t ht
    cases ht
    rfl

end Operations

variable {volumeID : String}

theorem step_named (s : AgentState) (a : AgentAction) (t : AgentState)
    (h : ∀ m ∈ s.marks.values, Named m) (hstep : step volumeID s a = some t) :
    ∀ m ∈ t.marks.values, Named m :=
  step_values (fun _ hm => named_of_writtenBy hm fun m hvisible =>
    h m (Cell.mem_values_of_visible hvisible)) h hstep

theorem step_visible_le {a : AgentAction}
    (hm : s.marks.visible = some m) (hpower : ∀ k, a ≠ .crash k)
    (hstep : step volumeID s a = some t) : ∃ m', t.marks.visible = some m' ∧ m ≤ m' := by
  rcases step_writtenBy hstep with hwritten | ⟨k, heq⟩ | ⟨k, rfl, -⟩
  · rcases hwritten.visible with hsame | ⟨m', hm', hcontinues⟩
    · exact ⟨m, hsame.trans hm, le_refl m⟩
    · exact ⟨m', hm', (hcontinues.continues m hm).1⟩
  · exact ⟨m, by rw [heq, Cell.visible_flush, hm], le_refl m⟩
  · exact absurd rfl (hpower k)

theorem run_visible_le {actions : List AgentAction}
    (hm : s.marks.visible = some m) (hpower : ∀ k, .crash k ∉ actions)
    (hrun : run (step volumeID) s actions = some t) : ∃ m', t.marks.visible = some m' ∧ m ≤ m' := by
  induction actions generalizing s m with
  | nil =>
    cases Option.some.inj hrun
    exact ⟨m, hm, le_refl m⟩
  | cons a rest ih =>
    obtain ⟨next, hnext, hrest⟩ := run_cons_eq_some hrun
    obtain ⟨m', hm', hle⟩ := step_visible_le hm
      (fun k heq => hpower k (heq ▸ (.head _))) hnext
    obtain ⟨m'', hm'', hle'⟩ := ih hm' (fun k hmem => hpower k (.tail a hmem)) hrest
    exact ⟨m'', hm'', hle.trans hle'⟩

structure Shaped (m : FencingMark) : Prop where
  endedUIDs_nodup : m.endedUIDs.Nodup
  owner_named : m.volumeUID ≠ ""
  retired_ended : m.volumeUID ∈ m.endedUIDs → m.ended = true
  preserve_pinned : m.preserveOriginal = true → m.lvmSource ≠ none
  transfer_endpoints : ∀ t, m.transfer = some t →
    t.toUID = m.volumeUID ∧ t.fromUID ∈ m.endedUIDs

/-- What stays of a mark in the ones that replace it. -/
structure Remembered (m m' : FencingMark) : Prop where
  endedUIDs : m.endedUIDs ⊆ m'.endedUIDs
  generation : m'.volumeUID = m.volumeUID → m.generation ≤ m'.generation

theorem remembered_of_le {m' : FencingMark} (h : m ≤ m') : Remembered m m' :=
  ⟨h.retired, fun howner => h.generation howner.symm⟩

/-- Every mark an agent leaves on its disk, synced or not, has its shape.  What
a reader sees is never replaced by a mark that forgets a retired lifecycle or
takes the owner's generation back, and not even a power loss does that to the
durable mark. -/
theorem marks_shaped (volumeID : String) {actions : List AgentAction} {s : AgentState}
    (hrun : run (step volumeID) initial actions = some s) : (∀ m ∈ s.marks.values, Shaped m) ∧
    (∀ later t, run (step volumeID) s later = some t →
      (∀ d, s.marks.durable = some d → ∃ d', t.marks.durable = some d' ∧ Remembered d d') ∧
      ((∀ k, .crash k ∉ later) → ∀ m, s.marks.visible = some m →
        ∃ m', t.marks.visible = some m' ∧ Remembered m m')) := by
  have hinv := run_agentInvariant False hrun nofun
  have hnamed : ∀ m ∈ s.marks.values, Named m :=
    invariant_run step_named (by simp [initial, Cell.empty, Cell.values]) hrun
  refine ⟨fun m hm => ?_, fun later t hlater => ⟨fun d hd => ?_, fun hpower m hm => ?_⟩⟩
  · have hwell := hinv.valid.wellFormed m hm
    have hm := hnamed m hm
    exact ⟨hm.endedUIDs_nodup, hm.owner_named, hwell.retired_ended, hwell.preserve_pinned,
      fun tr htr => ⟨hm.transfer_owner tr htr, hwell.transfer_retired tr htr⟩⟩
  · have hstep : ∀ u a v, (AgentInvariant False u ∧ s.marks.Advances u.marks) →
        step volumeID u a = some v → AgentInvariant False v ∧ s.marks.Advances v.marks :=
      fun u a v hu hstep => ⟨step_agentInvariant volumeID u a v hu.1 nofun hstep,
        hu.2.trans (step_follows hu.1 hstep).advances⟩
    obtain ⟨-, hadvances⟩ := invariant_run hstep ⟨hinv, Cell.Advances.refl _⟩ hlater
    obtain ⟨d', hd', hle⟩ := hadvances d hd
    exact ⟨d', hd', remembered_of_le hle⟩
  · obtain ⟨m', hm', hle⟩ := run_visible_le hm hpower hlater
    exact ⟨m', hm', remembered_of_le hle⟩

/-- A volume recovered from `a` to `b`, with a third lifecycle retired. -/
theorem marks_shaped_recovered : ∃ s m t m', run (step "vg/lv") initial
        (adoptLV ++ [.transfer ⟨"a", 7, false⟩ recoverToB {}, .retire ⟨"c", 1⟩ false {}]) = some s ∧
      s.marks.visible = some m ∧ m.endedUIDs = ["a", "c"] ∧ Shaped m ∧
      run (step "vg/lv") s [.fenced .grantExport ⟨"b", 2⟩ none {}] = some t ∧
      t.marks.visible = some m' ∧ m'.generation = 2 ∧ Remembered m m' := by
  obtain ⟨s, m, t, m', hs, hm, hended, ht, hm', hgeneration⟩ :
      ∃ s m t m', run (step "vg/lv") initial (adoptLV ++
          [.transfer ⟨"a", 7, false⟩ recoverToB {}, .retire ⟨"c", 1⟩ false {}]) = some s ∧
        s.marks.visible = some m ∧ m.endedUIDs = ["a", "c"] ∧
        run (step "vg/lv") s [.fenced .grantExport ⟨"b", 2⟩ none {}] = some t ∧
        t.marks.visible = some m' ∧ m'.generation = 2 :=
    ⟨_, _, _, _, rfl, rfl, rfl, rfl, rfl, rfl⟩
  obtain ⟨hshaped, hlater⟩ := marks_shaped "vg/lv" hs
  obtain ⟨seen, hseen, hremembered⟩ := (hlater _ t ht).2 (by simp) m hm
  obtain rfl : m' = seen := Option.mem_unique hm' hseen
  exact ⟨s, m, t, m', hs, hm, hended, hshaped m (Cell.mem_values_of_visible hm), ht, hm',
    hgeneration, hremembered⟩

end PillarCsi.MarkShape
