import PillarCsi.FencingContracts
import PillarCsi.OwnershipOperations

/-!
The same guarantees for the operations that move a volume ID between
lifecycles.
-/

namespace PillarCsi.OwnershipContracts

open DurableCell FencingAdmission MarkOrder FencedOperations FencingContracts OwnershipOperations

variable {c : MarkCell} {volumeID : String} {token : FencingToken} {op : FenceOp}
  {next m : FencingMark} {src : Option MarkLVMSource} {preserve : Bool} {admitted : FencingMark}
  {adm : FenceAdmission} {evidence : Except FenceError Unit}

theorem pinImportSource_ok (h : pinImportSource volumeID admitted m src preserve = .ok next) :
    next = { admitted with
      lvmSource := m.lvmSource.or src
      preserveOriginal := m.preserveOriginal || (src.isSome && preserve) } := by
  unfold pinImportSource at h
  obtain ⟨-, -, h⟩ := ok_of_ite_errors h
  exact (Except.ok.inj h).symm

theorem pinImportSource_le (h : pinImportSource volumeID admitted m src preserve = .ok next)
    (hle : m ≤ admitted) : m ≤ next := by
  obtain rfl := pinImportSource_ok h
  exact
    { hle with
      source := fun s hs => by simp [hs]
      preserve := fun hp => by simp [hp] }

theorem pinImportSource_wellFormed (h : pinImportSource volumeID admitted m src preserve = .ok next)
    (hadmitted : WellFormed admitted)
    (hm : m.preserveOriginal = true → m.lvmSource ≠ none) : WellFormed next := by
  obtain rfl := pinImportSource_ok h
  refine ⟨hadmitted.retired_ended, ?_, hadmitted.transfer_retired⟩
  intro hpreserve hnone
  obtain ⟨hstored, hsrc⟩ := Option.or_eq_none_iff.mp hnone
  rcases Bool.or_eq_true_iff.mp hpreserve with hp | hp
  · exact hm hp hstored
  · simp [hsrc] at hp

theorem fencedImport_cases {env : ImportSurroundings} :
    (∃ err, fencedImport volumeID token src preserve env c = (c, .error err)) ∨
    ∃ adm next, token.volumeUID ≠ "" ∧ Admits token .grant c.visible adm ∧
      pinImportSource volumeID adm.next (c.visible.getD {}) src preserve = .ok next ∧
      env.checks = .ok () ∧ fencedImport volumeID token src preserve env c =
        persistFencingMark volumeID c next (c.visible.all fun m => !equalMarks next m)
          env.persist := by
  unfold fencedImport
  split
  · exact .inl ⟨_, rfl⟩
  rename_i stored hread
  cases eq_visible_of_readFencingMark hread
  split
  · exact .inl ⟨_, rfl⟩
  rename_i adm hadmits
  split
  · exact .inl ⟨_, rfl⟩
  rename_i next hpin
  split
  · exact .inl ⟨_, rfl⟩
  · rename_i hchecks
    exact .inr ⟨adm, next, named_of_admitFencingToken hadmits, admits_of_admitFencingToken hadmits,
      hpin, hchecks, rfl⟩

theorem fencedImport_follows (h : Valid c) (src : Option MarkLVMSource)
    (preserve : Bool) (env : ImportSurroundings) :
    Follows c (fencedImport volumeID token src preserve env c).1 := by
  rcases fencedImport_cases with ⟨_, heq⟩ | ⟨adm, next, -, hadm, hpin, -, heq⟩ <;> rw [heq]
  · exact h.follows
  refine persistFencingMark_follows h ?_ ?_
  · intro m hm
    rw [hm] at hadm hpin
    exact pinImportSource_le hpin (admits_le hadm)
  · refine pinImportSource_wellFormed hpin (admits_wellFormed hadm fun m hm => h.visible hm) ?_
    cases hv : c.visible with
    | none => simp
    | some m => exact (h.visible hv).preserve_pinned

theorem le_retire_other (uid : String) : m ≤ { m with endedUIDs := m.endedUIDs ++ [uid] } where
  retired := List.subset_append_left _ _
  owner := .inl rfl
  fresh := fun _ => rfl
  generation := fun _ => le_refl _
  ended := fun _ h => ⟨h, rfl⟩
  source := fun _ h => h
  preserve := id

theorem le_retire_owner (hadm : Admits token op (some m) adm)
    (howner : token.volumeUID = m.volumeUID) :
    m ≤ { adm.next with ended := true, endedUIDs := m.endedUIDs ++ [token.volumeUID] } where
  retired := List.subset_append_left _ _
  owner := .inl (howner ▸ (admits_next_volumeUID hadm).symm)
  fresh := fun _ => howner ▸ (admits_next_volumeUID hadm).symm
  generation := (admits_le hadm).generation
  ended := fun heq hended => ⟨rfl, ((admits_le hadm).ended heq hended).2⟩
  source := (admits_le hadm).source
  preserve := (admits_le hadm).preserve

/-- The mark by which a retirement ends a lifecycle that never owned the volume
ID, one that no longer does, or the owner. -/
inductive Retirement (token : FencingToken) (unexported : Bool) (stored : Option FencingMark) :
    FencingMark → Prop
  | first (hnone : stored = none) : Retirement token unexported stored
      { volumeUID := token.volumeUID, generation := token.generation
        ended := true, endedUIDs := [token.volumeUID] }
  | other {m : FencingMark} (hm : stored = some m) (hfresh : token.volumeUID ∉ m.endedUIDs)
      (hother : token.volumeUID ≠ m.volumeUID) : Retirement token unexported stored
      { m with endedUIDs := m.endedUIDs ++ [token.volumeUID] }
  | owner {m : FencingMark} {adm : FenceAdmission} (hunexported : unexported = true)
      (hm : stored = some m) (hadm : Admits token .revoke (some m) adm)
      (howner : token.volumeUID = m.volumeUID) : Retirement token unexported stored
      { adm.next with ended := true, endedUIDs := m.endedUIDs ++ [token.volumeUID] }

variable {unexported : Bool} {env : RetireSurroundings}

theorem retireFence_cases :
    (∃ reply, retireFence volumeID token unexported env c = (c, reply) ∧
      ∀ owned, reply = .ok owned → owned = true ∧ unexported = false ∨
        owned = false ∧ token.volumeUID ≠ "" ∧
          ∃ m, c.visible = some m ∧ m.volumeUID ≠ "" ∧ token.volumeUID ∈ m.endedUIDs) ∨
    ∃ next, token.volumeUID ≠ "" ∧ (∀ m, c.visible = some m → m.volumeUID ≠ "") ∧
      Retirement token unexported c.visible next ∧ retireFence volumeID token unexported env c =
        (c.write next env.write,
          (writeFencingMark volumeID c next env.write).2.map fun _ => false) := by
  unfold retireFence
  split
  · exact .inl ⟨_, rfl, nofun⟩
  rename_i stored hread
  have hnamed := named_of_readFencingMark hread
  cases eq_visible_of_readFencingMark hread
  dsimp only
  split
  · exact .inl ⟨_, rfl, nofun⟩
  rename_i htoken
  split
  · rename_i hnone
    exact .inr ⟨_, htoken, hnamed, .first hnone, rfl⟩
  rename_i m hm
  split
  · rename_i hretired
    exact .inl ⟨_, rfl, fun _ hok =>
      .inr ⟨(Except.ok.inj hok).symm, htoken, m, hm, hnamed m hm, hretired⟩⟩
  rename_i hfresh
  split
  · rename_i hother
    exact .inr ⟨_, htoken, hnamed, .other hm hfresh hother, rfl⟩
  rename_i howner
  split
  · exact .inl ⟨_, rfl, nofun⟩
  rename_i adm hadmits
  split
  · rename_i hexported
    exact .inl ⟨_, rfl, fun _ hok => .inl ⟨(Except.ok.inj hok).symm, hexported⟩⟩
  rename_i hexported
  split
  · exact .inl ⟨_, rfl, nofun⟩
  · exact .inr ⟨_, htoken, hnamed, .owner (by simpa using hexported) hm
      (admits_of_admitFencingToken hadmits) (not_not.mp howner), rfl⟩

section

variable (hretired : Retirement token unexported c.visible next)

include hretired

theorem Retirement.le (hm : c.visible = some m) : m ≤ next := by
  cases hretired with
  | first hnone => exact nomatch hnone.symm.trans hm
  | other hm' =>
    obtain rfl := Option.mem_unique hm' hm
    exact le_retire_other _
  | owner _ hm' hadm howner =>
    obtain rfl := Option.mem_unique hm' hm
    exact le_retire_owner hadm howner

theorem Retirement.wellFormed (h : Valid c) : WellFormed next := by
  cases hretired with
  | first => exact ⟨fun _ => rfl, by simp, by simp⟩
  | other hm _ hother =>
    have hwf := h.visible hm
    refine ⟨fun hmem => ?_, hwf.preserve_pinned, fun t ht => ?_⟩
    · rcases List.mem_append.mp hmem with hmem | hmem
      · exact hwf.retired_ended hmem
      · exact absurd (List.mem_singleton.mp hmem).symm hother
    · exact List.mem_append_left _ (hwf.transfer_retired t ht)
  | @owner m adm _ hm hadm howner =>
    have hnext : WellFormed adm.next := admits_wellFormed hadm fun x hx => by
      cases hx
      exact h.visible hm
    refine ⟨fun _ => rfl, hnext.preserve_pinned, fun t ht => ?_⟩
    have hmem := hnext.transfer_retired t ht
    rw [admits_owner_endedUIDs hadm howner] at hmem
    exact List.mem_append_left _ hmem

theorem Retirement.retired : token.volumeUID ∈ next.endedUIDs := by
  cases hretired <;> simp

end

theorem retireFence_follows (h : Valid c) (unexported : Bool) (env : RetireSurroundings) :
    Follows c (retireFence volumeID token unexported env c).1 := by
  rcases retireFence_cases with ⟨_, heq, -⟩ | ⟨next, -, -, hretired, heq⟩ <;> rw [heq]
  · exact h.follows
  · exact h.write (fun _ => hretired.le) (hretired.wellFormed h) env.write

/-- Success of a retirement, except for a lifecycle whose retirement is
already visible: that answer says nothing about the disk. -/
theorem retireFence_retired (hok : (retireFence volumeID token unexported env c).2 = .ok false)
    (hdurable : ∀ m, c.visible = some m → token.volumeUID ∈ m.endedUIDs →
      c.Settled (RetiredIn token.volumeUID)) :
    (retireFence volumeID token unexported env c).1.Settled (RetiredIn token.volumeUID) := by
  rcases retireFence_cases with ⟨_, heq, hreply⟩ | ⟨next, -, -, hretired, heq⟩ <;>
    rw [heq] at hok ⊢
  · obtain ⟨hfalse, -⟩ | ⟨-, -, m, hm, -, hmem⟩ := hreply _ hok
    · cases hfalse
    · exact hdurable m hm hmem
  · have hwritten : (writeFencingMark volumeID c next env.write).2 = .ok () := by
      cases hw : (writeFencingMark volumeID c next env.write).2 with
      | error err => simp [hw, Except.map] at hok
      | ok => rfl
    exact ⟨next, writeFencingMark_durable hwritten, hretired.retired⟩

variable {snap : RecoverySnapshot} {auth : RecoveryAuthorization}

theorem transferAdmittedMark_ok
    (h : transferAdmittedMark volumeID m snap auth evidence = .ok next) :
    m.ended = false ∧ m.volumeUID = auth.oldVolumeUID ∧ auth.newVolumeUID ∉ m.endedUIDs ∧
      m.lvmSource ≠ none ∧ next =
        { volumeUID := auth.newVolumeUID, generation := auth.newGeneration
          endedUIDs := appendUID m.endedUIDs m.volumeUID
          lvmSource := m.lvmSource
          preserveOriginal := m.preserveOriginal || auth.preserveOriginal } := by
  unfold transferAdmittedMark at h
  obtain ⟨hopen, hold, h⟩ := ok_of_ite_errors h
  obtain ⟨-, hnew, h⟩ := ok_of_ite_errors h
  obtain ⟨hpinned, -, h⟩ := ok_of_ite_errors h
  obtain ⟨-, -, h⟩ := ok_of_ite_errors h
  obtain ⟨-, h⟩ := ok_of_ite_error h
  cases evidence with
  | error err => cases h
  | ok =>
    cases h
    exact ⟨by simpa using hopen, not_not.mp hold, hnew, hpinned, rfl⟩

def transferredMark (stored admitted : FencingMark) (auth : RecoveryAuthorization) : FencingMark :=
  { admitted with
    transfer := some
      { authorizationDigest := auth.digest
        fromUID := stored.volumeUID, fromGeneration := stored.generation
        toUID := auth.newVolumeUID, toGeneration := auth.newGeneration } }

theorem le_transferredMark (h : transferAdmittedMark volumeID m snap auth evidence = .ok next)
    (hnew : m.volumeUID ≠ auth.newVolumeUID) : m ≤ transferredMark m next auth := by
  obtain ⟨-, -, hfresh, -, rfl⟩ := transferAdmittedMark_ok h
  exact
    { retired := fun x hx => by simp [transferredMark, hx]
      owner := by simp [transferredMark]
      fresh := fun hmem => absurd hmem hfresh
      generation := fun heq => absurd heq hnew
      ended := fun heq => absurd heq hnew
      source := fun _ hs => hs
      preserve := fun hp => by simp [transferredMark, hp] }

theorem wellFormed_transferredMark
    (h : transferAdmittedMark volumeID m snap auth evidence = .ok next)
    (hnew : m.volumeUID ≠ auth.newVolumeUID) : WellFormed (transferredMark m next auth) := by
  obtain ⟨-, -, hfresh, hpinned, rfl⟩ := transferAdmittedMark_ok h
  refine ⟨?_, fun _ => hpinned, ?_⟩
  · intro hmem
    rcases mem_appendUID.mp hmem with hmem | hmem
    · exact absurd hmem hfresh
    · exact absurd hmem.symm hnew
  · intro t ht
    cases ht
    simp [transferredMark]

theorem checkCommittedTransferRetry_ok {transfer : Option MarkTransfer}
    (h : checkCommittedTransferRetry volumeID transfer auth = .ok ()) :
    ∃ t, transfer = some t ∧ t.fromUID = auth.oldVolumeUID := by
  cases transfer with
  | none => cases h
  | some t =>
    obtain ⟨-, hendpoints, -⟩ := ok_of_ite_errors h
    exact ⟨t, rfl, by tauto⟩

/-- A request is refused, repeats a transfer that was committed, or commits one. -/
theorem newVolumeUID_of_verifyTransferSignatures {signatures : Except FenceError Unit}
    (hok : verifyTransferSignatures auth signatures = .ok ()) : auth.newVolumeUID ≠ "" := by
  unfold verifyTransferSignatures at hok
  split at hok
  · cases hok
  rename_i hfields
  unfold verifyAuthorizationFields at hfields
  obtain ⟨-, -, hfields⟩ := ok_of_ite_errors hfields
  exact (ok_of_ite_error hfields).1

theorem transferVolumeOwnership_cases (volumeID : String) (snap : RecoverySnapshot)
    (auth : RecoveryAuthorization) (env : TransferSurroundings) (c : MarkCell) :
    (∃ err, transferVolumeOwnership volumeID snap auth env c = (c, .error err)) ∨
    ∃ m next reply, c.visible = some m ∧
      transferVolumeOwnership volumeID snap auth env c = (c.write next env.write, reply) ∧
      (reply = .ok .committed ∨ reply = .ok .alreadyCommitted → env.write = .synced) ∧
      (∀ err, reply = .error err → env.write = .failedBeforeRename) ∧
      (m.volumeUID = auth.newVolumeUID ∧ next = m ∧
          checkCommittedTransferRetry volumeID m.transfer auth = .ok () ∨
        m.volumeUID ≠ auth.newVolumeUID ∧ ∃ admitted, next = transferredMark m admitted auth ∧
          verifyTransferSignatures auth env.signatures = .ok () ∧
          transferAdmittedMark volumeID m snap auth env.evidence = .ok admitted) := by
  unfold transferVolumeOwnership
  split
  · exact .inl ⟨_, rfl⟩
  split
  · exact .inl ⟨_, rfl⟩
  · exact .inl ⟨_, rfl⟩
  rename_i m hread
  have hm := (eq_visible_of_readFencingMark hread).symm
  split
  · split
    · exact .inl ⟨_, rfl⟩
    refine .inr ⟨m, m, _, hm, rfl, ?_, nofun, .inl ⟨‹_›, rfl, ‹_›⟩⟩
    cases env.write <;> simp
  split
  · exact .inl ⟨_, rfl⟩
  split
  · exact .inl ⟨_, rfl⟩
  refine .inr ⟨m, _, _, hm, rfl, ?_, ?_, .inr ⟨‹_›, _, rfl, ‹_›, ‹_›⟩⟩ <;> cases env.write <;> simp

theorem transferVolumeOwnership_valid (volumeID : String) (h : Valid c) (snap : RecoverySnapshot)
    (auth : RecoveryAuthorization) (env : TransferSurroundings) :
    (∃ err, transferVolumeOwnership volumeID snap auth env c = (c, .error err)) ∨
    ∃ next reply, (∀ m, c.visible = some m → m ≤ next) ∧ WellFormed next ∧
      auth.oldVolumeUID ∈ next.endedUIDs ∧
      transferVolumeOwnership volumeID snap auth env c = (c.write next env.write, reply) ∧
      (reply = .ok .committed ∨ reply = .ok .alreadyCommitted → env.write = .synced) := by
  refine (transferVolumeOwnership_cases volumeID snap auth env c).imp_right ?_
  rintro ⟨m, next, reply, hm, heq, hsynced, -, hnext⟩
  refine ⟨next, reply, fun x hx => ?_, ?_, ?_, heq, hsynced⟩ <;>
    rcases hnext with ⟨-, rfl, hretry⟩ | ⟨hnew, admitted, rfl, -, hadmitted⟩
  · exact (Option.mem_unique hx hm).le
  · rw [Option.mem_unique hx hm]
    exact le_transferredMark hadmitted hnew
  · exact h.visible hm
  · exact wellFormed_transferredMark hadmitted hnew
  · obtain ⟨t, ht, hfrom⟩ := checkCommittedTransferRetry_ok hretry
    exact hfrom ▸ (h.visible hm).transfer_retired t ht
  · obtain ⟨-, hold, -, -, rfl⟩ := transferAdmittedMark_ok hadmitted
    simp [transferredMark, hold]

theorem transferVolumeOwnership_follows (h : Valid c) (snap : RecoverySnapshot)
    (auth : RecoveryAuthorization) (env : TransferSurroundings) :
    Follows c (transferVolumeOwnership volumeID snap auth env c).1 := by
  rcases transferVolumeOwnership_valid volumeID h snap auth env with
    ⟨err, heq⟩ | ⟨next, reply, hle, hwf, -, heq, -⟩
  · rw [heq]
    exact h.follows
  · rw [heq]
    exact h.write hle hwf env.write

theorem transferVolumeOwnership_retired (h : Valid c) {env : TransferSurroundings}
    (hok : (transferVolumeOwnership volumeID snap auth env c).2 = .ok .committed ∨
      (transferVolumeOwnership volumeID snap auth env c).2 = .ok .alreadyCommitted) :
    (transferVolumeOwnership volumeID snap auth env c).1.Settled (RetiredIn auth.oldVolumeUID) := by
  rcases transferVolumeOwnership_valid volumeID h snap auth env with
    ⟨err, heq⟩ | ⟨next, reply, -, -, hmem, heq, hsynced⟩
  · simp [heq] at hok
  · rw [heq] at hok ⊢
    rw [hsynced hok]
    exact ⟨next, rfl, hmem⟩

/-- A durable mark that has seen the token authorizes it as long as the
visible mark admits the token unchanged. -/
theorem authorizes_of_covers {d : FencingMark} (hnext : Authorizes token op m)
    (hle : d ≤ m) (hcovers : Covers token d) : Authorizes token op d := by
  have hretired : token.volumeUID ∉ d.endedUIDs := fun hmem => hnext.not_retired (hle.retired hmem)
  rcases hcovers with ⟨howner, hgeneration⟩ | hmem
  · have heq : d.volumeUID = m.volumeUID := howner.trans hnext.volumeUID.symm
    refine ⟨howner, ?_, hretired, ?_⟩
    · have hle := hle.generation heq
      rw [hnext.generation] at hle
      omega
    · intro hop
      cases hended : d.ended with
      | false => rfl
      | true =>
        have hmEnded := (hle.ended heq hended).1
        rw [hnext.grant_open hop] at hmEnded
        cases hmEnded
  · exact absurd hmem hretired

theorem recheckFence_contract (volumeID : String) (op : FenceOp) (env : Surroundings)
    (h : Valid c) (hseen : c.Settled (Covers token)) :
    Contract token op c (recheckFence volumeID token op env c) := by
  unfold recheckFence
  split
  · exact contract_idle h _
  rename_i stored hread
  cases eq_visible_of_readFencingMark hread
  split
  · exact contract_idle h _
  rename_i adm hadmits
  have hadm := admits_of_admitFencingToken hadmits
  split
  · exact contract_idle h _
  rename_i hchanged
  have hvisible := admits_unchanged hadm (by simpa using hchanged)
  obtain ⟨d, hd, hcovers⟩ := hseen
  have hauth : Authorizes token op d :=
    authorizes_of_covers (authorizes_admitted hadm (SameLifecycle.refl _))
      (h.sorted.le_visible (Cell.mem_values_of_durable hd) hvisible) hcovers
  have hran : ∀ ran reply, Contract token op c ⟨c, ran, reply⟩ :=
    fun ran reply => ⟨h.follows, fun _ => ⟨c, h.follows, h.follows, d, hd, hauth⟩⟩
  split
  · exact contract_idle h _
  split
  · exact hran _ _
  · exact hran _ _
  · exact hran _ _

theorem sameLifecycle_withBookkeeping (next : FencingMark) (b : FilesystemBookkeeping) :
    SameLifecycle next (withBookkeeping next b) := ⟨rfl, rfl, rfl, rfl, rfl, rfl, rfl⟩

theorem withBookkeeping_le (b : FilesystemBookkeeping) : withBookkeeping next b ≤ next :=
  SameLifecycle.le ⟨rfl, rfl, rfl, rfl, rfl, rfl, rfl⟩

theorem applyRewrites_follows (hnext : WellFormed next)
    (rewrites : List (FilesystemBookkeeping × WriteOutcome)) (h : Valid c)
    (hle : ∀ x, c.visible = some x → x ≤ next) : Follows c (applyRewrites next c rewrites) ∧
      ∀ x, (applyRewrites next c rewrites).visible = some x → x ≤ next := by
  induction rewrites generalizing c with
  | nil => exact ⟨h.follows, hle⟩
  | cons rewrite rest ih =>
    obtain ⟨b, o⟩ := rewrite
    have hsame := sameLifecycle_withBookkeeping next b
    have hwrite := h.write (v := withBookkeeping next b)
      (fun x hx => (hle x hx).trans hsame.le) (hsame.wellFormed hnext) o
    have hvisible : ∀ x, (c.write (withBookkeeping next b) o).visible = some x →
        x ≤ next := by
      intro x hx
      rcases Cell.visible_write c (withBookkeeping next b) o with heq | heq
      · rw [heq] at hx
        cases hx
        exact withBookkeeping_le b
      · exact hle x (heq ▸ hx)
    obtain ⟨hfollows, hlast⟩ := ih hwrite.valid hvisible
    exact ⟨hwrite.trans hfollows, hlast⟩

theorem commitFilesystemOperation_contract (h : Valid c)
    {stored : FencingMark} {importing : Bool} {env : FilesystemSurroundings}
    (hadm : Admits token op c.visible adm) (hnext : SameLifecycle adm.next next) :
    Contract token op c
      (commitFilesystemOperation volumeID next stored adm.changed importing env c) := by
  have hwf := h.admitted_wellFormed hadm hnext
  unfold commitFilesystemOperation
  split
  · split
    · exact contract_idle h _
    · exact ⟨h.write (visible_le_admitted hadm hnext) hwf env.finish, fun hran => nomatch hran⟩
  have hchanged : (adm.changed || stored.filesystem != next.filesystem) = false →
      adm.changed = false := fun hfalse => (Bool.or_eq_false_iff.mp hfalse).1
  split
  · rename_i marks err heq
    obtain ⟨hfollows, -⟩ := h.persist_admitted hadm hnext hchanged heq
    exact ⟨hfollows, fun hran => nomatch hran⟩
  rename_i marks heq
  obtain ⟨hfollows, hdurable⟩ := h.persist_admitted hadm hnext hchanged heq
  obtain ⟨d, rfl, hsame, hauth⟩ := hdurable rfl
  split
  · exact ⟨hfollows, fun hran => nomatch hran⟩
  -- every rewrite of the mutation keeps the lifecycle that was just persisted
  have hvisible : ∀ x, (⟨some d, []⟩ : MarkCell).visible = some x → x ≤ next := by
    intro x hx
    cases Option.some.inj hx
    exact hsame.le
  obtain ⟨hrewrites, hlast⟩ := applyRewrites_follows hwf env.rewrites hfollows.valid hvisible
  split
  · exact ⟨hfollows.trans hrewrites, fun _ => ranUnder_synced hfollows hauth hrewrites⟩
  · rename_i b _
    have hbook := sameLifecycle_withBookkeeping next b
    have hwrite := hrewrites.trans (hrewrites.valid.write
      (fun x hx => (hlast x hx).trans hbook.le) (hbook.wellFormed hwf) env.finish)
    exact ⟨hfollows.trans hwrite, fun _ => ranUnder_synced hfollows hauth hwrite⟩

theorem filesystemOperation_contract (h : Valid c) (call : FilesystemCall)
    (env : FilesystemSurroundings) :
    Contract token op c (filesystemOperation volumeID call token op env c) := by
  unfold filesystemOperation
  split
  · exact contract_idle h _
  split
  · exact contract_idle h _
  rename_i stored hread
  cases eq_visible_of_readFencingMark hread
  split
  · exact contract_idle h _
  rename_i adm hadmits
  have hadm := admits_of_admitFencingToken hadmits
  split
  · exact contract_idle h _
  · exact contract_idle h _
  split
  · exact contract_idle h _
  rename_i layout _
  refine commitFilesystemOperation_contract h hadm ?_
  cases layout with
  | none | some l => exact ⟨rfl, rfl, rfl, rfl, rfl, rfl, rfl⟩

end PillarCsi.OwnershipContracts
