import PillarCsi.OwnershipContracts

/-!
Which marks an operation of the agent may write, whatever its surroundings
answer, and that it succeeds when they all do.
-/

namespace PillarCsi.MarkWrites

open DurableCell FencingAdmission MarkOrder FencedOperations OwnershipOperations FencingContracts
open OwnershipContracts

variable {c : MarkCell} {volumeID : String} {token : FencingToken} {op : FenceOp}

/-- `b` names the same owner as `a`, at the same generation and with the same
retired lifecycles. -/
structure SameOwner (a b : FencingMark) : Prop where
  volumeUID : b.volumeUID = a.volumeUID
  generation : b.generation = a.generation
  ended : b.ended = a.ended
  endedUIDs : b.endedUIDs = a.endedUIDs

theorem sameOwner_of_sameLifecycle {a b : FencingMark} (h : SameLifecycle a b) : SameOwner a b :=
  ⟨h.volumeUID, h.generation, h.ended, h.endedUIDs⟩

theorem SameOwner.refl (a : FencingMark) : SameOwner a a := ⟨rfl, rfl, rfl, rfl⟩

def AdmittedMark (token : FencingToken) (op : FenceOp) (stored : Option FencingMark)
    (m : FencingMark) : Prop :=
  ∃ adm, Admits token op stored adm ∧
    (SameOwner adm.next m ∨ op = .destroy ∧ SameOwner { adm.next with ended := true } m)

def RetiredMark (token : FencingToken) (stored : Option FencingMark) (m : FencingMark) : Prop :=
  token.volumeUID ∈ m.endedUIDs ∧
    (m.volumeUID = token.volumeUID ∧ m.generation = token.generation ∧ m.ended = true ∨
      ∃ old, stored = some old ∧ old.volumeUID ≠ token.volumeUID ∧
        m = { old with endedUIDs := old.endedUIDs ++ [token.volumeUID] })

variable {env : Surroundings} {o : WriteOutcome}
  {check : Option (FencingMark → Except FenceError Unit)} {call : FilesystemCall}
  {snap : RecoverySnapshot} {auth : RecoveryAuthorization}

variable {changed : Bool}

section Evolution

variable {p : FencingMark → Prop} {next : FencingMark}

theorem persistFencingMark_evolves (hnext : p next) :
    c.Evolves p (persistFencingMark volumeID c next changed o).1 := by
  unfold persistFencingMark
  split
  · exact .write .refl hnext o
  · exact .sync .refl _

theorem runFencedMutation_evolves (hended : op = .destroy → p { next with ended := true }) :
    c.Evolves p (runFencedMutation volumeID op next env c).marks := by
  unfold runFencedMutation
  split
  · exact .refl
  · exact .refl
  · split
    · rename_i hdestroy
      exact .write .refl (hended hdestroy.1) env.finish
    · exact .refl

theorem persistAndRun_evolves (hnext : p next)
    (hended : op = .destroy → p { next with ended := true }) :
    c.Evolves p (persistAndRun volumeID op next changed env c).marks := by
  have hpersist : c.Evolves p (persistFencingMark volumeID c next changed env.persist).1 :=
    persistFencingMark_evolves hnext
  unfold persistAndRun
  split
  · rename_i marks err heq
    rw [heq] at hpersist
    exact hpersist
  · rename_i marks heq
    rw [heq] at hpersist
    exact hpersist.trans (runFencedMutation_evolves hended)

theorem fencedChecked_evolves {backend : Option BackendType}
    (hnext : ∀ adm next, token.volumeUID ≠ "" → Admits token op c.visible adm →
      SameLifecycle adm.next next → p next ∧ (op = .destroy → p { next with ended := true })) :
    c.Evolves p (fencedChecked volumeID token op backend check env c).marks := by
  unfold fencedChecked
  split
  · exact .refl
  rename_i stored hread
  obtain rfl := eq_visible_of_readFencingMark hread
  split
  · exact .refl
  rename_i adm hadmits
  dsimp only
  split
  · exact .sync .refl _
  split
  · exact .refl
  split
  · exact .refl
  rename_i next hprepare
  obtain ⟨hwritten, hended⟩ := hnext adm next (named_of_admitFencingToken hadmits)
    (admits_of_admitFencingToken hadmits) (prepareFencingMark_sameLifecycle hprepare)
  exact persistAndRun_evolves hwritten hended

theorem fencedImport_evolves {src : Option MarkLVMSource} {preserve : Bool}
    {env : ImportSurroundings} (hnext : ∀ adm next, token.volumeUID ≠ "" →
      Admits token .grant c.visible adm →
      pinImportSource volumeID adm.next (c.visible.getD {}) src preserve = .ok next → p next) :
    c.Evolves p (fencedImport volumeID token src preserve env c).1 := by
  rcases fencedImport_cases with ⟨_, heq⟩ | ⟨adm, next, htoken, hadm, hpin, -, heq⟩ <;> rw [heq]
  · exact .refl
  · exact persistFencingMark_evolves (hnext adm next htoken hadm hpin)

theorem retireFence_evolves {unexported : Bool} {env : RetireSurroundings} (hnext : ∀ next,
      token.volumeUID ≠ "" → Retirement token unexported c.visible next → p next) :
    c.Evolves p (retireFence volumeID token unexported env c).1 := by
  rcases retireFence_cases with ⟨_, heq, -⟩ | ⟨next, htoken, -, hretired, heq⟩ <;> rw [heq]
  · exact .refl
  · exact .write .refl (hnext next htoken hretired) env.write

theorem applyRewrites_evolves (hnext : ∀ b, p (withBookkeeping next b))
    (rewrites : List (FilesystemBookkeeping × WriteOutcome)) (c : MarkCell) :
    c.Evolves p (applyRewrites next c rewrites) := by
  induction rewrites generalizing c with
  | nil => exact .refl
  | cons rewrite rest ih =>
    obtain ⟨b, o⟩ := rewrite
    exact (Cell.Evolves.write .refl (hnext b) o).trans (ih _)

theorem commitFilesystemOperation_evolves {stored : FencingMark} {importing : Bool}
    {env : FilesystemSurroundings} (hnext : p next) (hbook : ∀ b, p (withBookkeeping next b)) :
    c.Evolves p (commitFilesystemOperation volumeID next stored changed importing env c).marks := by
  have hpersist : c.Evolves p (persistFencingMark volumeID c next
      (changed || stored.filesystem != next.filesystem) env.persist).1 :=
    persistFencingMark_evolves hnext
  unfold commitFilesystemOperation
  split
  · split
    · exact .refl
    · exact .write .refl hnext env.finish
  split
  · rename_i marks err heq
    rw [heq] at hpersist
    exact hpersist
  rename_i marks heq
  rw [heq] at hpersist
  split
  · exact hpersist
  have hrewritten := hpersist.trans (applyRewrites_evolves hbook env.rewrites marks)
  dsimp only
  split
  · exact hrewritten
  · rename_i b hmutation
    exact .write hrewritten (hbook b) env.finish

theorem filesystemOperation_evolves {env : FilesystemSurroundings}
    (hnext : ∀ adm next, token.volumeUID ≠ "" → Admits token op c.visible adm →
      SameLifecycle adm.next next → next.filesystem = some call.adoption →
        next.filesystemVolumeID = call.volumeID → p next) :
    c.Evolves p (filesystemOperation volumeID call token op env c).marks := by
  unfold filesystemOperation
  split
  · exact .refl
  split
  · exact .refl
  rename_i stored hread
  obtain rfl := eq_visible_of_readFencingMark hread
  split
  · exact .refl
  rename_i adm hadmits
  have hadm := fun next =>
    hnext adm next (named_of_admitFencingToken hadmits) (admits_of_admitFencingToken hadmits)
  split
  · exact .refl
  · exact .refl
  split
  · exact .refl
  rename_i layout hpin
  -- the layout and the bookkeeping are no part of the lifecycle
  cases layout with
  | none | some l =>
    exact commitFilesystemOperation_evolves (hadm _ ⟨rfl, rfl, rfl, rfl, rfl, rfl, rfl⟩ rfl rfl)
      fun _ => hadm _ ⟨rfl, rfl, rfl, rfl, rfl, rfl, rfl⟩ rfl rfl

theorem transferVolumeOwnership_evolves {env : TransferSurroundings}
    (hretry : ∀ m, c.visible = some m → p m)
    (hcommit : ∀ m admitted, c.visible = some m → m.volumeUID ≠ auth.newVolumeUID →
      verifyTransferSignatures auth env.signatures = .ok () →
      transferAdmittedMark volumeID m snap auth env.evidence = .ok admitted →
        p (transferredMark m admitted auth)) :
    c.Evolves p (transferVolumeOwnership volumeID snap auth env c).1 := by
  rcases transferVolumeOwnership_cases volumeID snap auth env c with
    ⟨err, heq⟩ | ⟨m, next, reply, hm, heq, -, -, hnext⟩
  · rw [heq]
    exact .refl
  rw [heq]
  rcases hnext with ⟨-, rfl, -⟩ | ⟨hother, admitted, rfl, hsignatures, hadmitted⟩
  · exact .write .refl (hretry _ hm) env.write
  · exact .write .refl (hcommit m admitted hm hother hsignatures hadmitted) env.write

end Evolution

theorem fencedChecked_writes (volumeID : String) (token : FencingToken) (op : FenceOp)
    (backend : Option BackendType) (check : Option (FencingMark → Except FenceError Unit))
    (env : Surroundings) (c : MarkCell) : c.Writes (AdmittedMark token op c.visible)
      (fencedChecked volumeID token op backend check env c).marks := by
  refine (fencedChecked_evolves fun adm next _ hadm hnext => ?_).writes
  have howner := sameOwner_of_sameLifecycle hnext
  exact ⟨⟨adm, hadm, .inl howner⟩, fun hdestroy => ⟨adm, hadm, .inr
    ⟨hdestroy, howner.volumeUID, howner.generation, rfl, howner.endedUIDs⟩⟩⟩

theorem fencedImport_writes (src : Option MarkLVMSource) (preserve : Bool)
    (env : ImportSurroundings) : c.Writes (AdmittedMark token .grant c.visible)
      (fencedImport volumeID token src preserve env c).1 := by
  refine (fencedImport_evolves fun adm next _ hadm hpin => ⟨adm, hadm, .inl ?_⟩).writes
  obtain rfl := pinImportSource_ok hpin
  exact ⟨rfl, rfl, rfl, rfl⟩

theorem retireFence_writes (unexported : Bool) (env : RetireSurroundings) :
    c.Writes (RetiredMark token c.visible) (retireFence volumeID token unexported env c).1 := by
  refine (retireFence_evolves fun next _ hretired => ⟨hretired.retired, ?_⟩).writes
  cases hretired with
  | first => exact .inl ⟨rfl, rfl, rfl⟩
  | other hm _ hother => exact .inr ⟨_, hm, fun heq => hother heq.symm, rfl⟩
  | owner _ _ hadm => exact .inl ⟨admits_next_volumeUID hadm, admits_next_generation hadm, rfl⟩

def FilesystemMark (token : FencingToken) (op : FenceOp) (call : FilesystemCall)
    (stored : Option FencingMark) (m : FencingMark) : Prop :=
  (∃ adm, Admits token op stored adm ∧ SameOwner adm.next m) ∧
    m.filesystem = some call.adoption ∧ m.filesystemVolumeID = call.volumeID

theorem filesystemOperation_writes (call : FilesystemCall) (token : FencingToken)
    (op : FenceOp) (env : FilesystemSurroundings) (c : MarkCell) :
    c.Writes (FilesystemMark token op call c.visible)
      (filesystemOperation volumeID call token op env c).marks :=
  (filesystemOperation_evolves fun adm _ _ hadm hnext hfilesystem hid =>
    ⟨⟨adm, hadm, sameOwner_of_sameLifecycle hnext⟩, hfilesystem, hid⟩).writes

/-- A mark that made `auth`'s destination the owner. -/
def TransferMark (auth : RecoveryAuthorization) (m : FencingMark) : Prop :=
  m.volumeUID = auth.newVolumeUID ∧ m.generation = auth.newGeneration ∧ m.ended = false ∧
    auth.newVolumeUID ∉ m.endedUIDs

theorem transferMark_transferredMark {evidence : Except FenceError Unit} {m admitted : FencingMark}
    (h : transferAdmittedMark volumeID m snap auth evidence = .ok admitted)
    (hother : m.volumeUID ≠ auth.newVolumeUID) :
    TransferMark auth (transferredMark m admitted auth) := by
  obtain ⟨-, -, hfresh, -, rfl⟩ := transferAdmittedMark_ok h
  refine ⟨rfl, rfl, rfl, fun hmem => ?_⟩
  rcases mem_appendUID.mp hmem with hretired | hself
  · exact hfresh hretired
  · exact hother hself.symm

theorem transferVolumeOwnership_writes (volumeID : String) (snap : RecoverySnapshot)
    (auth : RecoveryAuthorization) (env : TransferSurroundings) (c : MarkCell) :
    c.Writes (TransferMark auth) (transferVolumeOwnership volumeID snap auth env c).1 := by
  have hevolves : c.Evolves (fun m => c.visible = some m ∨ TransferMark auth m)
      (transferVolumeOwnership volumeID snap auth env c).1 :=
    transferVolumeOwnership_evolves (fun _ hm => .inl hm) fun m admitted _ hother _ hadmitted =>
      .inr (transferMark_transferredMark hadmitted hother)
  intro v hv
  rcases hevolves.writes v hv with hold | hvisible | hnew
  · exact .inl hold
  · exact .inl (Cell.mem_values_of_visible hvisible)
  · exact .inr hnew

variable {next : FencingMark}

theorem persistFencingMark_admitted {adm : FenceAdmission} (hadm : Admits token op c.visible adm)
    (hnext : SameLifecycle adm.next next) (hchanged : changed = false → adm.changed = false)
    (hok : (persistFencingMark volumeID c next changed o).2 = .ok ()) :
    ∃ d, (persistFencingMark volumeID c next changed o).1 = ⟨some d, []⟩ ∧ SameLifecycle d next :=
  persistFencingMark_ok
    (fun hfalse => ⟨adm.next, admits_unchanged hadm (hchanged hfalse), hnext⟩) hok

/-- No mark of another lifecycle than `uid` can come back. -/
def OwnedBy (uid : String) (c : MarkCell) : Prop := ∀ m ∈ c.values, m.volumeUID = uid

theorem ownedBy_synced {uid : String} {d : FencingMark} (hd : d.volumeUID = uid) :
    OwnedBy uid ⟨some d, []⟩ := by
  intro m hm
  rw [List.mem_singleton.mp hm]
  exact hd

theorem runFencedMutation_grant : (runFencedMutation volumeID .grant next env c).marks = c := by
  unfold runFencedMutation
  split
  · rfl
  · rfl
  · simp

theorem fencedChecked_grant_owned (volumeID : String) (token : FencingToken)
    (backend : Option BackendType) (check : Option (FencingMark → Except FenceError Unit))
    (env : Surroundings) (c : MarkCell) :
    (fencedChecked volumeID token .grant backend check env c).reply.isOk = true →
      OwnedBy token.volumeUID (fencedChecked volumeID token .grant backend check env c).marks := by
  unfold fencedChecked
  split
  · exact fun hok => nomatch hok
  rename_i hread
  obtain rfl := eq_visible_of_readFencingMark hread
  split
  · exact fun hok => nomatch hok
  rename_i adm hadmits
  have hadm := admits_of_admitFencingToken hadmits
  dsimp only
  split
  · rename_i hterminal
    exact absurd hterminal.2.1 (by simp)
  split
  · exact fun hok => nomatch hok
  split
  · exact fun hok => nomatch hok
  rename_i next hprepare
  have hnext := prepareFencingMark_sameLifecycle hprepare
  unfold persistAndRun
  split
  · exact fun hok => nomatch hok
  · rename_i marks heq
    intro _
    have hpersisted := congrArg Prod.snd heq
    obtain ⟨d, hcell, hd⟩ := persistFencingMark_admitted hadm hnext
      (fun hfalse => (Bool.or_eq_false_iff.mp hfalse).1) hpersisted
    rw [heq] at hcell
    obtain rfl : marks = ⟨some d, []⟩ := hcell
    rw [runFencedMutation_grant]
    exact ownedBy_synced
      (hd.volumeUID.symm.trans (hnext.volumeUID.trans (admits_next_volumeUID hadm)))

theorem readFencingMark_named (volumeID : String)
    (hnamed : ∀ m, c.visible = some m → m.volumeUID ≠ "") :
    readFencingMark volumeID c true = .ok c.visible := by
  unfold readFencingMark
  cases hvisible : c.visible with
  | none => simp
  | some m => simp [hnamed m hvisible]

theorem persistFencingMark_synced_ok (volumeID : String) (c : MarkCell) (next : FencingMark)
    (changed : Bool) :
    ∃ marks, persistFencingMark volumeID c next changed .synced = (marks, .ok ()) := by
  unfold persistFencingMark writeFencingMark
  split <;> exact ⟨_, rfl⟩

theorem persistFencingMark_synced (volumeID : String) {adm : FenceAdmission}
    (hadm : Admits token op c.visible adm) (hnext : SameLifecycle adm.next next)
    (hchanged : changed = false → adm.changed = false) :
    ∃ d, persistFencingMark volumeID c next changed .synced = (⟨some d, []⟩, .ok ()) ∧
      SameLifecycle d next := by
  obtain ⟨marks, heq⟩ := persistFencingMark_synced_ok volumeID c next changed
  obtain ⟨d, hcell, hd⟩ := persistFencingMark_admitted hadm hnext hchanged (congrArg Prod.snd heq)
  rw [heq] at hcell
  obtain rfl : marks = ⟨some d, []⟩ := hcell
  exact ⟨d, heq, hd⟩

section Succeeds

variable {adm : FenceAdmission} {next : FencingMark} {changed : Bool}

theorem persistAndRun_ok (hadm : Admits token op c.visible adm)
    (hnext : SameLifecycle adm.next next) (hchanged : changed = false → adm.changed = false) :
    (persistAndRun volumeID op next changed {} c).reply = .ok () := by
  obtain ⟨d, hpersist, -⟩ := persistFencingMark_synced volumeID hadm hnext hchanged
  unfold persistAndRun
  rw [hpersist]
  unfold runFencedMutation
  dsimp only
  split <;> rfl

theorem persistAndRun_revoke (hadm : Admits token .revoke c.visible adm)
    (hnext : SameLifecycle adm.next next) (hchanged : changed = false → adm.changed = false) :
    ∃ d, (persistAndRun volumeID .revoke next changed {} c).marks = ⟨some d, []⟩ ∧
      SameLifecycle d next := by
  obtain ⟨d, hpersist, hd⟩ := persistFencingMark_synced volumeID hadm hnext hchanged
  refine ⟨d, ?_, hd⟩
  unfold persistAndRun
  rw [hpersist]
  rfl

variable (hnamed : ∀ m, c.visible = some m → m.volumeUID ≠ "")

include hnamed

theorem fencedChecked_revoke_eq
    (hadmits : admitFencingToken volumeID token .revoke c.visible = .ok adm) :
    ∃ changed, (changed = false → adm.changed = false) ∧
      fencedChecked volumeID token .revoke none none {} c =
        persistAndRun volumeID .revoke adm.next changed {} c := by
  refine ⟨adm.changed || adm.next.legacyRevokeOnly != (c.visible.getD {}).legacyRevokeOnly,
    fun hfalse => (Bool.or_eq_false_iff.mp hfalse).1, ?_⟩
  simp [fencedChecked, readFencingMark_named volumeID hnamed, hadmits, checkFencePreconditions,
    prepareFencingMark]

theorem fencedChecked_revoke_succeeds
    (hadmits : admitFencingToken volumeID token .revoke c.visible = .ok adm) :
    (fencedChecked volumeID token .revoke none none {} c).reply = .ok () ∧
      ∃ d, (fencedChecked volumeID token .revoke none none {} c).marks = ⟨some d, []⟩ ∧
        SameLifecycle d adm.next := by
  have hadm := admits_of_admitFencingToken hadmits
  obtain ⟨changed, hchanged, heq⟩ := fencedChecked_revoke_eq hnamed hadmits
  rw [heq]
  exact ⟨persistAndRun_ok hadm (SameLifecycle.refl _) hchanged,
    persistAndRun_revoke hadm (SameLifecycle.refl _) hchanged⟩

theorem fencedChecked_destroy_succeeds
    (hadmits : admitFencingToken volumeID token .destroy c.visible = .ok adm)
    (hcheck : check.elim (.ok ()) (· (c.visible.getD {})) = .ok ()) :
    (fencedChecked volumeID token .destroy none check {} c).reply = .ok () := by
  have hadm := admits_of_admitFencingToken hadmits
  have hverify : checkFencePreconditions .destroy check (.ok ()) (c.visible.getD {}) = .ok () := by
    unfold checkFencePreconditions
    rw [hcheck]
    unfold verifyPinnedSource
    dsimp only
    split
    · rfl
    · split <;> rfl
  unfold fencedChecked
  simp only [readFencingMark_named volumeID hnamed, hadmits, hverify, ite_self]
  split
  · unfold persistFencingMark
    rfl
  · simp only [prepareFencingMark, guardLegacyFilesystem, ite_self]
    refine persistAndRun_ok hadm (SameLifecycle.refl _) ?_
    intro hfalse
    exact (Bool.or_eq_false_iff.mp hfalse).1

theorem retireFence_succeeds (htoken : token.volumeUID ≠ "")
    (hadmits : ∀ m, c.visible = some m → token.volumeUID ∉ m.endedUIDs →
      token.volumeUID = m.volumeUID →
        ∃ adm, admitFencingToken volumeID token .revoke (some m) = .ok adm) :
    (retireFence volumeID token true {} c).2 = .ok false := by
  unfold retireFence
  rw [readFencingMark_named volumeID hnamed]
  simp only [htoken, if_false]
  cases hvisible : c.visible with
  | none => rfl
  | some m =>
    dsimp only
    split
    · rfl
    rename_i hretired
    split
    · rfl
    rename_i howner
    obtain ⟨adm, hok⟩ := hadmits m hvisible hretired (not_not.mp howner)
    rw [hok]
    rfl

theorem filesystemOperation_revoke_succeeds
    (hcapacity : call.capacity ≤ 0) (himporting : call.importing = false)
    (hadmits : admitFencingToken volumeID token .revoke c.visible = .ok adm)
    (hsame : ∀ m, c.visible = some m → m.volumeUID = token.volumeUID →
      m.filesystem = some call.adoption ∧ m.filesystemVolumeID = call.volumeID) :
    (filesystemOperation volumeID call token .revoke {} c).reply = .ok () := by
  have hadm := admits_of_admitFencingToken hadmits
  have hstate : ∃ skip, filesystemOperationState .revoke call token c.visible = .ok skip := by
    unfold filesystemOperationState
    simp only [reduceCtorEq, false_and, and_false, if_false, true_and]
    split
    · exact ⟨true, rfl⟩
    · cases hvisible : c.visible with
      | none => exact ⟨false, rfl⟩
      | some m =>
        by_cases howner : m.volumeUID = token.volumeUID
        · obtain ⟨hadoption, hid⟩ := hsame m hvisible howner
          exact ⟨false, by simp [hadoption, hid]⟩
        · exact ⟨false, by simp [howner]⟩
  obtain ⟨skip, hskip⟩ := hstate
  unfold filesystemOperation
  simp only [readFencingMark_named volumeID hnamed, hadmits, hskip]
  cases skip with
  | true => rfl
  | false =>
    simp only [prepareFilesystemPin, hcapacity, if_true, reduceCtorEq, if_false]
    unfold commitFilesystemOperation
    obtain ⟨marks, hpersist⟩ := persistFencingMark_synced_ok volumeID c
      { adm.next with filesystem := some call.adoption, filesystemVolumeID := call.volumeID }
      (adm.changed || (c.visible.getD {}).filesystem != some call.adoption)
    simp only [himporting, Bool.false_eq_true, if_false, hpersist]
    rfl

end Succeeds

end PillarCsi.MarkWrites
