import PillarCsi.NfsConvergence
import PillarCsi.TransitionSystem

/-!
Write-ahead ownership: the manager puts a policy on the durable ledger before a
row of it can reach the admission table, and trims the ledger only when the rows
are gone.  So a restart knows every row that the manager granted.
-/

namespace PillarCsi.NfsOwnership

open FalliblePrograms EffectPrograms NfsExports NfsManager NfsConvergence CheckedComputations
open Program

variable {config : Config} {checks : Checks}

/-- A restart reads the policy back as it is. -/
structure Valid (config : Config) (e : Export) : Prop where
  normal : Normal config.addresses e
  address : e.bindAddress = config.bindAddress
  owned : validateOwned config e = .ok ()

variable {e : Export}

theorem Valid.validatePersisted_eq (h : Valid config e) : validatePersisted config e = .ok e := by
  simp [validatePersisted, h.normal.normalized_eq, h.address, h.owned, Bind.bind, Except.bind,
    pure, Except.pure]

theorem Valid.canonical (h : Valid config e) :
    Canonical config.addresses config.bind e.clients := by
  obtain ⟨addr, haddr, -, hcanonical⟩ := h.normal.address
  rw [h.address, Config.bindAddress, config.bind_readable] at haddr
  cases haddr
  exact hcanonical

theorem Valid.withClients (h : Valid config e) {clients : List String}
    (hclients : Canonical config.addresses config.bind clients)
    (hopen : e.aclEnabled = false → clients = []) : Valid config { e with clients := clients } :=
  { normal :=
      { volumeID := h.normal.volumeID
        path := h.normal.path
        address := ⟨config.bind, by rw [h.address]; exact config.bind_readable, h.address.symm,
          hclients⟩
        version := h.normal.version
        squash := h.normal.squash
        open_clients := hopen }
    address := h.address
    owned := h.owned }

theorem Valid.withHints (h : Valid config e) (sourceKey fenceUID : String) (active : Bool) :
    Valid config { e with sourceKey := sourceKey, fenceUID := fenceUID, active := active } :=
  ⟨⟨h.normal.volumeID, h.normal.path, h.normal.address, h.normal.version, h.normal.squash,
    h.normal.open_clients⟩, h.address, h.owned⟩

/-- The policy of a volume is on a path below the export root, the pseudoroot's
on the root itself. -/
theorem Valid.path_eq_iff (h : Valid config e) :
    e.path = config.exportRoot ↔ e.volumeID = rootVolumeID := by
  have howned := h.owned
  unfold validateOwned at howned
  split at howned
  · rename_i hroot
    split at howned
    · cases howned
    · rename_i hpolicy
      push Not at hpolicy
      exact iff_of_true hpolicy.1 hroot
  · rename_i hvolume
    obtain ⟨rel, hrel, -⟩ := exists_of_map_eq_ok howned
    exact iff_of_false (ne_exportRoot_of_exportPath config hrel) hvolume

theorem valid_rootExport {members : List Export} (h : ∀ e ∈ members, Valid config e) :
    Valid config (rootExport config members) where
  normal :=
    { volumeID := show rootVolumeID ≠ "" by decide
      path := config.exportRoot_safe
      address := by
        refine ⟨config.bind, config.bind_readable, rfl, ?_⟩
        unfold rootExport
        dsimp only
        split
        · exact canonical_nil
        · refine canonical_sortCompact fun client hclient => ?_
          obtain ⟨e, he, hclient⟩ := List.mem_flatMap.mp hclient
          exact (h e he).canonical.readable client hclient
      version := rfl
      squash := .inl rfl
      open_clients := by
        intro hacl
        simp_all [rootExport] }
  address := rfl
  owned := by simp [validateOwned, rootExport]

/-- What the manager persists: policies and ledger that a restart accepts. -/
structure Sound (config : Config) (state : DiskState) : Prop where
  schema : state.schema = 1
  bindAddress : state.bindAddress = config.bindAddress
  exportRoot : state.exportRoot = config.exportRoot
  desired : ∀ id e, state.desired.lookup id = some e → Valid config e
  ledger : ∀ e ∈ state.ledger, Valid config e
  consistent : Consistent config state.desired

theorem foldr_insert_exports (desired : Policies) :
    desired.exports.foldr (fun policy table => AList.insert policy.1 policy.2 table) ∅ =
      desired := by
  obtain ⟨entries, hnodup⟩ := desired
  refine AList.ext ?_
  unfold Policies.exports
  dsimp only
  induction entries with
  | nil => rfl
  | cons policy rest ih =>
    rw [List.nodupKeys_cons] at hnodup
    have hrest := ih hnodup.2
    rw [List.map_cons, List.foldr_cons, AList.entries_insert_of_notMem, hrest]
    rw [AList.mem_keys, AList.keys, hrest]
    exact hnodup.1

variable {state : DiskState}

theorem Sound.validateState_eq (h : Sound config state) :
    validateState config state = .ok state := by
  have hdesired : state.desired.exports.mapM (validatePolicy config) = .ok state.desired.exports := by
    refine mapM_eq_self fun policy hpolicy => ?_
    have hlookup := mem_exports.mp hpolicy
    have hkey := h.consistent.keyed _ _ hlookup
    simp [validatePolicy, (h.desired _ _ hlookup).validatePersisted_eq, hkey, Bind.bind,
      Except.bind, pure, Except.pure]
  have hledger : state.ledger.mapM (validatePersisted config) = .ok state.ledger :=
    mapM_eq_self fun e he => (h.ledger e he).validatePersisted_eq
  rw [validateState, hdesired]
  change (state.ledger.mapM (validatePersisted config) >>= _) = _
  rw [hledger]
  simp [Bind.bind, Except.bind, pure, Except.pure, foldr_insert_exports]

theorem Sound.loaded_eq (h : Sound config state) : loaded config (some state) = .ok state := by
  simp [loaded, h.schema, h.bindAddress, h.exportRoot, h.validateState_eq]

theorem sound_freshState : Sound config (freshState config) where
  schema := rfl
  bindAddress := rfl
  exportRoot := rfl
  desired := by simp [freshState]
  ledger := by simp [freshState]
  consistent := ⟨by simp [freshState], by simp [freshState], by simp [freshState]⟩

/-- A policy of the ledger admits the key, under the one file system identity
that the options give. -/
def Claimed (config : Config) (ledger : List Export) (key : Key) (options : List Flag) : Prop :=
  ∃ e ∈ ledger, e.path = key.path ∧ key.client ∈ e.admitted ∧
    Identified options (e.fsid config)

variable {ledger : List Export} {ledger' : List Export} {key : Key} {options : List Flag}
  {client volumeID : String} {before : Manager} {wanted : Wanted} {I : Host → Prop} {p : Nfs Unit}
  {e' : Export} {exact : Bool}

theorem Claimed.mono (h : Claimed config ledger key options) (hmono : ∀ e ∈ ledger, e ∈ ledger') :
    Claimed config ledger' key options := by
  obtain ⟨e, he, hclaim⟩ := h
  exact ⟨e, hmono e he, hclaim⟩

theorem Claimed.owns (h : Claimed config ledger key options) :
    owns config ledger ⟨key.path, key.client, options⟩ = true := by
  obtain ⟨e, he, hpath, hclient, hfsid⟩ := h
  exact owns_iff.mpr ⟨e, he, hpath, hclient, hfsid.optionValue_eq⟩

/-- Every row that the manager granted and has not revoked is claimed by the
ledger. -/
def Covered (config : Config) (ledger : List Export) (host : Host) : Prop :=
  ∀ key ∈ host.granted, ∀ options, host.table.lookup key = some options →
    Claimed config ledger key options

variable {host : Host}

theorem Covered.mono (h : Covered config ledger host) (hmono : ∀ e ∈ ledger, e ∈ ledger') :
    Covered config ledger' host :=
  fun key hkey options hlookup => (h key hkey options hlookup).mono hmono

theorem Covered.revoke (h : Covered config ledger host)
    (key : Key) : Covered config ledger (host.revoke key) := by
  intro key' hkey' options hlookup
  obtain ⟨hgranted, hne⟩ := List.mem_filter.mp hkey'
  have hne : key' ≠ key := by simpa using hne
  exact h key' hgranted options ((AList.lookup_erase_ne hne).symm.trans hlookup)

theorem Covered.grant
    (h : Covered config ledger host) (he : e ∈ ledger) (hclient : client ∈ e.admitted) :
    Covered config ledger (host.grant config e client) := by
  intro key hkey options hlookup
  by_cases hsame : key = ⟨e.path, client⟩
  · subst hsame
    have hoptions : some (config.readback (e.options config)) = some options :=
      (AList.lookup_insert host.table).symm.trans hlookup
    cases hoptions
    exact ⟨e, he, rfl, hclient, (identified_options e).readback⟩
  · have hgranted : key ∈ host.granted := (List.mem_cons.mp hkey).resolve_left hsame
    exact h key hgranted options ((AList.lookup_insert_ne hsame).symm.trans hlookup)

def Host.diskLedger (host : Host) : List Export :=
  match host.disk with
  | some state => state.ledger
  | none => []

/-- What holds at every moment: a restart accepts the file and knows every
granted row. -/
structure Recorded (config : Config) (host : Host) : Prop where
  disk : ∀ state, host.disk = some state → Sound config state
  covered : Covered config (Host.diskLedger host) host

/-- What holds while the manager works on a state that it has loaded. -/
structure Live (config : Config) (host : Host) : Prop extends Recorded config host where
  sound : Sound config host.manager.state
  held : Covered config host.manager.state.ledger host

section Withdrawal

variable {P : Host → Prop} (hrevoke : ∀ path client, Preserves P (revoke path client))
include hrevoke

theorem preserves_revokeRow (ledger : List Export) (wanted : Wanted) (row : Entry) :
    Preserves P (revokeRow config ledger wanted row) := by
  unfold revokeRow
  refine .ite (.when (hrevoke row.path row.client)) ?_
  split
  · exact .fail
  · exact .pure _

theorem preserves_revokeObsolete (rows : List Entry) (wanted : Wanted) :
    Preserves P (revokeObsolete config rows wanted) :=
  preserves_read.bind fun ledger => .forEach fun row _ =>
    preserves_revokeRow hrevoke ledger wanted row

theorem preserves_revokeEach (rows : List Entry) : Preserves P (revokeEach rows) := by
  induction rows with
  | nil => exact .pure _
  | cons row rest ih =>
    refine (hrevoke row.path row.client).attempt.bind fun result => ih.bind fun later => ?_
    split <;> exact .pure _

theorem preserves_revokeOwned : Preserves P (revokeOwned config) := by
  refine .bind .query fun rows => preserves_read.bind fun ledger => ?_
  refine (preserves_revokeEach hrevoke _).bind fun result => ?_
  split
  · exact .pure _
  · exact .fail

theorem preserves_stopOwned : Preserves P (stopOwned config) :=
  (preserves_revokeOwned hrevoke).attempt.bind fun _ => preserves_check.attempt.bind fun _ =>
    preserves_orFail.bind fun _ => preserves_orFail

theorem preserves_applyOrStop (happly : ∀ checks, Preserves P (apply config checks))
    (passes : Passes) : Preserves P (applyOrStop config passes) := by
  refine preserves_healthLocked.attempt.bind fun result => ?_
  split
  · exact preserves_stopOwned hrevoke
  · exact happly _

variable (hfailure : ∀ error, Preserves P (modify fun m => { m with failure := some error }))
include hfailure

theorem preserves_failClosed (error : NfsError) : Preserves P (failClosed config error) :=
  (preserves_revokeOwned hrevoke).ignore.bind fun _ => preserves_check.ignore.bind fun _ =>
    (hfailure error).bind fun _ => .fail

theorem preserves_apply (hconverge : Preserves P (converge config checks)) :
    Preserves P (apply config checks) := by
  refine hconverge.attempt.bind fun result => ?_
  split
  · exact .pure _
  · exact preserves_failClosed hrevoke hfailure _

end Withdrawal

theorem preserves_runtimeStart {P : Host → Prop} (hpersist : Preserves P persist) :
    Preserves P (runtimeStart config) := by
  refine .bind preserves_check fun _ => .bind .query fun rows => ?_
  refine preserves_read.bind fun ledger => preserves_orFail.bind fun _ => ?_
  exact hpersist.bind fun _ => preserves_check

theorem preserves_applyFor {P : Host → Prop} (happly : Preserves P (apply config checks))
    (volumeID : String) : Preserves P (do
      apply config checks
      let unavailable ← read fun m => m.exportErrors
      if volumeID ∈ unavailable then fail (.unavailable volumeID) else pure ()) :=
  happly.bind fun _ => preserves_read.bind fun _ => .ite .fail (.pure _)

/-- Every step of a pass keeps the invariant. -/
structure Steady (config : Config) (P : Host → Prop) : Prop where
  revoke : ∀ path client, Preserves P (revoke path client)
  failure : ∀ error, Preserves P (modify fun m => { m with failure := some error })
  grant : ∀ e client, Preserves P (grant config e client)
  persist : Preserves P persist
  entries : ∀ checks, Preserves P (memory (desiredEntries config checks))
  rebuild : Preserves P (modify Manager.rebuildLedger)

section Steady

variable {P P' : Host → Prop} (h : Steady config P) (checks : Checks)
include h

theorem Steady.converge : Preserves P (converge config checks) := by
  refine .bind .query fun rows => (h.entries checks).bind fun wanted => ?_
  refine h.persist.bind fun _ => (preserves_revokeObsolete h.revoke rows wanted).bind fun _ => ?_
  refine .bind ?_ fun _ => .bind ?_ fun _ => ?_
  · refine preserves_read.bind fun state => .forEach fun policy _ => .forEach fun client _ => ?_
    unfold grantRow
    split
    · exact .pure _
    · exact .ite (.pure _) (h.grant _ _)
  · refine .bind .query fun rows => preserves_read.bind fun ledger => ?_
    exact preserves_orFail.bind fun missing => .ite (.pure _) .fail
  · refine preserves_healthLocked.bind fun _ => h.rebuild.bind fun _ => ?_
    refine h.persist.attempt.bind fun result => ?_
    split
    · exact .pure _
    · exact (h.failure _).bind fun _ => .fail

theorem Steady.apply : Preserves P (apply config checks) :=
  preserves_apply h.revoke h.failure (h.converge checks)

theorem Steady.applyOrStop (passes : Passes) : Preserves P (applyOrStop config passes) :=
  preserves_applyOrStop h.revoke h.apply passes

theorem Steady.preflightActivation : Preserves P (preflightActivation config checks) := by
  refine preserves_read.bind fun state => .when (.bind .query fun rows => ?_)
  refine (h.entries checks).bind fun wanted => ?_
  refine (preserves_revokeObsolete h.revoke rows wanted).bind fun _ => ?_
  exact h.rebuild.bind fun _ => h.persist

theorem Steady.and (h' : Steady config P') : Steady config fun host => P host ∧ P' host := by
  have hand : ∀ {α : Type} {p : Nfs α}, Preserves P p → Preserves P' p →
      Preserves (fun host => P host ∧ P' host) p :=
    fun hp hp' w hw => ⟨hp w hw.1, hp' w hw.2⟩
  exact ⟨fun path client => hand (h.revoke path client) (h'.revoke path client),
    fun error => hand (h.failure error) (h'.failure error),
    fun e client => hand (h.grant e client) (h'.grant e client), hand h.persist h'.persist,
    fun checks => hand (h.entries checks) (h'.entries checks), hand h.rebuild h'.rebuild⟩

end Steady

theorem live_persist : Preserves (Live config) persist :=
  .call_some fun host h => by
    refine ⟨⟨?_, h.held⟩, h.sound, h.held⟩
    rintro _ ⟨⟩
    exact h.sound

theorem Live.revoke (h : Live config host) (key : Key) : Live config (host.revoke key) :=
  ⟨⟨h.disk, h.covered.revoke key⟩, h.sound, h.held.revoke key⟩

theorem live_revoke (path client : String) : Preserves (Live config) (revoke path client) :=
  .call_some fun _ h => h.revoke _

variable {m : Manager}

theorem Live.withManager (h : Live config host) (hsound : Sound config m.state)
    (hledger : ∀ e ∈ host.manager.state.ledger, e ∈ m.state.ledger) :
    Live config { host with manager := m } :=
  ⟨⟨h.disk, h.covered⟩, hsound, h.held.mono hledger⟩

variable {f : Manager → Manager}

theorem live_modify (hf : ∀ m, (f m).state = m.state) : Preserves (Live config) (modify f) :=
  preserves_modify fun host h => h.withManager (by rw [hf]; exact h.sound) fun e he => by rwa [hf]

/-- A state stays sound when the policy of one volume changes and no other has
the new one's path. -/
theorem Sound.change {id : String} {desired : Policies} (h : Sound config state)
    (hother : ∀ id', id' ≠ id → desired.lookup id' = state.desired.lookup id')
    (hnew : ∀ e, desired.lookup id = some e → state.desired.lookup id = some e ∨
      Valid config e ∧ e.volumeID = id ∧ (id ≠ rootVolumeID → ∀ id' old,
        state.desired.lookup id' = some old → id' ≠ id → old.path ≠ e.path))
    (hledger : ∀ e ∈ ledger, e ∈ state.ledger ∨ Valid config e) :
    Sound config { state with desired := desired, ledger := ledger } := by
  have hcases : ∀ id' e, desired.lookup id' = some e → state.desired.lookup id' = some e ∨
      id' = id ∧ Valid config e ∧ e.volumeID = id ∧ (id ≠ rootVolumeID → ∀ id' old,
        state.desired.lookup id' = some old → id' ≠ id → old.path ≠ e.path) := by
    intro id' e he
    by_cases hid : id' = id
    · subst hid
      exact (hnew e he).imp_right fun h => ⟨rfl, h⟩
    · exact .inl ((hother id' hid).symm.trans he)
  refine ⟨h.schema, h.bindAddress, h.exportRoot, fun id' e he => ?_,
    fun e he => (hledger e he).elim (h.ledger e) fun hvalid => hvalid, ⟨?_, ?_, ?_⟩⟩
  · exact (hcases id' e he).elim (h.desired id' e) fun hnew => hnew.2.1
  · intro id' e he
    rcases hcases id' e he with hold | ⟨rfl, -, hkey, -⟩
    · exact h.consistent.keyed id' e hold
    · exact hkey
  · intro id₁ e₁ id₂ e₂ h₁ h₂ hid₁ hid₂ hsame
    by_contra hne
    rcases hcases id₁ e₁ h₁ with hold₁ | ⟨rfl, -, -, hfree⟩
    · rcases hcases id₂ e₂ h₂ with hold₂ | ⟨rfl, -, -, hfree⟩
      · exact hne (h.consistent.separate id₁ e₁ id₂ e₂ hold₁ hold₂ hid₁ hid₂ hsame)
      · exact hfree hid₂ id₁ e₁ hold₁ hne hsame
    · have hold₂ : state.desired.lookup id₂ = some e₂ := (hother id₂ (Ne.symm hne)).symm.trans h₂
      exact hfree hid₁ id₂ e₂ hold₂ (Ne.symm hne) hsame.symm
  · intro id' e he hid hroot
    rcases hcases id' e he with hold | ⟨rfl, hvalid, hkey, -⟩
    · exact h.consistent.below id' e hold hid hroot
    · exact hid (hkey.symm.trans (hvalid.path_eq_iff.mp hroot))

theorem Sound.updateRoot (h : Sound config m.state) : Sound config (m.updateRoot config).state := by
  have hroot : Valid config (rootExport config (rootMembers m.state.desired m.exportErrors)) := by
    refine valid_rootExport fun e he => ?_
    obtain ⟨id, hlookup, -⟩ := mem_rootMembers.mp he
    exact h.desired id e hlookup
  refine h.change (fun id hid => AList.lookup_insert_ne hid) (fun e he => .inr ?_) fun e he => ?_
  · cases (AList.lookup_insert m.state.desired).symm.trans he
    exact ⟨hroot, rfl, fun hne => absurd rfl hne⟩
  · rcases mem_updateRoot_ledger.mp he with hold | ⟨rfl, -⟩
    · exact .inl hold
    · exact .inr hroot

theorem mem_updateRoot_of_mem (he : e ∈ m.state.ledger) : e ∈ (m.updateRoot config).state.ledger :=
  mem_updateRoot_ledger.mpr (.inl he)

theorem live_updateRoot (hf : ∀ m, Sound config m.state → Sound config (f m).state)
    (hledger : ∀ m, ∀ e ∈ m.state.ledger, e ∈ (f m).state.ledger) :
    Preserves (Live config) (modify fun m => (f m).updateRoot config) :=
  preserves_modify fun _ h =>
    h.withManager (hf _ h.sound).updateRoot fun e he => mem_updateRoot_of_mem (hledger _ e he)

theorem Sound.valid_passExports (h : Sound config state)
    (he : e ∈ passExports config checks state.desired) : Valid config e := by
  have hvalid : ∀ e ∈ validExports config checks state.desired.exports, Valid config e := by
    intro e he
    obtain ⟨id, hmem, -⟩ := mem_validExports.mp he
    exact h.desired id e (mem_exports.mp hmem)
  simp only [passExports, List.mem_append, List.mem_singleton] at he
  rcases he with he | rfl
  · exact hvalid e he
  · exact valid_rootExport hvalid

theorem sound_of_passed {m' : Manager} (h : Passed config checks m m')
    (hsound : Sound config m.state) : Sound config m'.state := by
  have hroot : rootExport config (validExports config checks m.state.desired.exports) ∈
      passExports config checks m.state.desired := by simp [passExports]
  have hfields := h.rest
  obtain ⟨desired, ledger, errors, rfl⟩ := hfields
  refine hsound.change h.desired (fun e he => (h.rootPolicy e he).imp_right ?_) fun e he =>
    (mem_convergenceLedger.mp (h.mem_ledger e he)).imp_right fun hpass =>
      hsound.valid_passExports hpass.1
  rintro rfl
  exact ⟨hsound.valid_passExports hroot, rfl, fun hne => absurd rfl hne⟩

/-- The rows that stay at the end of a pass are rows of the exports that it
found available. -/
theorem claimed_available (h : Completed config checks before wanted m)
    (hclaimed : Claimed config m.state.ledger key options)
    (hkeeps : keeps wanted ⟨key.path, key.client, options⟩ = true) :
    Claimed config (availableExports m.state.desired m.exportErrors) key options := by
  obtain ⟨want, hwant, hmatch⟩ := keeps_iff.mp hkeeps
  obtain ⟨e, he, hpath, hclient, rfl⟩ := h.lookup_wanted hwant
  obtain ⟨e', -, -, -, hfsid⟩ := hclaimed
  have hactive : e.active = true := by
    by_contra hinactive
    rw [admitted_eq_nil (by simpa using hinactive)] at hclient
    cases hclient
  have hsame : e.fsid config = e'.fsid config := by
    refine (hfsid _).mp (mem_of_optionsMatch hmatch ?_)
    exact (identified_options e _).mpr rfl
  refine ⟨e, (h.available e).mpr ⟨he, hactive⟩, hpath.symm, hclient, ?_⟩
  rwa [hsame]

theorem Sound.rebuildLedger (h : Sound config m.state) : Sound config m.rebuildLedger.state :=
  ⟨h.schema, h.bindAddress, h.exportRoot, h.desired, fun e he => by
    obtain ⟨id, hlookup, -⟩ := mem_availableExports.mp he
    exact h.desired id e hlookup, h.consistent⟩

theorem live_rebuildLedger (h : Completed config checks before wanted m) :
    Triple (fun host => Live config host ∧ host.manager = m ∧ ∀ row ∈ host.table.rows,
        owns config m.state.ledger row = true → keeps wanted row = true)
      (modify Manager.rebuildLedger) fun _ => Live config := by
  refine triple_modify fun host ⟨hlive, hm, hkept⟩ => ?_
  subst hm
  refine ⟨⟨hlive.disk, hlive.covered⟩, hlive.sound.rebuildLedger, ?_⟩
  intro key hkey options hlookup
  have hclaimed := hlive.held key hkey options hlookup
  exact claimed_available h hclaimed
    (hkept ⟨key.path, key.client, options⟩ (mem_rows.mpr hlookup) hclaimed.owns)

theorem live_desiredEntries : Yields (Live config) (memory (desiredEntries config checks))
    (fun wanted host => Live config host ∧ ∃ before, Consistent config before.state.desired ∧
      Completed config checks before wanted host.manager) (Live config) := by
  have hlive : ∀ host, Live config host → Live config
      { host with manager := (desiredEntries config checks host.manager).2 } := by
    intro host h
    have hpassed : Passed config checks host.manager
        (desiredEntries config checks host.manager).2 :=
      passed_desiredEntries h.sound.consistent.keyed
    exact h.withManager (sound_of_passed hpassed h.sound) hpassed.kept
  exact triple_memory (fun host wanted h hok => ⟨hlive host h, host.manager, h.sound.consistent,
    completed_desiredEntries h.sound.consistent.keyed (Prod.ext hok rfl)⟩)
    fun host error h _ => hlive host h

/-- The file holds what the manager works on. -/
structure Ready (config : Config) (m : Manager) (host : Host) : Prop extends Live config host where
  manager : host.manager = m
  written : host.disk = some m.state

theorem ready_persist :
    Yields (fun host => Live config host ∧ host.manager = m) persist (fun _ => Ready config m)
      (Live config) := by
  have hdone : ∀ host, Live config host ∧ host.manager = m →
      Ready config m { host with disk := some host.manager.state } := by
    rintro host ⟨h, rfl⟩
    refine ⟨⟨⟨?_, h.held⟩, h.sound, h.held⟩, rfl, rfl⟩
    rintro _ ⟨⟩
    exact h.sound
  refine .call ?_ (fun host h => h.1) ?_ fun host h => h.1
  · rintro host _ h ⟨⟩
    exact hdone host h
  · rintro host _ h ⟨⟩
    exact (hdone host h).toLive

theorem ready_revoke (path client : String) : Preserves (Ready config m) (revoke path client) :=
  .call_some fun _ h => ⟨h.toLive.revoke _, h.manager, h.written⟩

theorem ready_grant (he : e ∈ m.state.ledger)
    (hclient : client ∈ e.admitted) : Preserves (Ready config m) (grant config e client) :=
  .call_some fun host h => by
    have hdisk : e ∈ Host.diskLedger host := by rwa [Host.diskLedger, h.written]
    have hmemory : e ∈ host.manager.state.ledger := by rwa [h.manager]
    exact ⟨⟨⟨h.disk, h.covered.grant hdisk hclient⟩, h.sound, h.held.grant hmemory hclient⟩,
      h.manager, h.written⟩

theorem ready_grantDesired (h : Completed config checks before wanted m)
    (hconsistent : Consistent config before.state.desired) (rows : List Entry) :
    Preserves (Ready config m) (grantDesired config rows wanted) := by
  refine triple_read_bind (fun host hready => hready.manager) ?_
  refine Preserves.forEach fun policy hpolicy => Preserves.forEach fun client hclient => ?_
  unfold grantRow
  split
  · exact .pure _
  · rename_i want hwant
    have he := h.mem_ledger_of_wanted hconsistent (mem_exports.mp hpolicy) hclient hwant
    exact .ite (.pure _) (ready_grant he hclient)

theorem live_converge : Preserves (Live config) (converge config checks) := by
  refine .bind .query fun rows => ?_
  refine Triple.bind live_desiredEntries (fun wanted => ?_) fun stop host h => h
  refine .pre (.of_exists fun m => .of_exists fun before =>
    .assuming (P := fun host => Live config host ∧ host.manager = m)
      (φ := Consistent config before.state.desired ∧ Completed config checks before wanted m) ?_) ?_
  · rintro ⟨hconsistent, hcompleted⟩
    refine .bind ready_persist (fun _ => ?_) fun stop host h => h
    refine .bind (preserves_revokeObsolete ready_revoke rows wanted) (fun _ => ?_)
      fun stop host h => h.toLive
    refine .bind (ready_grantDesired hcompleted hconsistent rows) (fun _ => ?_)
      fun stop host h => h.toLive
    refine .bind (yields_verifyAdmissions (fun host h => h.manager) (fun _ h => h) wanted)
      (fun _ => ?_) fun stop host h => h.toLive
    refine .bind preserves_healthLocked (fun _ => ?_) fun stop host h => h.1.toLive
    refine .bind (.pre (live_rebuildLedger hcompleted) ?_)
      (fun _ => ?_) fun stop host h => h
    · rintro host ⟨hready, missing, -, hverify⟩
      exact ⟨hready.toLive, hready.manager, (verifyRows_ok hverify).1⟩
    · refine Preserves.bind live_persist.attempt fun result => ?_
      split
      · exact .pure _
      · refine .bind (live_modify ?_) fun _ => .fail
        exact fun _ => rfl
  · rintro host ⟨hlive, before, hconsistent, hcompleted⟩
    exact ⟨host.manager, before, ⟨hlive, rfl⟩, hconsistent, hcompleted⟩

theorem live_failure (error : NfsError) :
    Preserves (Live config) (modify fun m => { m with failure := some error }) :=
  live_modify fun _ => rfl

theorem live_failClosed (error : NfsError) : Preserves (Live config) (failClosed config error) :=
  preserves_failClosed live_revoke live_failure error

theorem live_apply : Preserves (Live config) (apply config checks) :=
  preserves_apply live_revoke live_failure live_converge

def Started (host : Host) : Prop := host.manager.started = true

theorem started_modify (hf : ∀ m, m.started = true → (f m).started = true) :
    Preserves Started (modify f) :=
  preserves_modify fun host h => hf host.manager h

theorem preserves_desiredEntries {I : Host → Prop} (h : ∀ host admitted errors, I host →
      I { host with manager := recorded host.manager admitted errors } ∧
        I { host with manager := (recorded host.manager admitted errors).updateRoot config }) :
    Preserves I (memory (desiredEntries config checks)) := by
  have hafter : ∀ host, I host →
      I { host with manager := (desiredEntries config checks host.manager).2 } := by
    intro host hhost
    obtain ⟨admitted, errors, hmanager, -⟩ := @admitExports_manager config checks
      host.manager.state.desired.exports ∅ { host.manager with exportErrors := [] }
    have hboth := h host admitted errors hhost
    unfold desiredEntries
    split
    · rename_i hpass
      rw [hpass] at hmanager
      obtain rfl := hmanager
      exact hboth.1
    · rename_i hpass
      rw [hpass] at hmanager
      obtain rfl := hmanager
      unfold rootEntries
      dsimp only
      repeat' split
      all_goals exact hboth.2
  exact triple_memory (fun host _ h _ => hafter host h) fun host _ h _ => hafter host h

theorem steady_started : Steady config Started where
  revoke _ _ := .call_some fun _ h => h
  failure _ := started_modify fun _ h => h
  grant _ _ := .call_some fun _ h => h
  persist := .call_some fun _ h => h
  entries _ := preserves_desiredEntries fun _ _ _ h => ⟨h, h⟩
  rebuild := started_modify fun _ h => h

theorem revokeRow_gone (ledger : List Export) (wanted : Wanted) (row : Entry) :
    Yields (fun _ => True) (revokeRow config ledger wanted row) (fun _ host =>
      owns config ledger row = true → keeps wanted row = false → row ∉ host.table.rows)
      fun _ => True := by
  unfold revokeRow
  refine .ite (fun _ => .ite (fun _ => ?_) fun hkeeps => ?_) fun hnot => ?_
  · refine .call ?_ (fun _ _ => trivial) (fun _ _ _ _ => trivial) fun _ _ => trivial
    rintro host _ - ⟨⟩ - -
    exact fun hrow => (mem_rows_erase.mp hrow).1 rfl
  · exact .pure _ fun _ _ _ hfalse => absurd hfalse hkeeps
  · split
    · exact Yields.error
    · exact .pure _ fun _ _ howns => absurd howns hnot

theorem live_revokeObsolete (wanted : Wanted) (rows : List Entry) :
    Yields (fun host => (Live config host ∧ host.manager = m) ∧
        ∀ row ∈ host.table.rows, row ∈ rows) (revokeObsolete config rows wanted)
      (fun _ host => Live config host ∧ host.manager = m ∧ ∀ row ∈ host.table.rows,
        owns config m.state.ledger row = true → keeps wanted row = true) (Live config) := by
  refine triple_read_bind (fun host h => h.1.2) ?_
  have hrevoke : ∀ path client, Preserves (fun host => (Live config host ∧ host.manager = m) ∧
      ∀ row ∈ host.table.rows, row ∈ rows) (revoke path client) := by
    intro path client
    exact .call_some fun host h => ⟨⟨h.1.1.revoke _, h.1.2⟩, fun row hrow =>
      h.2 row (mem_rows_erase.mp hrow).2⟩
  refine Yields.mono (.forEach (D := fun row host => owns config m.state.ledger row = true →
    keeps wanted row = false → row ∉ host.table.rows) (fun row _ => ?_) fun row other _ => ?_)
    (fun _ h => h) ?_ fun _ h => h.1.1
  · exact (Triple.and_always (preserves_revokeRow hrevoke m.state.ledger wanted row)
      (.pre (revokeRow_gone m.state.ledger wanted row) (fun _ _ => trivial))).stops fun _ h => h.1
  · have hgone : ∀ path client, Preserves (fun host : Host =>
        owns config m.state.ledger row = true → keeps wanted row = false →
          row ∉ host.table.rows) (revoke path client) := by
      intro path client
      exact .call_some fun host h howns hkeeps hrow => h howns hkeeps (mem_rows_erase.mp hrow).2
    exact fun w hw => preserves_revokeRow hgone m.state.ledger wanted other w hw.2
  · rintro _ host ⟨⟨⟨hlive, hm⟩, hsub⟩, hgone⟩
    refine ⟨hlive, hm, fun row hrow howns => ?_⟩
    by_contra hnot
    exact hgone row (hsub row hrow) howns (by simpa using hnot) hrow

theorem live_preflightActivation : Preserves (Live config) (preflightActivation config checks) := by
  refine preserves_read.bind fun state => .when ?_
  have hrows : Yields (Live config) list (fun rows host =>
      (∀ row ∈ host.table.rows, row ∈ rows) ∧ Live config host) (Live config) :=
    .query (fun host h => ⟨fun _ hrow => hrow, h⟩) fun _ h => h
  refine Triple.bind hrows (fun rows => ?_) fun stop host h => h
  have htable : Preserves (fun host : Host => ∀ row ∈ host.table.rows, row ∈ rows)
      (memory (desiredEntries config checks)) :=
    triple_memory (fun _ _ h _ => h) fun _ _ h _ => h
  have hpass := Triple.and_yields (.pre htable (fun host (h : (∀ row ∈ host.table.rows, row ∈ rows) ∧ Live config host) => h.1))
    (live_desiredEntries.pre (fun _ h => h.2))
  refine .bind hpass (fun wanted => ?_) fun stop host h => h
  refine .pre (.of_exists fun m => .of_exists fun before =>
    .assuming (P := fun host => (Live config host ∧ host.manager = m) ∧
      ∀ row ∈ host.table.rows, row ∈ rows) (φ := Completed config checks before wanted m) ?_) ?_
  · intro hcompleted
    refine .bind (live_revokeObsolete wanted rows) (fun _ => ?_) fun stop host h => h
    exact .bind (live_rebuildLedger hcompleted) (fun _ => live_persist) fun stop host h => h
  · rintro host ⟨⟨hlive, before, -, hcompleted⟩, hrows⟩
    exact ⟨host.manager, before, ⟨⟨hlive, rfl⟩, hrows⟩, hcompleted⟩

/-- What holds between operations: the file covers the granted rows and, once
the manager is started, so does what it has in memory. -/
structure Inv (config : Config) (host : Host) : Prop extends Recorded config host where
  live : host.manager.started = true → Live config host

theorem Live.inv (h : Live config host) : Inv config host := ⟨h.toRecorded, fun _ => h⟩

/-- A manager that was not started has nothing in memory that counts. -/
structure Idle (config : Config) (host : Host) : Prop extends Recorded config host where
  idle : host.manager.started = false

theorem Idle.inv (h : Idle config host) : Inv config host :=
  ⟨h.toRecorded, fun hstarted => by rw [h.idle] at hstarted; cases hstarted⟩

theorem Recorded.exists_loaded (h : Recorded config host) :
    ∃ state, loaded config host.disk = .ok state := by
  cases hdisk : host.disk with
  | none => exact ⟨_, rfl⟩
  | some state => exact ⟨state, (h.disk state hdisk).loaded_eq⟩

theorem Recorded.sound_of_loaded (h : Recorded config host)
    (hloaded : loaded config host.disk = .ok state) :
    Sound config state ∧ Covered config state.ledger host := by
  have hcovered := h.covered
  cases hdisk : host.disk with
  | none =>
    rw [hdisk] at hloaded
    cases hloaded
    rw [Host.diskLedger, hdisk] at hcovered
    exact ⟨sound_freshState, hcovered⟩
  | some stored =>
    have hsound := h.disk stored hdisk
    rw [hdisk, hsound.loaded_eq] at hloaded
    cases hloaded
    rw [Host.diskLedger, hdisk] at hcovered
    exact ⟨hsound, hcovered⟩

theorem live_loadState :
    Yields (Idle config) (loadState config) (fun _ => Live config) (Inv config) := by
  refine .bind (Q := fun disk host => Idle config host ∧ disk = host.disk)
    (.query (fun _ h => ⟨h, rfl⟩) fun _ h => h.inv) fun disk => ?_
  refine .bind (Q := fun _ host => Idle config host ∧ disk = host.disk)
    (triple_modify fun host h => ⟨⟨⟨h.1.disk, h.1.covered⟩, h.1.idle⟩, h.2⟩) fun _ => ?_
  refine (yields_orFail _ fun _ h => h.1.inv).bind fun state => triple_modify fun host h => ?_
  obtain ⟨⟨hidle, rfl⟩, hloaded⟩ := h
  obtain ⟨hsound, hheld⟩ := hidle.sound_of_loaded hloaded
  exact ⟨⟨hidle.disk, hidle.covered⟩, hsound, hheld⟩

variable (passes : Passes)

theorem yields_startLocked :
    Yields (Idle config) (startLocked config passes) (fun _ host => Inv config host ∧ Started host)
      (Inv config) := by
  have hinv : ∀ host, Live config host → Inv config host := fun _ h => h.inv
  refine preserves_check.andThen (fun _ h => h.inv) fun _ => live_loadState.bind fun _ => ?_
  refine (live_updateRoot (fun _ h => h) fun _ _ he => he).andThen hinv fun _ => ?_
  refine live_preflightActivation.andThen hinv fun _ => ?_
  refine (preserves_orClose (preserves_runtimeStart live_persist)).andThen hinv fun _ => ?_
  refine (preserves_orClose live_persist).andThen hinv fun _ => ?_
  refine .bind (Q := fun _ host => Live config host ∧ Started host)
    (triple_modify fun host h => ⟨h.withManager h.sound fun _ he => he, rfl⟩) fun _ => ?_
  have happly : Preserves (fun host => Live config host ∧ Started host)
      (apply config passes.startup) := fun w hw => ⟨live_apply w hw.1, steady_started.apply _ w hw.2⟩
  exact (Triple.returns happly fun _ h => h.1.inv).post fun _ _ h => ⟨h.1.inv, h.2⟩

theorem inv_modify (hstate : ∀ m, (f m).state = m.state)
    (hstarted : ∀ m, (f m).started = true → m.started = true) : Preserves (Inv config) (modify f) :=
  preserves_modify fun host h => ⟨⟨h.disk, h.covered⟩, fun hrunning =>
    (h.live (hstarted _ hrunning)).withManager
      (by rw [hstate]; exact (h.live (hstarted _ hrunning)).sound) fun e he => by rwa [hstate]⟩

variable {P : Host → Prop}

theorem yields_healthLocked (hI : ∀ host, P host → I host) :
    Yields P healthLocked (fun _ host => P host ∧ Started host) I := by
  refine yields_read.bind fun m => ?_
  split
  · exact .fail fun host h => hI host h.1
  · refine .ite (fun _ => .fail fun host h => hI host h.1) fun hrunning => ?_
    refine (Triple.returns preserves_check fun host h => hI host h.1).post fun _ host h => ⟨h.1, ?_⟩
    push Not at hrunning
    rw [Started, ← show m = host.manager from h.2]
    simpa using hrunning.1

/-- What is known after an attempt to start, or after a look at the health. -/
def StartedIf (result : Except NfsError Unit) (host : Host) : Prop := result = .ok () → Started host

theorem attempt_started (h : Yields P p (fun _ host => I host ∧ Started host) I) :
    Yields P (attempt p) (fun result host => I host ∧ StartedIf result host) I :=
  Triple.attempt h (fun _ _ h => ⟨h.1, fun _ => h.2⟩) (fun _ _ h => ⟨h, nofun⟩) fun _ h => h

theorem yields_start :
    Yields (Inv config) (start config passes) (fun _ host => Inv config host ∧ Started host)
      (Inv config) := by
  refine preserves_check.seq fun _ => yields_read.bind fun m => ?_
  refine .ite (fun _ => .fail fun host h => h.1) fun _ => .ite (fun _ => ?_)
    fun hstarted => ?_
  · exact (yields_healthLocked fun _ h => h).pre fun _ h => h.1
  split
  · exact .fail fun host h => h.1
  refine Yields.pre (P := Idle config) (Q := fun _ host => Inv config host ∧ Started host) ?_ ?_
  · refine preserves_check.andThen (fun _ h => h.inv) fun _ => ?_
    refine .bind (Q := fun _ => Idle config)
      (triple_modify fun host h => ⟨⟨h.disk, h.covered⟩, h.idle⟩) fun _ => ?_
    refine (attempt_started (yields_startLocked passes)).bind fun result => ?_
    refine .bind (Q := fun _ host => Inv config host ∧ StartedIf result host) ?_ fun _ => ?_
    · have hunlock : Preserves (Inv config)
          (modify fun m => if m.started then m else { m with locked := false }) := by
        refine inv_modify ?_ ?_
        · intro m
          split <;> rfl
        · intro m
          split <;> exact id
      have hkeep : Preserves Started
          (modify fun m => if m.started then m else { m with locked := false }) :=
        started_modify fun m h => by rw [if_pos h]; exact h
      exact Triple.returns (J := fun host => Inv config host ∧ StartedIf result host)
        (fun w hw => ⟨hunlock w hw.1, fun hok => hkeep w (hw.2 hok)⟩) fun _ h => h.1
    · exact (yields_orFail _ fun _ h => h.1).post fun _ _ h => ⟨h.1.1, h.1.2 h.2⟩
  · rintro host ⟨h, rfl⟩
    exact ⟨h.toRecorded, by simpa using hstarted⟩

theorem inv_start : Preserves (Inv config) (start config passes) :=
  (yields_start passes).always fun _ _ h => h.1

theorem Sound.path_ne (h : Sound config state) {id id' : String}
    (he : state.desired.lookup id = some e) (he' : state.desired.lookup id' = some e')
    (hne : id ≠ id') : e.path ≠ e'.path := by
  intro hpath
  have hroot := (h.desired id e he).path_eq_iff
  have hroot' := (h.desired id' e' he').path_eq_iff
  rw [h.consistent.keyed id e he] at hroot
  rw [h.consistent.keyed id' e' he', ← hpath, hroot] at hroot'
  by_cases hid : id = rootVolumeID
  · exact hne (hid.trans (hroot'.mp hid).symm)
  · have hid' : id' ≠ rootVolumeID := fun h' => hid (hroot'.mpr h')
    exact hne (h.consistent.separate id e id' e' he he' hid hid' hpath)

theorem Sound.commit (h : Sound config m.state) (he : Valid config e) (hkey : e.volumeID = volumeID)
    (hpath : ∀ id old, m.state.desired.lookup id = some old → id ≠ volumeID → old.path ≠ e.path) :
    Sound config (m.commit config volumeID e).state := by
  refine Sound.updateRoot (h.change (fun id hid => AList.lookup_insert_ne hid)
    (fun policy hpolicy => .inr ?_) fun policy hmem => ?_)
  · cases (AList.lookup_insert m.state.desired).symm.trans hpolicy
    exact ⟨he, hkey, fun _ => hpath⟩
  · rcases List.mem_append.mp hmem with hold | hnew
    · exact .inl hold
    · exact .inr (List.mem_singleton.mp hnew ▸ he)

theorem live_commit (he : Valid config e) (hkey : e.volumeID = volumeID) :
    Triple (fun host => Live config host ∧ ∀ id old,
        host.manager.state.desired.lookup id = some old → id ≠ volumeID → old.path ≠ e.path)
      (modify (Manager.commit config volumeID e)) fun _ => Live config :=
  triple_modify fun _ h => h.1.withManager (h.1.sound.commit he hkey h.2) fun _ hold =>
    mem_updateRoot_of_mem (List.mem_append_left _ hold)

theorem Sound.erase (h : Sound config m.state) (volumeID : String) :
    Sound config { m.state with desired := m.state.desired.erase volumeID } :=
  h.change (fun id hid => AList.lookup_erase_ne hid) (fun e he => by simp at he) fun _ he => .inl he

theorem merged_ok {old : Export} (h : merged old e exact = .ok e') :
    ∃ sourceKey fenceUID, e' = { e with sourceKey := sourceKey, fenceUID := fenceUID } ∨
      (exact = false ∧ old.aclEnabled = true ∧ e.aclEnabled = true) ∧
        e' = { e with sourceKey := sourceKey, fenceUID := fenceUID, clients := old.clients } := by
  unfold merged at h
  split at h
  · cases h
  · obtain ⟨hinted, hhints, rfl⟩ := exists_of_map_eq_ok h
    have hshape : ∃ sourceKey fenceUID,
        hinted = { e with sourceKey := sourceKey, fenceUID := fenceUID } := by
      unfold mergedHints at hhints
      repeat' split at hhints
      all_goals cases hhints
      all_goals exact ⟨_, _, rfl⟩
    obtain ⟨sourceKey, fenceUID, rfl⟩ := hshape
    refine ⟨sourceKey, fenceUID, ?_⟩
    split
    · next hkeep => exact .inr ⟨hkeep, rfl⟩
    · exact .inl rfl

theorem Sound.putPolicy (h : Sound config state)
    (he : Valid config e) (hput : putPolicy state.desired e exact = .ok e') :
    Valid config e' ∧ ∀ id old, state.desired.lookup id = some old → id ≠ e'.volumeID →
      old.path ≠ e'.path := by
  obtain ⟨merged, hmerged, hput⟩ := exists_of_bind_eq_ok hput
  have hvalid : Valid config merged := by
    unfold mergedPolicy at hmerged
    split at hmerged
    · rename_i old hold
      obtain ⟨sourceKey, fenceUID, rfl | ⟨⟨-, -, hacl⟩, rfl⟩⟩ := merged_ok hmerged
      · exact he.withHints sourceKey fenceUID e.active
      · refine (he.withHints sourceKey fenceUID e.active).withClients
          (h.desired _ old hold).canonical fun hopen => ?_
        rw [hacl] at hopen
        cases hopen
    · cases hmerged
      exact he
  split at hput
  · cases hput
  · rename_i hfree
    cases hput
    refine ⟨hvalid, fun id old hlookup hid hpath => hfree ?_⟩
    exact List.any_eq_true.mpr ⟨(id, old), mem_exports.mpr hlookup, by simp [hid, hpath]⟩

theorem yields_validatePut (e : Export) :
    Yields P (validatePut config checks e) (fun _ host => P host ∧
      e.bindAddress = config.bindAddress ∧ validateOwned config e = .ok ()) P := by
  unfold validatePut
  refine .ite (fun _ => .fail fun host h => h) fun hvolume => ?_
  refine (yields_orFail _ fun _ h => h).bind fun rel => .assuming fun hrel => ?_
  refine preserves_check.seq fun _ => ?_
  split
  · refine .ite (fun haddress => .pure _ fun host h => ⟨h, haddress, ?_⟩) fun _ =>
      .fail fun host h => h
    rw [validateOwned, if_neg hvolume, hrel]
    rfl
  · exact .fail fun host h => h
  · exact .fail fun host h => h

theorem inv_apply : Triple (fun host => Inv config host ∧ Started host)
    (apply config checks) fun _ => Inv config :=
  .weaken live_apply (fun _ h => h.1.live h.2) fun _ _ h => h.inv

theorem inv_rejectExport (e : Export) (error : NfsError) :
    Preserves (Inv config) (rejectExport config passes e error) := by
  refine preserves_read.bind fun m => ?_
  split
  · exact .fail
  · refine .ite .fail ?_
    refine Yields.always (Q := fun _ => Inv config) ?_ fun _ _ h => h
    refine (attempt_started (yields_healthLocked fun _ h => h)).bind fun result => ?_
    split
    · exact .fail fun host h => h.1
    · refine preserves_check.andThen (fun _ h => h.1) fun _ => ?_
      refine Triple.bind (R := fun _ => Inv config) ?_ (fun _ => Yields.error)
        fun stop host h => h
      refine Triple.bind (R := fun _ => Inv config) ?_ (fun _ => Preserves.pure _)
        fun stop host h => h
      exact .attempt (.pre inv_apply (fun _ h => ⟨h.1, h.2 rfl⟩))
        (fun _ _ h => h) (fun _ _ h => h) fun _ h => h

theorem live_committed (h : Preserves (Live config) p) : Preserves (Live config) (do
      match ← attempt persist with
      | .error error => failClosed config error
      | .ok _ => p) := by
  refine live_persist.attempt.bind fun result => ?_
  split
  · exact live_failClosed _
  · exact h

theorem inv_put (e : Export) (exact active : Bool) :
    Preserves (Inv config) (put config passes e exact active) := by
  have hself : ∀ host, Inv config host → Inv config host := fun _ h => h
  refine Yields.always (Q := fun _ => Inv config) (preserves_check.seq fun _ => ?_)
    fun _ _ h => h
  refine (yields_orFail _ hself).bind fun e => .assuming fun hnormal => ?_
  have hvalidate : Yields (Inv config) (attempt (validatePut config passes.request e))
      (fun result host => Inv config host ∧ (result = .ok () → Valid config e)) (Inv config) :=
    Triple.attempt (yields_validatePut e)
      (fun _ _ h => ⟨h.1, fun _ => ⟨(normalized_ok hnormal).1, h.2.1, h.2.2⟩⟩)
      (fun _ _ h => ⟨h, nofun⟩) fun _ h => h
  refine hvalidate.bind fun result => Yields.assuming fun hvalid => ?_
  split
  · exact Triple.returns (Preserves.ite (inv_rejectExport passes e _) Preserves.fail) hself
  have hvalid := hvalid rfl
  refine (Preserves.when (inv_start passes)).seq fun _ => preserves_check.seq fun _ => ?_
  -- from here on an active request knows that the manager is started
  refine Yields.bind (Q := fun _ host => Inv config host ∧ (active = true → Started host)) ?_
    fun _ => ?_
  · refine .ite (fun _ => ?_) fun hinactive => ?_
    · exact (yields_healthLocked hself).post fun _ _ h => ⟨h.1, fun _ => h.2⟩
    · exact .pure _ fun host h => ⟨h, fun hactive => absurd hactive hinactive⟩
  refine yields_read.bind fun desired => (yields_orFail _ fun _ h => h.1.1).bind fun e' => ?_
  refine .ite (fun hactive => ?_) fun _ => .pure _ fun host h => h.1.1.1
  rintro w ⟨⟨⟨hinv, hstarted⟩, rfl⟩, hput⟩
  have hlive := hinv.live (hstarted hactive)
  obtain ⟨hvalid', hfree⟩ := hlive.sound.putPolicy hvalid hput
  have hcommit := live_commit (hvalid'.withHints e'.sourceKey e'.fenceUID true) rfl
  exact Triple.returns (.post (.bind hcommit (fun _ =>
    live_committed (preserves_applyFor live_apply _)) fun _ _ h => h) fun _ _ h => h.inv) hself w
    ⟨hlive, hfree⟩

theorem Live.valid_changedClient (h : Live config host)
    {allow : Bool} (he : host.manager.state.desired.lookup volumeID = some e)
    (hchanged : changedClient config e client allow = .ok e') :
    Valid config e' ∧ e'.volumeID = volumeID ∧ ∀ id old,
      host.manager.state.desired.lookup id = some old → id ≠ volumeID → old.path ≠ e'.path := by
  have hvalid := h.sound.desired volumeID e he
  have hshape : ∃ clients, Canonical config.addresses config.bind clients ∧
      (e.aclEnabled = false → clients = []) ∧ e' = { e with clients := clients } := by
    unfold changedClient at hchanged
    split at hchanged
    · cases hchanged
    · rename_i ip hip
      obtain ⟨normal, hnormal, hchanged⟩ := exists_of_bind_eq_ok hchanged
      have hbind : config.addresses.unicastAddress e.bindAddress = some config.bind := by
        rw [hvalid.address]
        exact config.bind_readable
      rw [hvalid.normal.normalized_withClients hbind hvalid.address.symm] at hnormal
      obtain ⟨canonical, hcanonical, rfl⟩ := exists_of_map_eq_ok hnormal
      have hclients : Canonical config.addresses config.bind
          (if e.aclEnabled then canonical else []) := by
        split
        · exact canonical_of_normalizeClients hcanonical
        · exact canonical_nil
      split at hchanged
      · cases hchanged
        exact ⟨_, hclients, fun hopen => by simp [hopen], rfl⟩
      · cases hchanged
        exact ⟨_, hclients.filter _, fun hopen => by simp [hopen], rfl⟩
  obtain ⟨clients, hcanonical, hopen, rfl⟩ := hshape
  refine ⟨hvalid.withClients hcanonical hopen, h.sound.consistent.keyed volumeID e he, ?_⟩
  intro id old hold hid
  have hne := h.sound.path_ne hold he hid
  exact hne

theorem live_applyOrStop : Preserves (Live config) (applyOrStop config passes) :=
  preserves_applyOrStop live_revoke (fun _ => live_apply) passes

theorem live_commitClientChange (volumeID : String) (allow : Bool)
    (he : Valid config e) (hkey : e.volumeID = volumeID) :
    Triple (fun host => Live config host ∧ ∀ id old,
        host.manager.state.desired.lookup id = some old → id ≠ volumeID → old.path ≠ e.path)
      (commitClientChange config passes volumeID e allow) fun _ => Live config :=
  .bind (live_commit he hkey) (fun _ => live_committed
    (.ite (live_applyOrStop passes) (preserves_applyFor live_apply volumeID))) fun _ _ h => h

theorem yields_goOn {startErr : Except NfsError Unit} {fatal : Prop}
    [Decidable fatal] (hfatal : m.started = false → fatal) (hI : ∀ host, P host → I host) :
    Yields (fun host => (P host ∧ StartedIf startErr host) ∧ m = host.manager)
      (goOn startErr fatal) (fun _ host => (P host ∧ host.manager = m) ∧ Started host) I := by
  unfold goOn
  split
  · refine .ite (fun _ => .fail fun host h => hI host h.1.1) fun hgo =>
      .pure _ fun host h => ⟨⟨h.1.1, h.2.symm⟩, ?_⟩
    rw [Started, ← h.2]
    by_contra hidle
    exact hgo (hfatal (by simpa using hidle))
  · exact .pure _ fun host h => ⟨⟨h.1.1, h.2.symm⟩, h.1.2 rfl⟩

theorem inv_afterStart {fatal : Manager → Prop} [DecidablePred fatal]
    {p : Manager → Nfs Unit} (hfatal : ∀ m, m.started = false → fatal m)
    (hp : ∀ m, Triple (fun host => Live config host ∧ host.manager = m) (p m)
      fun _ => Live config) : Preserves (Inv config) (do
      let startErr ← attempt (start config passes)
      let m ← read id
      goOn startErr (fatal m)
      p m) := by
  refine Yields.always (Q := fun _ => Inv config) ?_ fun _ _ h => h
  refine (attempt_started (yields_start passes)).bind fun startErr => yields_read.bind fun m => ?_
  refine (yields_goOn (hfatal m) fun _ h => h).bind fun _ => ?_
  exact Triple.returns (.weaken (hp m) (fun host h => ⟨h.1.1.live h.2, h.1.2⟩)
    fun _ _ h => h.inv) fun _ h => h

theorem inv_changeClient (volumeID client : String) (allow : Bool) :
    Preserves (Inv config) (changeClient config passes volumeID client allow) := by
  refine .bind preserves_check fun _ => ?_
  refine inv_afterStart passes (fun _ hidle => .inr (.inl hidle)) fun m => ?_
  refine .bind preserves_check (fun _ => ?_) fun _ _ h => h.1
  refine .bind preserves_healthLocked.when (fun _ => ?_) fun _ _ h => h.1
  split
  · exact .ite (fun _ => .fail fun _ h => h.1) fun _ => .pure _ fun _ h => h.1
  · rename_i e he
    refine .bind (yields_orFail _ fun _ h => h.1) (fun e' => ?_) fun _ _ h => h
    refine .ite (fun _ => ?_) fun _ => .pure _ fun _ h => h.1.1
    rintro w ⟨⟨hlive, rfl⟩, hchanged⟩
    obtain ⟨hvalid, hkey, hfree⟩ := hlive.valid_changedClient he hchanged
    exact live_commitClientChange passes volumeID allow hvalid hkey w ⟨hlive, hfree⟩

theorem inv_remove (volumeID : String) :
    Preserves (Inv config) (remove config passes volumeID) := by
  refine .bind preserves_check fun _ => ?_
  refine inv_afterStart passes (fun _ hidle => .inl hidle) fun m => ?_
  refine Triple.pre (P := Live config) ?_ fun _ h => h.1
  refine Preserves.bind preserves_check fun _ => Preserves.bind ?_ fun _ =>
    live_committed (live_applyOrStop passes)
  exact live_updateRoot (fun m h => h.erase volumeID) fun _ _ he => he

theorem inv_revoke (path client : String) : Preserves (Inv config) (revoke path client) :=
  .call_some fun _ h => ⟨⟨h.disk, h.covered.revoke _⟩, fun hstarted => (h.live hstarted).revoke _⟩

section Endings

variable {P : Host → Prop} (hrevoke : ∀ path client, Preserves P (revoke path client))
  (hmodify : ∀ f : Manager → Manager, (∀ m, (f m).state = m.state) →
    (∀ m, (f m).started = m.started) → Preserves P (modify f))

include hrevoke hmodify

theorem preserves_daemonFailed : Preserves P (daemonFailed config) := by
  refine preserves_read.bind fun m => .ite (.pure _) ?_
  refine .ite (hmodify _ (fun _ => rfl) fun _ => rfl) ?_
  refine (preserves_revokeOwned hrevoke).ignore.bind fun _ => ?_
  exact preserves_check.ignore.bind fun _ => hmodify _ (fun _ => rfl) fun _ => rfl

theorem preserves_closeManager : Preserves P (closeManager config) := by
  refine preserves_read.bind fun m => .ite ?_ ?_
  · split
    · exact .fail
    · exact .pure _
  · refine .bind (hmodify _ (fun _ => rfl) fun _ => rfl) fun _ => ?_
    refine (preserves_revokeOwned hrevoke).when.attempt.bind fun _ => ?_
    refine preserves_check.attempt.bind fun _ => preserves_check.when.attempt.bind fun _ => ?_
    exact .bind (hmodify _ (fun _ => rfl) fun _ => rfl) fun _ => preserves_orFail

end Endings

inductive Operation where
  | start
  | put (e : Export) (exact active : Bool)
  | changeClient (volumeID client : String) (allow : Bool)
  | remove (volumeID : String)
  | daemonFailed
  | close

def Operation.program (config : Config) (passes : Passes) : Operation → Nfs Unit
  | .start => NfsManager.start config passes
  | .put e exact active => NfsManager.put config passes e exact active
  | .changeClient volumeID client allow =>
    NfsManager.changeClient config passes volumeID client allow
  | .remove volumeID => NfsManager.remove config passes volumeID
  | .daemonFailed => NfsManager.daemonFailed config
  | .close => NfsManager.closeManager config

def freshManager (config : Config) : Manager :=
  { state := freshState config, locked := false, started := false, closed := false, failure := none,
    exportErrors := [], closeErr := none }

def Host.restart (config : Config) (host : Host) : Host :=
  { host with manager := freshManager config }

inductive Action where
  | perform (op : Operation) (passes : Passes) (outcomes : List Outcome)
  /-- The process ends and a new one begins. -/
  | restart
  /-- Somebody else changes the admission table. -/
  | elsewhere (table : ExportTable)

/-- A step of the system: a process that dies in an operation is replaced by a
new one, and a row that somebody else put there is not the manager's. -/
def step (config : Config) (host : Host) : Action → Option Host
  | .perform op passes outcomes =>
    let after := (op.program config passes).after outcomes host
    match (op.program config passes).result outcomes host with
    | .error .died => some (Host.restart config after)
    | _ => some after
  | .restart => some (Host.restart config host)
  | .elsewhere table => some { host with
      table := table
      granted := host.granted.filter fun key => table.lookup key = host.table.lookup key }

theorem inv_program (op : Operation) (passes : Passes) :
    Preserves (Inv config) (op.program config passes) := by
  have hmodify : ∀ f : Manager → Manager, (∀ m, (f m).state = m.state) →
      (∀ m, (f m).started = m.started) → Preserves (Inv config) (modify f) :=
    fun _ hstate hstarted => inv_modify hstate fun m h => (hstarted m).symm.trans h
  cases op with
  | start => exact inv_start passes
  | put e exact active => exact inv_put passes e exact active
  | changeClient volumeID client allow => exact inv_changeClient passes volumeID client allow
  | remove volumeID => exact inv_remove passes volumeID
  | daemonFailed => exact preserves_daemonFailed inv_revoke hmodify
  | close => exact preserves_closeManager inv_revoke hmodify

theorem Recorded.restart (h : Recorded config host) : Idle config (Host.restart config host) :=
  ⟨⟨h.disk, h.covered⟩, rfl⟩

theorem Covered.elsewhere (h : Covered config ledger host)
    (table : ExportTable) : Covered config ledger { host with
      table := table
      granted := host.granted.filter fun key => table.lookup key = host.table.lookup key } := by
  intro key hkey options hlookup
  obtain ⟨hgranted, hsame⟩ := List.mem_filter.mp hkey
  exact h key hgranted options ((of_decide_eq_true hsame).symm.trans hlookup)

theorem inv_step {next : Host} {action : Action} (h : Inv config host)
    (hstep : step config host action = some next) : Inv config next := by
  cases action with
  | perform op passes outcomes =>
    have hafter : Inv config ((op.program config passes).after outcomes host) :=
      (inv_program op passes).after h outcomes
    unfold step at hstep
    dsimp only at hstep
    split at hstep
    · cases hstep
      exact hafter.toRecorded.restart.inv
    · cases hstep
      exact hafter
  | restart =>
    cases hstep
    exact h.toRecorded.restart.inv
  | elsewhere table =>
    cases hstep
    exact ⟨⟨h.disk, h.covered.elsewhere table⟩, fun hstarted =>
      have hlive := h.live hstarted
      ⟨⟨h.disk, h.covered.elsewhere table⟩, hlive.sound, hlive.held.elsewhere table⟩⟩

def bareHost (config : Config) (table : ExportTable) : Host :=
  { disk := none, table := table, granted := [], manager := freshManager config }

theorem inv_bareHost (table : ExportTable) : Inv config (bareHost config table) :=
  Idle.inv ⟨⟨by simp [bareHost], by simp [Covered, bareHost]⟩, rfl⟩

theorem inv_run {table : ExportTable} {actions : List Action}
    (hrun : TransitionSystem.run (step config) (bareHost config table) actions = some host) :
    Inv config host :=
  TransitionSystem.invariant_run (fun _ _ _ h hstep => inv_step h hstep) (inv_bareHost table) hrun

/-- The ledger holds the available exports and nothing else. -/
def Trimmed (host : Host) : Prop :=
  host.manager.state.ledger =
    availableExports host.manager.state.desired host.manager.exportErrors

theorem trimmed_converge :
    Triple (fun _ => True) (converge config checks) (Returning fun _ => Trimmed) := by
  iterate 7 refine triple_returning_bind fun _ => ?_
  refine .bind (R := fun _ => Trimmed) (triple_modify fun host _ => rfl) (fun _ => ?_)
    fun _ _ _ => trivial
  have hpersist : Preserves Trimmed persist := .call_some fun _ h => h
  refine .bind hpersist.attempt (fun result => ?_) fun _ _ _ => trivial
  split
  · exact .pure _ fun _ h => h
  · exact .pre (triple_returning_bind fun _ => .fail fun _ _ => trivial) fun _ _ => trivial

theorem trimmed_apply :
    Triple (fun _ => True) (apply config checks) (Returning fun _ => Trimmed) := by
  refine .bind (.attempt trimmed_converge (Q := fun result host =>
    result = .ok (.ok ()) → Trimmed host) (fun _ _ h _ => h) (fun _ _ _ => by simp)
    fun _ _ => by simp) (fun result => ?_) fun _ _ _ => trivial
  split
  · exact .pure _ fun _ h => h rfl
  · exact .pre (triple_returning_bind fun _ => triple_returning_bind fun _ =>
      triple_returning_bind fun _ => .fail fun _ _ => trivial) (fun _ _ => trivial)

theorem trimmed_start :
    Triple (fun host => host.manager = freshManager config) (start config passes)
      (Returning fun _ => Trimmed) := by
  refine .bind preserves_check (fun _ => ?_) fun _ _ _ => trivial
  refine triple_read_bind (fun _ h => h) ?_
  refine .pre (P := fun _ => True) ?_ fun _ _ => trivial
  refine triple_returning_bind fun _ => triple_returning_bind fun _ => ?_
  refine .bind (R := fun result host => result = .ok (.ok ()) → Trimmed host) ?_
    (fun result => ?_) fun _ _ _ => trivial
  · refine .attempt (R := Returning fun _ => Trimmed) ?_ (fun _ _ h _ => h)
      (fun _ _ _ => by simp) fun _ _ => by simp
    iterate 7 refine triple_returning_bind fun _ => ?_
    exact trimmed_apply
  · refine .bind (R := fun _ host => result = .ok () → Trimmed host) ?_ (fun _ => ?_)
      fun _ _ _ => trivial
    · refine triple_modify fun host h hok => ?_
      have htrimmed := h (by rw [hok])
      unfold Trimmed at htrimmed ⊢
      dsimp only
      split <;> exact htrimmed
    · exact triple_orFail (fun _ host hok h => h hok) fun _ _ _ _ => trivial

theorem revokeEach_done (rows : List Entry) (host : Host) :
    revokeEach rows { state := host, outcomes := [] } =
      (.ok none, { state := rows.foldl (fun host row => host.revoke row.key) host,
                   outcomes := [] }) := by
  induction rows generalizing host with
  | nil => rfl
  | cons row rest ih =>
    have hrest := ih (host.revoke row.key)
    simp only [revokeEach, Bind.bind, Program.bind, Program.attempt, revoke, call, next]
    rw [show (⟨row.path, row.client⟩ : Key) = row.key from rfl, hrest]
    rfl

theorem foldl_revoke_manager (rows : List Entry) (host : Host) :
    (rows.foldl (fun host row => host.revoke row.key) host).table =
      rows.foldl (fun table row => table.erase row.key) host.table := by
  induction rows generalizing host with
  | nil => rfl
  | cons row rest ih => exact ih (host.revoke row.key)

theorem lookup_foldl_erase {rows : List Entry} (table : ExportTable)
    (h : table.lookup key = none ∨ ∃ row ∈ rows, row.key = key) :
    (rows.foldl (fun table row => table.erase row.key) table).lookup key = none := by
  induction rows generalizing table with
  | nil => simpa using h
  | cons row rest ih =>
    refine ih _ ?_
    by_cases hkey : key = row.key
    · exact .inl (by rw [hkey, AList.lookup_erase])
    · rw [AList.lookup_erase_ne hkey]
      rcases h with hnone | ⟨row', _ | ⟨_, hrow'⟩, hsame⟩
      · exact .inl hnone
      · exact absurd hsame.symm hkey
      · exact .inr ⟨row', hrow', hsame⟩

theorem lookup_after_revokeOwned (h : ∀ options, host.table.lookup key = some options →
      Claimed config host.manager.state.ledger key options) :
    ((revokeOwned config).after [] host).table.lookup key = none := by
  have hafter : ((revokeOwned config).after [] host).table =
      (host.table.rows.filter (owns config host.manager.state.ledger)).foldl
        (fun table row => table.erase row.key) host.table := by
    rw [← foldl_revoke_manager]
    unfold Program.after revokeOwned
    simp only [Bind.bind, Program.bind, list, query, next, NfsManager.read, look]
    rw [revokeEach_done]
    rfl
  rw [hafter]
  refine lookup_foldl_erase _ ?_
  cases hlookup : host.table.lookup key with
  | none => exact .inl rfl
  | some options =>
    refine .inr ⟨⟨key.path, key.client, options⟩, List.mem_filter.mpr ⟨?_, ?_⟩, rfl⟩
    · exact mem_rows.mpr hlookup
    · exact (h options hlookup).owns

/-- In every run, with calls that fail and processes that die anywhere, a
restart accepts the file and owns under it every row that the manager granted
and has not revoked.  A withdrawal by the restarted manager takes all of them
away, and a restart that comes up leaves those only that belong to an available
export of the policy it loaded. -/
theorem granted_rows_owned_by_restart {config : Config} {table : ExportTable}
    {actions : List Action} {host : Host}
    (hrun : TransitionSystem.run (step config) (bareHost config table) actions = some host) :
    ∃ state, loaded config host.disk = .ok state ∧
      (∀ row ∈ host.table.rows, row.key ∈ host.granted → owns config state.ledger row = true) ∧
      (∀ key ∈ host.granted, ((revokeOwned config).after [] { host with
        manager := { freshManager config with state := state } }).table.lookup key = none) ∧
      ∀ passes outcomes,
        (start config passes).result outcomes (Host.restart config host) = .ok () →
        let after := (start config passes).after outcomes (Host.restart config host)
        ∀ row ∈ after.table.rows, row.key ∈ after.granted →
          owns config (availableExports after.manager.state.desired after.manager.exportErrors)
            row = true := by
  have hinv := inv_run hrun
  obtain ⟨state, hloaded⟩ := hinv.exists_loaded
  have hcovered := (hinv.sound_of_loaded hloaded).2
  refine ⟨state, hloaded, ?_, ?_, ?_⟩
  · intro row hrow hgranted
    exact (hcovered row.key hgranted row.options (mem_rows.mp hrow)).owns
  · intro key hkey
    exact lookup_after_revokeOwned fun options hlookup => hcovered key hkey options hlookup
  · intro passes outcomes hok after row hrow hgranted
    have hstarted := (yields_start passes).of_result hinv.restart.inv hok
    have htrimmed : Trimmed after := by
      have hreturned := trimmed_start passes
        { state := Host.restart config host, outcomes := outcomes } rfl
      change Returning (fun _ => Trimmed) ((start config passes).result outcomes _) after at hreturned
      rwa [hok] at hreturned
    have hlive : Live config after := hstarted.1.live hstarted.2
    rw [← htrimmed]
    exact (hlive.held row.key hgranted row.options (mem_rows.mp hrow)).owns

/-- A request whose process dies after it granted the rows of the export and of
the pseudoroot. -/
def interruptedPut : Action :=
  .perform (.put datasetExport true true) ⟨allUsable, allUsable, allUsable, allUsable⟩
    (List.replicate 23 .done ++ [.died])

theorem granted_rows_owned_after_interruptedPut :
    ∃ host, TransitionSystem.run (step plainConfig) (bareHost plainConfig ∅) [interruptedPut] =
        some host ∧ ∃ state, loaded plainConfig host.disk = .ok state ∧
        ∃ row ∈ host.table.rows, row.key ∈ host.granted ∧
          owns plainConfig state.ledger row = true := by
  obtain ⟨host, hrun, row, hmem, hgranted⟩ : ∃ host, TransitionSystem.run (step plainConfig)
      (bareHost plainConfig ∅) [interruptedPut] = some host ∧
      ∃ row ∈ host.table.rows, row.key ∈ host.granted := by decide +kernel
  obtain ⟨state, hloaded, howns, -⟩ := granted_rows_owned_by_restart hrun
  exact ⟨host, hrun, state, hloaded, row, hmem, hgranted, howns row hmem hgranted⟩

end PillarCsi.NfsOwnership
