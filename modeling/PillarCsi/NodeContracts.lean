import PillarCsi.NodePublishing

/-!
What the node plugin's calls may do: for each operation, which events it may
perform in which states.  The properties of whole runs are read off these
contracts.
-/

namespace PillarCsi.NodeContracts

open FalliblePrograms FalliblePrograms.Program EffectPrograms StageRecord NodeHost NodeStaging
open NodePublishing

def recordOf (h : Host) (volumeID : String) : Option NodeStageState :=
  (h.files (stateFileKey volumeID)).bind StageFile.record

variable (volumeID : String)

/-- The volume's record forbids to format, check or grow its filesystem. -/
def Pinned (h : Host) : Prop :=
  ∃ state, recordOf h volumeID = some state ∧ state.preserveOriginal = true

/-- The same record but for the time of its first write. -/
def Alike (a b : NodeStageState) : Prop := a = { b with stagedAt := a.stagedAt }

theorem Alike.refl (a : NodeStageState) : Alike a a := rfl

theorem alike_stagedAt (a : NodeStageState) (time : Option Nat) :
    Alike { a with stagedAt := time } a := rfl

/-- A rewrite of a record for the same stage: it says the same about access and
attachment, is labelled as before or with the volume, and keeps the pin. -/
structure Rewrites (volumeID : String) (old new : NodeStageState) : Prop where
  accessType : new.accessType = old.accessType
  protocolState : new.toProtocolState = old.toProtocolState
  protocolType : new.protocolType = old.protocolType
  attachMode : new.attachMode = old.attachMode
  localState : new.localState = old.localState
  file : new.file = old.file
  label : new.volumeID = old.volumeID ∨ new.volumeID = volumeID
  pin : old.preserveOriginal = true → new.preserveOriginal = true

def RewritesIn (h : Host) (new : NodeStageState) : Prop :=
  ∃ old, recordOf h volumeID = some old ∧ Rewrites volumeID old new

def Event.keepsFiles : Event → Bool
  | .writeRecord _ _ | .removeRecord _ => false
  | _ => true

variable {event : Event}

theorem apply_files (hkeeps : Event.keepsFiles event = true) (h : Host) :
    (h.apply event).files = h.files := by
  cases event <;> first | rfl | cases hkeeps

theorem recordOf_apply (hkeeps : Event.keepsFiles event = true) (h : Host)
    (volumeID : String) : recordOf (h.apply event) volumeID = recordOf h volumeID := by
  unfold recordOf
  rw [apply_files hkeeps]

theorem recordOf_writeRecord (h : Host) (volumeID : String) (state : NodeStageState) :
    recordOf (h.apply (.writeRecord (stateFileKey volumeID) state)) volumeID =
      some state.backfilled := by
  simp [recordOf, Host.apply, Host.effect]

theorem recordOf_removeRecord (h : Host) (volumeID : String) :
    recordOf (h.apply (.removeRecord (stateFileKey volumeID))) volumeID = none := by
  simp [recordOf, Host.apply, Host.effect]

/-- What a read that returned `existing` says about the record file. -/
def Found (existing : Option NodeStageState) (h : Host) : Prop :=
  match existing with
  | none => h.files (stateFileKey volumeID) = none
  | some state => ∃ recorded, recordOf h volumeID = some recorded ∧ Alike state recorded

variable {h : Host} {volumeID : String}

theorem found_apply {existing : Option NodeStageState}
    (hkeeps : Event.keepsFiles event = true) (hfound : Found volumeID existing h) :
    Found volumeID existing (h.apply event) := by
  cases existing with
  | none => exact (congrFun (apply_files hkeeps h) _).trans hfound
  | some state =>
    obtain ⟨recorded, hrecorded, halike⟩ := hfound
    exact ⟨recorded, (recordOf_apply hkeeps h volumeID).trans hrecorded, halike⟩

theorem recordOf_of_found_none (hfound : Found volumeID none h) : recordOf h volumeID = none := by
  unfold recordOf
  rw [show h.files (stateFileKey volumeID) = none from hfound]
  rfl

variable {state : NodeStageState}

theorem pinned_of_found (hfound : Found volumeID (some state) h) (hpinned : Pinned volumeID h) :
    state.preserveOriginal = true := by
  obtain ⟨recorded, hrecorded, halike⟩ := hfound
  obtain ⟨pinned, hpinned, hflag⟩ := hpinned
  obtain rfl := Option.mem_unique hrecorded hpinned
  rw [halike]
  exact hflag

variable {new : NodeStageState} {old c : NodeStageState}

theorem Rewrites.of_alike
    (halike : Alike state old) (h : Rewrites volumeID state new) : Rewrites volumeID old new := by
  have hold : old = { state with stagedAt := old.stagedAt } := by rw [halike]
  rw [hold]
  exact ⟨h.accessType, h.protocolState, h.protocolType, h.attachMode, h.localState, h.file,
    h.label, h.pin⟩

theorem rewrites_of_alike (h : Alike new old) : Rewrites volumeID old new := by
  rw [h]
  exact ⟨rfl, rfl, rfl, rfl, rfl, rfl, .inl rfl, fun hpin => hpin⟩

variable {a b : NodeStageState}

theorem Rewrites.trans (hab : Rewrites volumeID a b)
    (hbc : Rewrites volumeID b c) : Rewrites volumeID a c where
  accessType := hbc.accessType.trans hab.accessType
  protocolState := hbc.protocolState.trans hab.protocolState
  protocolType := hbc.protocolType.trans hab.protocolType
  attachMode := hbc.attachMode.trans hab.attachMode
  localState := hbc.localState.trans hab.localState
  file := hbc.file.trans hab.file
  label := by
    rcases hbc.label with hlabel | hlabel
    · rw [hlabel]
      exact hab.label
    · exact .inr hlabel
  pin := fun hpin => hbc.pin (hab.pin hpin)

theorem Alike.symm (h : Alike a b) : Alike b a := by
  unfold Alike
  rw [h]

theorem Alike.trans (hab : Alike a b) (hbc : Alike b c) : Alike a c := by
  unfold Alike
  rw [hab, hbc]

theorem Found.of_alike
    (hfound : Found volumeID (some b) h) (halike : Alike a b) : Found volumeID (some a) h := by
  obtain ⟨recorded, hrecorded, hb⟩ := hfound
  exact ⟨recorded, hrecorded, halike.trans hb⟩

theorem RewritesIn.of_found
    (hfound : Found volumeID (some state) h) (hnew : Rewrites volumeID state new) :
    RewritesIn volumeID h new := by
  obtain ⟨recorded, hrecorded, halike⟩ := hfound
  exact ⟨recorded, hrecorded, hnew.of_alike halike⟩

/-- What a read of the record may do: it may write the record back in the
present format. -/
def ReadContract (volumeID : String) : Event → Host → Prop
  | .readRecord key, _ => key = stateFileKey volumeID
  | .writeRecord key new, h => key = stateFileKey volumeID ∧
      ∃ old, recordOf h volumeID = some old ∧ Alike new old
  | _, _ => False

section Record

variable {allow : Event → Host → Prop} {P : Host → Prop} {volumeID : String}
  {state : NodeStageState} {Q : Except (Stop NodeError) Unit → Host → Prop}

theorem stampStagedAt_spec : Emits allow P (stampStagedAt volumeID state) fun r h =>
      P h ∧ Returning (fun stamped _ => Alike stamped state) r h := by
  refine .ite (fun _ => ?_) fun _ => ?_
  · exact .pure _ fun h hP => ⟨hP, Alike.refl state⟩
  · refine Emits.bind (Keeps.query (P := P)) (fun stagedAt => ?_) fun stop h hP => ⟨hP, trivial⟩
    exact .pure _ fun h hP => ⟨hP, alike_stagedAt state _⟩

theorem replaceStageFile_spec
    (hallow : ∀ h, P h → allow (.writeRecord (stateFileKey volumeID) state) h)
    (hbefore : ∀ stop h, P h → Q (.error stop) h)
    (hafter : ∀ r h, P h → Q r (h.apply (.writeRecord (stateFileKey volumeID) state))) :
    Emits allow P (replaceStageFile volumeID state) Q := by
  have hrename : Emits allow P
      (act (internal s!"rename temp state file to {stateFileKey volumeID}")
        (.writeRecord (stateFileKey volumeID) state))
      fun r h => (∀ r', Q r' h) ∨ (r ≠ .ok () ∧ ∀ stop, Q (.error stop) h) := by
    refine .perform hallow ?_ ?_ ?_ ?_
    · exact fun h hP => .inl fun r' => hafter r' h hP
    · exact fun h hP => .inr ⟨(fun heq => nomatch heq), fun stop => hbefore stop h hP⟩
    · exact fun h hP => .inl fun r' => hafter r' h hP
    · exact fun h hP => .inr ⟨(fun heq => nomatch heq), fun stop => hbefore stop h hP⟩
  refine Emits.bind (Keeps.query (P := P)) (fun _ => ?_) fun stop h hP => hbefore stop h hP
  refine hrename.bind (fun _ => ?_) fun stop h hQ => ?_
  · refine .weaken (P := fun h => ∀ r', Q r' h) ?_ ?_ fun _ _ hQ => hQ
    · exact .query (fun h hQ => hQ _) (fun h hQ => hQ _) fun h hQ => hQ _
    · rintro h (hQ | ⟨hne, -⟩)
      · exact hQ
      · exact absurd rfl hne
  · rcases hQ with hQ | ⟨-, hQ⟩
    · exact hQ _
    · exact hQ stop

theorem writeStageState_spec (hallow : ∀ h new, P h → Alike new state →
      allow (.writeRecord (stateFileKey volumeID) new) h)
    (hbefore : ∀ stop h, P h → Q (.error stop) h) (hafter : ∀ r h new, P h → Alike new state →
      Q r (h.apply (.writeRecord (stateFileKey volumeID) new))) :
    Emits allow P (writeStageState volumeID state) Q := by
  refine stampStagedAt_spec.bind (fun stamped => ?_) fun stop h hP => hbefore stop h hP.1
  refine .of_fact (fun h hP => hP.2) fun halike => ?_
  refine .weaken ?_ (fun h hP => hP.1) fun _ _ hQ => hQ
  exact replaceStageFile_spec (fun h hP => hallow h stamped hP halike) hbefore
    fun r h hP => hafter r h stamped hP halike

theorem backfilled_of_isSome (hsome : state.accessType.isSome) : state.backfilled = state := by
  obtain ⟨access, haccess⟩ := Option.isSome_iff_exists.mp hsome
  unfold NodeStageState.backfilled
  rw [haccess, Option.getD_some, ← haccess]

theorem found_writeRecord (hsome : state.accessType.isSome) (halike : Alike new state) (h : Host) :
    Found volumeID (some state) (h.apply (.writeRecord (stateFileKey volumeID) new)) := by
  have hnew : new.backfilled = new := by
    apply backfilled_of_isSome
    rw [halike]
    exact hsome
  exact ⟨new, (recordOf_writeRecord h volumeID new).trans (by rw [hnew]), halike.symm⟩

theorem Found.writes (hfound : Found volumeID (some state) h) (halike : Alike new state) :
    ReadContract volumeID (.writeRecord (stateFileKey volumeID) new) h := by
  obtain ⟨recorded, hrecorded, hstate⟩ := hfound
  exact ⟨rfl, recorded, hrecorded, halike.trans hstate⟩

theorem keeps_found_replace (hsome : state.accessType.isSome) (halike : Alike new state) :
    Keeps (ReadContract volumeID) (Found volumeID (some state))
      (replaceStageFile volumeID new) :=
  replaceStageFile_spec (fun _ hfound => hfound.writes halike) (fun _ _ hfound => hfound)
    fun _ h _ => found_writeRecord hsome halike h

theorem keeps_found_write (hsome : state.accessType.isSome) :
    Keeps (ReadContract volumeID) (Found volumeID (some state))
      (writeStageState volumeID state) :=
  writeStageState_spec (fun _ _ hfound halike => hfound.writes halike)
    (fun _ _ hfound => hfound) fun _ h _ _ halike => found_writeRecord hsome halike h

theorem found_of_contents (raw : StageContents) {file : StageFile}
    (hfile : h.files (stateFileKey volumeID) = some file) (hraw : file.contents = some raw) :
    Found volumeID (some raw.migrated.backfilled) h := by
  refine ⟨raw.migrated.backfilled, ?_, Alike.refl _⟩
  simp [recordOf, hfile, StageFile.record, hraw]

theorem backfill_spec :
    Returns (ReadContract volumeID) (Found volumeID (some state.backfilled)) (do
        let stamped ← attempt (stampStagedAt volumeID state.backfilled)
        match stamped with
        | .error _ => pure state.backfilled
        | .ok state => do
          ignore (replaceStageFile volumeID state)
          pure state)
      fun new h => Found volumeID (some new) h := by
  refine Emits.bind (R := fun r h => Found volumeID (some state.backfilled) h ∧
      Returning (fun stamped _ => ∀ new, stamped = .ok new → Alike new state.backfilled) r h)
    (stampStagedAt_spec.attempt ?_ ?_ fun h hfound => ⟨hfound.1, trivial⟩)
    (fun stamped => ?_) fun _ _ _ => trivial
  · rintro stamped h ⟨hfound, halike⟩
    refine ⟨hfound, ?_⟩
    rintro new ⟨⟩
    exact halike
  · rintro error h ⟨hfound, -⟩
    exact ⟨hfound, fun new heq => nomatch heq⟩
  · cases stamped with
    | error e => exact .pure _ fun h hfound => hfound.1
    | ok new =>
      refine .of_fact (fun h hfound => hfound.2 new rfl) fun halike => ?_
      refine .weaken ?_ (fun h hfound => hfound.1) fun _ _ hQ => hQ
      exact (keeps_found_replace rfl halike).ignore.proceeds.bind fun _ =>
        .pure _ fun h hfound => hfound.of_alike halike

theorem canonicalise_spec (raw : StageContents) :
    Returns (ReadContract volumeID) (Found volumeID (some raw.migrated.backfilled))
      (canonicalise volumeID raw) fun state => Found volumeID (some state) := by
  refine .ite (fun hlegacy => ?_) fun hlegacy => .ite (fun haccess => ?_) fun haccess => ?_
  · -- the first format
    have hmigrated : raw.migrated.backfilled = migrateFromLegacy raw.subsysNQN := by
      rw [StageContents.migrated, if_pos hlegacy]
      exact backfilled_of_isSome rfl
    rw [hmigrated]
    exact (keeps_found_write rfl).ignore.proceeds.bind fun _ => .pure _ fun h hfound => hfound
  · rw [StageContents.migrated, if_neg hlegacy]
    exact backfill_spec
  · -- the present format
    have hraw : raw.migrated.backfilled = raw.state := by
      rw [StageContents.migrated, if_neg hlegacy]
      exact backfilled_of_isSome (Option.isSome_iff_ne_none.mpr haccess)
    rw [hraw]
    exact .pure _ fun h hfound => hfound

theorem readFile_spec {key : String} (hread : ∀ h, allow (.readRecord key) h) :
    Returns allow (fun _ => True) (readFile key) fun file h => h.files key = file :=
  (Returns.perform (R := fun _ _ => True) (fun h _ => hread h) fun _ _ => trivial).bind
    fun _ => .look fun _ _ => rfl

theorem readStageState_reads :
    Returns (ReadContract volumeID) (fun _ => True) (readStageState volumeID)
      (Found volumeID) := by
  refine (readFile_spec fun _ => rfl).bind fun file => ?_
  cases file with
  | none => exact .pure _ fun h hfile => hfile
  | some file =>
    obtain ⟨contents, modTime⟩ := file
    cases contents with
    | none => exact .fail
    | some raw =>
      refine .weaken ?_ (fun h hfile => found_of_contents raw hfile rfl) fun _ _ hQ => hQ
      exact (canonicalise_spec raw).bind fun state => .pure _ fun h hfound => hfound

/-- The contract lets an operation read the volume's record and rewrite it. -/
structure PermitsRecord (allow : Event → Host → Prop) (volumeID : String) : Prop where
  read : ∀ h, allow (.readRecord (stateFileKey volumeID)) h
  rewrite : ∀ h new, RewritesIn volumeID h new →
    allow (.writeRecord (stateFileKey volumeID) new) h

theorem PermitsRecord.reads (hpermits : PermitsRecord allow volumeID) (event : Event) (h : Host)
    (hread : ReadContract volumeID event h) : allow event h := by
  cases event with
  | readRecord key =>
    obtain rfl : key = stateFileKey volumeID := hread
    exact hpermits.read h
  | writeRecord key new =>
    obtain ⟨rfl, old, hold, halike⟩ := hread
    exact hpermits.rewrite h new ⟨old, hold, rewrites_of_alike halike⟩
  | _ => exact hread.elim

theorem readStageState_spec (hpermits : PermitsRecord allow volumeID) :
    Returns allow (fun _ => True) (readStageState volumeID) (Found volumeID) :=
  readStageState_reads.mono hpermits.reads

end Record

section Calls

variable {allow : Event → Host → Prop} {P : Host → Prop} {error : NodeError}
  {target device source fsType name : String} {options : List String}

section

variable (hmount : ∀ m : Mount, m.target = target → Accepts allow P (.mount m))

include hmount

theorem keeps_mountAt : Keeps allow P (mountAt error source target fsType) :=
  Keeps.look.bind fun _ => .perform (hmount _ rfl)

omit hmount in
theorem keeps_unmount (hunmount : Accepts allow P (.unmount target)) :
    Keeps allow P (unmount error target) :=
  .perform hunmount

omit hmount in
theorem keeps_hasOtherMounts : Keeps allow P (hasOtherMounts error target) := by
  refine Keeps.query.bind fun mounts => ?_
  split
  · exact .fail
  · exact .pure _

omit hmount in
theorem keeps_mountSource : Keeps allow P (mountSource error target) := by
  refine Keeps.query.bind fun mounts => ?_
  split
  · exact .fail
  · exact .pure _

omit hmount in
theorem keeps_checkMountHealth (hprobe : Accepts allow P (.probe target)) :
    Keeps allow P (checkMountHealth error target) :=
  Keeps.look.bind fun _ => (Keeps.perform hprobe).bind fun _ => Keeps.pure _

theorem keeps_mountExisting {refusal : NodeError} :
    Keeps allow P (mountExisting error refusal device target fsType) :=
  Keeps.query.bind fun _ => Keeps.query.bind fun _ =>
    .ite (fun _ => .fail) fun _ => keeps_mountAt hmount

omit hmount in
theorem keeps_formatIfBlank (hmkfs : ∀ fsType, Accepts allow P (.mkfs device fsType)) :
    Keeps allow P (formatIfBlank error device fsType options) := by
  have hrun : Keeps allow P (runMkfs error device fsType) :=
    (Keeps.perform (hmkfs fsType)).bind fun _ => Keeps.query.bind fun _ => Keeps.fail.when
  exact Keeps.query.bind fun _ => Keeps.query.bind fun _ => hrun.when

theorem keeps_formatAndMount (hmkfs : ∀ fsType, Accepts allow P (.mkfs device fsType))
    (hfsck : Accepts allow P (.fsck device)) :
    Keeps allow P (formatAndMount error device target fsType options) := by
  refine (keeps_formatIfBlank hmkfs).bind fun _ => Keeps.query.bind fun _ => ?_
  exact Keeps.fail.when.bind fun _ => (Keeps.perform (hmkfs _)).when.bind fun _ =>
    (Keeps.perform hfsck).when.bind fun _ => keeps_mountAt hmount

end

theorem keeps_ensureLinear {unavailable : NodeError}
    (hclaim : Accepts allow P (.createClaim name device)) :
    Keeps allow P (ensureLinear unavailable error name device) :=
  Keeps.query.bind fun _ => Keeps.query.bind fun _ => (Keeps.perform hclaim).when.bind fun _ =>
    Keeps.fail.when.bind fun _ => Keeps.query.bind fun _ => .pure _

theorem keeps_dropUnusableStagedMount {error : String → NodeError}
    (hprobe : Accepts allow P (.probe target))
    (hunmount : Accepts allow P (.unmount target)) :
    Keeps allow P (dropUnusableStagedMount error target) := by
  refine (keeps_checkMountHealth hprobe).bind fun health => ?_
  cases health with
  | alive => exact .pure _
  | dead =>
    exact keeps_hasOtherMounts.bind fun _ => Keeps.fail.when.bind fun _ =>
      (keeps_unmount hunmount).bind fun _ => .pure _

end Calls

/-- What publish, unpublish and expand may do: they read and
rewrite the volume's record, never remove it, and run no destructive command on
a pinned volume. -/
def RecordContract (volumeID : String) : Event → Host → Prop
  | .readRecord key, _ => key = stateFileKey volumeID
  | .writeRecord key state, h => key = stateFileKey volumeID ∧ RewritesIn volumeID h state
  | .removeRecord _, _ => False
  | .mkfs _ _, h | .fsck _, h | .resizeFS _ _, h => ¬ Pinned volumeID h
  | _, _ => True

theorem permitsRecord_recordContract (volumeID : String) :
    PermitsRecord (RecordContract volumeID) volumeID :=
  ⟨fun _ => rfl, fun _ _ hrewrites => ⟨rfl, hrewrites⟩⟩

/-- The events that are free of any condition. -/
def Event.harmless : Event → Bool
  | .mount _ | .unmount _ | .probe _ | .fitrim _ _ | .reloadClaim _ => true
  | _ => false

abbrev KeepsRecord {α : Type} (volumeID : String) (P : Host → Prop) (p : Node α) : Prop :=
  Keeps (RecordContract volumeID) P p

variable {req : PublishRequest}

section Publish

variable {node : NodeServer} {volumeID : String} {existing : Option NodeStageState}
  {preserve mounted : Bool} {fs : StagedFilesystem} {probePath : Option String}

theorem accepts_harmless (hharmless : Event.harmless event = true) :
    Accepts (RecordContract volumeID) (Found volumeID existing) event := by
  cases event <;> first
    | exact fun h hfound => ⟨trivial, found_apply rfl hfound⟩
    | cases hharmless

theorem accepts_harmless_anywhere (hharmless : Event.harmless event = true) :
    Accepts (RecordContract volumeID) (fun _ => True) event := by
  cases event <;> first
    | exact fun h _ => ⟨trivial, trivial⟩
    | cases hharmless

theorem not_pinned_of_found (hfound : Found volumeID existing h)
    (hunpinned : (existing.map (·.preserveOriginal)).getD false = false) : ¬ Pinned volumeID h := by
  intro hpinned
  cases existing with
  | none =>
    obtain ⟨state, hstate, -⟩ := hpinned
    rw [recordOf_of_found_none hfound] at hstate
    cases hstate
  | some state =>
    have hflag := pinned_of_found hfound hpinned
    rw [Option.map_some, Option.getD_some, hflag] at hunpinned
    cases hunpinned

theorem closed_recorded : Closed (RecordContract volumeID)
    fun h => h.files (stateFileKey volumeID) ≠ none := by
  intro event h hevent hrecorded
  cases event with
  | writeRecord key new =>
    obtain ⟨rfl, -⟩ := hevent
    simp [Host.apply, Host.effect]
  | removeRecord key => exact hevent.elim
  | _ => exact hrecorded

theorem closed_pinned : Closed (RecordContract volumeID) (Pinned volumeID) := by
  intro event h hevent hpinned
  cases event with
  | writeRecord key new =>
    obtain ⟨rfl, old, hold, hnew⟩ := hevent
    obtain ⟨state, hstate, hflag⟩ := hpinned
    obtain rfl := Option.mem_unique hold hstate
    exact ⟨_, recordOf_writeRecord h volumeID new, hnew.pin hflag⟩
  | removeRecord key => exact hevent.elim
  | _ => exact hpinned

theorem keeps_remountStaged {device : String}
    (hpreserve : preserve = false → (existing.map (·.preserveOriginal)).getD false = false) :
    KeepsRecord volumeID (Found volumeID existing) (remountStaged req preserve fs device) := by
  refine .ite (fun _ => keeps_mountExisting fun m _ => accepts_harmless rfl) fun hformat => ?_
  have hunpinned := hpreserve (Bool.not_eq_true _ ▸ hformat)
  exact keeps_formatAndMount (fun m _ => accepts_harmless rfl)
    (fun _ h hfound => ⟨not_pinned_of_found hfound hunpinned, found_apply rfl hfound⟩)
    fun h hfound => ⟨not_pinned_of_found hfound hunpinned, found_apply rfl hfound⟩

theorem keeps_repairDeadStagedMount
    (hpreserve : preserve = false → (existing.map (·.preserveOriginal)).getD false = false) :
    KeepsRecord volumeID (Found volumeID existing)
      (repairDeadStagedMount req mounted existing fs preserve) := by
  have hdrop : ∀ device, KeepsRecord volumeID (Found volumeID existing)
      (dropDeadStagedMountForRepair req device) := fun device =>
    keeps_hasOtherMounts.bind fun _ => Keeps.fail.when.bind fun _ =>
      (Keeps.ite (fun _ => keeps_mountSource) fun _ => Keeps.pure _).bind fun _ =>
        (keeps_unmount (accepts_harmless rfl)).bind fun _ => .pure _
  have hverify : KeepsRecord volumeID (Found volumeID existing)
      (verifyRemounted req fs) :=
    .ite (fun _ => .query) fun _ =>
      (keeps_checkMountHealth (accepts_harmless rfl)).bind fun _ => Keeps.fail.when
  refine (Keeps.ite (fun _ => hdrop _) fun _ => Keeps.pure _).bind fun device => ?_
  exact Keeps.ite (fun _ => Keeps.fail) fun _ =>
    (keeps_remountStaged hpreserve).bind fun _ => hverify

theorem keeps_repairFromRecord : KeepsRecord req.volumeID (fun _ => True)
      (repairFromRecord req mounted fs) := by
  refine Emits.bind (readStageState_spec (permitsRecord_recordContract req.volumeID)) (fun state => ?_)
    fun _ _ _ => trivial
  refine .ite (fun _ => .pure _ fun _ _ => trivial) fun _ => ?_
  refine (keeps_repairDeadStagedMount fun hpreserve => ?_).weaken (fun _ hfound => hfound)
    fun _ _ _ => trivial
  exact (Bool.or_eq_false_iff.mp hpreserve).2

theorem keeps_ensureHealthyStagedMount : KeepsRecord req.volumeID (fun _ => True)
      (ensureHealthyStagedMount node req) := by
  unfold ensureHealthyStagedMount
  split
  · exact .fail
  · refine Keeps.query.bind fun mounted => ?_
    refine (Keeps.ite (fun _ => keeps_checkMountHealth (accepts_harmless_anywhere rfl))
      fun _ => .pure _).bind fun health => ?_
    cases health with
    | alive => exact .pure ()
    | dead => exact keeps_repairFromRecord

theorem keeps_mountNodePublish : KeepsRecord volumeID (fun _ => True) (mountNodePublish req) := by
  unfold mountNodePublish
  split
  · exact .fail
  · exact keeps_mountAt fun m _ => accepts_harmless_anywhere rfl

theorem keeps_bindWithStagedRepair {probeHealth : Bool} : KeepsRecord req.volumeID (fun _ => True)
      (bindWithStagedRepair node req probeHealth) := by
  refine .ite (fun _ => keeps_mountNodePublish) fun _ => ?_
  refine keeps_ensureHealthyStagedMount.bind fun _ => keeps_mountNodePublish.attempt.bind ?_
  rintro (e | ⟨⟨⟩⟩)
  · refine keeps_ensureHealthyStagedMount.attempt.bind ?_
    rintro (again | ⟨⟨⟩⟩)
    · exact .fail
    · exact keeps_mountNodePublish
  · exact .pure ()

theorem keeps_publishBind : KeepsRecord req.volumeID (fun _ => True)
      (publishBind node req probePath) := by
  have hverify : ∀ path, KeepsRecord req.volumeID (fun _ => True)
      (verifyFreshPublishBind req path) := by
    intro path
    refine (keeps_checkMountHealth (accepts_harmless_anywhere rfl)).attempt.bind fun health => ?_
    have hcleanup : KeepsRecord req.volumeID (fun _ => True)
        (attempt (unmount (publishError req "unmount after the failed probe") req.targetPath)) :=
      (keeps_unmount (accepts_harmless_anywhere rfl)).attempt
    split
    · exact .pure ()
    · exact hcleanup.bind fun _ => .fail
  unfold publishBind
  split
  · exact .fail
  · refine keeps_bindWithStagedRepair.bind fun _ => ?_
    cases probePath with
    | none => exact .pure ()
    | some path => exact hverify path

theorem keeps_publishedByExistingBind : KeepsRecord volumeID (fun _ => True)
      (publishedByExistingBind req probePath) := by
  refine Keeps.query.bind fun mounted => .ite (fun _ => .pure _) fun _ => ?_
  cases probePath with
  | none => exact Keeps.query.bind fun _ => .pure _
  | some path =>
    refine (keeps_checkMountHealth (accepts_harmless_anywhere rfl)).bind fun health => ?_
    cases health with
    | alive => exact .pure _
    | dead => exact (keeps_unmount (accepts_harmless_anywhere rfl)).bind fun _ => .pure _

theorem pinPreserveFromPublish_spec :
    Returns (RecordContract req.volumeID) (fun _ => True) (pinPreserveFromPublish req)
      fun _ h => req.preserveKey = true → h.files (stateFileKey req.volumeID) ≠ none →
        Pinned req.volumeID h := by
  have hpermits := permitsRecord_recordContract req.volumeID
  refine .ite (fun hkey => .pure _ fun h _ hset => ?_) fun _ => ?_
  · rw [hkey] at hset
    cases hset
  refine (readStageState_spec hpermits).bind fun existing => ?_
  cases existing with
  | none => exact .pure _ fun h hfound _ hsome => absurd hfound hsome
  | some state =>
    refine .ite (fun hpinned => .pure _ fun h hfound _ _ => ?_) fun _ => ?_
    · obtain ⟨recorded, hrecorded, halike⟩ := hfound
      exact ⟨recorded, hrecorded, by rw [halike.symm]; exact hpinned⟩
    · refine writeStageState_spec (fun h new hfound halike => ?_) (fun _ _ _ => trivial) ?_
      · refine hpermits.rewrite h new (.of_found hfound ?_)
        rw [halike]
        exact ⟨rfl, rfl, rfl, rfl, rfl, rfl, .inl rfl, fun _ => rfl⟩
      · rintro (stop | ⟨⟨⟩⟩) h new hfound halike
        · trivial
        · refine fun _ _ => ⟨_, recordOf_writeRecord h req.volumeID new, ?_⟩
          rw [halike]
          rfl

theorem nodePublishVolume_spec : Returns (RecordContract req.volumeID)
      (fun h => h.files (stateFileKey req.volumeID) ≠ none) (nodePublishVolume node req)
      fun _ h => req.preserveKey = true → Pinned req.volumeID h := by
  have hpin : Returns (RecordContract req.volumeID)
      (fun h => h.files (stateFileKey req.volumeID) ≠ none) (pinPreserveFromPublish req)
      fun _ h => req.preserveKey = true → Pinned req.volumeID h := by
    refine (pinPreserveFromPublish_spec.keeping (fun _ _ hevent => hevent) closed_recorded).weaken
      (fun _ hrecorded => ⟨trivial, hrecorded⟩) ?_
    rintro (stop | ⟨⟨⟩⟩) h hQ
    · trivial
    · exact fun hkey => hQ.1 hkey hQ.2
  have hclosed : Closed (RecordContract req.volumeID)
      fun h => req.preserveKey = true → Pinned req.volumeID h :=
    fun event h hevent hpinned hkey => closed_pinned event h hevent (hpinned hkey)
  have hkeeps : ∀ p : Node Unit, KeepsRecord req.volumeID (fun _ => True) p →
      Proceeds (RecordContract req.volumeID)
        (fun h => req.preserveKey = true → Pinned req.volumeID h) p := by
    intro p hp
    refine (hp.keeping (fun _ _ hevent => hevent) hclosed).weaken (fun _ hJ => ⟨trivial, hJ⟩) ?_
    rintro (stop | ⟨⟨⟩⟩) h hQ
    · trivial
    · exact hQ.2
  unfold nodePublishVolume
  split
  · exact .fail
  · refine hpin.bind fun _ => ?_
    split
    · exact .fail
    · exact hkeeps _ (keeps_publishedByExistingBind.bind fun published =>
        .ite (fun _ => .pure ()) fun _ => keeps_publishBind)

theorem keeps_nodePublishVolume :
    KeepsRecord req.volumeID (fun _ => True) (nodePublishVolume node req) := by
  unfold nodePublishVolume
  split
  · exact .fail
  · refine Emits.bind pinPreserveFromPublish_spec (fun _ => ?_) fun _ _ _ => trivial
    refine Emits.weaken (P := fun _ => True) ?_ (fun _ _ => trivial) fun _ _ h => h
    split
    · exact Keeps.fail
    · exact keeps_publishedByExistingBind.bind fun published =>
        .ite (fun _ => .pure ()) fun _ => keeps_publishBind

end Publish

variable {req : ExpandRequest}

section Maintenance

variable {node : NodeServer} {volumeID : String} {existing : Option NodeStageState} {isDir : Bool}

theorem keeps_nodeUnpublishVolume {req : UnpublishRequest} :
    KeepsRecord req.volumeID (fun _ => True) (nodeUnpublishVolume req) :=
  .ite (fun _ => .fail) fun _ => .ite (fun _ => .fail) fun _ =>
    keeps_unmount (accepts_harmless_anywhere rfl)

theorem keeps_expandStaged (hunpinned : (existing.map (·.preserveOriginal)).getD false = false) :
    KeepsRecord volumeID (Found volumeID existing) (expandStaged req existing isDir) := by
  have hresize : KeepsRecord volumeID (Found volumeID existing)
      (resizeFS req existing) :=
    .ite (fun _ => .fail) fun _ => .perform fun h hfound =>
      ⟨not_pinned_of_found hfound hunpinned, found_apply rfl hfound⟩
  exact .ite (fun _ => .fail) fun _ => hresize.when.bind fun _ => .pure _

theorem keeps_growStagedDevice :
    KeepsRecord volumeID (Found volumeID existing) (growStagedDevice node req state) := by
  refine .ite (fun _ => .fail) fun _ => .ite (fun _ => ?_) fun _ =>
    .ite (fun _ => .ite (fun _ => .fail) fun _ => ?_) fun _ => .pure ()
  · unfold expandLocal
    split
    · exact .fail
    · exact .ite (fun _ => .fail) fun _ => .perform (accepts_harmless rfl)
  · split
    · exact .fail
    · exact .query

theorem keeps_nodeExpandVolume : KeepsRecord req.volumeID (fun _ => True)
      (nodeExpandVolume node req isDir) := by
  refine .ite (fun _ => .fail) fun _ => .ite (fun _ => .fail) fun _ => ?_
  refine Keeps.query.bind fun _ => ?_
  refine Emits.bind (readStageState_spec (permitsRecord_recordContract req.volumeID)) (fun state => ?_)
    fun _ _ _ => trivial
  refine .weaken (P := Found req.volumeID state) (Q := fun _ => Found req.volumeID state) ?_
    (fun _ hfound => hfound) fun _ _ _ => trivial
  cases state with
  | none => exact keeps_expandStaged rfl
  | some recorded =>
    by_cases hpinned : recorded.preserveOriginal = true
    · -- refused before anything is done
      have hrefused : growStagedDevice node req recorded = fail _ := if_pos hpinned
      change Keeps _ _ (growStagedDevice node req recorded >>= _)
      rw [hrefused, fail_bind]
      exact .fail
    · have hunpinned : ((some recorded).map (·.preserveOriginal)).getD false = false :=
        Bool.eq_false_iff.mpr hpinned
      exact keeps_growStagedDevice.bind fun _ => keeps_expandStaged hunpinned

end Maintenance

/-- What a trim may do: it rewrites the records of the volumes it is about. -/
def TrimContract (about : String → Prop) : Event → Host → Prop
  | .readRecord key, _ => ∃ volumeID, about volumeID ∧ key = stateFileKey volumeID
  | .writeRecord key new, h => ∃ volumeID, about volumeID ∧ key = stateFileKey volumeID ∧
      RewritesIn volumeID h new
  | .fitrim _ _, _ => True
  | _, _ => False

section Trim

variable {about : String → Prop} {t : Trimmer} {volumeID path : String} {started size : Nat}
  {offset : Nat}

section

variable (habout : about volumeID)

include habout

theorem permitsRecord_trimContract : PermitsRecord (TrimContract about) volumeID :=
  ⟨fun _ => ⟨volumeID, habout, rfl⟩, fun _ _ hrewrites => ⟨volumeID, habout, rfl, hrewrites⟩⟩

theorem keeps_trimChunk : Keeps (TrimContract about) (fun _ => True)
      (trimChunk t volumeID path offset size) := by
  refine Emits.bind (readStageState_spec (permitsRecord_trimContract habout)) (fun existing => ?_)
    fun _ _ _ => trivial
  refine Emits.weaken (P := fun _ => True) ?_ (fun _ _ => trivial) fun _ _ h => h
  cases existing with
  | none => exact Keeps.pure _
  | some state =>
    refine Keeps.ite (fun _ => Keeps.pure _) fun _ => Keeps.bind ?_ fun _ =>
      (Keeps.perform fun _ _ => ⟨trivial, trivial⟩).bind fun _ => Keeps.pure _
    refine Keeps.query.bind fun mounts => ?_
    split
    · exact .fail
    · exact .ite (fun _ => .fail) fun _ => .query

theorem keeps_recordAttempt :
    Keeps (TrimContract about) (fun _ => True) (recordAttempt volumeID started) := by
  have hpermits := permitsRecord_trimContract habout
  refine Emits.bind (readStageState_spec hpermits) (fun existing => ?_) fun _ _ _ => trivial
  cases existing with
  | none => exact .pure _ fun _ _ => trivial
  | some state =>
    refine writeStageState_spec (fun h new hfound halike => ?_) (fun _ _ _ => trivial)
      fun _ _ _ _ _ => trivial
    refine hpermits.rewrite h new (.of_found hfound ?_)
    rw [halike]
    exact ⟨rfl, rfl, rfl, rfl, rfl, rfl, .inl rfl, fun hpin => hpin⟩

theorem keeps_trimLocked : Keeps (TrimContract about) (fun _ => True)
      (trimLocked t volumeID path started offset size) := by
  refine (keeps_trimChunk habout).attempt.bind fun ended => ?_
  split
  · exact .pure _
  · exact .pure _
  · exact (keeps_recordAttempt habout).ignore.bind fun _ => .pure _

theorem keeps_trimVolume (chunks offset : Nat) :
    Keeps (TrimContract about) (fun _ => True)
      (trimVolume t volumeID path started size chunks offset) := by
  induction chunks generalizing offset with
  | zero => exact .pure ()
  | succ chunks ih => exact (keeps_trimLocked habout).bind fun _ => (ih _).when

end

def NamesAbout (about : String → Prop) (key : String) (h : Host) : Prop :=
  ∀ file raw, h.files key = some file → file.contents = some raw → raw.state.volumeID ≠ "" →
    about raw.state.volumeID

/-- The trim of a record file is about the volume the record names, or about
one whose record has that file name. -/
theorem considerRecord_spec {chunks : Nat}
    (habout : ∀ other, stateFileKey other = stateFileKey volumeID → about other)
    (hclosed : Closed (ReadContract volumeID)
      (NamesAbout about (stateFileKey volumeID))) :
    Emits (TrimContract about) (NamesAbout about (stateFileKey volumeID))
      (considerRecord t (stateFileKey volumeID) size chunks) fun _ _ => True := by
  have hreads : Emits (ReadContract volumeID) (fun _ => True)
      (readFile (stateFileKey volumeID))
      (Returning fun file h => h.files (stateFileKey volumeID) = file) :=
    readFile_spec fun _ => rfl
  refine .bind ((hreads.keeping (permitsRecord_trimContract (habout volumeID rfl)).reads
    hclosed).weaken (fun h hnames => ⟨trivial, hnames⟩) fun _ _ hQ => hQ) (fun file => ?_)
    fun _ _ _ => trivial
  refine Emits.bind Keeps.look (fun now => ?_) fun _ _ _ => trivial
  refine .of_fact (φ := ∀ raw, (file.bind (·.contents)) = some raw →
      raw.state.volumeID ≠ "" → about raw.state.volumeID) ?_ fun hnames => ?_
  · rintro h ⟨hfile, hnames⟩ raw hraw
    obtain ⟨found, rfl, hcontents⟩ := Option.bind_eq_some_iff.mp hraw
    exact hnames found raw hfile hcontents
  · refine .weaken (P := fun _ => True) (Q := fun _ _ => True) ?_ (fun _ _ => trivial)
      fun _ _ _ => trivial
    split
    · exact Keeps.pure ()
    rename_i rec modTime hrec
    obtain ⟨found, rfl, hfound⟩ := Option.bind_eq_some_iff.mp hrec
    obtain ⟨raw, hraw, hpair⟩ := Option.map_eq_some_iff.mp hfound
    obtain ⟨rfl, rfl⟩ := Prod.mk.inj hpair
    refine Keeps.ite (fun _ => Keeps.pure ()) fun _ => ?_
    split
    · exact Keeps.pure ()
    rename_i target path htarget
    refine keeps_trimVolume ?_ chunks 0
    unfold Trimmer.target at htarget
    split at htarget
    · rename_i hlabel
      obtain ⟨rfl, -⟩ := Prod.mk.inj (Option.some.inj htarget)
      exact hnames raw hraw hlabel.1
    · have hkey := List.find?_some htarget
      exact habout target (of_decide_eq_true hkey)

theorem keeps_restoreProtocolSession {node : NodeServer} (habout : about volumeID) :
    Keeps (TrimContract about) (fun _ => True)
      (restoreProtocolSession node (stateFileKey volumeID)) := by
  have hread : Keeps (TrimContract about) (fun _ => True)
      (readFile (stateFileKey volumeID)) :=
    (Keeps.perform fun _ _ => ⟨⟨volumeID, habout, rfl⟩, trivial⟩).bind fun _ => Keeps.look
  refine hread.bind fun file => ?_
  split
  · exact .fail
  refine .ite (fun _ => .pure ()) fun _ => .ite (fun _ => .fail) fun _ => ?_
  split
  · exact .fail
  · exact .query

end Trim

end PillarCsi.NodeContracts
