import PillarCsi.LifecycleInvariant

/-!
Every step of a lifecycle keeps the invariant.
-/

namespace PillarCsi.LifecycleSteps

open TransitionSystem DurableCell FencingAdmission FencedOperations VolumeRecord RecordMutations
open RecordHistory VolumeLifecycle LifecycleMarks LifecycleInvariant OwnershipOperations

variable {r0 pvs : VolumeState} {ready kept : Prop} {s : System}

variable {sent : SentRequest} {event : Event}

/-- Seen from the current record, every request in the network is one the
lifecycle may still make. -/
theorem requestFor_of_requestInv
    (hsent : RequestInv r0 kept s sent) (h : SharedInv r0 ready kept s) (hkept : kept)
    (hrecord : s.record = some pvs) : RequestFor pvs sent := by
  have hsource := h.source pvs (h.current pvs hrecord)
  have hdeletion : ∀ old, Marked s old →
      old.publicationGeneration = sent.token.generation → DeletionToken pvs sent.token := by
    intro old hold heq
    refine ⟨(h.latest old hold.1 pvs hrecord).2 hold.2, ?_⟩
    rw [((h.kept hkept pvs hrecord).deletion old hold).1, heq]
  have hfilesystem : ∀ call, FilesystemFor r0 call → FilesystemFor pvs call := by
    rintro call ⟨hadoption, hid⟩
    exact ⟨hsource.filesystemAdoption.trans hadoption, hid.trans hsource.agentVolumeID.symm⟩
  refine ⟨hsent.uid.trans hsource.uid.symm, ?_, ?_⟩
  · obtain ⟨old, hold, heq⟩ := hsent.issued
    rw [← heq]
    exact (h.latest old hold pvs hrecord).1
  have hkind := hsent.kind
  revert hkind
  cases sent.request with
  | fenced call =>
    rintro ⟨hblock, hdelete⟩
    refine ⟨hsource.filesystemAdoption.trans hblock, fun hcall => ?_⟩
    obtain ⟨-, -, old, hold, heq⟩ := hdelete hcall
    exact hdeletion old hold heq
  | importVolume src preserve => exact fun hblock => hsource.filesystemAdoption.trans hblock
  | filesystem revoking call => exact hfilesystem call
  | transferVolumeOwnership snap auth =>
    rintro ⟨hblock, hnew, hdeclared⟩
    obtain ⟨old, hold, hle⟩ := hdeclared hkept
    exact ⟨hsource.filesystemAdoption.trans hblock, hnew.trans hsource.uid.symm,
      hle.trans (h.latest old hold pvs hrecord).1⟩
  | releaseVolume filesystem =>
    rintro ⟨⟨old, hold, heq, hreleases⟩, hcall⟩
    refine ⟨hdeletion old hold heq, ?_, ?_⟩
    · unfold Releases at hreleases ⊢
      rw [((h.kept hkept pvs hrecord).deletion old hold).2, hsource.filesystemAdoption,
        ← (h.source old hold.1).filesystemAdoption]
      exact hreleases
    · cases filesystem with
      | none => exact hsource.filesystemAdoption.trans hcall
      | some call => exact hfilesystem call hcall

theorem grows_marks (s : System) (marks : MarkCell) : Grows s { s with marks := marks } :=
  .of_eq rfl rfl rfl rfl

theorem SharedInv.marks (h : SharedInv r0 ready kept s) {marks : MarkCell}
    (hpending : kept → ∀ pvs, s.record = some pvs →
      ∀ m ∈ marks.values, MarkInv (recoveryPending pvs = true) pvs m)
    (hexported : kept → ∀ pvs, s.record = some pvs → Exported s →
      ∀ m ∈ marks.values, MarkInv False pvs m) :
    SharedInv r0 ready kept { s with marks := marks } :=
  { h with
    requests := fun id sent hsent => (h.requests id sent hsent).mono (grows_marks s marks)
    kept := fun hkept pvs hrecord => { h.kept hkept pvs hrecord with
      marks := hpending hkept pvs hrecord
      exported := hexported hkept pvs hrecord }
    removed := fun hnone => (h.removed hnone).mono (grows_marks s marks) }

theorem answeredEvents_cases {request : AgentRequest}
    (h : event ∈ answeredEvents request) : event = .destroyed ∨ event = .adopted := by
  unfold answeredEvents at h
  split at h
  · exact .inl (List.mem_singleton.mp h)
  · exact .inr (List.mem_singleton.mp h)
  · exact .inr (List.mem_singleton.mp h)
  · split at h
    · exact .inr (List.mem_singleton.mp h)
    · cases h
  · cases h

/-- The agent's success was delivered to the caller. -/
def answered (s : System) (id : Nat) (sent : SentRequest) : System :=
  { s with acked := id :: s.acked, events := answeredEvents sent.request ++ s.events }

theorem grows_answered (s : System) (id : Nat) (sent : SentRequest) : Grows s (answered s id sent) where
  history := fun _ h => h
  sent := fun _ _ h => h
  acked := fun _ h => .tail _ h
  events := fun _ h => List.mem_append_right _ h

variable {id : Nat}

theorem mem_answered_events
    (h : event ∈ (answered s id sent).events) (hdestroyed : event ≠ .destroyed)
    (hadopted : event ≠ .adopted) : event ∈ s.events := by
  rcases List.mem_append.mp h with hnew | hold
  · rcases answeredEvents_cases hnew with heq | heq
    · exact absurd heq hdestroyed
    · exact absurd heq hadopted
  · exact hold

theorem SharedInv.answered (h : SharedInv r0 ready kept s) (hsent : s.sent[id]? = some sent)
    (hgranted : kept → sent.request = .fenced .grantExport → ∀ pvs, s.record = some pvs →
      ∀ m ∈ s.marks.values, MarkInv False pvs m) :
    SharedInv r0 ready kept (LifecycleSteps.answered s id sent) := by
  have hgrows := grows_answered s id sent
  refine { h with
    adoption := fun pvs hpvs hadopted => (h.adoption pvs hpvs hadopted).mono hgrows
    marked := fun reaping hevent =>
      h.marked reaping (mem_answered_events hevent (by simp) (by simp))
    deleting := fun pvs hmarked => (h.deleting pvs hmarked).imp_right fun ⟨reaping, hevent⟩ =>
      ⟨reaping, hgrows.events _ hevent⟩
    handedOut := fun hready hevent =>
      h.handedOut hready (mem_answered_events hevent (by simp) (by simp))
    reaped := fun hready hmarked hevent => h.reaped hready
      (mem_answered_events hmarked (by simp) (by simp)) (mem_answered_events hevent (by simp) (by simp))
    requests := fun other old hold => (h.requests other old hold).mono hgrows
    removed := fun hnone => (h.removed hnone).mono hgrows
    acked := ?_
    kept := ?_ }
  · intro other hother
    rcases List.mem_cons.mp hother with rfl | hold
    · exact ⟨sent, hsent, fun event hevent => List.mem_append_left _ hevent⟩
    · obtain ⟨old, hsentOld, hevents⟩ := h.acked other hold
      exact ⟨old, hsentOld, fun event hevent => hgrows.events event (hevents event hevent)⟩
  · intro hkept pvs hrecord
    have hk := h.kept hkept pvs hrecord
    refine { hk with exported := ?_ }
    rintro ⟨other, hother, token, hrequest⟩
    rcases List.mem_cons.mp hother with rfl | hold
    · -- The export that was just answered with success.
      refine hgranted hkept ?_ pvs hrecord
      change s.sent[other]? = _ at hrequest
      rw [hsent] at hrequest
      rw [Option.some.inj hrequest]
    · exact hk.exported ⟨other, hold, token, hrequest⟩

theorem Inv.deliver (h : Inv r0 ready kept s) {volume : AgentVolume}
    {env : AgentSurroundings} {t : System} (hstep : s.deliver volume id env = some t) :
    Inv r0 ready kept t := by
  unfold System.deliver at hstep
  split at hstep
  · cases hstep
  rename_i sent hsent
  have hrequest := h.shared.requests id sent hsent
  have hfor : kept → ∀ pvs, s.record = some pvs → RequestFor pvs sent := fun hkept _ hrecord =>
    requestFor_of_requestInv hrequest h.shared hkept hrecord
  have hmarks : SharedInv r0 ready kept
      { s with marks := (execute volume.volumeID sent env s.marks).1 } := by
    refine SharedInv.marks h.shared (fun hkept pvs hrecord => ?_)
      (fun hkept pvs hrecord hexported => ?_)
    · have hk := h.shared.kept hkept pvs hrecord
      exact execute_marks hk.named (hfor hkept pvs hrecord) hk.marks volume.volumeID env
    · have hk := h.shared.kept hkept pvs hrecord
      exact execute_marks hk.named (hfor hkept pvs hrecord) (hk.exported hexported)
        volume.volumeID env
  have hgrows := grows_marks s (execute volume.volumeID sent env s.marks).1
  dsimp only at hstep
  split at hstep
  · rename_i hok
    cases hstep
    refine ⟨SharedInv.answered hmarks hsent ?_,
      fun tid => (h.threads tid).mono (hgrows.trans (grows_answered _ id sent))⟩
    intro hkept hgrant pvs hrecord
    have hk := h.shared.kept hkept pvs hrecord
    exact execute_grant_owned hk.named (hfor hkept pvs hrecord) hk.marks volume.volumeID env
      hgrant hok
  · cases hstep
    exact ⟨hmarks, fun tid => (h.threads tid).mono hgrows⟩

theorem Inv.keepMarks (h : Inv r0 ready kept s) {marks : MarkCell}
    (hsub : marks.values.Sublist s.marks.values) : Inv r0 ready kept { s with marks := marks } := by
  refine ⟨SharedInv.marks h.shared (fun hkept pvs hrecord m hm => ?_)
    (fun hkept pvs hrecord hexported m hm => ?_),
    fun tid => (h.threads tid).mono (grows_marks s marks)⟩
  · exact (h.shared.kept hkept pvs hrecord).marks m (hsub.subset hm)
  · exact (h.shared.kept hkept pvs hrecord).exported hexported m (hsub.subset hm)

theorem Inv.handOut (h : Inv r0 ready kept s)
    (hrecord : s.record = some pvs) (hcompleted : completedVolume pvs = true) :
    Inv r0 ready kept (s.log .handedOut) := by
  have hgrows := grows_log s .handedOut
  obtain ⟨hreported, hopen⟩ := completedVolume_reported hcompleted
  have hmarked : ∀ reaping, .marked reaping ∈ (s.log .handedOut).events →
      .marked reaping ∈ s.events := by
    intro reaping hevent
    rcases List.mem_cons.mp hevent with heq | hold
    · cases heq
    · exact hold
  refine ⟨{ h.shared with
    adoption := fun old hold hadopted => (h.shared.adoption old hold hadopted).mono hgrows
    marked := fun reaping hevent => h.shared.marked reaping (hmarked reaping hevent)
    deleting := fun old hold => (h.shared.deleting old hold).imp_right fun ⟨reaping, hevent⟩ =>
      ⟨reaping, hgrows.events _ hevent⟩
    requests := fun id sent hsent => (h.shared.requests id sent hsent).mono hgrows
    kept := fun hkept other hother =>
      (h.shared.kept hkept other hother).congr (fun _ hm => hm) id fun _ hm => hm
    removed := fun hnone => (h.shared.removed hnone).mono hgrows
    handedOut := ?_
    reaped := ?_
    acked := ?_ }, fun tid => (h.threads tid).mono hgrows⟩
  · intro _ _ other hother
    change s.record = _ at hother
    rw [hrecord] at hother
    rw [← Option.some.inj hother]
    exact hreported
  · intro _ hevent
    obtain ⟨old, hold, hdeleting⟩ := h.shared.marked true (hmarked true hevent)
    have hpvs := (h.shared.latest old hold pvs hrecord).2 hdeleting
    rw [hopen] at hpvs
    cases hpvs
  · intro id hid
    obtain ⟨sent, hsent, hevents⟩ := h.shared.acked id hid
    exact ⟨sent, hsent, fun event hevent => hgrows.events event (hevents event hevent)⟩

theorem grows_remove (s : System) : Grows s { s with record := none } :=
  .of_eq rfl rfl rfl rfl

theorem SharedInv.remove (h : SharedInv r0 ready kept s) (htornDown : TornDown s) :
    SharedInv r0 ready kept { s with record := none } :=
  { h with
    current := fun _ hnone => nomatch hnone
    latest := fun _ _ _ hnone => nomatch hnone
    handedOut := fun _ _ _ hnone => nomatch hnone
    requests := fun id sent hsent => (h.requests id sent hsent).mono (grows_remove s)
    kept := fun _ _ hnone => nomatch hnone
    removed := fun _ => htornDown.mono (grows_remove s) }

section Requests

variable {next : VolumeState} (h : SharedInv r0 ready kept s) (hpvs : pvs ∈ s.history)
  (hnext : next ∈ s.history) {adoption : FilesystemAdoption}

include h hpvs

theorem filesystemFor_call
    (hadoption : pvs.spec.filesystemAdoption = some adoption) (capacity : Int)
    (importing : Bool) : FilesystemFor r0 (filesystemCall pvs adoption capacity importing) := by
  have hsource := h.source pvs hpvs
  exact ⟨hsource.filesystemAdoption.symm.trans hadoption, hsource.agentVolumeID⟩

theorem block_of_history (hblock : pvs.spec.filesystemAdoption = none) :
    r0.spec.filesystemAdoption = none :=
  (h.source pvs hpvs).filesystemAdoption.symm.trans hblock

include hnext

theorem requestInv_filesystem
    (hadoption : pvs.spec.filesystemAdoption = some adoption) (revoking : Bool) (capacity : Int)
    (importing : Bool) : RequestInv r0 kept s
      ⟨.filesystem revoking (filesystemCall pvs adoption capacity importing), tokenOf next⟩ :=
  ⟨(h.source next hnext).uid, ⟨next, hnext, rfl⟩,
    filesystemFor_call h hpvs hadoption capacity importing⟩

theorem requestInv_fenced (hblock : pvs.spec.filesystemAdoption = none)
    {call : AgentRuns.FencedCall} (hcall : call ≠ .deleteVolume) :
    RequestInv r0 kept s ⟨.fenced call, tokenOf next⟩ :=
  ⟨(h.source next hnext).uid, ⟨next, hnext, rfl⟩, block_of_history h hpvs hblock,
    fun hdelete => absurd hdelete hcall⟩

theorem requestInv_import (hblock : pvs.spec.filesystemAdoption = none)
    (src : Option MarkLVMSource) (preserve : Bool) :
    RequestInv r0 kept s ⟨.importVolume src preserve, tokenOf next⟩ :=
  ⟨(h.source next hnext).uid, ⟨next, hnext, rfl⟩, block_of_history h hpvs hblock⟩

variable (volume : AgentVolume)

theorem requestInv_export : RequestInv r0 kept s ⟨exportRequest volume pvs, tokenOf next⟩ := by
  unfold exportRequest
  split
  · rename_i adoption hadoption
    exact requestInv_filesystem h hpvs hnext hadoption _ _ _
  · rename_i hblock
    exact requestInv_fenced h hpvs hnext hblock (by simp)

theorem requestInv_unexport : RequestInv r0 kept s ⟨unexportRequest pvs, tokenOf next⟩ := by
  unfold unexportRequest
  split
  · rename_i adoption hadoption
    exact requestInv_filesystem h hpvs hnext hadoption _ _ _
  · rename_i hblock
    exact requestInv_fenced h hpvs hnext hblock (by simp)

theorem requestInv_peer (call : PeerCall) :
    RequestInv r0 kept s ⟨peerRequest volume pvs call, tokenOf next⟩ := by
  cases call with
  | grant => exact requestInv_export h hpvs hnext volume
  | revoke => exact requestInv_unexport h hpvs hnext
  | expand =>
    simp only [peerRequest]
    split
    · exact requestInv_export h hpvs hnext volume
    · rename_i hblock
      exact requestInv_fenced h hpvs hnext (by simpa using hblock) (by simp)

theorem requestInv_backend : RequestInv r0 kept s ⟨backendRequest volume pvs, tokenOf next⟩ := by
  unfold backendRequest
  split
  · rename_i adoption hadoption
    exact requestInv_filesystem h hpvs hnext hadoption _ _ _
  rename_i hblock
  split
  · exact requestInv_import h hpvs hnext hblock _ _
  split
  · exact requestInv_import h hpvs hnext hblock _ _
  · exact requestInv_fenced h hpvs hnext hblock (by simp)

omit hnext

theorem backendRequest_adopts (himport : isImport r0.spec = true) :
    .adopted ∈ answeredEvents (backendRequest volume pvs) := by
  rw [← (h.source pvs hpvs).isImport] at himport
  unfold backendRequest
  split
  · simp [answeredEvents, filesystemCall]
  rename_i hblock
  split
  · simp [answeredEvents]
  rename_i hzvol
  split
  · simp [answeredEvents]
  · rename_i hlvm
    simp [isImport, hblock, hlvm, not_not.mp hzvol] at himport

theorem requestInv_release (hdeleting : pvs.deleting = true) (hreleases : Releases pvs) :
    RequestInv r0 kept s ⟨releaseRequest pvs, tokenOf pvs⟩ := by
  refine ⟨(h.source pvs hpvs).uid, ⟨pvs, hpvs, rfl⟩,
    ⟨pvs, ⟨hpvs, hdeleting⟩, rfl, hreleases⟩, ?_⟩
  cases hadoption : pvs.spec.filesystemAdoption with
  | none => exact block_of_history h hpvs hadoption
  | some adoption => exact filesystemFor_call h hpvs hadoption 0 false

/-- A destroy is only sent for a volume that was adopted or created, is not
preserved and is no adopted filesystem. -/
theorem requestInv_delete (hdeleting : pvs.deleting = true)
    (hteardown : releaseOnlyTeardown pvs = false) (hblock : pvs.spec.filesystemAdoption = none) :
    RequestInv r0 kept s ⟨.fenced .deleteVolume, tokenOf pvs⟩ := by
  simp only [releaseOnlyTeardown, Bool.or_eq_false_iff] at hteardown
  refine ⟨(h.source pvs hpvs).uid, ⟨pvs, hpvs, rfl⟩, block_of_history h hpvs hblock,
    fun _ => ⟨?_, h.adoption pvs hpvs hteardown.1, pvs, ⟨hpvs, hdeleting⟩, rfl⟩⟩
  rw [← (h.source pvs hpvs).volumePreservesOriginal]
  exact hteardown.2

end Requests

def createsPartial : Thread → Bool
  | .recording _ _ _ | .repersisting _ _ => true
  | _ => false

def KeepsReported (s : System) : Action → Prop
  | .update tid _ => createsPartial (s.threads tid) = true →
      (s.record.all fun pvs => !reportedPhase pvs.phase) = true
  | _ => True

/-- A record under deletion keeps its generation and its way of teardown. -/
def KeepsDeletion (s : System) : Action → Prop
  | .update tid _ => createsPartial (s.threads tid) = true →
      (s.record.all fun pvs => !pvs.deleting || !importNeverAdopted pvs) = true
  | .write _ m => (s.record.all fun pvs => !pvs.deleting || keepsDeletion pvs m) = true
  | _ => True

instance (s : System) (a : Action) : Decidable (KeepsReported s a) := by
  cases a <;> dsimp only [KeepsReported] <;> infer_instance

instance (s : System) (a : Action) : Decidable (KeepsDeletion s a) := by
  cases a <;> dsimp only [KeepsDeletion] <;> infer_instance

section Update

variable {driver : CSIDriver} {uid : String} {m : Mutation}
  {next : VolumeState}

theorem Inv.store (h : Inv r0 ready kept s)
    (hupdate : s.updateRecord driver uid m = .committed next)
    (hallowed : ∀ pvs, s.record = some pvs → Allowed r0 ready kept s pvs m) :
    Inv r0 ready kept (committed s m next) := by
  obtain ⟨pvs, hrecord, hcommit⟩ := updateRecord_committed hupdate
  exact h.commit hrecord hcommit (hallowed pvs hrecord)

theorem Inv.storeQuiet (h : Inv r0 ready kept s)
    (hupdate : s.updateRecord driver uid m = .committed next)
    (hm : recordsAdoption m = false) (hkeeps : ∀ pvs, keepsDeletion pvs m = true) :
    Inv r0 ready kept (committed s m next) :=
  Inv.store h hupdate fun pvs _ => allowed_of_not_adoption hm fun _ _ => hkeeps pvs

theorem mem_committed_history (hpvs : pvs ∈ s.history) :
    pvs ∈ (committed s m next).history := .tail _ hpvs

theorem unchanged_record
    (hupdate : s.updateRecord driver uid m = .unchanged pvs) :
    s.record = some pvs ∧ m.mutate pvs = .error .noStatusChange :=
  updateVolumeState_unchanged hupdate

variable (h : SharedInv r0 ready kept s)

include h

theorem declared_of_committed
    (hupdate : s.updateRecord driver uid .adoptRecoveryPhase = .committed next) :
    Declared r0 (committed s .adoptRecoveryPhase next).history := by
  obtain ⟨pvs, hrecord, hcommit⟩ := updateRecord_committed hupdate
  cases hcommit.mutated with
  | access hbump => cases hbump
  | adoptRecoveryPhase hdeclared =>
  intro intent hintent
  refine ⟨_, .head _, ?_⟩
  have hsource := h.source pvs (h.current pvs hrecord)
  exact (hsource.newGeneration hintent hdeclared).ge

theorem declared_of_unchanged (hkept : kept)
    (hupdate : s.updateRecord driver uid .adoptRecoveryPhase = .unchanged pvs) :
    Declared r0 s.history := by
  obtain ⟨hrecord, hmutate⟩ := unchanged_record hupdate
  have hpvs := h.current pvs hrecord
  rcases adoptRecoveryPhase_unchanged hmutate with hphase | ⟨declared, hdeclared, heq⟩
  · exact h.declared hkept pvs hpvs hphase
  · intro intent hintent
    refine ⟨pvs, hpvs, ?_⟩
    rw [heq, (h.source pvs hpvs).newGeneration hintent hdeclared]

theorem declared_of_not_recovery
    (hpvs : pvs ∈ s.history) (hnone : pvs.spec.recovery.isSome = false) :
    Declared r0 s.history := by
  intro intent hintent
  rw [(h.source pvs hpvs).recovery_isSome, hintent] at hnone
  cases hnone

end Update

section Create

variable {volume : AgentVolume} {tid : Nat} {driver : CSIDriver} {t : System}
  {intent : VolumeRecoveryIntent}

theorem threadInv_exportStage (hpvs : pvs ∈ s.history)
    (hadopted : Adopted r0 s.events) : ThreadInv r0 kept s (exportStage pvs) := by
  unfold exportStage
  split
  · exact ⟨hpvs, hadopted, fun hnone => nomatch hnone⟩
  · exact ⟨hpvs, hadopted⟩

section

variable (h : SharedInv r0 ready kept s) (hpvs : pvs ∈ s.history)

include h hpvs

theorem threadInv_afterEnsure (resolved : Option ResolvedVolumeConfig) :
    ThreadInv r0 kept s (afterEnsure pvs resolved) := by
  unfold afterEnsure
  split
  · trivial
  split
  · exact hpvs
  · rename_i hnone
    exact ⟨hpvs, fun _ => declared_of_not_recovery h hpvs (by simpa using hnone)⟩

omit h hpvs in
theorem Inv.ensure (h : Inv r0 ready kept s) (creating : Bool)
    (resolved : Option ResolvedVolumeConfig) :
    Inv r0 ready kept (s.ensureVolumeState tid driver creating resolved) := by
  unfold System.ensureVolumeState
  split
  · exact h.idle tid
  rename_i pvs hrecord
  split
  · split
    · rename_i next hupdate
      have hnext := Inv.storeQuiet h hupdate rfl fun _ => rfl
      exact hnext.goto (threadInv_afterEnsure hnext.shared (.head _) resolved)
    · rename_i current hupdate
      have hcurrent := h.shared.current current (unchanged_record hupdate).1
      exact h.goto (threadInv_afterEnsure h.shared hcurrent resolved)
    · exact h.idle tid
  · exact h.goto (threadInv_afterEnsure h.shared (h.shared.current pvs hrecord) resolved)

theorem adopted_of_backendCreated (hcreated : backendCreated pvs = true) : Adopted r0 s.events := by
  refine h.adoption pvs hpvs ?_
  simp only [backendCreated, Bool.and_eq_true, Bool.or_eq_true, bne_iff_ne] at hcreated
  rcases hcreated.2 with hpath | ⟨-, hacquired⟩
  · simp [importNeverAdopted, hpath]
  · simp [importNeverAdopted, hacquired]

theorem adopted_of_recovery (hintent : pvs.spec.recovery = some intent) : Adopted r0 s.events := by
  intro himport
  have hrecovery : r0.spec.recovery.isSome = true := by
    rw [← (h.source pvs hpvs).recovery_isSome, hintent]
    rfl
  rw [(recovery_not_import h.valid hrecovery).1] at himport
  cases himport

theorem requestInv_transfer (hdeclared : kept → Declared r0 s.history)
    (hintent : pvs.spec.recovery = some intent) {snap : RecoverySnapshot}
    {auth : RecoveryAuthorization} (huid : auth.newVolumeUID = pvs.uid)
    (hgeneration : auth.newGeneration = intent.newGeneration) :
    RequestInv r0 kept s ⟨.transferVolumeOwnership snap auth, tokenOf pvs⟩ := by
  have hsource := h.source pvs hpvs
  obtain ⟨declared, hdeclares⟩ : ∃ declared, r0.spec.recovery = some declared := by
    apply Option.isSome_iff_exists.mp
    rw [← hsource.recovery_isSome, hintent]
    rfl
  have hrecovery : r0.spec.recovery.isSome = true := by
    rw [hdeclares]
    rfl
  refine ⟨hsource.uid, ⟨pvs, hpvs, rfl⟩, (recovery_not_import h.valid hrecovery).2,
    huid.trans hsource.uid, fun hkept => ?_⟩
  obtain ⟨old, hold, hle⟩ := hdeclared hkept declared hdeclares
  refine ⟨old, hold, ?_⟩
  rw [hgeneration, hsource.newGeneration hdeclares hintent]
  exact hle

end

theorem Inv.prepare (h : Inv r0 ready kept s)
    (hthread : s.threads tid = .preparing pvs) {exportSpec : Option VolumeExportSpec}
    {plan : RecoveryPlan} (hstep : s.prepareBackend tid pvs exportSpec plan = some t) :
    Inv r0 ready kept t := by
  have hpreparing := h.threads tid
  rw [hthread] at hpreparing
  obtain ⟨hpvs, hdeclared⟩ := hpreparing
  unfold System.prepareBackend at hstep
  split at hstep
  · rename_i hintent
    cases hstep
    exact h.goto ⟨hpvs, hdeclared, adopted_of_recovery h.shared hpvs hintent⟩
  · rename_i intent snap auth hintent
    obtain ⟨hauth, rfl⟩ := of_guard hstep
    refine h.call (requestInv_transfer h.shared hpvs hdeclared hintent hauth.1 hauth.2) ?_
    exact ⟨hpvs, hdeclared, _, getElem?_send s _ _, fun _ => (.head _)⟩
  · split at hstep
    · rename_i hcreated
      have hadopted := adopted_of_backendCreated h.shared hpvs hcreated
      split at hstep
      · cases hstep
        exact h.goto ⟨hpvs, hdeclared, hadopted⟩
      · cases hstep
        exact h.goto (threadInv_exportStage hpvs hadopted)
    · cases hstep
      exact h.goto ⟨hpvs, hdeclared⟩

end Create

section Teardown

variable {tid : Nat} {driver : CSIDriver}

variable (h : Inv r0 ready kept s)

include h

theorem Inv.release (hmarked : Marked s pvs) (hreleases : Releases pvs) :
    Inv r0 ready kept (s.call tid (releaseRequest pvs) (tokenOf pvs) (.releasing pvs)) :=
  h.call (requestInv_release h.shared hmarked.1 hmarked.2 hreleases)
    ⟨hmarked, hreleases, _, _, getElem?_send s _ _⟩

theorem Inv.teardown (hmarked : Marked s pvs) :
    Inv r0 ready kept (s.teardownMarkedVolume tid pvs) := by
  unfold System.teardownMarkedVolume
  split
  · rename_i hreleaseOnly
    exact Inv.release h hmarked (.inl hreleaseOnly)
  · rename_i hdestroys
    refine h.call (requestInv_unexport h.shared hmarked.1 hmarked.1) ⟨hmarked, ?_⟩
    simpa using hdestroys

theorem Inv.afterUnexport (hmarked : Marked s pvs) (hteardown : releaseOnlyTeardown pvs = false) :
    Inv r0 ready kept (s.afterUnexport tid pvs) := by
  unfold System.afterUnexport
  split
  · rename_i hfilesystem
    exact Inv.release h hmarked (.inr hfilesystem)
  · rename_i hblock
    refine h.call
      (requestInv_delete h.shared hmarked.1 hmarked.2 hteardown (by simpa using hblock)) ?_
    exact ⟨hmarked, _, getElem?_send s _ _⟩

omit h in
theorem marked_of_unchanged (h : SharedInv r0 ready kept s) {uid volumeID : String}
    {reaping : Option String}
    (hupdate : s.updateRecord driver uid (.markVolumeDeleting volumeID reaping) =
      .unchanged pvs) : Marked s pvs := by
  obtain ⟨hrecord, hmutate⟩ := unchanged_record hupdate
  exact ⟨h.current pvs hrecord, markVolumeDeletingMutation_unchanged hmutate⟩

theorem Inv.markDeleting (volumeID : String) (reaping : Option String) :
    Inv r0 ready kept (s.markVolumeDeleting tid driver volumeID reaping) := by
  unfold System.markVolumeDeleting
  split
  · exact h.idle tid
  split
  · exact h.idle tid
  split
  · rename_i next hupdate
    have hnext := Inv.storeQuiet h hupdate rfl fun _ => rfl
    obtain ⟨pvs, hrecord, hcommit⟩ := updateRecord_committed hupdate
    refine Inv.teardown hnext ⟨.head _, ?_⟩
    exact (hcommit.marks_deletion rfl).2.2.2.2
  · rename_i pvs hupdate
    exact Inv.teardown h (marked_of_unchanged h.shared hupdate)
  · exact h.idle tid

theorem Inv.finishDelete (htornDown : TornDown s) (pvs : VolumeState) :
    Inv r0 ready kept (s.finishDelete tid driver pvs) := by
  unfold System.finishDelete
  split
  · exact h.idle tid
  split
  · exact h.idle tid
  · have hidle := h.idle tid
    exact ⟨SharedInv.remove hidle.shared (htornDown.mono (grows_goto s tid .idle)), fun other => (hidle.threads other).mono (grows_remove _)⟩

end Teardown

section Step

variable {volume : AgentVolume} {tid : Nat} {driver : CSIDriver} {t : System}


variable (h : Inv r0 ready kept s)

include h

theorem Inv.fillIntent (hpvs : pvs ∈ s.history) (resolved : Option ResolvedVolumeConfig) :
    Inv r0 ready kept (s.fillIntent tid driver pvs resolved) := by
  unfold System.fillIntent
  split
  · rename_i hupdate
    exact (Inv.storeQuiet h hupdate rfl fun _ => rfl).goto (mem_committed_history hpvs)
  · exact h.goto hpvs
  · exact h.idle tid

theorem Inv.adoptPhase (hpvs : pvs ∈ s.history) :
    Inv r0 ready kept (s.adoptPhase tid driver pvs) := by
  unfold System.adoptPhase
  split
  · rename_i hupdate
    exact (Inv.storeQuiet h hupdate rfl fun _ => rfl).goto
      ⟨mem_committed_history hpvs, fun _ => declared_of_committed h.shared hupdate⟩
  · rename_i hupdate
    exact h.goto ⟨hpvs, fun hk => declared_of_unchanged h.shared hk hupdate⟩
  · exact h.idle tid

theorem Inv.claimBackend (hpvs : pvs ∈ s.history)
    (hdeclared : kept → Declared r0 s.history) (exportSpec : Option VolumeExportSpec) :
    Inv r0 ready kept (s.claimBackend volume tid driver pvs exportSpec) := by
  unfold System.claimBackend
  split
  · rename_i next hupdate
    have hnext := Inv.storeQuiet h hupdate rfl fun _ => rfl
    have hgrows := grows_committed s (.claimOperation pvs.spec.volumeID) next
    have hread := hgrows.history pvs hpvs
    have hreached := fun hk => (hdeclared hk).mono hgrows
    refine hnext.call (requestInv_backend hnext.shared hread (.head _) volume) ?_
    exact ⟨hread, hreached, _, getElem?_send _ _ _,
      backendRequest_adopts hnext.shared hread volume⟩
  · exact h.idle tid

theorem Inv.recordPartial (hpvs : pvs ∈ s.history)
    (hdeclared : kept → Declared r0 s.history) (hadopted : Adopted r0 s.events)
    (hready : ready → (s.record.all fun pvs => !reportedPhase pvs.phase) = true)
    (hkept : kept → (s.record.all fun pvs => !pvs.deleting || !importNeverAdopted pvs) = true)
    (devicePath : String) (exportSpec : Option VolumeExportSpec) :
    Inv r0 ready kept (s.recordPartial tid driver pvs devicePath exportSpec) := by
  unfold System.recordPartial
  split
  · rename_i next hupdate
    have hgrows := grows_committed s (.persistCreatePartial devicePath exportSpec) next
    refine (Inv.store h hupdate fun current hrecord => ?_).goto
      (threadInv_exportStage (hgrows.history pvs hpvs) (hadopted.mono hgrows))
    rw [hrecord] at hready hkept
    exact
      { adopted := fun _ => hadopted
        declared := fun hk _ _ _ => hdeclared hk
        exported := fun _ hm => nomatch hm
        ready := fun hr _ _ _ => by simpa using hready hr
        kept := fun hk hdeleting => by simpa [keepsDeletion, hdeleting] using hkept hk }
  · exact h.idle tid

theorem Inv.claimExport (hpvs : pvs ∈ s.history)
    (hadopted : Adopted r0 s.events) : Inv r0 ready kept (s.claimExport volume tid driver pvs) := by
  unfold System.claimExport
  split
  · rename_i next hupdate
    have hnext := Inv.storeQuiet h hupdate rfl fun _ => rfl
    have hgrows := grows_committed s (.claimOperation pvs.spec.volumeID) next
    have hread := hgrows.history pvs hpvs
    have hstill := hadopted.mono hgrows
    refine hnext.call (requestInv_export hnext.shared hread (.head _) volume)
      ⟨hread, hstill, fun hblock => ⟨tokenOf next, ?_⟩⟩
    rw [getElem?_send, exportRequest, (h.shared.source pvs hpvs).filesystemAdoption, hblock]
  · exact h.idle tid

theorem Inv.recordReady (hadopted : Adopted r0 s.events) {info : Option VolumeExportInfo}
    (hexported : info.isSome = true → r0.spec.filesystemAdoption = none → Exported s) :
    Inv r0 ready kept (s.recordReady tid driver pvs info) := by
  unfold System.recordReady
  split
  · rename_i next hupdate
    refine (Inv.store h hupdate fun current _ => ?_).idle tid
    exact
      { adopted := fun _ => hadopted
        declared := fun _ _ _ hm => nomatch hm
        exported := by
          rintro some hm hblock
          exact hexported (by rw [Mutation.persistVolumeReady.inj hm]; rfl) hblock
        ready := fun _ _ _ hm => nomatch hm
        kept := fun _ _ => rfl }
  · exact h.idle tid

theorem Inv.update (hready : ready → KeepsReported s (.update tid driver))
    (hkept : kept → KeepsDeletion s (.update tid driver))
    (hstep : s.updateThread volume tid driver = some t) : Inv r0 ready kept t := by
  have hthread := h.threads tid
  unfold System.updateThread at hstep
  unfold KeepsReported at hready
  unfold KeepsDeletion at hkept
  cases heq : s.threads tid <;> simp only [heq, createsPartial] at hstep hthread hready hkept
  case adopting pvs resolved =>
    cases hstep
    exact Inv.fillIntent h hthread resolved
  case pending pvs =>
    cases hstep
    exact Inv.adoptPhase h hthread
  case repersisting pvs exportSpec =>
    cases hstep
    exact Inv.recordPartial h hthread.1 hthread.2.1 hthread.2.2 (fun hr => hready hr trivial)
      (fun hk => hkept hk trivial) _ exportSpec
  case claiming pvs exportSpec =>
    cases hstep
    exact Inv.claimBackend h hthread.1 hthread.2 exportSpec
  case recording pvs devicePath exportSpec =>
    cases hstep
    exact Inv.recordPartial h hthread.1 hthread.2.1 hthread.2.2 (fun hr => hready hr trivial)
      (fun hk => hkept hk trivial) devicePath exportSpec
  case exportClaiming pvs =>
    cases hstep
    exact Inv.claimExport h hthread.1 hthread.2
  case finishing pvs info =>
    cases hstep
    exact Inv.recordReady h hthread.2.1 hthread.2.2
  case marking volumeID reaping =>
    cases hstep
    exact Inv.markDeleting h volumeID reaping
  case removing pvs =>
    cases hstep
    refine Inv.finishDelete h ?_ pvs
    obtain ⟨hmarked, hdestroyed | ⟨hreleases, hreleased⟩⟩ := hthread
    · exact .inl hdestroyed
    · exact .inr ⟨hreleased, pvs, hmarked, hreleases⟩
  all_goals cases hstep

omit h in
theorem events_of_acked (h : SharedInv r0 ready kept s)
    (hid : id ∈ s.acked) (hsent : s.sent[id]? = some sent) :
    ∀ event ∈ answeredEvents sent.request, event ∈ s.events := by
  obtain ⟨other, hother, hevents⟩ := h.acked id hid
  rw [hsent] at hother
  rw [Option.some.inj hother]
  exact hevents

theorem Inv.answer {reply : Reply} (hwaits : (s.threads tid).waitsFor = some id)
    (haccepted : id ∈ s.acked ∨ (s.threads tid).accepts reply = true) :
    Inv r0 ready kept (s.resume tid reply (s.threads tid)) := by
  have hthread := h.threads tid
  cases heq : s.threads tid <;>
    simp only [heq, Thread.waitsFor, Thread.accepts, Option.some.injEq, reduceCtorEq] at *
  case provisioning pvs exportSpec other =>
    obtain rfl := hwaits
    have hacked := haccepted.resolve_right (by simp)
    obtain ⟨hpvs, hdeclared, sent, hsent, hadopts⟩ := hthread
    exact h.goto ⟨hpvs, hdeclared, fun himport =>
      .inl (events_of_acked h.shared hacked hsent _ (hadopts himport))⟩
  case exporting pvs other =>
    obtain rfl := hwaits
    have hacked := haccepted.resolve_right (by simp)
    obtain ⟨hpvs, hadopted, hsent⟩ := hthread
    refine h.goto ⟨hpvs, hadopted, fun _ hblock => ?_⟩
    obtain ⟨token, hgrant⟩ := hsent hblock
    exact ⟨other, hacked, token, hgrant⟩
  case unexporting pvs other => exact Inv.afterUnexport h hthread.1 hthread.2
  case destroying pvs other =>
    obtain rfl := hwaits
    have hacked := haccepted.resolve_right (by simp)
    obtain ⟨hmarked, token, hsent⟩ := hthread
    exact h.goto ⟨hmarked, .inl (events_of_acked h.shared hacked hsent _ (.head _))⟩
  case releasing pvs other =>
    obtain rfl := hwaits
    have hacked := haccepted.resolve_right (by simp)
    obtain ⟨hmarked, hreleases, filesystem, token, hsent⟩ := hthread
    exact h.goto ⟨hmarked, .inr ⟨hreleases, other, hacked, filesystem, token, hsent⟩⟩

theorem Inv.write {m : Mutation} {uid : String}
    {next : VolumeState} (hupdate : s.updateRecord driver uid m = .committed next)
    (hm : publicationMutation m = true)
    (hkept : kept → (s.record.all fun pvs => !pvs.deleting || keepsDeletion pvs m) = true) :
    Inv r0 ready kept (s.store next) := by
  have hnext : Inv r0 ready kept (committed s m next) := by
    refine Inv.store h hupdate fun pvs hrecord => allowed_of_not_adoption ?_ fun hk hdeleting => ?_
    · cases m <;> first | rfl | cases hm
    · have hkeeps := hkept hk
      rw [hrecord] at hkeeps
      simpa [hdeleting] using hkeeps
  have hquiet : commitEvents m = [] := by cases m <;> first | rfl | cases hm
  have hstore : committed s m next = s.store next := by
    rw [committed, hquiet]
    rfl
  rw [← hstore]
  exact hnext

theorem Inv.step {a : Action}
    (hstep : VolumeLifecycle.step volume s a = some t) (hready : ready → KeepsReported s a)
    (hkept : kept → KeepsDeletion s a) : Inv r0 ready kept t := by
  cases a <;> simp only [VolumeLifecycle.step] at hstep
  case startCreate tid =>
    split at hstep
    · rename_i pvs _ hrecord
      split at hstep
      · rename_i hcompleted
        cases hstep
        exact Inv.handOut h hrecord hcompleted
      · cases hstep
        exact h.goto trivial
    · cases hstep
  case ensure tid driver creating resolved =>
    split at hstep
    · cases hstep
      exact Inv.ensure h creating resolved
    · cases hstep
  case prepare tid exportSpec plan =>
    split at hstep
    · rename_i pvs hthread
      exact Inv.prepare h hthread hstep
    · cases hstep
  case startDelete tid volumeID =>
    split at hstep
    · cases hstep
      exact h.goto trivial
    · cases hstep
  case startReap tid =>
    split at hstep
    · obtain ⟨-, rfl⟩ := of_guard hstep
      exact h.goto trivial
    · cases hstep
  case update tid driver => exact Inv.update h hready hkept hstep
  case answer tid reply =>
    split at hstep
    · rename_i id hwaits
      obtain ⟨haccepted, rfl⟩ := of_guard hstep
      exact Inv.answer h hwaits haccepted
    · cases hstep
  case abort tid =>
    cases hstep
    exact h.idle tid
  case write driver m =>
    split at hstep
    · split at hstep
      · rename_i hm
        split at hstep
        · rename_i next hupdate
          cases hstep
          exact Inv.write h hupdate hm hkept
        · cases hstep
          exact h
      · cases hstep
    · cases hstep
  case request call =>
    split at hstep
    · rename_i pvs hrecord
      cases hstep
      have hpvs := h.shared.current pvs hrecord
      exact ⟨h.shared.send (requestInv_peer h.shared hpvs hpvs volume call),
        fun tid => (h.threads tid).mono (grows_send s _ _)⟩
    · cases hstep
  case deliver id env => exact Inv.deliver h hstep
  case flush k =>
    cases hstep
    exact Inv.keepMarks h (Cell.values_flush_sublist s.marks k)
  case crash k =>
    cases hstep
    exact Inv.keepMarks h (Cell.values_crash_sublist s.marks k)

end Step

section Run

variable {name uid : String} {recorded : Bool} {spec : VolumeStateSpec} {marks : MarkCell}

/-- The marks a new lifecycle finds: those of ended lifecycles, or of the one
it recovers. -/
def FreshMarks (uid : String) (spec : VolumeStateSpec) (marks : MarkCell) : Prop :=
  ∀ m ∈ marks.values, m.volumeUID ≠ "" ∧ m.volumeUID ≠ uid ∧ uid ∉ m.endedUIDs ∧
    (m.ended = true ∨ spec.recovery.isSome = true)

theorem inv_init (hvalid : validSpec spec = true)
    (hkept : kept → uid ≠ "" ∧ FreshMarks uid spec marks) :
    Inv (freshRecord name uid recorded spec) ready kept
      (System.init (freshRecord name uid recorded spec) marks) := by
  have honly : ∀ pvs ∈ (System.init (freshRecord name uid recorded spec) marks).history,
      pvs = freshRecord name uid recorded spec := fun pvs hpvs => List.mem_singleton.mp hpvs
  refine ⟨?_, fun tid => trivial⟩
  constructor
  case valid => exact hvalid
  case current =>
    intro pvs hrecord
    rw [← Option.some.inj hrecord]
    exact List.mem_singleton_self _
  case source =>
    intro pvs hpvs
    rw [honly pvs hpvs]
    exact .refl _
  case adoption =>
    intro pvs hpvs hadopted _
    rw [honly pvs hpvs] at hadopted
    exact .inr hadopted
  case declared =>
    intro _ pvs hpvs hphase
    rw [honly pvs hpvs] at hphase
    cases hphase
  case latest =>
    intro old hold pvs hrecord
    rw [honly old hold, ← Option.some.inj hrecord]
    exact ⟨Nat.le_refl _, id⟩
  case marked => exact fun _ hevent => nomatch hevent
  case deleting =>
    rintro pvs ⟨hpvs, hdeleting⟩
    rw [honly pvs hpvs] at hdeleting
    cases hdeleting
  case handedOut => exact fun _ hevent => nomatch hevent
  case reaped => exact fun _ hevent => nomatch hevent
  case requests => exact fun _ _ hsent => nomatch hsent
  case acked => exact fun _ hid => nomatch hid
  case kept =>
    intro hk pvs hrecord
    cases hrecord
    obtain ⟨huid, hfresh⟩ := hkept hk
    refine ⟨huid, ?_, (fun hdeleting => by cases hdeleting), ?_, ?_⟩
    · rintro old ⟨hold, -⟩
      rw [honly old hold]
      exact ⟨rfl, rfl⟩
    · intro m hm
      obtain ⟨hnamed, hother, hretired, howner⟩ := hfresh m hm
      refine ⟨hnamed, ?_, fun heq => absurd heq hother, fun heq => absurd heq hother,
        fun hmem => absurd hmem hretired, fun _ _ heq => absurd heq hother⟩
      rcases howner with hended | hrecovery
      · exact .inr (.inl hended)
      · exact .inr (.inr (by simpa [recoveryPending, freshRecord] using hrecovery))
    · rintro ⟨id, hid, -⟩
      cases hid
  case removed => exact fun hnone => by cases hnone

theorem inv_run {volume : AgentVolume} {actions : List Action} {s t : System}
    (h : Inv r0 ready kept s) (hcond : AllSteps (VolumeLifecycle.step volume)
      (fun s a => (ready → KeepsReported s a) ∧ (kept → KeepsDeletion s a)) s actions)
    (hrun : run (VolumeLifecycle.step volume) s actions = some t) : Inv r0 ready kept t :=
  invariant_run_of_allSteps (fun _ _ _ hinv hcond hstep => Inv.step hinv hstep hcond.1 hcond.2)
    h hcond hrun

end Run

end PillarCsi.LifecycleSteps
