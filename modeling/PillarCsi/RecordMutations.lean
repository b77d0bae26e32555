import PillarCsi.VolumeRecord

/-!
What each mutation of the record can do.
-/

namespace PillarCsi.RecordMutations

open FencingAdmission VolumeRecord

variable {pvs : VolumeState} {volumeID : String}

theorem refuseDeleting_ok (h : refuseDeleting pvs volumeID = .ok ()) : pvs.deleting = false := by
  unfold refuseDeleting refuse at h
  simpa using (ok_of_ite_error h).1

variable {next : VolumeState} {reaping : Option String} {bump : Bool} {driver : CSIDriver}
  {current : Option VolumeState}

theorem reservePublicationState_ok {pub : VolumePublication}
    (h : reservePublicationState volumeID pub pvs = .ok next) : pvs.deleting = false ∧
      (scanPublications volumeID pub pvs.publishedNodes = .ok false ∧
          next = { pvs with localAttachNode := reservedAttachNode pub pvs } ∨
        scanPublications volumeID pub pvs.publishedNodes = .ok true ∧
          next = { pvs with
            localAttachNode := reservedAttachNode pub pvs
            publishedNodes := pvs.publishedNodes ++ [pub] }) := by
  unfold reservePublicationState at h
  split at h
  · cases h
  · rename_i hdeleting
    refine ⟨refuseDeleting_ok hdeleting, ?_⟩
    split at h
    · cases h
    · rename_i hscan
      exact .inl ⟨hscan, (Except.ok.inj h).symm⟩
    · rename_i hscan
      exact .inr ⟨hscan, (Except.ok.inj h).symm⟩

theorem releasePublication_ok {nodeIDs : List String} {fence : Option FencingToken}
    (h : releasePublication nodeIDs fence pvs = .ok next) : next = { pvs with
        publishedNodes := pvs.publishedNodes.filter fun pub => !nodeIDs.contains pub.nodeID } ∧
      ∀ token, fence = some token → token.generation = pvs.publicationGeneration := by
  have hrelease : ∀ {result : VolumeState},
      (if (pvs.publishedNodes.filter fun pub => !nodeIDs.contains pub.nodeID).length =
          pvs.publishedNodes.length then Except.error Refusal.noStatusChange
        else .ok { pvs with
          publishedNodes := pvs.publishedNodes.filter fun pub => !nodeIDs.contains pub.nodeID }) =
        .ok result →
      result = { pvs with
        publishedNodes := pvs.publishedNodes.filter fun pub => !nodeIDs.contains pub.nodeID } :=
    fun hok => (Except.ok.inj (ok_of_ite_error hok).2).symm
  unfold releasePublication at h
  cases fence with
  | none => exact ⟨hrelease h, fun token htoken => nomatch htoken⟩
  | some token =>
    simp only at h
    split at h
    · cases h
    · rename_i current hcurrent
      unfold refuse at h
      obtain ⟨hgeneration, hok⟩ := ok_of_ite_error h
      refine ⟨hrelease hok, fun other hother => ?_⟩
      cases hother
      unfold fenceToken at hcurrent
      have hcurrent := Except.ok.inj (ok_of_ite_error hcurrent).2
      rw [← not_not.mp hgeneration, ← hcurrent]

theorem releasePublication_empty (hpubs : pvs.publishedNodes = [])
    (nodeIDs : List String) (fence : Option FencingToken) (next : VolumeState) :
    releasePublication nodeIDs fence pvs ≠ .ok next := by
  intro h
  unfold releasePublication at h
  simp only [hpubs, List.filter_nil, List.length_nil, if_true] at h
  split at h
  · cases h
  · split at h
    · cases h
    · exact nomatch (ok_of_ite_error h).2

theorem clearLocalAttachNode_ok {node : String}
    (h : clearLocalAttachNode node pvs = .ok next) :
    pvs.localAttachNode = node ∧ (∀ pub ∈ pvs.publishedNodes, pub.isLocal = false) ∧
      next = { pvs with localAttachNode := "" } := by
  unfold clearLocalAttachNode refuse at h
  obtain ⟨hnode, hlocal, h⟩ := ok_of_ite_errors h
  exact ⟨not_not.mp hnode, by simpa using hlocal, (Except.ok.inj h).symm⟩

theorem fencePublications_ok {nodeID : String}
    (h : fencePublications nodeID pvs = .ok next) :
    revokedRecords nodeID pvs.publishedNodes ≠ [] ∧ next = { pvs with
        publishedNodes :=
          pvs.publishedNodes.map fun pub => if selects nodeID pub then pub.revoke else pub } := by
  unfold fencePublications at h
  obtain ⟨hsome, h⟩ := ok_of_ite_error h
  exact ⟨hsome, (Except.ok.inj h).symm⟩

theorem markVolumeDeletingMutation_ok
    (h : markVolumeDeletingMutation volumeID reaping pvs = .ok next) :
    recoveryPending pvs = false ∧ pvs.deleting = false ∧ pvs.publishedNodes = [] ∧
      deletionAdmit volumeID reaping pvs = .ok () ∧ next = { pvs with deleting := true } := by
  unfold markVolumeDeletingMutation refuseRecoveryPending refuse at h
  obtain ⟨-, h⟩ := ok_of_ite_error h
  split at h
  · cases h
  · rename_i hrecovery
    obtain ⟨hdeleting, hempty, h⟩ := ok_of_ite_errors h
    split at h
    · cases h
    · rename_i hadmits
      exact ⟨by simpa using (ok_of_ite_error hrecovery).1, by simpa using hdeleting,
        not_not.mp hempty, hadmits, (Except.ok.inj h).symm⟩

theorem deletionAdmit_ne_noStatusChange (volumeID : String) (reaping : Option String)
    (pvs : VolumeState) : deletionAdmit volumeID reaping pvs ≠ .error .noStatusChange := by
  cases reaping with
  | none => simp [deletionAdmit]
  | some uid =>
    simp only [deletionAdmit, reapAdmit, refuse]
    split <;> simp

theorem markVolumeDeletingMutation_unchanged
    (h : markVolumeDeletingMutation volumeID reaping pvs = .error .noStatusChange) :
    pvs.deleting = true := by
  unfold markVolumeDeletingMutation at h
  split at h
  · cases h
  split at h
  · rename_i err hpending
    unfold refuseRecoveryPending refuse at hpending
    split at hpending
    · obtain rfl := Except.error.inj hpending
      cases h
    · cases hpending
  split at h
  · assumption
  split at h
  · cases h
  split at h
  · rename_i err hadmits
    rw [Except.error.inj h] at hadmits
    exact absurd hadmits (deletionAdmit_ne_noStatusChange volumeID reaping pvs)
  · cases h

theorem claimOperation_ok (h : claimOperation volumeID pvs = .ok next) :
    pvs.deleting = false ∧ next = pvs := by
  unfold claimOperation at h
  split at h
  · cases h
  · rename_i hdeleting
    exact ⟨refuseDeleting_ok hdeleting, (Except.ok.inj h).symm⟩

/-- Why an adoption has nothing to write: the transfer is done, or its
generation is recorded already. -/
theorem adoptRecoveryPhase_unchanged
    (h : adoptRecoveryPhase pvs = .error .noStatusChange) :
    pvs.phase = .createPartial ∨ ∃ intent, pvs.spec.recovery = some intent ∧
      pvs.publicationGeneration = intent.newGeneration := by
  unfold adoptRecoveryPhase refuse at h
  split at h
  · cases h
  rename_i intent hintent
  split at h
  · cases h
  split at h
  · rename_i hphase
    exact .inl hphase
  split at h
  · cases h
  split at h
  · cases h
  split at h
  · rename_i hpending
    exact .inr ⟨intent, hintent, hpending.2⟩
  · cases h

/-- The write does not touch what a record under deletion is torn down with:
its generation and whether its volume is destroyed. -/
def keepsDeletion (pvs : VolumeState) : Mutation → Bool
  | .clearLocalAttachNode node => pvs.localAttachNode != node
  | .fencePublication _ => false
  | .persistCreatePartial _ _ => !importNeverAdopted pvs
  | _ => true

/-- The object a successful write of `next` leaves behind. -/
def bumped (bump : Bool) (next : VolumeState) : VolumeState :=
  if bump then { next with publicationGeneration := next.publicationGeneration + 1 } else next

/-- What a write of `pvs` can leave behind: one that commits a generation changes
nothing else but access and deletion, and each of the others its own fields. -/
inductive Mutated (pvs : VolumeState) : Mutation → VolumeState → Prop
  | access {m : Mutation} {pubs : List VolumePublication} {node : String} (hbump : m.bump = true)
      (hm : ∀ volumeID reaping, m ≠ .markVolumeDeleting volumeID reaping)
      (hkeeps : pvs.deleting = true → pvs.publishedNodes = [] → keepsDeletion pvs m = false) :
      Mutated pvs m { pvs with
        publishedNodes := pubs
        localAttachNode := node
        publicationGeneration := pvs.publicationGeneration + 1 }
  | markVolumeDeleting {volumeID : String} {reaping : Option String}
      (hpending : recoveryPending pvs = false) (hdeleting : pvs.deleting = false)
      (hpubs : pvs.publishedNodes = []) (hadmits : deletionAdmit volumeID reaping pvs = .ok ()) :
      Mutated pvs (.markVolumeDeleting volumeID reaping) { pvs with
        deleting := true, publicationGeneration := pvs.publicationGeneration + 1 }
  | startProvisioning (hphase : pvs.phase = .unset) :
      Mutated pvs .startProvisioning { pvs with phase := .provisioning }
  | fillRecoveryWriteOnce {uid : String} {resolved : Option ResolvedVolumeConfig}
      {intent : VolumeRecoveryIntent} (hintent : pvs.spec.recovery = some intent) :
      Mutated pvs (.fillRecoveryWriteOnce uid resolved) { pvs with
        spec := { pvs.spec with
          recovery := some { intent with newVolumeUID := uid }
          resolved := pvs.spec.resolved.orElse fun _ => resolved } }
  | adoptRecoveryPhase {intent : VolumeRecoveryIntent}
      (hintent : pvs.spec.recovery = some intent) (hdeleting : pvs.deleting = false)
      (hphase : pvs.phase = .unset ∨ pvs.phase = .recoveryPending)
      (hgeneration : pvs.publicationGeneration ≤ intent.newGeneration) :
      Mutated pvs .adoptRecoveryPhase { pvs with
        phase := .recoveryPending, publicationGeneration := intent.newGeneration }
  | persistCreatePartial {devicePath : String} {exportSpec : Option VolumeExportSpec} :
      Mutated pvs (.persistCreatePartial devicePath exportSpec) { pvs with
        phase := .createPartial
        backendDevicePath := devicePath
        exportSpec := exportSpec
        importAcquired := pvs.importAcquired || isImport pvs.spec }
  | persistVolumeReady {info : Option VolumeExportInfo} (hdeleting : pvs.deleting = false)
      (habsent : info = none → localOnlyFilesystem pvs = true ∧ pvs.importAcquired = true) :
      Mutated pvs (.persistVolumeReady info) { pvs with
        phase := .ready
        backendDevicePath := ""
        exportInfo := info
        exportSpec := if info.isNone then none else pvs.exportSpec }

theorem fillRecoveryWriteOnce_ok {uid : String} {resolved : Option ResolvedVolumeConfig}
    (h : fillRecoveryWriteOnce uid resolved pvs = .ok next) :
    Mutated pvs (.fillRecoveryWriteOnce uid resolved) next := by
  unfold fillRecoveryWriteOnce refuse at h
  split at h
  · cases h
  · rename_i intent hintent
    obtain ⟨-, -, h⟩ := ok_of_ite_errors h
    obtain rfl := Except.ok.inj h
    exact .fillRecoveryWriteOnce hintent

theorem adoptRecoveryPhase_ok (h : adoptRecoveryPhase pvs = .ok next) :
    Mutated pvs .adoptRecoveryPhase next := by
  unfold adoptRecoveryPhase refuse at h
  split at h
  · cases h
  · rename_i intent hintent
    obtain ⟨hdeleting, -, h⟩ := ok_of_ite_errors h
    obtain ⟨hphase, hgeneration, h⟩ := ok_of_ite_errors h
    obtain ⟨-, h⟩ := ok_of_ite_error h
    obtain rfl := Except.ok.inj h
    refine .adoptRecoveryPhase hintent (by simpa using hdeleting) ?_ (Nat.le_of_not_lt hgeneration)
    by_contra hneither
    exact hphase (not_or.mp hneither)

theorem persistVolumeReady_ok {info : Option VolumeExportInfo}
    (h : persistVolumeReady info pvs = .ok next) : Mutated pvs (.persistVolumeReady info) next := by
  unfold persistVolumeReady refuse at h
  obtain ⟨hdeleting, habsent, h⟩ := ok_of_ite_errors h
  obtain rfl := Except.ok.inj h
  refine .persistVolumeReady (by simpa using hdeleting) fun hinfo => ?_
  simpa only [hinfo, Option.isNone_none, true_and, not_or, Bool.not_eq_false] using habsent

variable {m : Mutation}

theorem mutated_of_mutate (h : m.mutate pvs = .ok next) : Mutated pvs m (bumped m.bump next) := by
  cases m with
  | reservePublicationState volumeID pub =>
    obtain ⟨hopen, ⟨-, rfl⟩ | ⟨-, rfl⟩⟩ := reservePublicationState_ok h <;>
      exact .access rfl (by simp) (by simp [hopen])
  | clearLocalAttachNode node =>
    obtain ⟨rfl, -, rfl⟩ := clearLocalAttachNode_ok h
    exact .access rfl (by simp) fun _ _ => by simp [keepsDeletion]
  | fencePublication expected =>
    obtain rfl := Except.ok.inj h
    exact .access rfl (by simp) fun _ _ => rfl
  | fencePublications nodeID =>
    obtain ⟨hsome, rfl⟩ := fencePublications_ok h
    refine .access rfl (by simp) fun _ hpubs => absurd ?_ hsome
    simp [revokedRecords, hpubs]
  | releasePublication nodeIDs fence =>
    have hrelease := h
    obtain ⟨rfl, -⟩ := releasePublication_ok h
    exact .access rfl (by simp) fun _ hpubs =>
      absurd hrelease (releasePublication_empty hpubs nodeIDs fence _)
  | markVolumeDeleting volumeID reaping =>
    obtain ⟨hpending, hopen, hpubs, hadmits, rfl⟩ := markVolumeDeletingMutation_ok h
    exact .markVolumeDeleting hpending hopen hpubs hadmits
  | claimOperation volumeID =>
    obtain ⟨hopen, rfl⟩ := claimOperation_ok h
    exact .access rfl (by simp) (by simp [hopen])
  | startProvisioning =>
    obtain ⟨hphase, h⟩ := ok_of_ite_error h
    obtain rfl := Except.ok.inj h
    exact .startProvisioning (not_not.mp hphase)
  | fillRecoveryWriteOnce uid resolved => exact fillRecoveryWriteOnce_ok h
  | adoptRecoveryPhase => exact adoptRecoveryPhase_ok h
  | persistCreatePartial devicePath exportSpec =>
    obtain rfl := Except.ok.inj h
    exact .persistCreatePartial
  | persistVolumeReady info => exact persistVolumeReady_ok h

/-- The fields of a record that no write changes. -/
structure SameSource (a b : VolumeState) : Prop where
  uid : b.uid = a.uid
  spec : b.spec =
    { a.spec with recovery := b.spec.recovery, resolved := b.spec.resolved }
  recovery : b.spec.recovery.map (fun intent => (intent.source, intent.newGeneration)) =
    a.spec.recovery.map fun intent => (intent.source, intent.newGeneration)

theorem SameSource.refl (a : VolumeState) : SameSource a a := ⟨rfl, rfl, rfl⟩

theorem SameSource.trans {a b c : VolumeState} (hab : SameSource a b) (hbc : SameSource b c) :
    SameSource a c := by
  refine ⟨hbc.uid.trans hab.uid, ?_, hbc.recovery.trans hab.recovery⟩
  rw [hbc.spec, hab.spec]

section SameSource

variable {a b : VolumeState} (h : SameSource a b)

include h

theorem SameSource.filesystemAdoption : b.spec.filesystemAdoption = a.spec.filesystemAdoption := by
  rw [h.spec]

theorem SameSource.agentVolumeID : b.spec.agentVolumeID = a.spec.agentVolumeID := by
  rw [h.spec]

theorem SameSource.isImport : isImport b.spec = isImport a.spec := by
  rw [h.spec]
  rfl

theorem SameSource.isFilesystemVolumeID :
    isFilesystemVolumeID b = VolumeRecord.isFilesystemVolumeID a := by
  unfold VolumeRecord.isFilesystemVolumeID filesystemVolumeIDBase
  rw [h.spec]

theorem SameSource.volumePreservesOriginal :
    volumePreservesOriginal b = VolumeRecord.volumePreservesOriginal a := by
  have hsource : ∀ pvs : VolumeState,
      (pvs.spec.recovery.any fun intent => intent.source.any (·.preserveOriginal)) =
        (pvs.spec.recovery.map fun intent => (intent.source, intent.newGeneration)).any
          fun declared => declared.1.any (·.preserveOriginal) := by
    intro pvs
    cases pvs.spec.recovery <;> rfl
  unfold VolumeRecord.volumePreservesOriginal
  rw [hsource b, hsource a, h.recovery, h.spec]

theorem SameSource.recovery_isSome : b.spec.recovery.isSome = a.spec.recovery.isSome := by
  have hmap := congrArg Option.isSome h.recovery
  simpa using hmap

theorem SameSource.newGeneration {old new : VolumeRecoveryIntent}
    (hold : a.spec.recovery = some old) (hnew : b.spec.recovery = some new) :
    new.newGeneration = old.newGeneration := by
  have hmap := h.recovery
  rw [hold, hnew] at hmap
  exact congrArg Prod.snd (Option.some.inj hmap)

end SameSource

def recordsAdoption : Mutation → Bool
  | .persistCreatePartial _ _ | .persistVolumeReady _ => true
  | _ => false

def reportedPhase : Phase → Bool
  | .ready | .controllerPublished | .nodeStagePartial | .nodeStaged | .nodePublished => true
  | _ => false

theorem reapablePhase_of_reported (h : reportedPhase pvs.phase = true) :
    reapablePhase pvs = false := by
  unfold reapablePhase
  split
  · rfl
  · split <;> rename_i hphase <;> simp_all [reportedPhase]

theorem completedVolume_reported (h : completedVolume pvs = true) :
    reportedPhase pvs.phase = true ∧ pvs.deleting = false := by
  simp only [completedVolume, completedFilesystemAdoption, Bool.and_eq_true, Bool.or_eq_true,
    decide_eq_true_eq, Bool.not_eq_true'] at h
  obtain ⟨⟨⟨-, hdeleting⟩, hphase⟩, -⟩ := h
  refine ⟨?_, hdeleting⟩
  rcases hphase with ⟨hready, -⟩ | ⟨-, hphase⟩
  · rw [hready]
    rfl
  · exact hphase

section Mutated

variable (h : Mutated pvs m next)

include h

theorem Mutated.of_not_bump (hbump : m.bump = false) : next.publishedNodes = pvs.publishedNodes ∧
      next.deleting = pvs.deleting := by
  cases h with
  | access htrue =>
    rw [hbump] at htrue
    cases htrue
  | markVolumeDeleting => cases hbump
  | _ => exact ⟨rfl, rfl⟩

theorem Mutated.of_bump (hbump : m.bump = true) : next = { pvs with
      publishedNodes := next.publishedNodes
      localAttachNode := next.localAttachNode
      deleting := next.deleting
      publicationGeneration := pvs.publicationGeneration + 1 } := by
  cases h with
  | access | markVolumeDeleting => rfl
  | _ => cases hbump

theorem Mutated.generation : pvs.publicationGeneration ≤ next.publicationGeneration := by
  cases h with
  | access | markVolumeDeleting => exact Nat.le_succ _
  | adoptRecoveryPhase _ _ _ hgeneration => exact hgeneration
  | _ => exact Nat.le_refl _

theorem Mutated.source : SameSource pvs next := by
  cases h with
  | fillRecoveryWriteOnce hintent => exact ⟨rfl, rfl, by simp [hintent]⟩
  | _ => exact ⟨rfl, rfl, rfl⟩

/-- A lifecycle keeps its spec apart from the fields a recovery fills in once. -/
theorem Mutated.spec (hnone : pvs.spec.recovery = none) : next.spec = pvs.spec := by
  cases h with
  | fillRecoveryWriteOnce hintent => simp [hnone] at hintent
  | _ => rfl

theorem Mutated.importNeverAdopted (hm : recordsAdoption m = false) :
    importNeverAdopted next = VolumeRecord.importNeverAdopted pvs := by
  have himport := h.source.isImport
  unfold VolumeRecord.importNeverAdopted
  cases h with
  | persistCreatePartial | persistVolumeReady => cases hm
  | _ => rw [himport]

theorem Mutated.reported (hreported : reportedPhase pvs.phase = true)
    (hm : ∀ devicePath exportSpec, m ≠ .persistCreatePartial devicePath exportSpec) :
    reportedPhase next.phase = true := by
  cases h with
  | startProvisioning hphase =>
    rw [hphase] at hreported
    cases hreported
  | adoptRecoveryPhase _ _ hphase =>
    rcases hphase with hphase | hphase <;>
      · rw [hphase] at hreported
        cases hreported
  | persistCreatePartial => exact absurd rfl (hm _ _)
  | persistVolumeReady => rfl
  | _ => exact hreported

theorem Mutated.createPartial (hphase : next.phase = .createPartial)
    (hm : ∀ devicePath exportSpec, m ≠ .persistCreatePartial devicePath exportSpec) :
    pvs.phase = .createPartial := by
  cases h with
  | access | markVolumeDeleting | fillRecoveryWriteOnce => exact hphase
  | persistCreatePartial => exact absurd rfl (hm _ _)
  | _ => cases hphase

theorem Mutated.deleting (hdeleting : pvs.deleting = true) : next.deleting = true := by
  cases h with
  | markVolumeDeleting => rfl
  | _ => exact hdeleting

theorem Mutated.starts_deletion (hopen : pvs.deleting = false) (hdeleting : next.deleting = true) :
    ∃ volumeID reaping, m = .markVolumeDeleting volumeID reaping := by
  cases h with
  | markVolumeDeleting => exact ⟨_, _, rfl⟩
  | _ => exact absurd (hopen.symm.trans hdeleting) (by simp)

theorem Mutated.keepsDeletion (hdeleting : pvs.deleting = true) (hpubs : pvs.publishedNodes = [])
    (hkeeps : keepsDeletion pvs m = true) :
    next.publicationGeneration = pvs.publicationGeneration ∧ next.publishedNodes = [] ∧
      recoveryPending next = recoveryPending pvs ∧
      releaseOnlyTeardown next = releaseOnlyTeardown pvs := by
  have hopen : ∀ {p : Prop}, pvs.deleting = false → p :=
    fun hopen => absurd (hopen.symm.trans hdeleting) (by simp)
  have hsource := h.source
  unfold releaseOnlyTeardown recoveryPending
  rw [hsource.volumePreservesOriginal, hsource.recovery_isSome]
  cases h with
  | access _ _ hrefused => simp [hrefused hdeleting hpubs] at hkeeps
  | markVolumeDeleting _ hfalse => exact hopen hfalse
  | adoptRecoveryPhase _ hfalse => exact hopen hfalse
  | persistVolumeReady hfalse => exact hopen hfalse
  | persistCreatePartial =>
    have hadopted : VolumeRecord.importNeverAdopted pvs = false := by
      simpa [RecordMutations.keepsDeletion] using hkeeps
    refine ⟨rfl, hpubs, rfl, ?_⟩
    rw [hadopted]
    cases himport : isImport pvs.spec <;> simp [VolumeRecord.importNeverAdopted, himport]
  | startProvisioning | fillRecoveryWriteOnce =>
    refine ⟨rfl, hpubs, rfl, ?_⟩
    unfold VolumeRecord.importNeverAdopted
    rw [hsource.isImport]

end Mutated

variable {t : VolumeState}

theorem writeStatus_committed
    (h : writeStatus bump next = .committed t) : t = bumped bump next := by
  unfold writeStatus at h
  cases bump with
  | false => exact (UpdateResult.committed.inj h).symm
  | true =>
    simp only [if_true] at h
    split at h
    · exact (UpdateResult.committed.inj h).symm
    · cases h

theorem writeStatus_not_unchanged : writeStatus bump next ≠ .unchanged t := by
  unfold writeStatus
  intro h
  split at h
  · split at h <;> cases h
  · cases h

variable {pvName uid : String}

theorem handleMissingVolumeState_not_committed :
    handleMissingVolumeState pvName uid ≠ .committed t := by
  unfold handleMissingVolumeState
  split <;> simp

theorem handleMissingVolumeState_not_unchanged :
    handleMissingVolumeState pvName uid ≠ .unchanged t := by
  unfold handleMissingVolumeState
  split <;> simp

theorem updateVolumeState_committed
    (h : updateVolumeState driver pvName uid m current = .committed t) :
    ∃ pvs next, current = some pvs ∧ validateVolumeStateForUpdate driver pvs = .ok () ∧
      m.mutate pvs = .ok next ∧ t = bumped m.bump next := by
  cases current with
  | none => exact absurd h handleMissingVolumeState_not_committed
  | some pvs =>
    simp only [updateVolumeState] at h
    split at h
    · exact absurd h handleMissingVolumeState_not_committed
    split at h
    · cases h
    rename_i hvalid
    split at h
    · cases h
    · cases h
    · rename_i next hmutate
      exact ⟨pvs, next, rfl, hvalid, hmutate, writeStatus_committed h⟩

theorem updateVolumeState_unchanged
    (h : updateVolumeState driver pvName uid m current = .unchanged t) :
    current = some t ∧ m.mutate t = .error .noStatusChange := by
  cases current with
  | none => exact absurd h handleMissingVolumeState_not_unchanged
  | some pvs =>
    simp only [updateVolumeState] at h
    split at h
    · exact absurd h handleMissingVolumeState_not_unchanged
    · split at h
      · cases h
      · split at h
        · rename_i hmutate
          obtain rfl := UpdateResult.unchanged.inj h
          exact ⟨rfl, hmutate⟩
        · cases h
        · exact absurd h writeStatus_not_unchanged

end PillarCsi.RecordMutations
