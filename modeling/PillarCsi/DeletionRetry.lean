import PillarCsi.LifecycleSteps

/-!
A deletion that was begun can be finished: its token stays the one the agent
admits, and a retry whose external steps all succeed removes the record.
-/

namespace PillarCsi.DeletionRetry

open TransitionSystem DurableCell FencingAdmission MarkOrder FencedOperations OwnershipOperations
open MarkWrites VolumeRecord RecordHistory VolumeLifecycle LifecycleMarks
open LifecycleInvariant LifecycleSteps

section Agent

variable {pvs : VolumeState} {stored : Option FencingMark}

theorem admitFencingToken_ok (hstored : ∀ m, stored = some m → MarkInv False pvs m)
    (huid : pvs.uid ≠ "") (hretired : ∀ m, stored = some m → pvs.uid ∉ m.endedUIDs)
    (volumeID : String) {op : FenceOp} (hop : op ≠ .grant) :
    ∃ adm, admitFencingToken volumeID (tokenOf pvs) op stored = .ok adm := by
  unfold admitFencingToken tokenOf
  rw [if_neg huid]
  cases stored with
  | none => exact ⟨_, rfl⟩
  | some m =>
    have hinv := hstored m rfl
    dsimp only
    rw [if_neg (hretired m rfl)]
    by_cases howner : pvs.uid = m.volumeUID
    · rw [if_neg (not_not.mpr howner)]
      split
      · rename_i hended
        obtain ⟨-, hgeneration⟩ := hinv.ended howner.symm hended
        rw [if_neg (by simp [hop, hgeneration])]
        exact ⟨_, rfl⟩
      · rw [if_neg (Nat.not_lt.mpr (hinv.generation howner.symm))]
        split <;> exact ⟨_, rfl⟩
    · rw [if_pos howner]
      have hended : m.ended = true := by
        rcases hinv.owner with hself | hended | hfalse
        · exact absurd hself.symm howner
        · exact hended
        · exact hfalse.elim
      rw [if_pos hended]
      exact ⟨_, rfl⟩

variable {marks : MarkCell}

theorem visible_named (hmarks : ∀ m ∈ marks.values, MarkInv False pvs m) (m : FencingMark)
    (hm : marks.visible = some m) : m.volumeUID ≠ "" :=
  (visible_markInv hmarks m hm).named

variable (hmarks : ∀ m ∈ marks.values, MarkInv False pvs m) (huid : pvs.uid ≠ "")

include hmarks huid

variable (volumeID : String)

theorem execute_retire (filesystem : Option FilesystemCall) :
    (execute volumeID ⟨.releaseVolume filesystem, tokenOf pvs⟩ { stage := .retire } marks).2 =
      true := by
  have hok : (retireFence volumeID (tokenOf pvs) true {} marks).2 = .ok false := by
    refine retireFence_succeeds (visible_named hmarks) huid fun m hm hretired _ => ?_
    refine admitFencingToken_ok ?_ huid ?_ volumeID (by simp)
    · rintro other heq
      rw [← Option.some.inj heq]
      exact visible_markInv hmarks m hm
    · rintro other heq
      rw [← Option.some.inj heq]
      exact hretired
  simp only [execute, executeRetire, hok, decide_true]

theorem execute_revoke (hretired : ∀ m, marks.visible = some m → pvs.uid ∉ m.endedUIDs) :
    (execute volumeID ⟨.fenced .revokeExport, tokenOf pvs⟩ {} marks).2 = true ∧
      ∀ m, (execute volumeID ⟨.fenced .revokeExport, tokenOf pvs⟩ {} marks).1.visible = some m →
        pvs.uid ∉ m.endedUIDs ∧ (m.preserveOriginal = true →
          ∃ old, marks.visible = some old ∧ old.preserveOriginal = true) := by
  have hop : FenceOp.revoke ≠ .grant := by simp
  obtain ⟨adm, hadmits⟩ := admitFencingToken_ok (visible_markInv hmarks) huid hretired volumeID hop
  obtain ⟨hok, d, hcell, hd⟩ := fencedChecked_revoke_succeeds (visible_named hmarks) hadmits
  have hadm := admits_of_admitFencingToken hadmits
  constructor
  · change (fencedChecked volumeID (tokenOf pvs) .revoke none none {} marks).reply.isOk = true
    rw [hok]
    rfl
  · intro m hm
    change (fencedChecked volumeID (tokenOf pvs) .revoke none none {} marks).marks.visible =
      some m at hm
    rw [hcell, Cell.visible_synced, Option.some.injEq] at hm
    subst hm
    refine ⟨?_, fun hpreserve => ?_⟩
    · rw [← hd.endedUIDs]
      exact admits_not_retired hadm
    · rw [← hd.preserveOriginal] at hpreserve
      exact admits_preserveOriginal hadm hpreserve

theorem execute_delete (hretired : ∀ m, marks.visible = some m → pvs.uid ∉ m.endedUIDs)
    (hpreserve : ∀ m, marks.visible = some m → m.preserveOriginal = false) :
    (execute volumeID ⟨.fenced .deleteVolume, tokenOf pvs⟩ {} marks).2 = true := by
  have hop : FenceOp.destroy ≠ .grant := by simp
  obtain ⟨adm, hadmits⟩ := admitFencingToken_ok (visible_markInv hmarks) huid hretired volumeID hop
  have hcheck : refusePreserved "DeleteVolume" volumeID (marks.visible.getD {}) = .ok () := by
    unfold refusePreserved
    cases hvisible : marks.visible with
    | none => rfl
    | some m => simp [hpreserve m hvisible]
  have hok : (fencedChecked volumeID (tokenOf pvs) .destroy none
      (some (refusePreserved "DeleteVolume" volumeID)) {} marks).reply = .ok () :=
    fencedChecked_destroy_succeeds (visible_named hmarks) hadmits hcheck
  change (fencedChecked volumeID (tokenOf pvs) .destroy none
    (some (refusePreserved "DeleteVolume" volumeID)) {} marks).reply.isOk = true
  rw [hok]
  rfl

theorem execute_unexportFilesystem {adoption : FilesystemAdoption}
    (hadoption : pvs.spec.filesystemAdoption = some adoption)
    (hretired : ∀ m, marks.visible = some m → pvs.uid ∉ m.endedUIDs) :
    (execute volumeID ⟨.filesystem true (filesystemCall pvs adoption 0 false), tokenOf pvs⟩ {}
      marks).2 = true := by
  have hop : FenceOp.revoke ≠ .grant := by simp
  obtain ⟨adm, hadmits⟩ :=
    admitFencingToken_ok (visible_markInv hmarks) huid hretired volumeID hop
  have hok : (filesystemOperation volumeID (filesystemCall pvs adoption 0 false) (tokenOf pvs) .revoke {}
      marks).reply = .ok () := by
    refine filesystemOperation_revoke_succeeds (visible_named hmarks) (Int.le_refl 0) rfl
      hadmits fun m hm howner => ?_
    exact (visible_markInv hmarks m hm).filesystem adoption hadoption howner (hretired m hm)
  change (filesystemOperation volumeID _ (tokenOf pvs) .revoke {} marks).reply.isOk = true
  rw [hok]
  rfl

end Agent

/-- What carries out a release, and the last steps of the call that sent it.  A
release is answered by its last stage alone: the retirement is delivered whether
or not the withdrawal before it succeeded. -/
def finishRelease (tid id : Nat) (driver : CSIDriver) : List Action :=
  [.deliver id { stage := .probe }, .deliver id { stage := .unexport },
    .deliver id { stage := .retire }, .answer tid {}, .update tid driver]

def finishDestroy (tid id : Nat) (driver : CSIDriver) : List Action :=
  [.deliver id {}, .answer tid {}, .update tid driver]

/-- A `DeleteVolume` call none of whose steps fails, on a record under
deletion. -/
def deletionRetry (s : System) (tid : Nat) (pvs : VolumeState) : List Action :=
  let driver := scopedDriverForVolume pvs
  let id := s.sent.length
  [.startDelete tid pvs.spec.volumeID, .update tid driver] ++
    if releaseOnlyTeardown pvs then
      finishRelease tid id driver
    else
      [.deliver id {}, .answer tid {}] ++
        if pvs.spec.filesystemAdoption.isSome then finishRelease tid (id + 1) driver
        else finishDestroy tid (id + 1) driver

/-- A record under deletion that kept its generation. -/
structure Retry (r0 : VolumeState) (s : System) (pvs : VolumeState) : Prop where
  inv : Inv r0 False True s
  record : s.record = some pvs
  deleting : pvs.deleting = true

variable {id tid : Nat}

section Retry

variable {r0 pvs : VolumeState} {volume : AgentVolume} {s t : System}

section

variable (h : Retry r0 s pvs)

include h

theorem Retry.kept : KeptInv s pvs :=
  h.inv.shared.kept trivial pvs h.record

theorem Retry.marks : ∀ m ∈ s.marks.values, MarkInv False pvs m := by
  intro m hm
  refine (h.kept.marks m hm).imp fun _ _ hpending => ?_
  rw [(h.kept.settled h.deleting).2.1] at hpending
  cases hpending

theorem Retry.not_retired (hteardown : releaseOnlyTeardown pvs = false)
    (hblock : pvs.spec.filesystemAdoption = none) :
    ∀ m, s.marks.visible = some m → pvs.uid ∉ m.endedUIDs := by
  intro m hm hretired
  rcases ((visible_markInv h.marks m hm).retired hretired).2 with hrelease | hfilesystem
  · rw [hteardown] at hrelease
    cases hrelease
  · rw [hblock] at hfilesystem
    cases hfilesystem

theorem Retry.step {a : Action} (hstep : step volume s a = some t)
    (hkeeps : KeepsDeletion s a) (hrecord : t.record = s.record) : Retry r0 t pvs :=
  ⟨Inv.step h.inv hstep (fun hfalse => hfalse.elim) fun _ => hkeeps, hrecord.trans h.record,
    h.deleting⟩

theorem Retry.deliver (volume : AgentVolume) {sent : SentRequest}
    (hsent : s.sent[id]? = some sent) (env : AgentSurroundings) :
    ∃ t, VolumeLifecycle.step volume s (.deliver id env) = some t ∧ Retry r0 t pvs ∧
      t.threads = s.threads ∧ t.sent = s.sent ∧
      t.marks = (execute volume.volumeID sent env s.marks).1 ∧
      ((execute volume.volumeID sent env s.marks).2 = true → id ∈ t.acked) := by
  cases hok : (execute volume.volumeID sent env s.marks).2 with
  | true =>
    have hstep : VolumeLifecycle.step volume s (.deliver id env) =
        some { s with
          marks := (execute volume.volumeID sent env s.marks).1, acked := id :: s.acked
          events := answeredEvents sent.request ++ s.events } := by
      simp [VolumeLifecycle.step, System.deliver, hsent, hok]
    exact ⟨_, hstep, h.step hstep trivial rfl, rfl, rfl, rfl, fun _ => (.head _)⟩
  | false =>
    have hstep : VolumeLifecycle.step volume s (.deliver id env) =
        some { s with marks := (execute volume.volumeID sent env s.marks).1 } := by
      simp [VolumeLifecycle.step, System.deliver, hsent, hok]
    exact ⟨_, hstep, h.step hstep trivial rfl, rfl, rfl, rfl, fun hfalse => by cases hfalse⟩

omit h in
theorem step_answer (hwaits : (s.threads tid).waitsFor = some id) (hacked : id ∈ s.acked) :
    VolumeLifecycle.step volume s (.answer tid {}) = some (s.resume tid {} (s.threads tid)) := by
  simp [VolumeLifecycle.step, hwaits, hacked]

theorem Retry.remove (hthread : s.threads tid = .removing pvs) :
    ∃ t, run (VolumeLifecycle.step volume) s [.update tid (scopedDriverForVolume pvs)] = some t ∧
      t.record = none := by
  refine ⟨{ s.goto tid .idle with record := none }, ?_, rfl⟩
  have hfinish : s.finishDelete tid (scopedDriverForVolume pvs) pvs =
      { s.goto tid .idle with record := none } := by
    simp only [System.finishDelete, h.record, h.deleting]
    rw [if_neg]
    rintro (huid | ⟨hfiles, hfalse | hdriver⟩)
    · exact huid rfl
    · cases hfalse
    · exact hdriver hfiles
  refine run_cons_of_step ?_ []
  simp only [VolumeLifecycle.step, System.updateThread, hthread, hfinish]

theorem Retry.finish
    (hthread : s.threads tid = .releasing pvs id ∨ s.threads tid = .destroying pvs id)
    (hacked : id ∈ s.acked) : ∃ t, run (VolumeLifecycle.step volume) s
      [.answer tid {}, .update tid (scopedDriverForVolume pvs)] = some t ∧ t.record = none := by
  have hwaits : (s.threads tid).waitsFor = some id := by
    rcases hthread with hthread | hthread <;> rw [hthread] <;> rfl
  have hresume : s.resume tid {} (s.threads tid) = s.goto tid (.removing pvs) := by
    rcases hthread with hthread | hthread <;> rw [hthread] <;> rfl
  have hstep : VolumeLifecycle.step volume s (.answer tid {}) =
      some (s.goto tid (.removing pvs)) := by
    rw [step_answer hwaits hacked, hresume]
  rw [run_cons_of_step hstep]
  exact (h.step hstep trivial rfl).remove (Function.update_self ..)

theorem Retry.finishRelease (volume : AgentVolume) (hthread : s.threads tid = .releasing pvs id)
    (hsent : s.sent[id]? = some ⟨releaseRequest pvs, tokenOf pvs⟩) :
    ∃ t, run (VolumeLifecycle.step volume) s
      (finishRelease tid id (scopedDriverForVolume pvs)) = some t ∧ t.record = none := by
  obtain ⟨s₁, hstep₁, h₁, hthreads₁, hsent₁, -⟩ := h.deliver volume hsent { stage := .probe }
  rw [← hthreads₁] at hthread
  rw [← hsent₁] at hsent
  obtain ⟨s₂, hstep₂, h₂, hthreads₂, hsent₂, -⟩ := h₁.deliver volume hsent { stage := .unexport }
  rw [← hthreads₂] at hthread
  rw [← hsent₂] at hsent
  obtain ⟨s₃, hstep₃, h₃, hthreads₃, -, -, hacked⟩ := h₂.deliver volume hsent { stage := .retire }
  rw [← hthreads₃] at hthread
  have hretired := hacked (execute_retire h₂.marks h₂.kept.named volume.volumeID _)
  unfold DeletionRetry.finishRelease
  rw [run_cons_of_step hstep₁, run_cons_of_step hstep₂, run_cons_of_step hstep₃]
  exact h₃.finish (.inl hthread) hretired

theorem Retry.finishDestroy (volume : AgentVolume) (hthread : s.threads tid = .destroying pvs id)
    (hsent : s.sent[id]? = some ⟨.fenced .deleteVolume, tokenOf pvs⟩)
    (hretired : ∀ m, s.marks.visible = some m → pvs.uid ∉ m.endedUIDs)
    (hpreserve : ∀ m, s.marks.visible = some m → m.preserveOriginal = false) :
    ∃ t, run (VolumeLifecycle.step volume) s
      (finishDestroy tid id (scopedDriverForVolume pvs)) = some t ∧ t.record = none := by
  obtain ⟨s₁, hstep, h₁, hthreads, -, -, hacked⟩ := h.deliver volume hsent {}
  rw [← hthreads] at hthread
  unfold DeletionRetry.finishDestroy
  rw [run_cons_of_step hstep]
  exact h₁.finish (.inr hthread)
    (hacked (execute_delete h.marks h.kept.named volume.volumeID hretired hpreserve))

theorem Retry.updateRecord : s.updateRecord (scopedDriverForVolume pvs) pvs.uid
      (.markVolumeDeleting pvs.spec.volumeID none) = .unchanged pvs := by
  obtain ⟨-, hpending, hfilesystem⟩ := h.kept.settled h.deleting
  have hvalid : validateVolumeStateForUpdate (scopedDriverForVolume pvs) pvs = .ok () := by
    have hhandle : ¬(pvs.spec.filesystemAdoption.isSome = true ∧
        isFilesystemVolumeID pvs = false) := by
      rintro ⟨hsome, hfalse⟩
      rw [hfilesystem hsome] at hfalse
      cases hfalse
    simp [validateVolumeStateForUpdate, validateVolumeDriver, hhandle]
  have hmutate : markVolumeDeletingMutation pvs.spec.volumeID none pvs =
      .error .noStatusChange := by
    simp [markVolumeDeletingMutation, refuseRecoveryPending, hpending, h.deleting]
  simp [System.updateRecord, updateVolumeState, h.record, hvalid, Mutation.mutate, hmutate]

theorem Retry.start (volume : AgentVolume) (hidle : s.threads tid = .idle) :
    ∃ t, run (VolumeLifecycle.step volume) s
        [.startDelete tid pvs.spec.volumeID, .update tid (scopedDriverForVolume pvs)] = some t ∧
      Retry r0 t pvs ∧ t.marks = s.marks ∧ (releaseOnlyTeardown pvs = true →
        t.threads tid = .releasing pvs s.sent.length ∧
          t.sent = s.sent ++ [⟨releaseRequest pvs, tokenOf pvs⟩]) ∧
      (releaseOnlyTeardown pvs = false → t.threads tid = .unexporting pvs s.sent.length ∧
          t.sent = s.sent ++ [⟨unexportRequest pvs, tokenOf pvs⟩]) := by
  have hstart : VolumeLifecycle.step volume s (.startDelete tid pvs.spec.volumeID) =
      some (s.goto tid (.marking pvs.spec.volumeID none)) := by
    simp [VolumeLifecycle.step, hidle]
  have h₁ := h.step hstart trivial rfl
  have hthread : (s.goto tid (.marking pvs.spec.volumeID none)).threads tid =
      .marking pvs.spec.volumeID none := Function.update_self ..
  have hupdate : VolumeLifecycle.step volume (s.goto tid (.marking pvs.spec.volumeID none))
      (.update tid (scopedDriverForVolume pvs)) =
      some ((s.goto tid (.marking pvs.spec.volumeID none)).teardownMarkedVolume tid pvs) := by
    simp only [VolumeLifecycle.step, System.updateThread, hthread, System.markVolumeDeleting,
      h₁.record, h₁.updateRecord]
    simp
  refine ⟨(s.goto tid (.marking pvs.spec.volumeID none)).teardownMarkedVolume tid pvs, ?_⟩
  rw [run_cons_of_step hstart, run_cons_of_step hupdate]
  have hkeeps : KeepsDeletion (s.goto tid (.marking pvs.spec.volumeID none))
      (.update tid (scopedDriverForVolume pvs)) := by
    intro hincomplete
    rw [hthread] at hincomplete
    cases hincomplete
  cases hteardown : releaseOnlyTeardown pvs with
  | true =>
    have heq : (s.goto tid (.marking pvs.spec.volumeID none)).teardownMarkedVolume tid pvs =
        (s.goto tid (.marking pvs.spec.volumeID none)).call tid (releaseRequest pvs)
          (tokenOf pvs) (.releasing pvs) := by
      simp [System.teardownMarkedVolume, hteardown]
    rw [heq] at hupdate ⊢
    exact ⟨rfl, h₁.step hupdate hkeeps rfl, rfl, fun _ => ⟨Function.update_self .., rfl⟩,
      fun hfalse => by cases hfalse⟩
  | false =>
    have heq : (s.goto tid (.marking pvs.spec.volumeID none)).teardownMarkedVolume tid pvs =
        (s.goto tid (.marking pvs.spec.volumeID none)).call tid (unexportRequest pvs)
          (tokenOf pvs) (.unexporting pvs) := by
      simp [System.teardownMarkedVolume, hteardown]
    rw [heq] at hupdate ⊢
    exact ⟨rfl, h₁.step hupdate hkeeps rfl, rfl, (fun hfalse => by cases hfalse),
      fun _ => ⟨Function.update_self .., rfl⟩⟩

theorem Retry.afterUnexport (volume : AgentVolume)
    (hthread : s.threads tid = .unexporting pvs id) (hacked : id ∈ s.acked) :
    ∃ t, VolumeLifecycle.step volume s (.answer tid {}) = some t ∧ Retry r0 t pvs ∧
      t.marks = s.marks ∧ (pvs.spec.filesystemAdoption.isSome = true →
        t.threads tid = .releasing pvs s.sent.length ∧
          t.sent = s.sent ++ [⟨releaseRequest pvs, tokenOf pvs⟩]) ∧
      (pvs.spec.filesystemAdoption.isSome = false → t.threads tid = .destroying pvs s.sent.length ∧
          t.sent = s.sent ++ [⟨.fenced .deleteVolume, tokenOf pvs⟩]) := by
  have hstep : VolumeLifecycle.step volume s (.answer tid {}) =
      some (s.afterUnexport tid pvs) := by
    rw [step_answer (by rw [hthread]; rfl) hacked, hthread]
    rfl
  refine ⟨_, hstep, ?_⟩
  cases hfilesystem : pvs.spec.filesystemAdoption.isSome with
  | true =>
    have heq : s.afterUnexport tid pvs =
        s.call tid (releaseRequest pvs) (tokenOf pvs) (.releasing pvs) := by
      simp [System.afterUnexport, hfilesystem]
    rw [heq] at hstep ⊢
    exact ⟨h.step hstep trivial rfl, rfl, fun _ => ⟨Function.update_self .., rfl⟩,
      fun hfalse => by cases hfalse⟩
  | false =>
    have heq : s.afterUnexport tid pvs =
        s.call tid (.fenced .deleteVolume) (tokenOf pvs) (.destroying pvs) := by
      simp [System.afterUnexport, hfilesystem]
    rw [heq] at hstep ⊢
    exact ⟨h.step hstep trivial rfl, rfl, (fun hfalse => by cases hfalse),
      fun _ => ⟨Function.update_self .., rfl⟩⟩

end

/-- The lifecycle can still be torn down the way the retry will try. -/
structure Removable (s : System) (pvs : VolumeState) : Prop where
  filesystem : releaseOnlyTeardown pvs = false → pvs.spec.filesystemAdoption.isSome = true →
    ∀ m, s.marks.visible = some m → pvs.uid ∉ m.endedUIDs
  block : releaseOnlyTeardown pvs = false → pvs.spec.filesystemAdoption.isSome = false →
    ∀ m, s.marks.visible = some m → m.preserveOriginal = false

theorem Retry.unexport (h : Retry r0 s pvs) (volume : AgentVolume)
    (hteardown : releaseOnlyTeardown pvs = false) (hremovable : Removable s pvs)
    (hsent : s.sent[id]? = some ⟨unexportRequest pvs, tokenOf pvs⟩) :
    ∃ t, VolumeLifecycle.step volume s (.deliver id {}) = some t ∧ Retry r0 t pvs ∧
      t.threads = s.threads ∧ t.sent = s.sent ∧ id ∈ t.acked ∧
      (pvs.spec.filesystemAdoption = none → ∀ m, t.marks.visible = some m →
        m.preserveOriginal = false) := by
  obtain ⟨t, hstep, ht, hthreads, hkept, hmarks, hacked⟩ := h.deliver volume hsent {}
  refine ⟨t, hstep, ht, hthreads, hkept, ?_⟩
  cases hfilesystem : pvs.spec.filesystemAdoption with
  | some adoption =>
    have hretired := hremovable.filesystem hteardown (by rw [hfilesystem]; rfl)
    refine ⟨hacked ?_, fun hnone => nomatch hnone⟩
    simp only [unexportRequest, hfilesystem]
    exact execute_unexportFilesystem h.marks h.kept.named volume.volumeID hfilesystem hretired
  | none =>
    have hretired := h.not_retired hteardown hfilesystem
    obtain ⟨hok, hvisible⟩ := execute_revoke h.marks h.kept.named volume.volumeID hretired
    simp only [unexportRequest, hfilesystem] at hacked hmarks
    refine ⟨hacked hok, fun _ m hm => ?_⟩
    rw [hmarks] at hm
    cases hpreserve : m.preserveOriginal with
    | false => rfl
    | true =>
      obtain ⟨old, hold, hpinned⟩ := (hvisible m hm).2 hpreserve
      rw [hremovable.block hteardown (by rw [hfilesystem]; rfl) old hold] at hpinned
      cases hpinned

theorem Retry.succeeds (h : Retry r0 s pvs) (volume : AgentVolume) (hremovable : Removable s pvs)
    (hidle : s.threads tid = .idle) :
    ∃ t, run (VolumeLifecycle.step volume) s (deletionRetry s tid pvs) = some t ∧
      t.record = none := by
  obtain ⟨s₁, hstart, h₁, hmarks₁, hrelease, hunexport⟩ := h.start volume hidle
  have hlast : ∀ (front : List SentRequest) sent, (front ++ [sent])[front.length]? = some sent := by
    simp
  simp only [deletionRetry]
  cases hteardown : releaseOnlyTeardown pvs with
  | true =>
    obtain ⟨hthread, hsent⟩ := hrelease hteardown
    obtain ⟨t, hrun, ht⟩ := h₁.finishRelease volume hthread (hsent ▸ hlast _ _)
    exact ⟨t, run_append hstart hrun, ht⟩
  | false =>
    obtain ⟨hthread₁, hsent₁⟩ := hunexport hteardown
    have hremovable₁ : Removable s₁ pvs := by
      constructor <;> rw [hmarks₁]
      · exact hremovable.filesystem
      · exact hremovable.block
    obtain ⟨s₂, hdeliver, h₂, hthreads₂, hsent₂, hacked, hpreserve⟩ :=
      h₁.unexport volume hteardown hremovable₁ (hsent₁ ▸ hlast _ _)
    rw [← hthreads₂] at hthread₁
    obtain ⟨s₃, hanswer, h₃, hmarks₃, hfiles, hblock⟩ := h₂.afterUnexport volume hthread₁ hacked
    have hlength : s₂.sent.length = s.sent.length + 1 := by
      rw [hsent₂, hsent₁, List.length_append, List.length_singleton]
    suffices hrest : ∃ t, run (VolumeLifecycle.step volume) s₃
        (if pvs.spec.filesystemAdoption.isSome then
          DeletionRetry.finishRelease tid (s.sent.length + 1) (scopedDriverForVolume pvs)
        else DeletionRetry.finishDestroy tid (s.sent.length + 1) (scopedDriverForVolume pvs)) =
          some t ∧ t.record = none by
      obtain ⟨t, hrun, ht⟩ := hrest
      refine ⟨t, run_append hstart ?_, ht⟩
      simp only [Bool.false_eq_true, if_false]
      rw [List.cons_append, run_cons_of_step hdeliver, List.cons_append,
        run_cons_of_step hanswer]
      exact hrun
    rw [← hlength]
    cases hfilesystem : pvs.spec.filesystemAdoption.isSome with
    | true =>
      obtain ⟨hthread, hsent⟩ := hfiles hfilesystem
      exact h₃.finishRelease volume hthread (hsent ▸ hlast _ _)
    | false =>
      obtain ⟨hthread, hsent⟩ := hblock hfilesystem
      have hnone : pvs.spec.filesystemAdoption = none := by simpa using hfilesystem
      refine h₃.finishDestroy volume hthread (hsent ▸ hlast _ _)
        (h₃.not_retired hteardown hnone) ?_
      rw [hmarks₃]
      exact hpreserve hnone

end Retry

theorem deletion_retryable (name uid : String) (recorded : Bool) (spec : VolumeStateSpec)
    (hvalid : validSpec spec = true) (huid : uid ≠ "") (marks : MarkCell)
    (hfresh : FreshMarks uid spec marks) (volume : AgentVolume) (actions : List Action) (s : System)
    (hkeeps : AllSteps (step volume) KeepsDeletion
      (System.init (freshRecord name uid recorded spec) marks) actions)
    (hrun : run (step volume) (System.init (freshRecord name uid recorded spec) marks) actions =
      some s) (pvs : VolumeState) (hrecord : s.record = some pvs) (hdeleting : pvs.deleting = true) :
    (∀ old ∈ s.history, old.deleting = true →
        old.publicationGeneration = pvs.publicationGeneration) ∧
      (∀ m ∈ s.marks.values, m.volumeUID = pvs.uid → m.ended = true →
        m.generation = pvs.publicationGeneration) ∧
      (∀ op, op ≠ .grant → (∀ m, s.marks.visible = some m → pvs.uid ∉ m.endedUIDs) →
        ∃ adm, admitFencingToken volume.volumeID (tokenOf pvs) op s.marks.visible = .ok adm) ∧
      ∀ tid, s.threads tid = .idle → Removable s pvs →
        ∃ t, run (step volume) s (deletionRetry s tid pvs) = some t ∧ t.record = none := by
  have hretry : Retry (freshRecord name uid recorded spec) s pvs := by
    refine ⟨?_, hrecord, hdeleting⟩
    refine inv_run (inv_init hvalid fun _ => ⟨huid, hfresh⟩) (hkeeps.imp fun _ _ hcond => ?_) hrun
    exact ⟨fun hfalse => hfalse.elim, fun _ => hcond⟩
  refine ⟨fun old hold hmarked => ?_, fun m hm howner hended => ?_, fun op hop hretired => ?_,
    fun tid hidle hremovable => hretry.succeeds volume hremovable hidle⟩
  · exact (hretry.kept.deletion old ⟨hold, hmarked⟩).1.symm
  · exact ((hretry.marks m hm).ended howner hended).2
  · exact admitFencingToken_ok (visible_markInv hretry.marks) hretry.kept.named hretired
      volume.volumeID hop

def createZvol : List Action :=
  [.startCreate 0, .ensure 0 .block true none, .prepare 0 zvolExport (.transferred ""),
    .update 0 .block, .deliver 0 {}, .answer 0 created, .update 0 .block, .update 0 .block,
    .deliver 1 {}, .answer 0 exported, .update 0 .block]

/-- A publication that is reserved, fenced and released. -/
def publishAndUnpublish (pub : VolumePublication) : List Action :=
  [.write .block (.reservePublicationState zvolSpec.volumeID pub),
    .write .block (.fencePublications pub.nodeID),
    .write .block (.releasePublication [pub.nodeID] none)]

/-- A deletion that destroys the volume and dies before it removes the record. -/
def deleteAndDie : List Action :=
  [.startDelete 1 zvolSpec.volumeID, .update 1 .block, .deliver 2 {}, .answer 1 {},
    .deliver 3 {}, .abort 1]

def localPublication : VolumePublication :=
  { nodeID := "storage", initiatorID := "", accessMode := .singleNodeWriter, isLocal := true }

def remotePublication : VolumePublication :=
  { nodeID := "n1", initiatorID := "iqn", accessMode := .singleNodeWriter }

theorem deletion_retryable_afterCrash :
    ∃ s pvs, run (step zvol) freshZvol (createZvol ++ deleteAndDie) = some s ∧
      s.record = some pvs ∧ s.events = [.destroyed, .marked false, .handedOut] ∧
      ∃ t, run (step zvol) s (deletionRetry s 1 pvs) = some t ∧ t.record = none := by
  obtain ⟨s, pvs, hrun, hrecord, hdeleting, hevents, hidle, hmark⟩ :
      ∃ s pvs, run (step zvol) freshZvol (createZvol ++ deleteAndDie) = some s ∧
        s.record = some pvs ∧ pvs.deleting = true ∧
        s.events = [.destroyed, .marked false, .handedOut] ∧ s.threads 1 = .idle ∧
        ∀ m ∈ s.marks.visible, m.preserveOriginal = false ∧ pvs.uid ∉ m.endedUIDs :=
    ⟨_, _, rfl, rfl, rfl, rfl, rfl, by decide +kernel⟩
  have hretry := deletion_retryable "pvc-1" "u1" true zvolSpec rfl (by decide) Cell.empty
    (fun _ hm => nomatch hm) zvol _ s (by decide +kernel) hrun pvs hrecord hdeleting
  exact ⟨s, pvs, hrun, hrecord, hevents, hretry.2.2.2 1 hidle
    ⟨fun _ _ m hm => (hmark m hm).2, fun _ _ m hm => (hmark m hm).1⟩⟩

/-- The local publication leaves its node in the record.  A publish to another
node that is still in flight clears it after the volume was destroyed: the
generation passes the one the lifecycle ended with, and no token of the record
is admitted again. -/
theorem deletion_stuck_after_clear :
    ∃ actions s pvs, run (step zvol) freshZvol actions = some s ∧ s.record = some pvs ∧
      pvs.deleting = true ∧ s.events = [.destroyed, .marked false, .handedOut] ∧
      ∀ op, (admitFencingToken zvol.volumeID (tokenOf pvs) op s.marks.visible).isOk = false :=
  ⟨createZvol ++ publishAndUnpublish localPublication ++
    publishAndUnpublish remotePublication ++ deleteAndDie ++
    [.write .block (.clearLocalAttachNode "storage")], _, _, rfl, rfl, rfl, rfl, fun op => by
      cases op <;> rfl⟩

end PillarCsi.DeletionRetry
