import PillarCsi.LifecycleSteps

/-!
The teardown of a lifecycle destroys what the lifecycle created or adopted for
good, and only releases everything else.
-/

namespace PillarCsi.AdoptedData

open TransitionSystem DurableCell FencedOperations VolumeRecord RecordHistory VolumeLifecycle
open LifecycleInvariant LifecycleSteps

variable {r0 : VolumeState} {ready kept : Prop} {s : System}

theorem delete_sent (h : SharedInv r0 ready kept s) {sent : SentRequest} (hsent : sent ∈ s.sent)
    (hrequest : sent.request = .fenced .deleteVolume) :
    r0.spec.filesystemAdoption = none ∧ volumePreservesOriginal r0 = false ∧
      Adopted r0 s.events := by
  obtain ⟨id, hid⟩ := List.mem_iff_getElem?.mp hsent
  have hkind := (h.requests id sent hid).kind
  rw [hrequest] at hkind
  obtain ⟨hblock, hdelete⟩ := hkind
  obtain ⟨hpreserves, hadopted, -⟩ := hdelete rfl
  exact ⟨hblock, hpreserves, hadopted⟩

/-- What is removed without being destroyed was released and is not the
lifecycle's own. -/
theorem released_of_removed (h : SharedInv r0 ready kept s) (hnone : s.record = none)
    (hdestroyed : .destroyed ∉ s.events) :
    Released s ∧ (r0.spec.filesystemAdoption.isSome = true ∨ volumePreservesOriginal r0 = true ∨
      ∃ pvs ∈ s.history, pvs.deleting = true ∧ importNeverAdopted pvs = true) := by
  rcases h.removed hnone with hevent | ⟨hreleased, pvs, ⟨hpvs, hdeleting⟩, hreleases⟩
  · exact absurd hevent hdestroyed
  refine ⟨hreleased, ?_⟩
  have hsource := h.source pvs hpvs
  rcases hreleases with hteardown | hfilesystem
  · rcases Bool.or_eq_true_iff.mp hteardown with hnever | hpreserves
    · exact .inr (.inr ⟨pvs, hpvs, hdeleting, hnever⟩)
    · rw [hsource.volumePreservesOriginal] at hpreserves
      exact .inr (.inl hpreserves)
  · rw [hsource.filesystemAdoption] at hfilesystem
    exact .inl hfilesystem

theorem adopted_data_kept (name uid : String) (recorded : Bool) (spec : VolumeStateSpec)
    (hvalid : validSpec spec = true) (marks : MarkCell) (volume : AgentVolume)
    (actions : List Action) (s : System)
    (hrun : run (step volume) (System.init (freshRecord name uid recorded spec) marks) actions =
      some s) : (∀ sent ∈ s.sent, sent.request = .fenced .deleteVolume →
        spec.filesystemAdoption = none ∧
          volumePreservesOriginal (freshRecord name uid recorded spec) = false ∧
          (isImport spec = true → .adopted ∈ s.events)) ∧
      (s.record = none → .destroyed ∉ s.events → Released s ∧
        (spec.filesystemAdoption.isSome = true ∨
          volumePreservesOriginal (freshRecord name uid recorded spec) = true ∨
          ∃ pvs ∈ s.history, pvs.deleting = true ∧ importNeverAdopted pvs = true)) := by
  have hinv : Inv (freshRecord name uid recorded spec) False False s := by
    refine inv_run (inv_init hvalid fun hfalse => hfalse.elim)
      (allSteps_of_forall (fun _ _ => ?_) _ _) hrun
    exact ⟨fun hfalse => hfalse.elim, fun hfalse => hfalse.elim⟩
  refine ⟨fun sent hsent hrequest => ?_, released_of_removed hinv.shared⟩
  obtain ⟨hblock, hpreserves, hadopted⟩ := delete_sent hinv.shared hsent hrequest
  refine ⟨hblock, hpreserves, fun himport => ?_⟩
  -- The first record of an import does not say that it was adopted.
  rcases hadopted himport with hevent | hfalse
  · exact hevent
  · change isImport spec = true at himport
    simp [importNeverAdopted, freshRecord, himport] at hfalse

def importedSpec : VolumeStateSpec := { zvolSpec with importedFrom := "tank/pvc-1" }

/-- The zvol is adopted, its export fails, and the claim is deleted. -/
def deleteAfterImport : List Action :=
  [.startCreate 0, .ensure 0 .block true none, .prepare 0 zvolExport (.transferred ""),
    .update 0 .block, .deliver 0 {}, .answer 0 created, .update 0 .block, .abort 0,
    .startDelete 1 "a/nvmeof-tcp/zfs-zvol/tank/pvc-1", .update 1 .block, .deliver 1 {},
    .answer 1 {}, .deliver 2 {}, .answer 1 {}, .update 1 .block]

theorem adopted_data_kept_deleteAfterImport :
    ∃ s, run (step zvol) (System.init (freshRecord "pvc-1" "u1" true importedSpec) Cell.empty)
        deleteAfterImport = some s ∧ s.record = none ∧
      s.sent.map (·.request) = [.importVolume none false, .fenced .revokeExport,
        .fenced .deleteVolume] ∧
      ∀ sent ∈ s.sent, sent.request = .fenced .deleteVolume → .adopted ∈ s.events := by
  obtain ⟨s, hrun, hrecord, hsent⟩ :
      ∃ s, run (step zvol) (System.init (freshRecord "pvc-1" "u1" true importedSpec) Cell.empty)
          deleteAfterImport = some s ∧ s.record = none ∧
        s.sent.map (·.request) = [.importVolume none false, .fenced .revokeExport,
          .fenced .deleteVolume] := ⟨_, rfl, rfl, rfl⟩
  obtain ⟨hdelete, -⟩ :=
    adopted_data_kept "pvc-1" "u1" true importedSpec rfl Cell.empty zvol _ s hrun
  exact ⟨s, hrun, hrecord, hsent, fun sent hmem hrequest => (hdelete sent hmem hrequest).2.2 rfl⟩

/-- An import whose adoption was never answered is only released. -/
example :
    ∃ s, run (step zvol) (System.init (freshRecord "pvc-1" "u1" true importedSpec) Cell.empty)
        [.startCreate 0, .ensure 0 .block true none, .prepare 0 zvolExport (.transferred ""),
          .update 0 .block, .abort 0, .startReap 1, .update 1 .block, .deliver 1 {},
          .answer 1 {}, .update 1 .block] = some s ∧
      s.record = none ∧
      s.sent.map (·.request) = [.importVolume none false, .releaseVolume none] :=
  ⟨_, rfl, rfl, rfl⟩

end PillarCsi.AdoptedData
