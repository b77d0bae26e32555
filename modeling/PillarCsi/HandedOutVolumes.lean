import PillarCsi.LifecycleSteps

/-!
A volume that was handed out is never reaped, as long as no slower attempt
records its partial creation over the finished one.
-/

namespace PillarCsi.HandedOutVolumes

open TransitionSystem DurableCell FencedOperations VolumeRecord RecordMutations RecordHistory
open VolumeLifecycle LifecycleInvariant LifecycleSteps

def endsVolume : AgentRequest → Bool
  | .fenced .deleteVolume | .releaseVolume _ => true
  | _ => false

variable {r0 : VolumeState} {ready kept : Prop} {s : System} {sent : SentRequest}

theorem committed_of_sent (h : SharedInv r0 ready kept s) (hsent : sent ∈ s.sent) :
    ∃ pvs ∈ s.history, pvs.publicationGeneration = sent.token.generation ∧
      (endsVolume sent.request = true → pvs.deleting = true) := by
  obtain ⟨id, hid⟩ := List.mem_iff_getElem?.mp hsent
  obtain ⟨-, ⟨source, hsource, hissued⟩, hkind⟩ := h.requests id sent hid
  revert hkind
  cases sent.request with
  | fenced call =>
    cases call with
    | deleteVolume =>
      rintro ⟨-, hdelete⟩
      obtain ⟨-, -, pvs, hmarked, hgeneration⟩ := hdelete rfl
      exact ⟨pvs, hmarked.1, hgeneration, fun _ => hmarked.2⟩
    | _ => exact fun _ => ⟨source, hsource, hissued, fun hends => by cases hends⟩
  | releaseVolume filesystem =>
    rintro ⟨⟨pvs, hmarked, hgeneration, -⟩, -⟩
    exact ⟨pvs, hmarked.1, hgeneration, fun _ => hmarked.2⟩
  | _ => exact fun _ => ⟨source, hsource, hissued, fun hends => by cases hends⟩

theorem marked_of_endsVolume (h : SharedInv r0 ready kept s) (hsent : sent ∈ s.sent)
    (hends : endsVolume sent.request = true) : ∃ pvs, Marked s pvs := by
  obtain ⟨pvs, hpvs, -, hdeleting⟩ := committed_of_sent h hsent
  exact ⟨pvs, hpvs, hdeleting hends⟩

theorem handed_out_never_reaped (name uid : String) (recorded : Bool) (spec : VolumeStateSpec)
    (hvalid : validSpec spec = true) (marks : MarkCell) (volume : AgentVolume)
    (actions : List Action) (s : System) (hkeeps : AllSteps (step volume) KeepsReported
      (System.init (freshRecord name uid recorded spec) marks) actions)
    (hrun : run (step volume) (System.init (freshRecord name uid recorded spec) marks) actions =
      some s) (hout : .handedOut ∈ s.events) :
    (∀ pvs, s.record = some pvs → reapablePhase pvs = false) ∧ .marked true ∉ s.events ∧
      ∀ sent ∈ s.sent, endsVolume sent.request = true → .marked false ∈ s.events := by
  have hinv : Inv (freshRecord name uid recorded spec) True False s := by
    refine inv_run (inv_init hvalid fun hfalse => hfalse.elim)
      (hkeeps.imp fun _ _ hcond => ?_) hrun
    exact ⟨fun _ => hcond, fun hfalse => hfalse.elim⟩
  have hnever : .marked true ∉ s.events := fun hmarked => hinv.shared.reaped trivial hmarked hout
  refine ⟨fun pvs hrecord => ?_, hnever, fun sent hsent hends => ?_⟩
  · exact reapablePhase_of_reported (hinv.shared.handedOut trivial hout pvs hrecord)
  · obtain ⟨pvs, hmarked⟩ := marked_of_endsVolume hinv.shared hsent hends
    rcases hinv.shared.deleting pvs hmarked with hfalse | ⟨reaping, hevent⟩
    · cases hfalse
    · cases reaping with
      | false => exact hevent
      | true => exact absurd hevent hnever

/-- One attempt creates the volume while a second one has read the record. -/
def secondAttemptReads : List Action :=
  [.startCreate 0, .ensure 0 .block true none, .startCreate 1, .ensure 1 .block false none,
    .prepare 0 zvolExport (.transferred ""), .update 0 .block, .deliver 0 {}, .answer 0 created,
    .update 0 .block]

def firstAttemptReturns (id : Nat) : List Action :=
  [.update 0 .block, .deliver id {}, .answer 0 exported, .update 0 .block]

def reap (id : Nat) : List Action :=
  [.startReap 2, .update 2 .block, .deliver id {}, .answer 2 {}, .deliver (id + 1) {},
    .answer 2 {}, .update 2 .block]

theorem handed_out_never_reaped_firstAttempt :
    ∃ s, run (step zvol) freshZvol (secondAttemptReads ++ firstAttemptReturns 1) = some s ∧
      .handedOut ∈ s.events ∧ (∀ pvs, s.record = some pvs → reapablePhase pvs = false) ∧
      .marked true ∉ s.events ∧
      ∀ sent ∈ s.sent, endsVolume sent.request = true → .marked false ∈ s.events := by
  obtain ⟨s, hrun, hevents⟩ :
      ∃ s, run (step zvol) freshZvol (secondAttemptReads ++ firstAttemptReturns 1) = some s ∧
        s.events = [.handedOut] := ⟨_, rfl, rfl⟩
  have hout : .handedOut ∈ s.events := by
    rw [hevents]
    exact List.mem_singleton_self _
  exact ⟨s, hrun, hout, handed_out_never_reaped "pvc-1" "u1" true zvolSpec rfl Cell.empty zvol
    _ s (by decide +kernel) hrun hout⟩

/-- The second attempt creates the volume once more before the first returns,
and records its partial creation after: the finished volume is reaped. -/
theorem handed_out_volume_destroyed :
    ∃ actions s, run (step zvol) freshZvol actions = some s ∧ s.record = none ∧
      s.events = [.destroyed, .marked true, .handedOut] :=
  ⟨secondAttemptReads ++
    [.prepare 1 zvolExport (.transferred ""), .update 1 .block, .deliver 1 {},
      .answer 1 created] ++
    firstAttemptReturns 2 ++ [.update 1 .block, .abort 1] ++ reap 3, _, rfl, rfl, rfl⟩

/-- Every request was sent for a committed record of the volume as it was
created; what ends the volume was sent for a record under deletion, and the
record stays under deletion. -/
theorem volume_ended_under_deletion (name uid : String) (recorded : Bool) (spec : VolumeStateSpec)
    (hvalid : validSpec spec = true) (marks : MarkCell) (volume : AgentVolume)
    (actions : List Action) (s : System)
    (hrun : run (step volume) (System.init (freshRecord name uid recorded spec) marks) actions =
      some s) (sent : SentRequest) (hsent : sent ∈ s.sent) : sent.token.volumeUID = uid ∧
      (∃ pvs ∈ s.history, SameSource (freshRecord name uid recorded spec) pvs ∧
        pvs.publicationGeneration = sent.token.generation ∧
        (endsVolume sent.request = true → pvs.deleting = true)) ∧
      ∀ later, s.record = some later → sent.token.generation ≤ later.publicationGeneration ∧
        (endsVolume sent.request = true → later.deleting = true) := by
  have hinv : Inv (freshRecord name uid recorded spec) False False s := by
    refine inv_run (inv_init hvalid fun hfalse => hfalse.elim)
      (allSteps_of_forall (fun _ _ => ?_) _ _) hrun
    exact ⟨fun hfalse => hfalse.elim, fun hfalse => hfalse.elim⟩
  obtain ⟨id, hid⟩ := List.mem_iff_getElem?.mp hsent
  obtain ⟨pvs, hpvs, hgeneration, hdeleting⟩ := committed_of_sent hinv.shared hsent
  have hsource := hinv.shared.source pvs hpvs
  refine ⟨(hinv.shared.requests id sent hid).uid, ⟨pvs, hpvs, hsource, hgeneration, hdeleting⟩, ?_⟩
  intro later hlater
  obtain ⟨hle, hlatest⟩ := hinv.shared.latest pvs hpvs later hlater
  exact ⟨hgeneration ▸ hle, fun hends => hlatest (hdeleting hends)⟩

theorem volume_ended_under_deletion_reap :
    ∃ s, run (step zvol) freshZvol (secondAttemptReads ++ .abort 0 :: (reap 1).take 4) = some s ∧
      s.sent.map (endsVolume ·.request) = [false, false, true] ∧ ∀ sent ∈ s.sent,
        endsVolume sent.request = true → ∀ later, s.record = some later → later.deleting = true := by
  refine ⟨_, rfl, rfl, fun sent hsent hends later hlater => ?_⟩
  exact ((volume_ended_under_deletion "pvc-1" "u1" true zvolSpec rfl Cell.empty zvol
    (secondAttemptReads ++ .abort 0 :: (reap 1).take 4) _ rfl sent hsent).2.2 later hlater).2 hends

end PillarCsi.HandedOutVolumes
