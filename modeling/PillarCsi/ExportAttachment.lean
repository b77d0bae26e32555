import PillarCsi.PublishSteps

/-!
Local attach against the network export: once a publish through the storage
protocol succeeded, nothing that belongs to an earlier local publication fences
the export, and a generation either records a local-attach node or opens the
export, never both.

`ControllerPublishVolume` breaks the first half.  It decides from the record it
read before its reservation whether a local-attach node has to be cleared, and
clears only the node it read: a local publication that came and went in between
leaves its node in the record, and the next resync fences the export again.
-/

namespace PillarCsi.ExportAttachment

open TransitionSystem FencingAdmission VolumeRecord DesiredExport PublishProtocol PublishInvariant
open PublishSteps

variable {recorded fresh : Prop} {s : System} {request : Request}

theorem exports_localAttach {source : VolumeState} {desired : VolumeDesiredState}
    (hdesired : reconcileVolumeExport source = some desired) {state : ExportDesiredState}
    (hstate : state ∈ desired.exports) :
    state.localAttach = (source.spec.filesystemAdoption.isNone && source.localAttachNode != "") := by
  obtain ⟨-, -, -, -, hexports⟩ := reconcileVolumeExport_some hdesired
  rw [hexports] at hstate
  split at hstate
  · exact absurd hstate List.not_mem_nil
  · obtain ⟨spec, -, rfl⟩ := List.mem_map.mp hstate
    rfl

theorem attachTarget_recorded (h : RequestInv recorded s request)
    (htarget : request.attachTarget = some true) :
    ∃ pvs ∈ s.history, pvs.publicationGeneration = request.fence.generation ∧
      pvs.localAttachNode ≠ "" := by
  cases request with
  | allowInitiator pub fence | denyInitiator pub fence => cases htarget
  | setLocalAttach enter filesystem fence =>
    simp only [Request.attachTarget] at htarget
    split at htarget
    · cases htarget
    · rename_i hblock
      exact h.2 (Option.some.inj htarget) (by simpa using hblock)
  | reconcileState source desired =>
    obtain ⟨-, hsource, hdesired⟩ := h
    obtain ⟨-, -, -, hfence, -⟩ := reconcileVolumeExport_some hdesired
    refine ⟨source, hsource, by rw [Request.fence, hfence], ?_⟩
    simp only [Request.attachTarget] at htarget
    split at htarget
    · cases htarget
    · obtain ⟨state, hhead, hlocal⟩ := Option.map_eq_some_iff.mp htarget
      rw [exports_localAttach hdesired (List.mem_of_head? hhead)] at hlocal
      simpa using (Bool.and_eq_true_iff.mp hlocal).2

theorem fencing_refused (h : SharedInv recorded True s) {g id : Nat}
    {delivery : Delivery} {t : System} (hopened : g ∈ s.opened)
    (hreservations : ∀ reservation ∈ s.localReservations, reservation ≤ g)
    (hsent : s.sent[id]? = some request) (htarget : request.attachTarget = some true)
    (hstep : s.deliver id delivery = some t) : t = s := by
  obtain ⟨hclosed, happlied⟩ := h.opened trivial g hopened
  obtain ⟨pvs, hpvs, hgeneration, hattach⟩ :=
    attachTarget_recorded (h.requests id request hsent) htarget
  obtain ⟨hattachable, hlater⟩ := h.attached pvs hpvs hattach
  have hlt : request.fence.generation < g := by
    rw [← hgeneration]
    by_contra hle
    obtain ⟨reservation, hmem, hnew⟩ := hlater g hclosed (by omega)
    have hold := hreservations reservation hmem
    omega
  exact SharedInv.refused h hsent (happlied hattachable) hlt hstep

theorem localAttachNode_of_generation (h : SharedInv recorded fresh s) {pvs pvs' : VolumeState}
    (hpvs : pvs ∈ s.history) (hpvs' : pvs' ∈ s.history)
    (hgeneration : pvs.publicationGeneration = pvs'.publicationGeneration) :
    pvs.localAttachNode = pvs'.localAttachNode := by
  let agree : VolumeState → VolumeState → Prop := fun a b =>
    a.publicationGeneration = b.publicationGeneration → a.localAttachNode = b.localAttachNode
  have hsymm : Std.Symm agree := ⟨fun a b hab heq => (hab heq.symm).symm⟩
  have hagree : s.history.Pairwise agree :=
    h.ordered.imp fun hevolves heq => ((Evolves.generation hevolves).2 heq).2
  exact hagree.forall_of_forall (fun _ _ _ => rfl) hpvs hpvs' hgeneration

theorem export_stays_open (record : VolumeState) (hnever : NeverPublished record)
    (mark : Option FencingMark) (localAttached : Bool) (actions : List Action) (s : System)
    (hrun : run step (System.init record mark localAttached) actions = some s) :
    (AllSteps step KnowsAttachNode (System.init record mark localAttached) actions →
      ∀ g ∈ s.opened, (∀ reservation ∈ s.localReservations, reservation ≤ g) →
        ∀ (id : Nat) request, s.sent[id]? = some request → request.attachTarget = some true →
          ∀ delivery t, step s (.deliver id delivery) = some t → t = s) ∧
      ∀ pvs ∈ s.history, pvs.spec.filesystemAdoption = none → pvs.localAttachNode ≠ "" →
        ∀ pvs' ∈ s.history, pvs'.publicationGeneration = pvs.publicationGeneration →
          ∀ desired, reconcileVolumeExport pvs' = some desired →
            ∀ state ∈ desired.exports, state.localAttach = true := by
  constructor
  · intro hknows g hopened hreservations id request hsent htarget delivery t hstep
    have hinv : Inv False True s := by
      refine inv_run hnever (hknows.imp fun _ _ hcond => ?_) hrun
      exact ⟨fun hfalse => hfalse.elim, fun _ => hcond⟩
    exact fencing_refused hinv.shared hopened hreservations hsent htarget hstep
  · intro pvs hpvs hblock hattach pvs' hpvs' hgeneration desired hdesired state hstate
    have hinv : Inv False False s := by
      refine inv_run hnever (allSteps_of_forall (fun _ _ => ?_) _ _) hrun
      exact ⟨fun hfalse => hfalse.elim, fun hfalse => hfalse.elim⟩
    have hnode := localAttachNode_of_generation hinv.shared hpvs' hpvs hgeneration
    have hspec : pvs'.spec = pvs.spec :=
      (hinv.shared.fixed pvs' hpvs').1.trans (hinv.shared.fixed pvs hpvs).1.symm
    rw [exports_localAttach hdesired hstate, hnode, hspec, hblock]
    simpa using hattach

/-- The volume is attached on its storage node, resynced there, moves to `n1`,
and then the enter and the resync of the local publication arrive once more. -/
def publishAfterLocalAttach : List Action :=
  [.startPublish 0 publishOnStorage, .update 0 .block, .deliver 0 .applied, .answer 0,
    .resync 0, .startUnpublish 0 "storage", .update 0 .block, .update 0 .block,
    .startPublish 0 publishOnNode, .update 0 .block, .deliver 2 .applied, .answer 0,
    .update 0 .block, .deliver 3 .applied, .answer 0, .deliver 4 .applied, .answer 0,
    .deliver 0 .applied, .deliver 1 .applied]

theorem export_stays_open_publishAfterLocalAttach :
    ∃ s, run step attachableSystem publishAfterLocalAttach = some s ∧
      s.opened = [7] ∧ s.localReservations = [3] ∧
      (∀ delivery t, step s (.deliver 0 delivery) = some t → t = s) ∧
      ∀ pvs ∈ s.history, pvs.spec.filesystemAdoption = none → pvs.localAttachNode ≠ "" →
        ∀ pvs' ∈ s.history, pvs'.publicationGeneration = pvs.publicationGeneration →
          ∀ desired, reconcileVolumeExport pvs' = some desired →
            ∀ state ∈ desired.exports, state.localAttach = true := by
  obtain ⟨s, hrun, hopened, hreservations, hsent⟩ :
      ∃ s, run step attachableSystem publishAfterLocalAttach = some s ∧
        s.opened = [7] ∧ s.localReservations = [3] ∧
        s.sent[0]? = some (.setLocalAttach true false { volumeUID := "u1", generation := 3 }) :=
    ⟨_, rfl, rfl, rfl, rfl⟩
  obtain ⟨hopen, hagree⟩ :=
    export_stays_open attachableVolume ⟨rfl, rfl⟩ _ false publishAfterLocalAttach s hrun
  refine ⟨s, hrun, hopened, hreservations, ?_, hagree⟩
  refine hopen (by decide +kernel) 7 ?_ ?_ 0 _ hsent rfl
  · rw [hopened]
    exact List.mem_singleton.mpr rfl
  · rw [hreservations]
    intro reservation hmem
    rw [List.mem_singleton.mp hmem]
    decide

/-- A local publication is reserved, attached and unpublished between the read
and the reservation of a publish on `n1`.  The publish succeeds at generation 6,
and a resync of that generation, sent before, then fences the export it opened. -/
theorem export_closed_by_stale_attach : ∃ actions s t, run step attachableSystem actions = some s ∧
      s.opened = [6] ∧ s.localReservations = [3] ∧ s.localAttached = false ∧
      step s (.deliver 2 .applied) = some t ∧ t.localReservations = [3] ∧ t.localAttached = true :=
  ⟨[.startPublish 0 publishOnNode,
    .startPublish 1 publishOnStorage, .update 1 .block, .deliver 0 .applied, .answer 1,
    .startUnpublish 1 "storage", .update 1 .block, .update 1 .block,
    .update 0 .block, .resync 0, .deliver 1 .applied, .answer 0, .deliver 3 .applied,
    .answer 0],
    _, _, rfl, rfl, rfl, rfl, rfl, rfl, rfl⟩

end PillarCsi.ExportAttachment
