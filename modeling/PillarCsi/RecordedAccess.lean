import PillarCsi.PublishSteps

/-!
No unrecorded access: whoever the agent lets in has a publication record, and
what was sent for a publication before its unpublish succeeded lets nobody in
afterwards.

`restorePublishedExport` breaks this.  A protocol publish that found a
local-attach node goes on with the token of `clearLocalAttachNode`, whose
mutation does not look for the publication the call reserved: when an
unpublish removed that publication in the meantime, the grant carries a newer
token than the revoke.
-/

namespace PillarCsi.RecordedAccess

open TransitionSystem FencingAdmission VolumeRecord PublicationExclusivity DesiredExport
open PublishProtocol PublishInvariant PublishSteps

variable {s : System} {node : String}

def IssuedFor (node : String) : Request → Prop
  | .allowInitiator pub _ => pub.nodeID = node
  | .reconcileState source _ =>
    ∃ pub ∈ source.publishedNodes,
      pub.nodeID = node ∧ pub.revoking = false ∧ pub.isLocal = false
  | _ => False

theorem acl_recorded (h : SharedInv True False s) {initiator : String} (hmem : initiator ∈ s.acl) :
    ∃ pub ∈ s.record.publishedNodes, pub.initiatorID = initiator := by
  obtain ⟨hmanaged, pub, g, hactive, hinitiator, hlast⟩ := h.acl trivial initiator hmem
  rcases h.granted hmanaged pub g hactive with ⟨kept, hkept, hsame⟩ | ⟨d, hlt, hdenied⟩
  · refine ⟨kept, hkept, ?_⟩
    have hkeptInitiator : (unrevoked kept).initiatorID = (unrevoked pub).initiatorID := by
      rw [hsame]
    exact hkeptInitiator.trans hinitiator
  · rw [hinitiator] at hdenied
    have hle := hlast d hdenied
    omega

theorem applied_after_grant (h : SharedInv True False s) {g : Nat}
    {pub : VolumePublication} (hunpublished : s.unpublished node = true)
    (hmanaged : managesACL s.record = true) (hactive : ActiveAt s.history pub g)
    (hnode : pub.nodeID = node) : ∃ d, g < d ∧ AppliedAt s d := by
  rcases h.granted hmanaged pub g hactive with ⟨kept, hkept, hsame⟩ | ⟨d, hlt, hdenied⟩
  · have hkeptNode := (nodeID_of_unrevoked hsame).trans hnode
    exact absurd hkeptNode (h.unpublished node hunpublished kept hkept)
  · exact ⟨d, hlt, h.denied_applied hdenied⟩

theorem acl_empty (h : SharedInv True False s) (hmanaged : managesACL s.record = false) :
    s.acl = [] := by
  rw [List.eq_nil_iff_forall_not_mem]
  intro initiator hmem
  rw [(h.acl trivial initiator hmem).1] at hmanaged
  exact absurd hmanaged (by simp)

theorem deliver_acl (h : Inv True False s) {id : Nat} {request : Request}
    {delivery : Delivery} {t : System} (hunpublished : s.unpublished node = true)
    (hsent : s.sent[id]? = some request) (hissued : IssuedFor node request)
    (hstep : s.deliver id delivery = some t) : t.acl = s.acl := by
  have hrequest := h.shared.requests id request hsent
  by_cases hmanaged : managesACL s.record = true
  · -- The grant was active at its own generation, so its revoke is newer.
    have hactive : ∃ pub, ActiveAt s.history pub request.fence.generation ∧
        pub.nodeID = node := by
      cases request with
      | allowInitiator pub fence => exact ⟨pub, hrequest.2.2 trivial, hissued⟩
      | reconcileState source desired =>
        obtain ⟨-, hsource, hdesired⟩ := hrequest
        obtain ⟨pub, hpub, hnode, hrevoking, hremote⟩ := hissued
        obtain ⟨-, -, -, hfence, -⟩ := reconcileVolumeExport_some hdesired
        refine ⟨pub, ⟨source, hsource, ?_, hpub, hrevoking, hremote⟩, hnode⟩
        rw [Request.fence, hfence]
      | denyInitiator pub fence | setLocalAttach enter filesystem fence => exact hissued.elim
    obtain ⟨pub, hactive, hnode⟩ := hactive
    obtain ⟨d, hlt, happlied⟩ := applied_after_grant h.shared hunpublished hmanaged hactive hnode
    rw [SharedInv.refused h.shared hsent happlied hlt hstep]
  · have hunmanaged : managesACL s.record = false := by simpa using hmanaged
    have hafter : Inv True False t := Inv.deliver h hstep
    have hrecord : t.record = s.record := by
      rcases deliver_cases hstep with rfl | ⟨_, _, _, _, _, -, rfl⟩ <;> rfl
    rw [acl_empty h.shared hunmanaged, acl_empty hafter.shared (hrecord ▸ hunmanaged)]

theorem access_recorded (record : VolumeState) (hnever : NeverPublished record)
    (mark : Option FencingMark) (localAttached : Bool) (actions : List Action) (s : System)
    (hstill : AllSteps step StillRecorded (System.init record mark localAttached) actions)
    (hrun : run step (System.init record mark localAttached) actions = some s) :
    (∀ initiator ∈ s.acl, ∃ pub ∈ s.record.publishedNodes, pub.initiatorID = initiator) ∧
      ∀ node, s.unpublished node = true → ∀ (id : Nat) request,
        s.sent[id]? = some request → IssuedFor node request →
          ∀ delivery t, step s (.deliver id delivery) = some t → t.acl = s.acl := by
  have hinv : Inv True False s := by
    refine inv_run hnever (hstill.imp fun _ _ hcond => ?_) hrun
    exact ⟨fun _ => hcond, fun hfalse => hfalse.elim⟩
  refine ⟨fun initiator hmem => acl_recorded hinv.shared hmem, ?_⟩
  intro node hunpublished id request hsent hissued delivery t hstep
  exact deliver_acl hinv hunpublished hsent hissued hstep

/-- A volume moves from its storage node to `n1` and is unpublished there; then
the grant and a full-state push of the publication arrive once more. -/
def unpublishAfterRestore : List Action :=
  [.startPublish 0 publishOnStorage, .update 0 .block, .deliver 0 .applied, .answer 0,
    .startUnpublish 0 "storage", .update 0 .block, .update 0 .block,
    .startPublish 0 publishOnNode, .update 0 .block, .deliver 1 .applied, .answer 0,
    .update 0 .block, .deliver 2 .applied, .answer 0, .deliver 3 .applied, .answer 0,
    .resync 0, .startUnpublish 1 "n1", .update 1 .block, .deliver 5 .applied, .answer 1,
    .update 1 .block, .deliver 3 .applied, .deliver 4 .applied]

theorem access_recorded_unpublishAfterRestore :
    ∃ s, run step attachableSystem unpublishAfterRestore = some s ∧
      s.unpublished "n1" = true ∧ s.sent.length = 6 ∧ (∀ initiator ∈ s.acl,
        ∃ pub ∈ s.record.publishedNodes, pub.initiatorID = initiator) ∧
      ∀ delivery t, step s (.deliver 3 delivery) = some t → t.acl = s.acl := by
  let pub : VolumePublication :=
    { nodeID := "n1", initiatorID := "nqn-1", accessMode := .singleNodeWriter }
  obtain ⟨s, hrun, hunpublished, hlength, hsent⟩ :
      ∃ s, run step attachableSystem unpublishAfterRestore = some s ∧
        s.unpublished "n1" = true ∧ s.sent.length = 6 ∧
        s.sent[3]? = some (.allowInitiator pub { volumeUID := "u1", generation := 7 }) :=
    ⟨_, rfl, rfl, rfl, rfl⟩
  obtain ⟨hrecorded, hafter⟩ :=
    access_recorded attachableVolume ⟨rfl, rfl⟩ _ false unpublishAfterRestore s
      (by decide +kernel) hrun
  exact ⟨s, hrun, hunpublished, hlength, hrecorded, hafter "n1" hunpublished 3 _ hsent rfl⟩

/-- The unpublish of `n1` runs between the two local-attach exits of the
publish: its revoke is at generation 7, the grant that follows at generation 9. -/
theorem acl_unrecorded_after_restore : ∃ actions s, run step attachableSystem actions = some s ∧
      s.unpublished "n1" = true ∧ s.record.publishedNodes = [] ∧ s.acl = ["nqn-1"] :=
  ⟨[.startPublish 0 publishOnStorage, .update 0 .block, .deliver 0 .applied, .answer 0,
    .startUnpublish 0 "storage", .update 0 .block, .update 0 .block,
    .startPublish 0 publishOnNode, .update 0 .block, .deliver 1 .applied,
    .startUnpublish 1 "n1", .update 1 .block, .deliver 2 .applied, .answer 1,
    .update 1 .block, .answer 0, .update 0 .block, .deliver 3 .applied, .answer 0,
    .deliver 4 .applied], _, rfl, rfl, rfl, rfl⟩

/-- Whatever the calls meet, a granted publication leaves the record only behind
a confirmed revoke, and nothing sent before that revoke is applied any more. -/
theorem dropped_publication_fenced (record : VolumeState) (hnever : NeverPublished record)
    (mark : Option FencingMark) (localAttached : Bool) (actions : List Action) (s : System)
    (hrun : run step (System.init record mark localAttached) actions = some s)
    (hmanaged : managesACL s.record = true) (pub : VolumePublication) (g : Nat)
    (hactive : ActiveAt s.history pub g) :
    (∃ kept ∈ s.record.publishedNodes, unrevoked kept = unrevoked pub) ∨
      ∃ d, g < d ∧ DeniedAt s pub.initiatorID d ∧
        ∀ (id : Nat) request, s.sent[id]? = some request → request.fence.generation < d →
          ∀ delivery t, step s (.deliver id delivery) = some t → t = s := by
  have hinv : Inv False False s := by
    refine inv_run hnever (allSteps_of_forall (fun _ _ => ?_) _ _) hrun
    exact ⟨fun hfalse => hfalse.elim, fun hfalse => hfalse.elim⟩
  refine (hinv.shared.granted hmanaged pub g hactive).imp_right ?_
  rintro ⟨d, hlt, hdenied⟩
  refine ⟨d, hlt, hdenied, fun id request hsent hold delivery t hstep => ?_⟩
  exact SharedInv.refused hinv.shared hsent (hinv.shared.denied_applied hdenied) hold hstep

theorem dropped_publication_fenced_unpublishAfterRestore :
    ∃ s, run step attachableSystem unpublishAfterRestore = some s ∧ s.sent.length = 6 ∧
      ∀ pub g, ActiveAt s.history pub g → ∃ d, g < d ∧ DeniedAt s pub.initiatorID d := by
  obtain ⟨s, hrun, hlength, hmanaged, hnone⟩ :
      ∃ s, run step attachableSystem unpublishAfterRestore = some s ∧ s.sent.length = 6 ∧
        managesACL s.record = true ∧ s.record.publishedNodes = [] := ⟨_, rfl, rfl, rfl, rfl⟩
  refine ⟨s, hrun, hlength, fun pub g hactive => ?_⟩
  rcases dropped_publication_fenced attachableVolume ⟨rfl, rfl⟩ _ false _ s hrun hmanaged
    pub g hactive with ⟨kept, hkept, -⟩ | ⟨d, hlt, hdenied, -⟩
  · simp [hnone] at hkept
  · exact ⟨d, hlt, hdenied⟩

end PillarCsi.RecordedAccess
