import PillarCsi.PublishInvariant

/-!
Every step of the publish protocol keeps the invariant.
-/

namespace PillarCsi.PublishSteps

open TransitionSystem FencingAdmission MarkOrder VolumeRecord RecordMutations RecordHistory
open PublicationExclusivity DesiredExport PublishProtocol PublishInvariant

variable {recorded fresh : Prop} {s : System} {pubs : List VolumePublication}
  {pub : VolumePublication} {pvs source record : VolumeState} {driver : CSIDriver} {tid g : Nat}
  {fence : FencingToken} {call : PublishCall} {added filesystem : Bool} {t : System}
  {delivery : Delivery} {initiator : String} {desired : VolumeDesiredState}

theorem exists_unrevoked {pubs' : List VolumePublication}
    (hsub : pubs.map unrevoked ⊆ pubs'.map unrevoked) {target : VolumePublication}
    (hpub : pub ∈ pubs) (hsame : unrevoked pub = unrevoked target) :
    ∃ pub' ∈ pubs', unrevoked pub' = unrevoked target := by
  obtain ⟨pub', hpub', heq⟩ := List.mem_map.mp (hsub (List.mem_map_of_mem hpub))
  exact ⟨pub', hpub', heq.trans hsame⟩

theorem nodeID_of_unrevoked {a b : VolumePublication} (h : unrevoked a = unrevoked b) :
    a.nodeID = b.nodeID := by
  have hnode : (unrevoked a).nodeID = (unrevoked b).nodeID := by rw [h]
  exact hnode

section

variable (h : Inv recorded fresh s)

include h

theorem Inv.store (hbumps : Bumps s.record pvs)
    (hsub : pvs.publishedNodes.map unrevoked ⊆ s.record.publishedNodes.map unrevoked)
    (hkept : managesACL s.record = true → ∀ pub g, ActiveAt s.history pub g →
      ∀ kept ∈ s.record.publishedNodes, unrevoked kept = unrevoked pub →
        (∃ kept' ∈ pvs.publishedNodes, unrevoked kept' = unrevoked pub) ∨
          ∃ d, g < d ∧ DeniedAt s pub.initiatorID d)
    (hlocal : pvs.localAttachNode ≠ "" → pvs.localAttachNode = s.record.localAttachNode) :
    Inv recorded fresh (s.store pvs) := by
  constructor
  · refine h.shared.committed hbumps hkept ?_ (List.Subset.refl _)
      (fun hattach => .inl (hlocal hattach))
    intro node hnode pub hpub
    obtain ⟨old, hold, hsame⟩ := exists_unrevoked hsub hpub rfl
    rw [← nodeID_of_unrevoked hsame]
    exact h.shared.unpublished node hnode old hold
  · intro tid
    exact (h.threads tid).mono (grows_committed hbumps)

theorem Inv.store_of_map (hbumps : Bumps s.record pvs)
    (hmap : pvs.publishedNodes.map unrevoked = s.record.publishedNodes.map unrevoked)
    (hlocal : pvs.localAttachNode ≠ "" → pvs.localAttachNode = s.record.localAttachNode) :
    Inv recorded fresh (s.store pvs) := by
  refine Inv.store h hbumps (by rw [hmap]; exact List.Subset.refl _) ?_ hlocal
  intro _ pub g _ kept hkept hsame
  exact .inl (exists_unrevoked (by rw [hmap]; exact List.Subset.refl _) hkept hsame)

theorem Inv.store_release {uid : String} {nodeIDs : List String} {fence : Option FencingToken}
    (hwithdrawn : ∀ token, fence = some token →
      ∀ node ∈ nodeIDs, WithdrawnAt s token.generation node) (hnone : fence = none → nodeIDs = [])
    (hupdate : s.updateRecord driver uid (.releasePublication nodeIDs fence) = .committed pvs) :
    Inv recorded fresh (s.store pvs) := by
  obtain ⟨next, hmutate, rfl, hbumps⟩ := updateRecord_committed hupdate rfl
  obtain ⟨rfl, hfence⟩ := releasePublication_ok hmutate
  refine Inv.store h hbumps ?_ ?_ (fun _ => rfl)
  · exact (List.filter_sublist.map unrevoked).subset
  intro hmanaged pub g hactive kept hkept hsame
  by_cases hnode : kept.nodeID ∈ nodeIDs
  · cases fence with
    | none =>
      rw [hnone rfl] at hnode
      exact absurd hnode List.not_mem_nil
    | some token =>
      right
      obtain ⟨old, hold, hgeneration, hpubs⟩ := hwithdrawn token rfl _ hnode
      rw [hfence token rfl] at hgeneration
      have hcurrent := (h.shared.at_current hold hgeneration).1
      obtain ⟨hrevoking, hdone⟩ := hpubs kept (hcurrent ▸ hkept) rfl
      obtain ⟨granted, hgranted, hg, hpub, hnotRevoking, hremote⟩ := hactive
      have hinitiator : kept.initiatorID = pub.initiatorID := by
        have : (unrevoked kept).initiatorID = (unrevoked pub).initiatorID := by rw [hsame]
        exact this
      have hkeptRemote : kept.isLocal = false := by
        have : (unrevoked kept).isLocal = (unrevoked pub).isLocal := by rw [hsame]
        exact this.trans hremote
      refine ⟨token.generation, ?_, ?_⟩
      · -- At the revoke's own generation the record was revoking already.
        have hle := h.shared.generation_le hgranted
        rw [hfence token rfl, ← hg]
        rcases Nat.eq_or_lt_of_le hle with heq | hlt
        · have hpubs' := (h.shared.at_current hgranted heq).1
          have hsamePub := (h.shared.consistent _ h.shared.current).exclusive.eq_of_nodeID
            hkept (hpubs' ▸ hpub) (nodeID_of_unrevoked hsame)
          rw [hsamePub, hnotRevoking] at hrevoking
          exact absurd hrevoking (by simp)
        · exact hlt
      · rw [← hinitiator]
        rcases hdone with hlocal | hunmanaged | hdenied
        · rw [hkeptRemote] at hlocal
          exact absurd hlocal (by simp)
        · rw [h.shared.managesACL_eq hold, hmanaged] at hunmanaged
          exact absurd hunmanaged (by simp)
        · exact hdenied
  · left
    exact ⟨kept, List.mem_filter.mpr ⟨hkept, by simpa using hnode⟩, hsame⟩

theorem Inv.gotoIdle : Inv recorded fresh (s.goto tid .idle) := by
  have hidle : ThreadInv recorded fresh s .idle := trivial
  exact h.goto hidle

theorem Inv.gotoReleasing {call : UnpublishCall} {done : List String}
    (hdone : ∀ node ∈ done, WithdrawnAt s fence.generation node) :
    Inv recorded fresh (s.goto tid (.releasing call (some fence) done)) := by
  have hthread : ThreadInv recorded fresh s (.releasing call (some fence) done) := by
    refine ⟨fun token htoken => ?_, fun hnone => nomatch hnone⟩
    rw [← Option.some.inj htoken]
    exact hdone
  exact h.goto hthread

theorem Inv.callOpening (hcall : ProtocolCall s call) (hfence : Issued s fence)
    (hactive : recorded → ActiveAt s.history call.pub fence.generation)
    (hclosed : fresh → ClosedAt s.history fence.generation) : Inv recorded fresh
      (s.call tid (.setLocalAttach false filesystem fence) (.opening call added fence)) := by
  refine h.call ⟨hfence, fun henter => absurd henter (by simp)⟩ fun hgrows => ?_
  exact ⟨hcall.mono hgrows, hfence.mono hgrows,
    fun hrecorded => (hactive hrecorded).mono hgrows.history,
    fun hfresh => (hclosed hfresh).mono hgrows.history, filesystem, sent_send _ _⟩

theorem Inv.publishSucceeded (hclosed : fresh → ClosedAt s.history fence.generation ∧
      (Attachable s.record → AppliedAt s fence.generation)) :
    Inv recorded fresh (s.publishSucceeded tid fence) := by
  have hgoto : Inv recorded fresh (s.goto tid .idle) := Inv.gotoIdle h
  constructor
  · refine { hgoto.shared with opened := fun hfresh g hg => ?_ }
    rcases List.mem_cons.mp hg with rfl | hold
    · exact hclosed hfresh
    · exact hgoto.shared.opened hfresh g hold
  · exact hgoto.threads

theorem Inv.unpublishSucceeded {nodeID : String} :
    Inv recorded fresh (s.unpublishSucceeded tid nodeID) := by
  have hgoto : Inv recorded fresh (s.goto tid .idle) := Inv.gotoIdle h
  constructor
  · refine { hgoto.shared with unpublished := fun node hnode pub hpub heq => ?_ }
    rcases Bool.or_eq_true_iff.mp hnode with hold | hnew
    · exact hgoto.shared.unpublished node hold pub hpub heq
    · have hnone := (Bool.and_eq_true_iff.mp hnew).2
      simp only [Bool.not_eq_true', List.any_eq_false, decide_eq_true_eq] at hnone
      exact hnone pub hpub heq
  · exact hgoto.threads

theorem Inv.grantPublishedExport (hcall : ProtocolCall s call)
    (hfence : Issued s fence) (hactive : recorded → ActiveAt s.history call.pub fence.generation)
    (hclosed : fresh → ClosedAt s.history fence.generation ∧
      (Attachable s.record → AppliedAt s fence.generation)) :
    Inv recorded fresh (s.grantPublishedExport tid call added fence) := by
  unfold System.grantPublishedExport
  split
  · rename_i hmanaged
    rw [h.shared.managesACL_eq hcall.1] at hmanaged
    have hthread : ThreadInv recorded fresh s (.allowing call added fence s.sent.length) :=
      ⟨hcall, hclosed⟩
    exact h.call ⟨hfence, hmanaged, hactive⟩ fun hgrows => hthread.mono hgrows
  · exact Inv.publishSucceeded h hclosed

theorem Inv.restorePublishedExport (hcall : ProtocolCall s call)
    (hfence : Issued s fence) (hactive : recorded → ActiveAt s.history call.pub fence.generation)
    (hclosed : fresh → call.pvs.localAttachNode = "" → ClosedAt s.history fence.generation) :
    Inv recorded fresh (s.restorePublishedExport tid call added fence) := by
  unfold System.restorePublishedExport
  split
  · refine h.call ⟨hfence, fun henter => absurd henter (by simp)⟩ fun hgrows => ?_
    exact hcall.mono hgrows
  · rename_i hlocal
    have hlocal := not_not.mp hlocal
    split
    · exact Inv.callOpening h hcall hfence hactive fun hfresh => hclosed hfresh hlocal
    · rename_i hnot
      refine Inv.grantPublishedExport h hcall hfence hactive fun hfresh =>
        ⟨hclosed hfresh hlocal, fun hattachable => ?_⟩
      exact absurd ((attachable_congr (h.shared.fixed _ hcall.1).1).mpr hattachable) hnot

theorem Inv.finishPublish (hpvs : call.pvs ∈ s.history)
    (hrevoking : call.pub.revoking = false) (hfence : Issued s fence)
    (hactive : call.pub.isLocal = false → ActiveAt s.history call.pub fence.generation)
    (hclosed : fresh → call.pub.isLocal = false → call.pvs.localAttachNode = "" →
      ClosedAt s.history fence.generation)
    (hattach : call.pub.isLocal = true → call.pvs.spec.filesystemAdoption.isSome = false →
      ∃ pvs ∈ s.history, pvs.publicationGeneration = fence.generation ∧ pvs.localAttachNode ≠ "") :
    Inv recorded fresh (s.finishPublish tid call added fence) := by
  unfold System.finishPublish
  split
  · rename_i hlocal
    refine h.call ⟨hfence, fun _ hblock => hattach hlocal hblock⟩ fun _ => trivial
  · rename_i hremote
    have hremote : call.pub.isLocal = false := by simpa using hremote
    exact Inv.restorePublishedExport h ⟨hpvs, hrevoking, hremote⟩ hfence
      (fun _ => hactive hremote) (fun hfresh => hclosed hfresh hremote)

theorem Inv.revokePublications {call : UnpublishCall}
    {revoke : List VolumePublication} (hpvs : call.pvs ∈ s.history)
    (hfence : Issued s fence) (rest : List VolumePublication) (done : List String)
    (hrest : ∀ pub ∈ rest, RevokingAt s.history pub fence.generation)
    (hdone : ∀ node ∈ done, WithdrawnAt s fence.generation node) :
    Inv recorded fresh (s.revokePublications tid call fence revoke rest done) := by
  induction rest generalizing done with
  | nil =>
    unfold System.revokePublications
    split
    · have hthread : ThreadInv recorded fresh s (.detaching call fence done) := ⟨hfence, hdone⟩
      exact h.goto hthread
    · exact Inv.gotoReleasing h hdone
  | cons pub rest ih =>
    have hpub := hrest pub (.head _)
    have hrest := fun other hother => hrest other (.tail _ hother)
    unfold System.revokePublications
    split
    · rename_i hskip
      apply ih _ hrest
      intro node hnode
      rcases List.mem_append.mp hnode with hold | hnew
      · exact hdone node hold
      · rw [List.mem_singleton.mp hnew]
        rw [h.shared.managesACL_eq hpvs] at hskip
        exact h.shared.withdrawn hpub (hskip.imp_right .inl)
    · refine h.call ⟨hfence, trivial⟩ fun hgrows => ?_
      exact ⟨hgrows.history hpvs, hfence.mono hgrows, sent_send _ _,
        hpub.mono hgrows.history,
        fun other hother => (hrest other hother).mono hgrows.history,
        fun node hnode => (hdone node hnode).mono hgrows⟩

end

/-- A publish that clears the local-attach node still finds its own record,
not revoking. -/
def StillRecorded (s : System) : Action → Prop
  | .update tid _ =>
    match s.threads tid with
    | .clearing call _ => call.pub ∈ s.record.publishedNodes
    | _ => True
  | _ => True

/-- A protocol publish that read no local-attach node reserves on a record
without one, and a publish that read one does not meet another when it clears
it. -/
def KnowsAttachNode (s : System) : Action → Prop
  | .update tid _ =>
    match s.threads tid with
    | .reserving call =>
      call.pub.isLocal = false → call.pvs.localAttachNode = "" →
        s.record.localAttachNode = ""
    | .clearing call _ =>
      s.record.localAttachNode = call.pvs.localAttachNode ∨ s.record.localAttachNode = ""
    | _ => True
  | _ => True

instance (s : System) (action : Action) : Decidable (StillRecorded s action) :=
  match action with
  | .update tid _ => by
    dsimp only [StillRecorded]
    cases s.threads tid <;> infer_instance
  | .startPublish _ _ | .startUnpublish _ _ | .answer _ | .abort _ | .resync _
  | .deliver _ _ | .reboot => isTrue trivial

instance (s : System) (action : Action) : Decidable (KnowsAttachNode s action) :=
  match action with
  | .update tid _ => by
    dsimp only [KnowsAttachNode]
    cases s.threads tid <;> infer_instance
  | .startPublish _ _ | .startUnpublish _ _ | .answer _ | .abort _ | .resync _
  | .deliver _ _ | .reboot => isTrue trivial

theorem mem_of_scanPublications {volumeID : String}
    (h : scanPublications volumeID pub pubs = .ok false) : pub ∈ pubs := by
  induction pubs with
  | nil => cases h
  | cons cur rest ih =>
    unfold scanPublications at h
    split at h
    · cases h
    · split at h
      · rename_i heq
        rw [heq]
        exact .head _
      · exact .tail _ (ih h)

variable {id : Nat}

section

variable (h : Inv recorded fresh s)

include h

theorem Inv.reserve (hthread : ThreadInv recorded fresh s (.reserving call))
    (hknows : fresh → call.pub.isLocal = false → call.pvs.localAttachNode = "" →
      s.record.localAttachNode = "") (hupdate : s.updateRecord driver call.pvs.uid
      (.reservePublicationState call.pvs.spec.volumeID call.pub) = .committed pvs) :
    Inv recorded fresh ((s.reserve pvs call.pub).finishPublish tid call added (tokenOf pvs)) := by
  obtain ⟨hpvs, hrevoking, hnode, hattachable⟩ := hthread
  obtain ⟨next, hmutate, hnext, hbumps⟩ := updateRecord_committed hupdate rfl
  -- The reserved record holds every old publication, and the new one.
  have hfields : call.pub ∈ pvs.publishedNodes ∧
      s.record.publishedNodes ⊆ pvs.publishedNodes ∧
      (∀ pub ∈ pvs.publishedNodes, pub ∈ s.record.publishedNodes ∨ pub = call.pub) ∧
      pvs.localAttachNode = reservedAttachNode call.pub s.record := by
    rw [hnext]
    obtain ⟨-, ⟨hscan, rfl⟩ | ⟨-, rfl⟩⟩ := reservePublicationState_ok hmutate
    · exact ⟨mem_of_scanPublications hscan, List.Subset.refl _, fun _ hpub => .inl hpub, rfl⟩
    · refine ⟨by simp, List.subset_append_left _ _, fun pub hpub => ?_, rfl⟩
      simpa using hpub
  obtain ⟨hreserved, hkept, honly, hlocal⟩ := hfields
  have hinv : Inv recorded fresh (s.reserve pvs call.pub) := by
    constructor
    · apply h.shared.committed hbumps
      · intro _ pub g _ kept hmem hsame
        exact .inl ⟨kept, hkept hmem, hsame⟩
      · intro node hunpublished pub hpub heq
        by_cases hself : node = call.pub.nodeID
        · rw [hself, Function.update_self] at hunpublished
          exact absurd hunpublished (by simp)
        · rw [Function.update_of_ne hself] at hunpublished
          rcases honly pub hpub with hold | rfl
          · exact h.shared.unpublished node hunpublished pub hold heq
          · exact hself heq.symm
      · split
        · exact List.subset_cons_self _ _
        · exact List.Subset.refl _
      · intro hattach
        rw [hlocal, reservedAttachNode]
        by_cases hown : call.pub.isLocal = true ∧ s.record.spec.filesystemAdoption.isNone = true
        · right
          rw [hbumps.spec, if_pos hown]
          exact ⟨.head _, hattachable hown.1 hown.2⟩
        · left
          rw [if_neg hown]
    · intro other
      exact (h.threads other).mono (grows_committed hbumps)
  have hmem : pvs ∈ (s.reserve pvs call.pub).history := (.head _)
  refine Inv.finishPublish hinv (.tail _ hpvs) hrevoking
    ⟨rfl, pvs, hmem, rfl⟩ ?_ ?_ ?_
  · intro hremote
    exact ⟨pvs, hmem, rfl, hreserved, hrevoking, hremote⟩
  · intro hfresh hremote hempty
    refine ⟨pvs, hmem, rfl, ?_⟩
    rw [hlocal, reservedAttachNode, if_neg (by simp [hremote])]
    exact hknows hfresh hremote hempty
  · intro hpub hblock
    refine ⟨pvs, hmem, rfl, ?_⟩
    have hnone : s.record.spec.filesystemAdoption.isNone = true := by
      rw [← (h.shared.fixed _ hpvs).1]
      simpa using hblock
    rw [hlocal, reservedAttachNode, if_pos ⟨hpub, hnone⟩]
    exact hnode

theorem Inv.clear_committed (hcall : ProtocolCall s call)
    (hstill : recorded → call.pub ∈ s.record.publishedNodes)
    (hupdate : s.updateRecord driver call.pvs.uid
      (.clearLocalAttachNode call.pvs.localAttachNode) = .committed pvs) :
    Inv recorded fresh ((s.store pvs).call tid (.setLocalAttach false filesystem (tokenOf pvs))
      (.opening call added (tokenOf pvs))) := by
  obtain ⟨next, hmutate, hnext, hbumps⟩ := updateRecord_committed hupdate rfl
  obtain ⟨-, -, rfl⟩ := clearLocalAttachNode_ok hmutate
  have hpubs : pvs.publishedNodes = s.record.publishedNodes := by rw [hnext]
  have hlocal : pvs.localAttachNode = "" := by rw [hnext]
  have hinv : Inv recorded fresh (s.store pvs) :=
    Inv.store_of_map h hbumps (by rw [hpubs]) (fun hattach => absurd hlocal hattach)
  have hmem : pvs ∈ (s.store pvs).history := (.head _)
  have hfence : Issued (s.store pvs) (tokenOf pvs) := ⟨rfl, pvs, hmem, rfl⟩
  refine Inv.callOpening hinv ⟨.tail _ hcall.1, hcall.2⟩ hfence ?_ ?_
  · intro hrecorded
    exact ⟨pvs, hmem, rfl, hpubs ▸ hstill hrecorded, hcall.2⟩
  · intro _
    exact ⟨pvs, hmem, rfl, hlocal⟩

theorem Inv.clear_unchanged (hcall : ProtocolCall s call)
    (hstill : recorded → call.pub ∈ s.record.publishedNodes)
    (hknows : fresh → s.record.localAttachNode = call.pvs.localAttachNode ∨
      s.record.localAttachNode = "") (hupdate : s.updateRecord driver call.pvs.uid
      (.clearLocalAttachNode call.pvs.localAttachNode) = .unchanged pvs) :
    Inv recorded fresh (s.call tid (.setLocalAttach false filesystem (tokenOf pvs))
      (.opening call added (tokenOf pvs))) := by
  obtain ⟨hpvs, hmutate⟩ := updateVolumeState_unchanged hupdate
  cases hpvs
  have hother : s.record.localAttachNode ≠ call.pvs.localAttachNode := by
    intro heq
    simp only [Mutation.mutate, clearLocalAttachNode, heq, ne_eq,
      not_true_eq_false, if_false, refuse] at hmutate
    split at hmutate <;> cases hmutate
  refine Inv.callOpening h hcall h.shared.issued_tokenOf ?_ ?_
  · intro hrecorded
    exact ⟨s.record, h.shared.current, rfl, hstill hrecorded, hcall.2⟩
  · intro hfresh
    exact ⟨s.record, h.shared.current, rfl, (hknows hfresh).resolve_left hother⟩

omit h in
theorem mem_revokeExpected {expected : VolumePublication}
    (h : expected ∈ pubs) : expected.revoke ∈ revokeExpected expected pubs := by
  induction pubs with
  | nil => exact absurd h List.not_mem_nil
  | cons cur rest ih =>
    unfold revokeExpected
    split
    · rename_i heq
      rw [heq]
      exact .head _
    · rename_i hne
      rcases List.mem_cons.mp h with heq | hrest
      · exact absurd heq.symm hne
      · exact .tail _ (ih hrest)

theorem Inv.compensate {tid : Nat}
    (hupdate : s.updateRecord driver call.pvs.uid (.fencePublication call.pub) = .committed pvs) :
    Inv recorded fresh ((s.store pvs).goto tid .idle) ∧ (call.pub ∈ s.record.publishedNodes →
        Inv recorded fresh ((s.store pvs).call tid (.denyInitiator call.pub (tokenOf pvs))
          (.undoing call (tokenOf pvs)))) := by
  obtain ⟨next, hmutate, hnext, hbumps⟩ := updateRecord_committed hupdate rfl
  obtain rfl := Except.ok.inj hmutate
  have hpubs : pvs.publishedNodes = revokeExpected call.pub s.record.publishedNodes := by rw [hnext]
  have hinv : Inv recorded fresh (s.store pvs) := by
    refine Inv.store_of_map h hbumps ?_ (fun _ => by rw [hnext])
    rw [hpubs, revokeExpected_map_unrevoked]
  refine ⟨Inv.gotoIdle hinv, fun hfound => ?_⟩
  have hmem : pvs ∈ (s.store pvs).history := (.head _)
  have hfence : Issued (s.store pvs) (tokenOf pvs) := ⟨rfl, pvs, hmem, rfl⟩
  refine hinv.call ⟨hfence, trivial⟩ fun hgrows => ⟨hfence.mono hgrows, ?_, sent_send _ _⟩
  exact ⟨pvs, hmem, rfl, hpubs ▸ mem_revokeExpected hfound, rfl⟩

theorem Inv.fence_committed {call : UnpublishCall} (hcall : call.pvs ∈ s.history)
    (hupdate : s.updateRecord driver call.pvs.uid (.fencePublications call.nodeID) =
      .committed pvs) : Inv recorded fresh ((s.store pvs).revokePublications tid call (tokenOf pvs)
      (revokedRecords call.nodeID s.record.publishedNodes)
      (revokedRecords call.nodeID s.record.publishedNodes) []) := by
  obtain ⟨next, hmutate, hnext, hbumps⟩ := updateRecord_committed hupdate rfl
  obtain ⟨-, rfl⟩ := fencePublications_ok hmutate
  have hpubs : pvs.publishedNodes = s.record.publishedNodes.map fun pub =>
      if selects call.nodeID pub then pub.revoke else pub := by
    rw [hnext]
  have hinv : Inv recorded fresh (s.store pvs) := by
    refine Inv.store_of_map h hbumps ?_ (fun _ => by rw [hnext])
    rw [hpubs, fence_map_unrevoked]
  have hmem : pvs ∈ (s.store pvs).history := (.head _)
  refine Inv.revokePublications hinv (.tail _ hcall) ⟨rfl, pvs, hmem, rfl⟩ _ _
    ?_ (fun node hnode => absurd hnode List.not_mem_nil)
  intro pub hpub
  obtain ⟨old, hold, rfl⟩ := List.mem_map.mp hpub
  obtain ⟨hrecorded, hselected⟩ := List.mem_filter.mp hold
  refine ⟨pvs, hmem, rfl, ?_, rfl⟩
  rw [hpubs]
  exact List.mem_map.mpr ⟨old, hrecorded, by rw [if_pos hselected]⟩

theorem Inv.updateThread (hstill : recorded → StillRecorded s (.update tid driver))
    (hknows : fresh → KnowsAttachNode s (.update tid driver))
    (hstep : s.updateThread tid driver = some t) : Inv recorded fresh t := by
  have hthread := h.threads tid
  have hidle : Inv recorded fresh (s.goto tid .idle) := Inv.gotoIdle h
  simp only [StillRecorded] at hstill
  simp only [KnowsAttachNode] at hknows
  unfold System.updateThread at hstep
  split at hstep
  · -- reserving
    rename_i call hpc
    rw [hpc] at hthread
    simp only [hpc] at hknows
    split at hstep
    · rename_i pvs hupdate
      cases hstep
      exact Inv.reserve h hthread hknows hupdate
    · cases hstep
      exact hidle
  · -- clearing
    rename_i call added hpc
    rw [hpc] at hthread
    simp only [hpc] at hknows hstill
    split at hstep
    · rename_i pvs hupdate
      cases hstep
      exact Inv.clear_committed h hthread hstill hupdate
    · rename_i pvs hupdate
      cases hstep
      exact Inv.clear_unchanged h hthread hstill hknows hupdate
    · cases hstep
      exact hidle
  · -- compensating
    rename_i call hpc
    split at hstep
    · rename_i pvs hupdate
      split at hstep
      · rename_i hfound
        cases hstep
        exact (Inv.compensate h hupdate).2 hfound
      · cases hstep
        exact (Inv.compensate h hupdate).1
    · cases hstep
      exact hidle
  · -- withdrawing
    rename_i call fence hpc
    rw [hpc] at hthread
    split at hstep
    · rename_i pvs hupdate
      cases hstep
      have hwithdrawn : ∀ token, some fence = some token → ∀ node ∈ [call.pub.nodeID],
          WithdrawnAt s token.generation node := by
        intro token htoken node hnode
        rw [← Option.some.inj htoken, List.mem_singleton.mp hnode]
        exact hthread
      exact Inv.gotoIdle (Inv.store_release h hwithdrawn (by simp) hupdate)
    · cases hstep
      exact hidle
  · -- fencing
    rename_i call hpc
    rw [hpc] at hthread
    split at hstep
    · rename_i pvs hupdate
      cases hstep
      exact Inv.fence_committed h hthread hupdate
    · cases hstep
      have hrelease : ThreadInv recorded fresh s (.releasing call none []) :=
        ⟨fun token htoken => absurd htoken (by simp), fun _ => rfl⟩
      exact h.goto hrelease
    · cases hstep
      exact hidle
  · -- detaching
    rename_i call fence done hpc
    rw [hpc] at hthread
    split at hstep
    · cases hstep
      exact hidle
    · split at hstep
      · cases hstep
        exact Inv.gotoReleasing h hthread.2
      · cases hstep
        refine h.call ⟨hthread.1, fun henter => absurd henter (by simp)⟩ fun hgrows => ?_
        exact ⟨hthread.1.mono hgrows, fun node hnode => (hthread.2 node hnode).mono hgrows⟩
  · -- releasing
    rename_i call fence done hpc
    rw [hpc] at hthread
    split at hstep
    · rename_i pvs hupdate
      cases hstep
      exact Inv.unpublishSucceeded (Inv.store_release h hthread.1 hthread.2 hupdate)
    · cases hstep
      exact Inv.unpublishSucceeded h
    · cases hstep
      exact hidle
  · cases hstep

theorem Inv.resume (hwaits : (s.threads tid).waitsFor = some id) (hacked : id ∈ s.acked) :
    Inv recorded fresh (s.resume tid (s.threads tid)) := by
  have hthread := h.threads tid
  generalize s.threads tid = thread at hwaits hthread
  cases thread with
  | attaching call id' => exact Inv.gotoIdle h
  | returning call added id' =>
    have hclearing : ThreadInv recorded fresh s (.clearing call added) := hthread
    exact h.goto hclearing
  | opening call added fence id' =>
    cases hwaits
    obtain ⟨hcall, hfence, hactive, hclosed, filesystem, hsent⟩ := hthread
    refine Inv.grantPublishedExport h hcall hfence hactive fun hfresh => ?_
    exact ⟨hclosed hfresh, fun _ => h.shared.acked _ hacked _ hsent⟩
  | allowing call added fence id' => exact Inv.publishSucceeded h hthread.2
  | undoing call fence id' =>
    cases hwaits
    obtain ⟨hfence, hrevoking, hsent⟩ := hthread
    have hwithdrawn : WithdrawnAt s fence.generation call.pub.revoke.nodeID :=
      h.shared.withdrawn hrevoking
        (.inr (.inr ⟨_, hacked, call.pub, fence, hsent, rfl, rfl⟩))
    have hwithdrawing : ThreadInv recorded fresh s (.withdrawing call fence) := hwithdrawn
    exact h.goto hwithdrawing
  | denying call fence revoke rest done pub id' =>
    cases hwaits
    obtain ⟨hpvs, hfence, hsent, hrevoking, hrest, hdone⟩ := hthread
    refine Inv.revokePublications h hpvs hfence rest _ hrest fun node hnode => ?_
    rcases List.mem_append.mp hnode with hold | hnew
    · exact hdone node hold
    · rw [List.mem_singleton.mp hnew]
      exact h.shared.withdrawn hrevoking
        (.inr (.inr ⟨_, hacked, pub, fence, hsent, rfl, rfl⟩))
  | detached call fence done id' => exact Inv.gotoReleasing h hthread.2
  | _ => cases hwaits

end

/-- The agent admitted request `id` and applied it, or failed half way. -/
structure Admitted (s : System) (id : Nat) (request : Request) (admission : FenceAdmission)
    (acl : List String) (acked : List Nat) : Prop where
  sent : s.sent[id]? = some request
  admits : Admits request.fence request.op s.mark admission
  answer : acl = request.applyACL s.acl ∧ acked = id :: s.acked ∨
    acl ⊆ s.acl ++ request.granted ∧ acked = s.acked

/-- The part of the state an admitted request changes. -/
def afterDelivery (s : System) (mark : FencingMark) (acl : List String)
    (localAttached : Bool) (acked : List Nat) : System :=
  { s with mark := some mark, acl := acl, localAttached := localAttached, acked := acked }

theorem deliver_cases (h : s.deliver id delivery = some t) :
    t = s ∨ ∃ request admission acl localAttached acked, Admitted s id request admission acl acked ∧
      t = afterDelivery s admission.next acl localAttached acked := by
  unfold System.deliver at h
  split at h
  · cases h
  · rename_i request hsent
    split at h
    · exact .inl (Option.some.inj h).symm
    · rename_i admission hadmitted
      have hadmits := admits_of_admitFencingToken hadmitted
      right
      split at h
      · exact ⟨request, admission, _, _, _, ⟨hsent, hadmits, .inl ⟨rfl, rfl⟩⟩,
          (Option.some.inj h).symm⟩
      · split at h
        · rename_i hincomplete
          exact ⟨request, admission, _, _, _, ⟨hsent, hadmits, .inr ⟨hincomplete.1, rfl⟩⟩,
            (Option.some.inj h).symm⟩
        · cases h

theorem AppliedAt.le_admitted {token : FencingToken} {op : FenceOp}
    {admission : FenceAdmission} (h : AppliedAt s g) (htoken : token.volumeUID = s.record.uid)
    (hadmits : Admits token op s.mark admission) : g ≤ token.generation := by
  obtain ⟨mark, hmark, huid, hle⟩ := h
  rw [hmark] at hadmits
  have hnext := (admits_le hadmits).generation
    (huid.trans (htoken.symm.trans (admits_next_volumeUID hadmits).symm))
  rw [admits_next_generation hadmits] at hnext
  exact hle.trans hnext

variable {request : Request}

theorem mem_applyACL {acl : List String}
    (h : initiator ∈ request.applyACL acl) : initiator ∈ request.granted ∨ initiator ∈ acl ∧
      ∀ pub fence, request = .denyInitiator pub fence → pub.initiatorID ≠ initiator := by
  cases request with
  | allowInitiator pub fence =>
    simp only [Request.applyACL] at h
    split at h
    · exact .inr ⟨h, fun _ _ hdeny => nomatch hdeny⟩
    · rcases List.mem_cons.mp h with rfl | hold
      · exact .inl (List.mem_singleton.mpr rfl)
      · exact .inr ⟨hold, fun _ _ hdeny => nomatch hdeny⟩
  | denyInitiator pub fence =>
    obtain ⟨hold, hother⟩ := List.mem_filter.mp h
    refine .inr ⟨hold, fun denied fence' hdeny => ?_⟩
    obtain ⟨rfl, -⟩ := Request.denyInitiator.inj hdeny
    exact fun heq => (of_decide_eq_true hother) heq.symm
  | setLocalAttach enter filesystem fence => exact .inr ⟨h, fun _ _ hdeny => nomatch hdeny⟩
  | reconcileState source desired =>
    simp only [Request.applyACL] at h
    cases hmanaged : managedInitiators desired with
    | none =>
      rw [hmanaged] at h
      exact .inr ⟨h, fun _ _ hdeny => nomatch hdeny⟩
    | some initiators =>
      rw [hmanaged] at h
      exact .inl (by simpa [Request.granted, hmanaged] using h)

theorem mem_managedInitiators (hdesired : reconcileVolumeExport source = some desired)
    (h : initiator ∈ (managedInitiators desired).getD []) :
    managesACL source = true ∧ ∃ pub ∈ source.publishedNodes,
      pub.revoking = false ∧ pub.isLocal = false ∧ pub.initiatorID = initiator := by
  obtain ⟨-, -, hadoption, -, hexports⟩ := reconcileVolumeExport_some hdesired
  unfold managedInitiators at h
  cases hfound : desired.exports.find? fun state =>
      state.aclEnabled || desired.filesystemAdoption.isSome with
  | none => simp [hfound] at h
  | some state =>
    have hmanaged := List.find?_some hfound
    have hmem := List.mem_of_find?_eq_some hfound
    rw [hexports] at hmem
    split at hmem
    · exact absurd hmem List.not_mem_nil
    · obtain ⟨spec, hspec, rfl⟩ := List.mem_map.mp hmem
      have hspec : source.exportSpec = some spec := by simpa using hspec
      rw [hadoption] at hmanaged
      refine ⟨?_, ?_⟩
      · simpa [managesACL, exportACLEnabled, hspec] using hmanaged
      · rw [hfound] at h
        obtain ⟨pub, hpub, hinitiator⟩ := List.mem_map.mp h
        obtain ⟨hrecorded, hactive⟩ := List.mem_filter.mp hpub
        simp only [Bool.not_eq_true', Bool.or_eq_false_iff] at hactive
        exact ⟨pub, hrecorded, hactive.1, hactive.2, hinitiator⟩

theorem SharedInv.active_of_granted (h : SharedInv recorded fresh s)
    (hrequest : RequestInv recorded s request) (hrecorded : recorded)
    (hmem : initiator ∈ request.granted) :
    managesACL s.record = true ∧ ∃ pub, ActiveAt s.history pub request.fence.generation ∧
      pub.initiatorID = initiator := by
  cases request with
  | allowInitiator pub fence =>
    rw [List.mem_singleton.mp hmem]
    exact ⟨hrequest.2.1, pub, hrequest.2.2 hrecorded, rfl⟩
  | denyInitiator pub fence | setLocalAttach enter filesystem fence =>
    exact absurd hmem List.not_mem_nil
  | reconcileState source desired =>
    obtain ⟨-, hsource, hdesired⟩ := hrequest
    obtain ⟨hmanaged, pub, hpub, hrevoking, hremote, rfl⟩ := mem_managedInitiators hdesired hmem
    obtain ⟨-, -, -, hfence, -⟩ := reconcileVolumeExport_some hdesired
    refine ⟨(h.managesACL_eq hsource).symm.trans hmanaged, pub,
      ⟨source, hsource, ?_, hpub, hrevoking, hremote⟩, rfl⟩
    rw [Request.fence, hfence]

section Admitted

variable {id : Nat} {request : Request} {admission : FenceAdmission} {acl : List String}
  {localAttached : Bool} {acked : List Nat}

variable (h : Admitted s id request admission acl acked)

include h

theorem Admitted.acked_subset : s.acked ⊆ acked := by
  rcases h.answer with ⟨-, rfl⟩ | ⟨-, rfl⟩
  · exact List.subset_cons_self _ _
  · exact List.Subset.refl _

theorem Admitted.mem_acked {other : Nat}
    (hother : other ∈ acked) : other ∈ s.acked ∨ other = id ∧ acl = request.applyACL s.acl := by
  rcases h.answer with ⟨hacl, rfl⟩ | ⟨-, rfl⟩
  · rcases List.mem_cons.mp hother with rfl | hold
    · exact .inr ⟨rfl, hacl⟩
    · exact .inl hold
  · exact .inl hother

theorem Admitted.mem_acl (hmem : initiator ∈ acl) :
    initiator ∈ request.granted ∨ initiator ∈ s.acl ∧
      (acl = request.applyACL s.acl → ∀ pub fence, request = .denyInitiator pub fence →
        pub.initiatorID ≠ initiator) := by
  by_cases hgranted : initiator ∈ request.granted
  · exact .inl hgranted
  · right
    rcases h.answer with ⟨rfl, -⟩ | ⟨hsub, -⟩
    · obtain ⟨hold, hother⟩ := (mem_applyACL hmem).resolve_left hgranted
      exact ⟨hold, fun _ => hother⟩
    · refine ⟨(List.mem_append.mp (hsub hmem)).resolve_right hgranted, fun hacl => ?_⟩
      rw [hacl] at hmem
      exact ((mem_applyACL hmem).resolve_left hgranted).2

section

variable (hshared : SharedInv recorded fresh s)

include hshared

theorem Admitted.applied_le (hg : AppliedAt s g) : g ≤ request.fence.generation :=
  AppliedAt.le_admitted hg (hshared.requests id request h.sent).1.1 h.admits

theorem Admitted.applied (hg : g ≤ request.fence.generation) :
    AppliedAt (afterDelivery s admission.next acl localAttached acked) g := by
  refine ⟨admission.next, rfl, ?_, ?_⟩
  · exact (admits_next_volumeUID h.admits).trans (hshared.requests id request h.sent).1.1
  · rw [admits_next_generation h.admits]
    exact hg

theorem Admitted.grows : Grows s (afterDelivery s admission.next acl localAttached acked) :=
  ⟨rfl, rfl, rfl, List.Subset.refl _, fun _ _ hsent => hsent, h.acked_subset,
    fun _ hg => h.applied hshared (h.applied_le hshared hg)⟩

theorem Admitted.denied {d : Nat}
    (hdenied : DeniedAt (afterDelivery s admission.next acl localAttached acked) initiator d) :
    d ≤ request.fence.generation ∧ (DeniedAt s initiator d ∨
      acl = request.applyACL s.acl ∧ ∃ pub fence, request = .denyInitiator pub fence ∧
        pub.initiatorID = initiator) := by
  obtain ⟨other, hother, pub, fence, hdeny, hinitiator, rfl⟩ := hdenied
  rcases h.mem_acked hother with hold | ⟨rfl, hacl⟩
  · exact ⟨h.applied_le hshared (hshared.acked other hold _ hdeny),
      .inl ⟨other, hold, pub, fence, hdeny, hinitiator, rfl⟩⟩
  · obtain rfl := Option.mem_unique h.sent hdeny
    exact ⟨Nat.le_refl _, .inr ⟨hacl, pub, fence, rfl, hinitiator⟩⟩

end

theorem Admitted.inv (hinv : Inv recorded fresh s) :
    Inv recorded fresh (afterDelivery s admission.next acl localAttached acked) := by
  have hrequest := hinv.shared.requests id request h.sent
  have hgrows : Grows s (afterDelivery s admission.next acl localAttached acked) :=
    h.grows hinv.shared
  constructor
  · exact
      { hinv.shared with
        requests := fun other old hold => (hinv.shared.requests other old hold).mono hgrows
        ackedSent := by
          intro other hother
          rcases h.mem_acked hother with hold | ⟨rfl, -⟩
          · exact hinv.shared.ackedSent other hold
          · exact (List.getElem?_eq_some_iff.mp h.sent).1
        acked := by
          intro other hother old hold
          rcases h.mem_acked hother with hbefore | ⟨rfl, -⟩
          · exact hgrows.applied _ (hinv.shared.acked other hbefore old hold)
          · obtain rfl := Option.mem_unique h.sent hold
            exact h.applied hinv.shared (Nat.le_refl _)
        acl := by
          intro hrecorded initiator hmem
          rcases h.mem_acl hmem with hgranted | ⟨hold, hother⟩
          · obtain ⟨hmanaged, pub, hactive, hinitiator⟩ :=
              SharedInv.active_of_granted hinv.shared hrequest hrecorded hgranted
            exact ⟨hmanaged, pub, _, hactive, hinitiator,
              fun d hd => (h.denied hinv.shared hd).1⟩
          · obtain ⟨hmanaged, pub, g, hactive, hinitiator, hlast⟩ :=
              hinv.shared.acl hrecorded initiator hold
            refine ⟨hmanaged, pub, g, hactive, hinitiator, fun d hd => ?_⟩
            rcases (h.denied hinv.shared hd).2 with hbefore | ⟨hacl, denied, fence, hdeny, heq⟩
            · exact hlast d hbefore
            · exact absurd heq (hother hacl denied fence hdeny)
        granted := by
          intro hmanaged pub g hactive
          rcases hinv.shared.granted hmanaged pub g hactive with hkept | ⟨d, hlt, hd⟩
          · exact .inl hkept
          · exact .inr ⟨d, hlt, hd.mono hgrows⟩
        opened := by
          intro hfresh g hg
          obtain ⟨hclosed, hreached⟩ := hinv.shared.opened hfresh g hg
          exact ⟨hclosed, fun hattachable => hgrows.applied g (hreached hattachable)⟩ }
  · intro other
    exact (hinv.threads other).mono hgrows

end Admitted

section

variable (h : Inv recorded fresh s)

include h

theorem Inv.deliver (hstep : s.deliver id delivery = some t) : Inv recorded fresh t := by
  rcases deliver_cases hstep with rfl | ⟨request, admission, acl, localAttached, acked,
    hadmitted, rfl⟩
  · exact h
  · exact hadmitted.inv h

omit h in
theorem SharedInv.refused (h : SharedInv recorded fresh s)
    (hsent : s.sent[id]? = some request) (hg : AppliedAt s g) (hlt : request.fence.generation < g)
    (hstep : s.deliver id delivery = some t) : t = s := by
  rcases deliver_cases hstep with rfl | ⟨request', admission, acl, localAttached, acked,
    hadmitted, rfl⟩
  · rfl
  · obtain rfl := Option.mem_unique hsent hadmitted.sent
    have hle := hadmitted.applied_le h hg
    omega

omit h in
theorem resolvePublishTarget_some {request : PublishRequest}
    (h : resolvePublishTarget pvs request = some pub) : pub.nodeID ≠ "" ∧ pub.revoking = false ∧
      (pub.isLocal = true → pvs.spec.filesystemAdoption.isNone = true → Attachable pvs) := by
  simp only [resolvePublishTarget] at h
  split at h
  · cases h
  rename_i hnode
  split at h
  · cases h
  split at h
  · cases h
  cases h
  refine ⟨hnode, rfl, fun hlocal hblock => ⟨hblock, ?_⟩⟩
  by_contra hremote
  simp [isLocalAttachPublish, hblock, hremote] at hlocal

theorem Inv.start {request : PublishRequest}
    (hpub : resolvePublishTarget s.record request = some pub) :
    Inv recorded fresh (s.goto tid (.reserving { pvs := s.record, pub := pub })) := by
  obtain ⟨hnode, hrevoking, hattachable⟩ := resolvePublishTarget_some hpub
  have hthread : ThreadInv recorded fresh s (.reserving { pvs := s.record, pub := pub }) :=
    ⟨h.shared.current, hrevoking, hnode, hattachable⟩
  exact h.goto hthread

omit h in
theorem ThreadInv.afterAbort {thread : Thread} (h : ThreadInv recorded fresh s thread) :
    ThreadInv recorded fresh s thread.afterAbort := by
  unfold Thread.afterAbort
  split
  · split
    · exact h.1
    · trivial
  · trivial

theorem Inv.resync (hsource : source ∈ s.history)
    (hdesired : reconcileVolumeExport source = some desired) :
    Inv recorded fresh (s.send (.reconcileState source desired)) := by
  obtain ⟨-, -, -, hfence, -⟩ := reconcileVolumeExport_some hdesired
  refine h.send ⟨⟨?_, source, hsource, ?_⟩, hsource, hdesired⟩
  · rw [Request.fence, hfence]
    exact (Evolves.uid (h.shared.evolves source hsource)).symm
  · rw [Request.fence, hfence]

theorem Inv.reboot : Inv recorded fresh { s with acl := [] } := by
  have hgrows : Grows s { s with acl := [] } :=
    ⟨rfl, rfl, rfl, List.Subset.refl _, fun _ _ h => h, List.Subset.refl _, fun _ h => h⟩
  constructor
  · exact { h.shared with acl := fun _ _ hmem => absurd hmem List.not_mem_nil }
  · exact fun tid => (h.threads tid).mono hgrows

theorem Inv.step {action : Action}
    (hstill : recorded → StillRecorded s action) (hknows : fresh → KnowsAttachNode s action)
    (hstep : step s action = some t) : Inv recorded fresh t := by
  cases action <;> simp only [PublishProtocol.step] at hstep
  case startPublish tid request =>
    split at hstep
    · rename_i pub hidle hpub
      cases hstep
      exact Inv.start h hpub
    · cases hstep
  case startUnpublish tid nodeID =>
    split at hstep
    · split at hstep
      · cases hstep
        have hthread : ThreadInv recorded fresh s
            (.fencing { pvs := s.record, nodeID := nodeID }) := h.shared.current
        exact h.goto hthread
      · cases hstep
        exact Inv.unpublishSucceeded h
    · cases hstep
  case update tid driver => exact Inv.updateThread h hstill hknows hstep
  case answer tid =>
    split at hstep
    · rename_i id hwaits
      obtain ⟨hacked, rfl⟩ := of_guard hstep
      exact Inv.resume h hwaits hacked
    · cases hstep
  case abort tid =>
    cases hstep
    exact h.goto (ThreadInv.afterAbort (h.threads tid))
  case resync k =>
    split at hstep
    · cases hstep
    · rename_i source hsource
      split at hstep
      · cases hstep
      · rename_i desired hdesired
        cases hstep
        exact Inv.resync h (List.mem_of_getElem? hsource) hdesired
  case deliver id delivery => exact Inv.deliver h hstep
  case reboot =>
    cases hstep
    exact Inv.reboot h

end

/-- A lifecycle before its first publication. -/
def NeverPublished (record : VolumeState) : Prop :=
  record.publishedNodes = [] ∧ record.localAttachNode = ""

theorem inv_init (h : NeverPublished record) (mark : Option FencingMark) (localAttached : Bool) :
    Inv recorded fresh (System.init record mark localAttached) := by
  have honly : ∀ pvs ∈ (System.init record mark localAttached).history, pvs = record :=
    fun pvs hmem => List.mem_singleton.mp hmem
  refine ⟨?_, fun _ => trivial⟩
  exact
    { current := List.mem_singleton.mpr rfl
      evolves := by
        intro pvs hmem
        rw [honly pvs hmem]
        exact .refl
      ordered := List.pairwise_singleton _ _
      consistent := by
        intro pvs hmem
        rw [honly pvs hmem]
        refine ⟨?_, fun _ => h.1⟩
        rw [h.1]
        exact List.Pairwise.nil
      fixed := by
        intro pvs hmem
        rw [honly pvs hmem]
        exact ⟨rfl, rfl⟩
      requests := fun _ _ hsent => nomatch hsent
      ackedSent := fun _ hid => absurd hid List.not_mem_nil
      acked := fun _ hid => absurd hid List.not_mem_nil
      acl := fun _ _ hmem => absurd hmem List.not_mem_nil
      granted := by
        rintro - pub g ⟨pvs, hmem, -, hpub, -⟩
        rw [honly pvs hmem, h.1] at hpub
        exact absurd hpub List.not_mem_nil
      unpublished := fun _ hnode => absurd hnode (by simp [System.init])
      attached := by
        intro pvs hmem hattach
        rw [honly pvs hmem] at hattach
        exact absurd h.2 hattach
      opened := fun _ _ hmem => absurd hmem List.not_mem_nil }

theorem inv_run (h : NeverPublished record) {mark : Option FencingMark}
    {localAttached : Bool} {actions : List Action} (hcond : AllSteps step
      (fun s action => (recorded → StillRecorded s action) ∧ (fresh → KnowsAttachNode s action))
      (System.init record mark localAttached) actions)
    (hrun : run step (System.init record mark localAttached) actions = some t) :
    Inv recorded fresh t :=
  invariant_run_of_allSteps (fun _ _ _ hinv hcond hstep => Inv.step hinv hcond.1 hcond.2 hstep)
    (inv_init h mark localAttached) hcond hrun

end PillarCsi.PublishSteps
