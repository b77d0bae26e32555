import Mathlib.Data.List.Pairwise
import PillarCsi.RecordHistory

/-!
The publications a record holds, over every history of compare-and-swap writes.
-/

namespace PillarCsi.PublicationExclusivity

open TransitionSystem OptimisticStore FencingAdmission VolumeRecord RecordMutations RecordHistory

/-- Distinct nodes whose access modes may be published together. -/
def Compatible (a b : VolumePublication) : Prop :=
  a.nodeID ≠ b.nodeID ∧ canSharePublication a b = true

def Exclusive (pubs : List VolumePublication) : Prop :=
  pubs.Pairwise Compatible

theorem canSharePublication_comm (a b : VolumePublication) :
    canSharePublication a b = canSharePublication b a := by
  unfold canSharePublication
  by_cases hmode : a.accessMode = b.accessMode
  · simp only [hmode, ne_eq, not_true_eq_false, if_false]
    cases b.accessMode <;> simp [Bool.or_comm]
  · have hmode' : b.accessMode ≠ a.accessMode := fun h => hmode h.symm
    simp [hmode, hmode']

instance : Std.Symm Compatible where
  symm _ _ h := ⟨h.1.symm, by rw [canSharePublication_comm]; exact h.2⟩

variable {pubs : List VolumePublication} {a b : VolumePublication} {volumeID : String}

theorem Exclusive.compatible (h : Exclusive pubs) (ha : a ∈ pubs) (hb : b ∈ pubs) (hne : a ≠ b) :
    Compatible a b :=
  List.Pairwise.forall h ha hb hne

theorem Exclusive.eq_of_nodeID (h : Exclusive pubs) (ha : a ∈ pubs) (hb : b ∈ pubs)
    (hnode : a.nodeID = b.nodeID) : a = b := by
  by_contra hne
  exact (h.compatible ha hb hne).1 hnode

theorem not_singleNode_of_canShare (h : canSharePublication a b = true) :
    a.accessMode = b.accessMode ∧ a.accessMode.singleNode = false ∧
      (a.accessMode = .multiNodeSingleWriter → a.readonly = true ∨ b.readonly = true) := by
  unfold canSharePublication at h
  by_cases hmode : a.accessMode = b.accessMode
  · simp only [hmode, ne_eq, not_true_eq_false, if_false] at h
    refine ⟨hmode, ?_, fun hwriter => ?_⟩
    · rw [hmode]
      cases hb : b.accessMode <;> simp_all [AccessMode.singleNode]
    · rw [hmode] at hwriter
      simpa [hwriter] using h
  · simp [hmode] at h

def unrevoked (pub : VolumePublication) : VolumePublication :=
  { pub with revoking := false }

theorem exclusive_iff_unrevoked (pubs : List VolumePublication) :
    Exclusive pubs ↔ Exclusive (pubs.map unrevoked) :=
  (List.pairwise_map (f := unrevoked) (R := Compatible) (l := pubs)).symm

theorem revokeExpected_map_unrevoked (expected : VolumePublication)
    (pubs : List VolumePublication) :
    (revokeExpected expected pubs).map unrevoked = pubs.map unrevoked := by
  induction pubs with
  | nil => rfl
  | cons cur rest ih =>
    unfold revokeExpected
    split
    · rfl
    · rw [List.map_cons, ih, List.map_cons]

theorem fence_map_unrevoked (nodeID : String) (pubs : List VolumePublication) :
    (pubs.map fun pub => if selects nodeID pub then pub.revoke else pub).map unrevoked =
      pubs.map unrevoked := by
  rw [List.map_map]
  apply List.map_congr_left
  intro pub _
  simp only [Function.comp_apply]
  split <;> rfl

variable {pub : VolumePublication}

theorem checkPublicationConflict_ok {cur : VolumePublication}
    (h : checkPublicationConflict volumeID cur pub = .ok ()) :
    Compatible cur pub ∨ cur = pub ∧ cur.revoking = false := by
  unfold checkPublicationConflict refuse at h
  by_cases hnode : cur.nodeID = pub.nodeID
  · simp only [hnode, ne_eq, not_true_eq_false, if_false] at h
    obtain ⟨hrevoking, h⟩ := ok_of_ite_error h
    by_cases heq : cur = pub
    · exact .inr ⟨heq, by simpa using hrevoking⟩
    · rw [if_neg heq] at h
      have hlocal := (ok_of_ite_error h).2
      exact absurd (ok_of_ite_error hlocal).2 (by simp)
  · rw [if_pos hnode] at h
    refine .inl ⟨hnode, ?_⟩
    by_contra hshare
    simp [hshare] at h

theorem scanPublications_append (h : scanPublications volumeID pub pubs = .ok true) :
    ∀ cur ∈ pubs, Compatible cur pub := by
  induction pubs with
  | nil => exact fun cur hcur => absurd hcur List.not_mem_nil
  | cons head rest ih =>
    unfold scanPublications at h
    split at h
    · cases h
    · rename_i hcheck
      split at h
      · cases h
      · rename_i hne
        intro cur hcur
        rcases List.mem_cons.mp hcur with rfl | hrest
        · exact (checkPublicationConflict_ok hcheck).resolve_right fun heq => hne heq.1
        · exact ih h cur hrest

theorem Exclusive.append (h : Exclusive pubs) (hpub : ∀ cur ∈ pubs, Compatible cur pub) :
    Exclusive (pubs ++ [pub]) := by
  refine List.pairwise_append.mpr ⟨h, List.pairwise_singleton _ _, fun cur hcur other hother => ?_⟩
  rw [List.mem_singleton.mp hother]
  exact hpub cur hcur

/-- What every record satisfies between two writes. -/
structure Consistent (pvs : VolumeState) : Prop where
  exclusive : Exclusive pvs.publishedNodes
  deleting_empty : pvs.deleting = true → pvs.publishedNodes = []

variable {pvs next : VolumeState}

theorem Consistent.of_same (h : Consistent pvs) (hpubs : next.publishedNodes = pvs.publishedNodes)
    (hdeleting : next.deleting = pvs.deleting) : Consistent next := by
  constructor
  · rw [hpubs]
    exact h.exclusive
  · rw [hpubs, hdeleting]
    exact h.deleting_empty

theorem Consistent.of_sublist (h : Consistent pvs)
    (hpubs : (next.publishedNodes.map unrevoked).Sublist (pvs.publishedNodes.map unrevoked))
    (hdeleting : next.deleting = pvs.deleting) : Consistent next := by
  constructor
  · rw [exclusive_iff_unrevoked]
    exact List.Pairwise.sublist hpubs ((exclusive_iff_unrevoked _).mp h.exclusive)
  · intro hnext
    rw [hdeleting] at hnext
    rw [h.deleting_empty hnext] at hpubs
    exact List.map_eq_nil_iff.mp (List.sublist_nil.mp hpubs)

theorem reservePublicationState_consistent (hpvs : Consistent pvs)
    (h : reservePublicationState volumeID pub pvs = .ok next) : Consistent next := by
  obtain ⟨hdeleting, ⟨_, rfl⟩ | ⟨hscan, rfl⟩⟩ := reservePublicationState_ok h
  · exact hpvs.of_same rfl rfl
  · constructor
    · exact hpvs.exclusive.append (scanPublications_append hscan)
    · intro hnext
      exact absurd hnext (by simp [hdeleting])

theorem mutate_consistent {m : Mutation} (hpvs : Consistent pvs) (h : m.mutate pvs = .ok next) :
    Consistent next ∧ (pvs.deleting = true → next.deleting = true) := by
  cases m with
  | reservePublicationState volumeID pub =>
    refine ⟨reservePublicationState_consistent hpvs h, fun hdeleting => ?_⟩
    rw [(reservePublicationState_ok h).1] at hdeleting
    exact absurd hdeleting (by simp)
  | clearLocalAttachNode node =>
    obtain ⟨-, -, rfl⟩ := clearLocalAttachNode_ok h
    exact ⟨hpvs.of_same rfl rfl, id⟩
  | fencePublication expected =>
    obtain rfl := Except.ok.inj h
    refine ⟨hpvs.of_sublist ?_ rfl, id⟩
    rw [revokeExpected_map_unrevoked]
  | fencePublications nodeID =>
    obtain ⟨-, rfl⟩ := fencePublications_ok h
    refine ⟨hpvs.of_sublist ?_ rfl, id⟩
    rw [fence_map_unrevoked]
  | releasePublication nodeIDs fence =>
    obtain ⟨rfl, -⟩ := releasePublication_ok h
    exact ⟨hpvs.of_sublist (List.filter_sublist.map unrevoked) rfl, id⟩
  | markVolumeDeleting volumeID reaping =>
    obtain ⟨-, -, hempty, -, rfl⟩ := markVolumeDeletingMutation_ok h
    exact ⟨⟨hpvs.exclusive, fun _ => hempty⟩, fun _ => rfl⟩
  | claimOperation volumeID =>
    obtain ⟨-, rfl⟩ := claimOperation_ok h
    exact ⟨hpvs, id⟩
  | startProvisioning | fillRecoveryWriteOnce | adoptRecoveryPhase | persistCreatePartial
  | persistVolumeReady =>
    obtain ⟨hpubs, hdeleting⟩ := (mutated_of_mutate h).of_not_bump rfl
    exact ⟨hpvs.of_same hpubs hdeleting, hdeleting.trans⟩

theorem Commit.consistent (hpvs : Consistent pvs) (h : Commit pvs next) :
    Consistent next ∧ (pvs.deleting = true → next.deleting = true) := by
  obtain ⟨m, mutated, hmutate, rfl⟩ := h
  obtain ⟨hmutated, hdeleting⟩ := mutate_consistent hpvs hmutate
  unfold bumped
  split
  · exact ⟨hmutated.of_same rfl rfl, hdeleting⟩
  · exact ⟨hmutated, hdeleting⟩

theorem Evolves.consistent {later : VolumeState} (hpvs : Consistent pvs) (h : Evolves pvs later) :
    Consistent later ∧ (pvs.deleting = true → later.deleting = true) := by
  induction h with
  | refl => exact ⟨hpvs, id⟩
  | tail _ hcommit ih =>
    obtain ⟨hnext, hdeleting⟩ := Commit.consistent ih.1 hcommit
    exact ⟨hnext, fun hstart => hdeleting (ih.2 hstart)⟩

theorem consistent_freshRecord (pvName uid : String) (recorded : Bool)
    (spec : VolumeStateSpec) : Consistent (freshRecord pvName uid recorded spec) :=
  ⟨.nil, fun _ => rfl⟩

theorem Traced.consistent {pvName : String} {resource : Resource}
    (h : Traced pvName resource) (hpvs : resource.record = some pvs) : Consistent pvs := by
  obtain ⟨-, recorded, spec, -, hevolves⟩ := h pvs hpvs
  exact (Evolves.consistent (consistent_freshRecord pvName pvs.uid recorded spec) hevolves).1

/-- In every state the controllers can bring a volume's record to, two recorded
publications name different nodes and may be published together, and a record
under deletion has none, now and for the rest of its lifecycle. -/
theorem publications_exclusive {ι : Type*} [DecidableEq ι] (pvName : String)
    (actions : List (StoreAction ι RecordWrite)) (s : RecordStore ι)
    (hrun : run (storeStep pvName) (Store.init Resource.empty) actions = some s)
    (pvs : VolumeState) (hpvs : s.object.value.record = some pvs) :
    (pvs.publishedNodes.map (·.nodeID)).Nodup ∧
      (∀ a ∈ pvs.publishedNodes, ∀ b ∈ pvs.publishedNodes, a.nodeID ≠ b.nodeID →
        canSharePublication a b = true ∧ a.accessMode = b.accessMode ∧
          a.accessMode.singleNode = false ∧ b.accessMode.singleNode = false ∧
          (a.accessMode = .multiNodeSingleWriter → a.readonly = true ∨ b.readonly = true)) ∧
      (pvs.deleting = true → pvs.publishedNodes = [] ∧
        ∀ more t later, run (storeStep pvName) s more = some t →
          t.object.value.record = some later → later.uid = pvs.uid →
          later.deleting = true ∧ later.publishedNodes = []) := by
  obtain ⟨hcoherent, htraced⟩ := reachable_traced hrun
  have hconsistent := Traced.consistent htraced hpvs
  refine ⟨?_, ?_, ?_⟩
  · exact List.pairwise_map.mpr (hconsistent.exclusive.imp fun hab => hab.1)
  · intro a ha b hb hnode
    have hshare := (hconsistent.exclusive.compatible ha hb fun hab => hnode (by rw [hab])).2
    obtain ⟨hmode, hmulti, hwriter⟩ := not_singleNode_of_canShare hshare
    exact ⟨hshare, hmode, hmulti, hmode ▸ hmulti, hwriter⟩
  · intro hdeleting
    refine ⟨hconsistent.deleting_empty hdeleting, fun more t later hmore hlater huid => ?_⟩
    obtain ⟨hnext, hstays⟩ := Evolves.consistent hconsistent
      (later_evolves hcoherent htraced hmore hpvs hlater huid)
    exact ⟨hstays hdeleting, hnext.deleting_empty (hstays hdeleting)⟩

def readerSpec : VolumeStateSpec :=
  { volumeID := "agent/nvmeof-tcp/lvm-lv/vg/pvc-1", agentVolumeID := "vg/pvc-1"
    agentRef := "agent", backendType := "lvm-lv", protocolType := "nvmeof-tcp" }

def reader (node : String) : VolumePublication :=
  { nodeID := node, initiatorID := node, accessMode := .multiNodeReaderOnly, readonly := true }

/-- Two controllers publish the volume to one node each.  The second loses the
race for its first write and reads again. -/
def twoReaders : List (StoreAction Nat RecordWrite) :=
  [ .read 0, .write 0 (.create "u1" true readerSpec),
    .read 0, .read 1,
    .write 0 (.update .block "u1" (.reservePublicationState "v" (reader "n1"))),
    .write 1 (.update .block "u1" (.reservePublicationState "v" (reader "n2"))),
    .read 1,
    .write 1 (.update .block "u1" (.reservePublicationState "v" (reader "n2"))) ]

theorem publications_exclusive_twoReaders :
    ∃ s pvs, run (storeStep "pvc-1") (Store.init Resource.empty) twoReaders = some s ∧
      s.object.value.record = some pvs ∧ pvs.publishedNodes = [reader "n1", reader "n2"] ∧
      (pvs.publishedNodes.map (·.nodeID)).Nodup := by
  refine ⟨_, _, rfl, rfl, rfl, ?_⟩
  exact (publications_exclusive "pvc-1" twoReaders _ rfl _ rfl).1

end PillarCsi.PublicationExclusivity
