import PillarCsi.History
import PillarCsi.MarkOrder
import PillarCsi.PublicationExclusivity
import PillarCsi.PublishProtocol

/-!
The invariant of publish, unpublish and resync.

Everything is stated against the generations of the committed records: a grant
names a publication that was active at its generation, a revoke names one that
was revoking at its generation, and the agent's mark never goes back.  What a
call assumes is stable under the steps of every other call (`Grows`).

Two facts depend on what the calls read: that a publish still finds its own
record when it clears the local-attach node (`recorded`), and that it knows the
local-attach node its reservation is based on (`fresh`).  The invariant carries
what follows from each under that assumption only.
-/

namespace PillarCsi.PublishInvariant

open History FencingAdmission VolumeRecord RecordMutations RecordHistory
open PublicationExclusivity DesiredExport PublishProtocol

variable (history : List VolumeState)

def ActiveAt (pub : VolumePublication) (g : Nat) : Prop :=
  ∃ pvs ∈ history, pvs.publicationGeneration = g ∧ pub ∈ pvs.publishedNodes ∧
    pub.revoking = false ∧ pub.isLocal = false

def RevokingAt (pub : VolumePublication) (g : Nat) : Prop :=
  ∃ pvs ∈ history, pvs.publicationGeneration = g ∧ pub ∈ pvs.publishedNodes ∧
    pub.revoking = true

def ClosedAt (g : Nat) : Prop :=
  ∃ pvs ∈ history, pvs.publicationGeneration = g ∧ pvs.localAttachNode = ""

variable (s : System)

/-- The agent confirmed a revoke of the initiator at generation `g`. -/
def DeniedAt (initiatorID : String) (g : Nat) : Prop :=
  ∃ id ∈ s.acked, ∃ pub fence, s.sent[id]? = some (.denyInitiator pub fence) ∧
    pub.initiatorID = initiatorID ∧ fence.generation = g

def AppliedAt (g : Nat) : Prop :=
  ∃ mark, s.mark = some mark ∧ mark.volumeUID = s.record.uid ∧ g ≤ mark.generation

/-- Whatever the record of generation `g` holds for `node` may be dropped. -/
def WithdrawnAt (g : Nat) (node : String) : Prop :=
  ∃ pvs ∈ s.history, pvs.publicationGeneration = g ∧
    ∀ pub ∈ pvs.publishedNodes, pub.nodeID = node →
      pub.revoking = true ∧
        (pub.isLocal = true ∨ managesACL pvs = false ∨ DeniedAt s pub.initiatorID g)

/-- A token of this lifecycle whose generation was committed. -/
def Issued (fence : FencingToken) : Prop :=
  fence.volumeUID = s.record.uid ∧
    ∃ pvs ∈ s.history, pvs.publicationGeneration = fence.generation

/-- A block volume that may be attached directly on its storage node. -/
def Attachable (pvs : VolumeState) : Prop :=
  pvs.spec.filesystemAdoption.isNone = true ∧ pvs.spec.resolved.any (·.localAttach) = true

def ProtocolCall (call : PublishCall) : Prop :=
  call.pvs ∈ s.history ∧ call.pub.revoking = false ∧ call.pub.isLocal = false

variable (recorded fresh : Prop) {pvs' : VolumeState} {history history' : List VolumeState}
  {pub : VolumePublication} {initiator : String} {thread : Thread} {tid : Nat}

def RequestInv (s : System) (request : Request) : Prop :=
  Issued s request.fence ∧
    match request with
    | .allowInitiator pub fence =>
      managesACL s.record = true ∧ (recorded → ActiveAt s.history pub fence.generation)
    | .denyInitiator _ _ => True
    | .setLocalAttach enter filesystem fence =>
      enter = true → filesystem = false →
        ∃ pvs ∈ s.history, pvs.publicationGeneration = fence.generation ∧
          pvs.localAttachNode ≠ ""
    | .reconcileState source desired =>
      source ∈ s.history ∧ reconcileVolumeExport source = some desired

def ThreadInv (s : System) : Thread → Prop
  | .idle | .attaching _ _ => True
  | .reserving call =>
    call.pvs ∈ s.history ∧ call.pub.revoking = false ∧ call.pub.nodeID ≠ "" ∧
      (call.pub.isLocal = true → s.record.spec.filesystemAdoption.isNone = true →
        Attachable s.record)
  | .returning call _ _ | .clearing call _ | .compensating call => ProtocolCall s call
  | .opening call _ fence id =>
    ProtocolCall s call ∧ Issued s fence ∧
      (recorded → ActiveAt s.history call.pub fence.generation) ∧
      (fresh → ClosedAt s.history fence.generation) ∧
      ∃ filesystem, s.sent[id]? = some (.setLocalAttach false filesystem fence)
  | .allowing call _ fence _ =>
    ProtocolCall s call ∧
      (fresh → ClosedAt s.history fence.generation ∧
        (Attachable s.record → AppliedAt s fence.generation))
  | .undoing call fence id =>
    Issued s fence ∧ RevokingAt s.history call.pub.revoke fence.generation ∧
      s.sent[id]? = some (.denyInitiator call.pub fence)
  | .withdrawing call fence => WithdrawnAt s fence.generation call.pub.nodeID
  | .fencing call => call.pvs ∈ s.history
  | .denying call fence _ rest done pub id =>
    call.pvs ∈ s.history ∧ Issued s fence ∧
      s.sent[id]? = some (.denyInitiator pub fence) ∧
      RevokingAt s.history pub fence.generation ∧
      (∀ other ∈ rest, RevokingAt s.history other fence.generation) ∧
      ∀ node ∈ done, WithdrawnAt s fence.generation node
  | .detaching _ fence done | .detached _ fence done _ =>
    Issued s fence ∧ ∀ node ∈ done, WithdrawnAt s fence.generation node
  | .releasing _ fence done =>
    (∀ token, fence = some token → ∀ node ∈ done, WithdrawnAt s token.generation node) ∧
      (fence = none → done = [])

/-- The part of the invariant that no thread takes part in. -/
structure SharedInv (s : System) : Prop where
  current : s.record ∈ s.history
  evolves : ∀ pvs ∈ s.history, Evolves pvs s.record
  ordered : s.history.Pairwise fun later earlier => Evolves earlier later
  consistent : ∀ pvs ∈ s.history, Consistent pvs
  fixed : ∀ pvs ∈ s.history, pvs.spec = s.record.spec ∧ pvs.exportSpec = s.record.exportSpec
  requests : ∀ (id : Nat) request, s.sent[id]? = some request → RequestInv recorded s request
  ackedSent : ∀ id ∈ s.acked, id < s.sent.length
  acked : ∀ id ∈ s.acked, ∀ request, s.sent[id]? = some request →
    AppliedAt s request.fence.generation
  /-- Who is in the ACL was granted after the last confirmed revoke. -/
  acl : recorded → ∀ initiator ∈ s.acl, managesACL s.record = true ∧
    ∃ pub g, ActiveAt s.history pub g ∧ pub.initiatorID = initiator ∧
      ∀ d, DeniedAt s initiator d → d ≤ g
  /-- A granted publication leaves the record only after its revoke. -/
  granted : managesACL s.record = true → ∀ pub g, ActiveAt s.history pub g →
    (∃ kept ∈ s.record.publishedNodes, unrevoked kept = unrevoked pub) ∨
      ∃ d, g < d ∧ DeniedAt s pub.initiatorID d
  unpublished : ∀ node, s.unpublished node = true →
    ∀ pub ∈ s.record.publishedNodes, pub.nodeID ≠ node
  attached : ∀ pvs ∈ s.history, pvs.localAttachNode ≠ "" → Attachable s.record ∧
    ∀ g, ClosedAt s.history g → g ≤ pvs.publicationGeneration →
      ∃ reservation ∈ s.localReservations, g < reservation
  opened : fresh → ∀ g ∈ s.opened, ClosedAt s.history g ∧
    (Attachable s.record → AppliedAt s g)

structure Inv (s : System) : Prop where
  shared : SharedInv recorded fresh s
  threads : ∀ tid, ThreadInv recorded fresh s (s.threads tid)

/-- What the steps of a system never take back. -/
structure Grows (s t : System) : Prop where
  uid : t.record.uid = s.record.uid
  spec : t.record.spec = s.record.spec
  exportSpec : t.record.exportSpec = s.record.exportSpec
  history : s.history ⊆ t.history
  sent : ∀ (id : Nat) request, s.sent[id]? = some request → t.sent[id]? = some request
  acked : s.acked ⊆ t.acked
  applied : ∀ g, AppliedAt s g → AppliedAt t g

variable {pvs : VolumeState}

theorem managesACL_congr (hspec : pvs'.spec = pvs.spec)
    (hexport : pvs'.exportSpec = pvs.exportSpec) : managesACL pvs' = managesACL pvs := by
  simp only [managesACL, exportACLEnabled, hspec, hexport]

theorem attachable_congr (hspec : pvs'.spec = pvs.spec) : Attachable pvs' ↔ Attachable pvs := by
  simp only [Attachable, hspec]

variable {recorded fresh : Prop} {s t : System} {g : Nat}

theorem exists_record_mono {P : VolumeState → Prop} (hsub : history ⊆ history')
    (h : ∃ pvs ∈ history, P pvs) : ∃ pvs ∈ history', P pvs := by
  obtain ⟨pvs, hmem, hrest⟩ := h
  exact ⟨pvs, hsub hmem, hrest⟩

theorem ActiveAt.mono (hsub : history ⊆ history') (h : ActiveAt history pub g) :
    ActiveAt history' pub g := exists_record_mono hsub h

theorem RevokingAt.mono (hsub : history ⊆ history') (h : RevokingAt history pub g) :
    RevokingAt history' pub g := exists_record_mono hsub h

theorem ClosedAt.mono (hsub : history ⊆ history') (h : ClosedAt history g) :
    ClosedAt history' g := exists_record_mono hsub h

theorem DeniedAt.mono (hgrows : Grows s t)
    (h : DeniedAt s initiator g) : DeniedAt t initiator g := by
  obtain ⟨id, hacked, pub, fence, hsent, hrest⟩ := h
  exact ⟨id, hgrows.acked hacked, pub, fence, hgrows.sent id _ hsent, hrest⟩

theorem WithdrawnAt.mono {node : String} (hgrows : Grows s t)
    (h : WithdrawnAt s g node) : WithdrawnAt t g node := by
  obtain ⟨pvs, hmem, hgeneration, hpubs⟩ := h
  refine ⟨pvs, hgrows.history hmem, hgeneration, fun pub hpub hnode => ?_⟩
  obtain ⟨hrevoking, hdone⟩ := hpubs pub hpub hnode
  exact ⟨hrevoking, hdone.imp_right (Or.imp_right (DeniedAt.mono hgrows))⟩

theorem Issued.mono {fence : FencingToken} (hgrows : Grows s t) (h : Issued s fence) :
    Issued t fence := by
  exact ⟨h.1.trans hgrows.uid.symm, exists_record_mono hgrows.history h.2⟩

theorem ProtocolCall.mono {call : PublishCall} (hgrows : Grows s t)
    (h : ProtocolCall s call) : ProtocolCall t call :=
  ⟨hgrows.history h.1, h.2⟩

variable {request : Request}

theorem RequestInv.mono (hgrows : Grows s t)
    (h : RequestInv recorded s request) : RequestInv recorded t request := by
  refine ⟨h.1.mono hgrows, ?_⟩
  cases request with
  | allowInitiator pub fence =>
    refine ⟨?_, fun hrecorded => (h.2.2 hrecorded).mono hgrows.history⟩
    rw [managesACL_congr hgrows.spec hgrows.exportSpec]
    exact h.2.1
  | denyInitiator pub fence => trivial
  | setLocalAttach enter filesystem fence =>
    exact fun henter hblock => exists_record_mono hgrows.history (h.2 henter hblock)
  | reconcileState source desired => exact ⟨hgrows.history h.2.1, h.2.2⟩

theorem ThreadInv.mono (hgrows : Grows s t)
    (h : ThreadInv recorded fresh s thread) : ThreadInv recorded fresh t thread := by
  cases thread with
  | idle | attaching call id => trivial
  | reserving call =>
    obtain ⟨hpvs, hrevoking, hnode, hlocal⟩ := h
    refine ⟨hgrows.history hpvs, hrevoking, hnode, fun hpub hblock => ?_⟩
    rw [attachable_congr hgrows.spec]
    rw [hgrows.spec] at hblock
    exact hlocal hpub hblock
  | returning call added id | clearing call added | compensating call =>
    exact ProtocolCall.mono hgrows h
  | opening call added fence id =>
    obtain ⟨hcall, hfence, hactive, hclosed, filesystem, hsent⟩ := h
    exact ⟨hcall.mono hgrows, hfence.mono hgrows,
      fun hrecorded => (hactive hrecorded).mono hgrows.history,
      fun hfresh => (hclosed hfresh).mono hgrows.history,
      filesystem, hgrows.sent id _ hsent⟩
  | allowing call added fence id =>
    refine ⟨h.1.mono hgrows, fun hfresh => ⟨(h.2 hfresh).1.mono hgrows.history, ?_⟩⟩
    rw [attachable_congr hgrows.spec]
    exact fun hattachable => hgrows.applied _ ((h.2 hfresh).2 hattachable)
  | undoing call fence id =>
    exact ⟨h.1.mono hgrows, h.2.1.mono hgrows.history, hgrows.sent id _ h.2.2⟩
  | withdrawing call fence => exact WithdrawnAt.mono hgrows h
  | fencing call => exact hgrows.history h
  | denying call fence revoke rest done pub id =>
    obtain ⟨hpvs, hfence, hsent, hrevoking, hrest, hdone⟩ := h
    exact ⟨hgrows.history hpvs, hfence.mono hgrows, hgrows.sent id _ hsent,
      hrevoking.mono hgrows.history,
      fun other hother => (hrest other hother).mono hgrows.history,
      fun node hnode => (hdone node hnode).mono hgrows⟩
  | detaching call fence done | detached call fence done id =>
    exact ⟨h.1.mono hgrows, fun node hnode => (h.2 node hnode).mono hgrows⟩
  | releasing call fence done =>
    exact ⟨fun token htoken node hnode => (h.1 token htoken node hnode).mono hgrows, h.2⟩

section

variable (h : SharedInv recorded fresh s)

include h

theorem SharedInv.generation_le
    (hmem : pvs ∈ s.history) : pvs.publicationGeneration ≤ s.record.publicationGeneration :=
  (Evolves.generation (h.evolves pvs hmem)).1

theorem SharedInv.at_current (hmem : pvs ∈ s.history)
    (hgeneration : pvs.publicationGeneration = s.record.publicationGeneration) :
    pvs.publishedNodes = s.record.publishedNodes ∧
      pvs.localAttachNode = s.record.localAttachNode := by
  obtain ⟨hpubs, hlocal⟩ := (Evolves.generation (h.evolves pvs hmem)).2 hgeneration.symm
  exact ⟨hpubs.symm, hlocal.symm⟩

theorem SharedInv.managesACL_eq (hmem : pvs ∈ s.history) : managesACL pvs = managesACL s.record :=
  managesACL_congr (h.fixed pvs hmem).1 (h.fixed pvs hmem).2

theorem SharedInv.denied_applied (hdenied : DeniedAt s initiator g) : AppliedAt s g := by
  obtain ⟨id, hacked, pub, fence, hsent, -, rfl⟩ := hdenied
  exact h.acked id hacked _ hsent

theorem SharedInv.issued_tokenOf : Issued s (tokenOf s.record) :=
  ⟨rfl, s.record, h.current, rfl⟩

theorem SharedInv.withdrawn (hrevoking : RevokingAt s.history pub g)
    (hdone : pub.isLocal = true ∨ managesACL s.record = false ∨ DeniedAt s pub.initiatorID g) :
    WithdrawnAt s g pub.nodeID := by
  obtain ⟨pvs, hmem, hgeneration, hpub, hrevoked⟩ := hrevoking
  refine ⟨pvs, hmem, hgeneration, fun other hother hnode => ?_⟩
  obtain rfl := (h.consistent pvs hmem).exclusive.eq_of_nodeID hother hpub hnode
  rw [h.managesACL_eq hmem]
  exact ⟨hrevoked, hdone⟩

end

theorem grows_goto (s : System) (tid : Nat) (thread : Thread) : Grows s (s.goto tid thread) :=
  ⟨rfl, rfl, rfl, List.Subset.refl _, fun _ _ h => h, List.Subset.refl _, fun _ h => h⟩

theorem threads_update {threads : Nat → Thread} {other : Nat}
    {motive : Thread → Prop} (hself : motive thread) (hothers : motive (threads other)) :
    motive (Function.update threads tid thread other) := by
  by_cases h : other = tid
  · rw [h, Function.update_self]
    exact hself
  · rw [Function.update_of_ne h]
    exact hothers

theorem Inv.goto (h : Inv recorded fresh s)
    (hthread : ThreadInv recorded fresh s thread) : Inv recorded fresh (s.goto tid thread) := by
  constructor
  · exact { h.shared with }
  · intro other
    exact threads_update (hthread.mono (grows_goto s tid thread))
      ((h.threads other).mono (grows_goto s tid thread))

theorem grows_send (s : System) (request : Request) : Grows s (s.send request) := by
  refine ⟨rfl, rfl, rfl, List.Subset.refl _, fun id old hold => ?_, List.Subset.refl _,
    fun _ h => h⟩
  exact getElem?_concat_of_some hold

theorem sent_send (s : System) (request : Request) :
    (s.send request).sent[s.sent.length]? = some request := by
  simp [System.send]

theorem sent_send_cases {old : Request} {id : Nat} (h : (s.send request).sent[id]? = some old) :
    s.sent[id]? = some old ∨ id = s.sent.length ∧ old = request :=
  getElem?_concat_cases h

theorem SharedInv.denied_of_send (h : SharedInv recorded fresh s)
    (hdenied : DeniedAt (s.send request) initiator g) : DeniedAt s initiator g := by
  obtain ⟨id, hacked, pub, fence, hsent, hrest⟩ := hdenied
  refine ⟨id, hacked, pub, fence, ?_, hrest⟩
  rcases sent_send_cases hsent with hold | ⟨rfl, -⟩
  · exact hold
  · exact absurd (h.ackedSent _ hacked) (Nat.lt_irrefl _)

theorem Inv.send (h : Inv recorded fresh s)
    (hrequest : RequestInv recorded s request) : Inv recorded fresh (s.send request) := by
  have hgrows := grows_send s request
  constructor
  · exact
      { h.shared with
        requests := by
          intro id old hold
          rcases sent_send_cases hold with hold | ⟨-, rfl⟩
          · exact (h.shared.requests id old hold).mono hgrows
          · exact hrequest.mono hgrows
        ackedSent := by
          intro id hid
          have hlt := h.shared.ackedSent id hid
          simp only [System.send, List.length_append]
          omega
        acked := by
          intro id hid old hold
          rcases sent_send_cases hold with hold | ⟨rfl, -⟩
          · exact h.shared.acked id hid old hold
          · exact absurd (h.shared.ackedSent _ hid) (Nat.lt_irrefl _)
        acl := by
          intro hrecorded initiator hmem
          obtain ⟨hmanaged, pub, g, hactive, hinitiator, hdenied⟩ :=
            h.shared.acl hrecorded initiator hmem
          exact ⟨hmanaged, pub, g, hactive, hinitiator,
            fun d hd => hdenied d (h.shared.denied_of_send hd)⟩
        granted := by
          intro hmanaged pub g hactive
          rcases h.shared.granted hmanaged pub g hactive with hkept | ⟨d, hlt, hdenied⟩
          · exact .inl hkept
          · exact .inr ⟨d, hlt, hdenied.mono hgrows⟩ }
  · intro other
    exact (h.threads other).mono hgrows

theorem Inv.call (h : Inv recorded fresh s)
    {wait : Nat → Thread} (hrequest : RequestInv recorded s request)
    (hwait : Grows s (s.send request) →
      ThreadInv recorded fresh (s.send request) (wait s.sent.length)) :
    Inv recorded fresh (s.call tid request wait) :=
  (h.send hrequest).goto (hwait (grows_send s request))

/-- The next record of the lifecycle, one generation on. -/
structure Bumps (old new : VolumeState) : Prop where
  commit : Commit old new
  generation : new.publicationGeneration = old.publicationGeneration + 1
  spec : new.spec = old.spec
  exportSpec : new.exportSpec = old.exportSpec

theorem updateRecord_committed {driver : CSIDriver} {uid : String} {m : Mutation}
    (h : s.updateRecord driver uid m = .committed pvs) (hbump : m.bump = true) :
    ∃ next, m.mutate s.record = .ok next ∧
      pvs = { next with publicationGeneration := next.publicationGeneration + 1 } ∧
      Bumps s.record pvs := by
  obtain ⟨old, next, hold, -, hmutate, hpvs⟩ := updateVolumeState_committed h
  cases hold
  have hbumped : pvs = { next with publicationGeneration := next.publicationGeneration + 1 } := by
    rw [hpvs, hbump]
    rfl
  have hmutated := mutated_of_mutate hmutate
  rw [← hpvs] at hmutated
  refine ⟨next, hmutate, hbumped, ⟨m, next, hmutate, hpvs⟩, ?_, ?_, ?_⟩
  all_goals
    rw [hmutated.of_bump hbump]

section Commit

variable {pvs : VolumeState} {unpublished : String → Bool} {reservations : List Nat}

/-- The system after a write, with what it records about the calls. -/
def committed (s : System) (pvs : VolumeState) (unpublished : String → Bool)
    (reservations : List Nat) : System :=
  { s with
    record := pvs, history := pvs :: s.history
    unpublished := unpublished, localReservations := reservations }

theorem grows_committed (hbumps : Bumps s.record pvs) :
    Grows s (committed s pvs unpublished reservations) := by
  refine ⟨hbumps.commit.uid, hbumps.spec, hbumps.exportSpec, List.subset_cons_self _ _,
    fun _ _ h => h, List.Subset.refl _, fun g hg => ?_⟩
  obtain ⟨mark, hmark, huid, hle⟩ := hg
  exact ⟨mark, hmark, huid.trans hbumps.commit.uid.symm, hle⟩

theorem closedAt_of_committed (hlt : g < pvs.publicationGeneration)
    (h : ClosedAt (pvs :: s.history) g) : ClosedAt s.history g := by
  obtain ⟨old, hmem, hgeneration, hlocal⟩ := h
  rcases List.mem_cons.mp hmem with rfl | hold
  · omega
  · exact ⟨old, hold, hgeneration, hlocal⟩

theorem SharedInv.not_closedAt (h : SharedInv recorded fresh s) (hbumps : Bumps s.record pvs)
    (hlocal : pvs.localAttachNode ≠ "") :
    ¬ ClosedAt (pvs :: s.history) pvs.publicationGeneration := by
  rintro ⟨old, hmem, hgeneration, hclosed⟩
  rcases List.mem_cons.mp hmem with rfl | hold
  · exact hlocal hclosed
  · have hle := h.generation_le hold
    have hnext := hbumps.generation
    omega

theorem SharedInv.committed (h : SharedInv recorded fresh s) (hbumps : Bumps s.record pvs)
    (hkept : managesACL s.record = true → ∀ pub g, ActiveAt s.history pub g →
      ∀ kept ∈ s.record.publishedNodes, unrevoked kept = unrevoked pub →
        (∃ kept' ∈ pvs.publishedNodes, unrevoked kept' = unrevoked pub) ∨
          ∃ d, g < d ∧ DeniedAt s pub.initiatorID d)
    (hunpublished : ∀ node, unpublished node = true → ∀ pub ∈ pvs.publishedNodes, pub.nodeID ≠ node)
    (hreservations : s.localReservations ⊆ reservations)
    (hlocal : pvs.localAttachNode ≠ "" → pvs.localAttachNode = s.record.localAttachNode ∨
      pvs.publicationGeneration ∈ reservations ∧ Attachable s.record) :
    SharedInv recorded fresh (committed s pvs unpublished reservations) := by
  have hgrows : Grows s (PublishInvariant.committed s pvs unpublished reservations) :=
    grows_committed hbumps
  have hmanages : managesACL pvs = managesACL s.record :=
    managesACL_congr hbumps.spec hbumps.exportSpec
  have hconsistent := Commit.consistent (h.consistent _ h.current) hbumps.commit
  exact
    { h with
      current := (.head _)
      evolves := by
        intro old hold
        rcases List.mem_cons.mp hold with rfl | hold
        · exact .refl
        · exact (h.evolves old hold).tail hbumps.commit
      ordered := by
        refine List.pairwise_cons.mpr ⟨fun old hold => ?_, h.ordered⟩
        exact (h.evolves old hold).tail hbumps.commit
      consistent := by
        intro old hold
        rcases List.mem_cons.mp hold with rfl | hold
        · exact hconsistent.1
        · exact h.consistent old hold
      fixed := by
        intro old hold
        rcases List.mem_cons.mp hold with rfl | hold
        · exact ⟨rfl, rfl⟩
        · obtain ⟨hspec, hexport⟩ := h.fixed old hold
          exact ⟨hspec.trans hbumps.spec.symm, hexport.trans hbumps.exportSpec.symm⟩
      requests := fun id request hsent => (h.requests id request hsent).mono hgrows
      acked := fun id hid request hsent => hgrows.applied _ (h.acked id hid request hsent)
      acl := by
        intro hrecorded initiator hmem
        obtain ⟨hmanaged, pub, g, hactive, hrest⟩ := h.acl hrecorded initiator hmem
        exact ⟨hmanages.trans hmanaged, pub, g, hactive.mono hgrows.history, hrest⟩
      granted := by
        intro hmanaged pub g hactive
        obtain ⟨old, hmem, hgeneration, hpub, hrest⟩ := hactive
        rcases List.mem_cons.mp hmem with rfl | hold
        · exact .inl ⟨pub, hpub, rfl⟩
        · have hactive : ActiveAt s.history pub g := ⟨old, hold, hgeneration, hpub, hrest⟩
          have hmanaged : managesACL s.record = true := hmanages.symm.trans hmanaged
          rcases h.granted hmanaged pub g hactive with ⟨kept, hkeptMem, hsame⟩ | hdenied
          · exact hkept hmanaged pub g hactive kept hkeptMem hsame
          · exact .inr hdenied
      unpublished := hunpublished
      attached := by
        have hnext := hbumps.generation
        have hearlier : ∀ old ∈ s.history, old.localAttachNode ≠ "" → Attachable pvs ∧
            ∀ g, ClosedAt (pvs :: s.history) g → g ≤ old.publicationGeneration →
              ∃ reservation ∈ reservations, g < reservation := by
          intro old hold hattach
          obtain ⟨hcapable, hreserved⟩ := h.attached old hold hattach
          refine ⟨(attachable_congr hbumps.spec).mpr hcapable, fun g hclosed hle => ?_⟩
          have hgeneration := h.generation_le hold
          obtain ⟨reservation, hmem, hreservation⟩ :=
            hreserved g (closedAt_of_committed (by omega) hclosed) hle
          exact ⟨reservation, hreservations hmem, hreservation⟩
        intro old hold hattach
        rcases List.mem_cons.mp hold with rfl | hold
        · have hlt : ∀ g, ClosedAt (old :: s.history) g → g ≤ old.publicationGeneration →
              g < old.publicationGeneration := fun g hclosed hle =>
            lt_of_le_of_ne hle fun heq => h.not_closedAt hbumps hattach (heq ▸ hclosed)
          -- The new record kept the node, or it is itself a local reservation.
          rcases hlocal hattach with hsame | ⟨hreserved, hcapable⟩
          · obtain ⟨hcapable, hrest⟩ := hearlier _ h.current (hsame ▸ hattach)
            refine ⟨hcapable, fun g hclosed hle => hrest g hclosed ?_⟩
            have hbefore := hlt g hclosed hle
            omega
          · exact ⟨(attachable_congr hbumps.spec).mpr hcapable, fun g hclosed hle =>
              ⟨_, hreserved, hlt g hclosed hle⟩⟩
        · exact hearlier old hold hattach
      opened := by
        intro hfresh g hg
        obtain ⟨hclosed, happlied⟩ := h.opened hfresh g hg
        refine ⟨hclosed.mono hgrows.history, fun hattachable => ?_⟩
        exact hgrows.applied g (happlied ((attachable_congr hbumps.spec).mp hattachable)) }

end Commit

end PillarCsi.PublishInvariant
