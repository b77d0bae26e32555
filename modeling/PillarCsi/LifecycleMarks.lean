import PillarCsi.MarkWrites
import PillarCsi.VolumeLifecycle

/-!
The agent's mark of a volume while its lifecycle goes on: only the teardown of
the lifecycle ends or retires it, at the generation its record still has.
-/

namespace PillarCsi.LifecycleMarks

open DurableCell FencingAdmission MarkOrder FencedOperations OwnershipOperations AgentRuns
open MarkWrites VolumeRecord RecordMutations VolumeLifecycle

def Releases (pvs : VolumeState) : Prop :=
  releaseOnlyTeardown pvs = true ∨ pvs.spec.filesystemAdoption.isSome = true

/-- A mark the agent of `pvs`'s volume may hold.  While a recovery is `pending`
the volume may still belong to the lifecycle it is recovered from. -/
structure MarkInv (pending : Prop) (pvs : VolumeState) (m : FencingMark) : Prop where
  named : m.volumeUID ≠ ""
  owner : m.volumeUID = pvs.uid ∨ m.ended = true ∨ pending
  generation : m.volumeUID = pvs.uid → m.generation ≤ pvs.publicationGeneration
  ended : m.volumeUID = pvs.uid → m.ended = true →
    pvs.deleting = true ∧ m.generation = pvs.publicationGeneration
  retired : pvs.uid ∈ m.endedUIDs → pvs.deleting = true ∧ Releases pvs
  filesystem : ∀ adoption, pvs.spec.filesystemAdoption = some adoption →
    m.volumeUID = pvs.uid → pvs.uid ∉ m.endedUIDs →
      m.filesystem = some adoption ∧ m.filesystemVolumeID = pvs.spec.agentVolumeID

theorem MarkInv.imp {p q : Prop} {pvs : VolumeState} {m : FencingMark} (h : MarkInv p pvs m)
    (hpq : m.volumeUID ≠ pvs.uid → m.ended = false → p → q) : MarkInv q pvs m := by
  refine { h with owner := ?_ }
  by_cases howner : m.volumeUID = pvs.uid
  · exact .inl howner
  cases hended : m.ended with
  | true => exact .inr (.inl rfl)
  | false =>
    rcases h.owner with hself | hclosed | hp
    · exact absurd hself howner
    · rw [hended] at hclosed
      cases hclosed
    · exact .inr (.inr (hpq howner hended hp))

theorem MarkInv.commit {p : Prop} {pvs next : VolumeState} {m : FencingMark}
    (h : MarkInv p pvs m) (hsource : SameSource pvs next)
    (hgeneration : pvs.publicationGeneration ≤ next.publicationGeneration)
    (hkept : pvs.deleting = true → next.deleting = true ∧
      next.publicationGeneration = pvs.publicationGeneration ∧
      releaseOnlyTeardown next = releaseOnlyTeardown pvs) : MarkInv p next m where
  named := h.named
  owner := by
    rw [hsource.uid]
    exact h.owner
  generation := by
    rw [hsource.uid]
    exact fun howner => (h.generation howner).trans hgeneration
  ended := by
    rw [hsource.uid]
    intro howner hended
    obtain ⟨hdeleting, hmark⟩ := h.ended howner hended
    exact ⟨(hkept hdeleting).1, hmark.trans (hkept hdeleting).2.1.symm⟩
  retired := by
    rw [hsource.uid]
    intro hretired
    obtain ⟨hdeleting, hreleases⟩ := h.retired hretired
    refine ⟨(hkept hdeleting).1, ?_⟩
    unfold Releases at hreleases ⊢
    rw [(hkept hdeleting).2.2, hsource.filesystemAdoption]
    exact hreleases
  filesystem := by
    rw [hsource.uid, hsource.filesystemAdoption, hsource.agentVolumeID]
    exact h.filesystem

section Written

variable {p : Prop} {pvs : VolumeState} {token : FencingToken} {op : FenceOp}
  {stored : Option FencingMark} {adm : FenceAdmission} {m : FencingMark}

section

variable (hstored : ∀ x, stored = some x → MarkInv p pvs x)

include hstored

theorem ended_of_admits (htoken : token.volumeUID = pvs.uid) (hadm : Admits token op stored adm)
    (hended : adm.next.ended = true) :
    pvs.deleting = true ∧ token.generation = pvs.publicationGeneration := by
  obtain ⟨x, hx, howner, hxended, hgeneration⟩ :=
    admits_terminalRetry hadm (admits_ended hadm hended)
  obtain ⟨hdeleting, hmark⟩ := (hstored x hx).ended (howner.symm.trans htoken) hxended
  exact ⟨hdeleting, hgeneration.trans hmark⟩

variable (huid : pvs.uid ≠ "")

include huid

theorem markInv_of_sameOwner (htoken : token.volumeUID = pvs.uid)
    (hgeneration : token.generation ≤ pvs.publicationGeneration)
    (hadm : Admits token op stored adm) (hsame : SameOwner adm.next m)
    (hfilesystem : ∀ adoption, pvs.spec.filesystemAdoption = some adoption →
      m.filesystem = some adoption ∧ m.filesystemVolumeID = pvs.spec.agentVolumeID) :
    MarkInv p pvs m := by
  have howner : m.volumeUID = pvs.uid :=
    hsame.volumeUID.trans ((admits_next_volumeUID hadm).trans htoken)
  have hm : m.generation = token.generation := hsame.generation.trans (admits_next_generation hadm)
  refine ⟨howner ▸ huid, .inl howner, fun _ => hm ▸ hgeneration, ?_, ?_, ?_⟩
  · intro _ hended
    rw [hsame.ended] at hended
    obtain ⟨hdeleting, heq⟩ := ended_of_admits hstored htoken hadm hended
    exact ⟨hdeleting, hm.trans heq⟩
  · intro hretired
    rw [hsame.endedUIDs, ← htoken] at hretired
    exact absurd hretired (admits_not_retired hadm)
  · exact fun adoption hadoption _ _ => hfilesystem adoption hadoption

theorem markInv_of_admitted (htoken : token.volumeUID = pvs.uid)
    (hgeneration : token.generation ≤ pvs.publicationGeneration)
    (hblock : pvs.spec.filesystemAdoption = none) (hdestroy : op = .destroy → pvs.deleting = true ∧
      token.generation = pvs.publicationGeneration)
    (h : AdmittedMark token op stored m) : MarkInv p pvs m := by
  have hfilesystem : ∀ x : FencingMark, ∀ adoption,
      pvs.spec.filesystemAdoption = some adoption →
        x.filesystem = some adoption ∧ x.filesystemVolumeID = pvs.spec.agentVolumeID := by
    intro x adoption hadoption
    rw [hblock] at hadoption
    cases hadoption
  obtain ⟨adm, hadm, hsame | ⟨hop, hsame⟩⟩ := h
  · exact markInv_of_sameOwner hstored huid htoken hgeneration hadm hsame (hfilesystem m)
  · -- The destroy that ends the lifecycle carries the deletion's token.
    obtain ⟨hdeleting, heq⟩ := hdestroy hop
    have hnext : MarkInv p pvs adm.next :=
      markInv_of_sameOwner hstored huid htoken hgeneration hadm (SameOwner.refl _)
        (hfilesystem _)
    have hm : m.volumeUID = adm.next.volumeUID := hsame.volumeUID
    refine ⟨hm ▸ hnext.named, .inr (.inl hsame.ended), ?_, fun _ _ => ⟨hdeleting, ?_⟩, ?_, ?_⟩
    · rw [hm, hsame.generation]
      exact hnext.generation
    · rw [hsame.generation]
      exact (admits_next_generation hadm).trans heq
    · rw [hsame.endedUIDs]
      exact hnext.retired
    · exact fun adoption hadoption _ _ => hfilesystem m adoption hadoption

theorem markInv_of_filesystem {call : FilesystemCall} (htoken : token.volumeUID = pvs.uid)
    (hgeneration : token.generation ≤ pvs.publicationGeneration)
    (hadoption : pvs.spec.filesystemAdoption = some call.adoption)
    (hid : call.volumeID = pvs.spec.agentVolumeID)
    (h : FilesystemMark token op call stored m) : MarkInv p pvs m := by
  obtain ⟨⟨adm, hadm, hsame⟩, hfilesystem, hmark⟩ := h
  refine markInv_of_sameOwner hstored huid htoken hgeneration hadm hsame ?_
  intro adoption hother
  rw [hadoption] at hother
  rw [← Option.some.inj hother]
  exact ⟨hfilesystem, hmark.trans hid⟩

theorem markInv_of_retired (htoken : token.volumeUID = pvs.uid)
    (hgeneration : token.generation = pvs.publicationGeneration)
    (hdeleting : pvs.deleting = true) (hreleases : Releases pvs)
    (h : RetiredMark token stored m) : MarkInv p pvs m := by
  obtain ⟨hretired, ⟨howner, hm, hended⟩ | ⟨old, hold, hother, rfl⟩⟩ := h
  · rw [htoken] at howner hretired
    refine ⟨howner ▸ huid, .inl howner, fun _ => (hm.trans hgeneration).le, ?_,
      fun _ => ⟨hdeleting, hreleases⟩, fun _ _ _ hnot => absurd hretired hnot⟩
    exact fun _ _ => ⟨hdeleting, hm.trans hgeneration⟩
  · have hinv := hstored old hold
    rw [htoken] at hother
    exact ⟨hinv.named, hinv.owner, fun howner => absurd howner hother,
      fun howner => absurd howner hother, fun _ => ⟨hdeleting, hreleases⟩,
      fun _ _ howner => absurd howner hother⟩

end

theorem markInv_of_transfer {auth : RecoveryAuthorization} (huid : pvs.uid ≠ "")
    (hnew : auth.newVolumeUID = pvs.uid)
    (hgeneration : auth.newGeneration ≤ pvs.publicationGeneration)
    (hblock : pvs.spec.filesystemAdoption = none) (h : TransferMark auth m) : MarkInv p pvs m := by
  obtain ⟨howner, hm, hopen, hfresh⟩ := h
  rw [hnew] at howner hfresh
  refine ⟨howner ▸ huid, .inl howner, fun _ => hm ▸ hgeneration, ?_,
    fun hretired => absurd hretired hfresh, ?_⟩
  · intro _ hended
    rw [hopen] at hended
    cases hended
  · intro adoption hadoption
    rw [hblock] at hadoption
    cases hadoption

end Written

def FilesystemFor (pvs : VolumeState) (call : FilesystemCall) : Prop :=
  pvs.spec.filesystemAdoption = some call.adoption ∧ call.volumeID = pvs.spec.agentVolumeID

def DeletionToken (pvs : VolumeState) (token : FencingToken) : Prop :=
  pvs.deleting = true ∧ token.generation = pvs.publicationGeneration

/-- A request the lifecycle of `pvs` may have in the network. -/
structure RequestFor (pvs : VolumeState) (sent : SentRequest) : Prop where
  uid : sent.token.volumeUID = pvs.uid
  generation : sent.token.generation ≤ pvs.publicationGeneration
  kind : match sent.request with
    | .fenced call =>
      pvs.spec.filesystemAdoption = none ∧
        (call = .deleteVolume → DeletionToken pvs sent.token)
    | .importVolume _ _ => pvs.spec.filesystemAdoption = none
    | .filesystem _ call => FilesystemFor pvs call
    | .transferVolumeOwnership _ auth =>
      pvs.spec.filesystemAdoption = none ∧ auth.newVolumeUID = pvs.uid ∧
        auth.newGeneration ≤ pvs.publicationGeneration
    | .releaseVolume filesystem =>
      DeletionToken pvs sent.token ∧ Releases pvs ∧
        match filesystem with
        | none => pvs.spec.filesystemAdoption = none
        | some call => FilesystemFor pvs call

theorem op_destroy {call : FencedCall} (h : call.op = .destroy) : call = .deleteVolume := by
  cases call with
  | deleteVolume => rfl
  | _ => cases h

section Execute

variable {p : Prop} {pvs : VolumeState} {marks : MarkCell}

theorem visible_markInv (hmarks : ∀ m ∈ marks.values, MarkInv p pvs m) (m : FencingMark)
    (hm : marks.visible = some m) : MarkInv p pvs m :=
  hmarks m (Cell.mem_values_of_visible hm)

variable {sent : SentRequest} (huid : pvs.uid ≠ "") (hsent : RequestFor pvs sent)
  (hmarks : ∀ m ∈ marks.values, MarkInv p pvs m)

include huid hsent hmarks

variable (volumeID : String)

theorem executeFenced_marks (call : FencedCall) (env : AgentSurroundings)
    (hblock : pvs.spec.filesystemAdoption = none)
    (hdestroy : call = .deleteVolume → DeletionToken pvs sent.token) :
    ∀ m ∈ (executeFenced volumeID sent.token call env marks).marks.values, MarkInv p pvs m := by
  refine Cell.Writes.forall_values (fun m hm => ?_) hmarks
  refine (fencedChecked_writes volumeID sent.token call.op env.backend _ env.fenced marks m
    hm).imp_right ?_
  exact markInv_of_admitted (visible_markInv hmarks) huid hsent.uid hsent.generation hblock
    fun hop => hdestroy (op_destroy hop)

theorem executeFilesystem_marks (revoking : Bool) (call : FilesystemCall)
    (env : AgentSurroundings) (hcall : FilesystemFor pvs call) :
    ∀ m ∈ (executeFilesystem volumeID sent.token revoking call env marks).marks.values,
      MarkInv p pvs m := by
  refine Cell.Writes.forall_values (fun m hm => ?_) hmarks
  refine (filesystemOperation_writes call sent.token _ env.filesystem marks m hm).imp_right ?_
  exact markInv_of_filesystem (visible_markInv hmarks) huid hsent.uid hsent.generation
    hcall.1 hcall.2

theorem executeRetire_marks (unexported : Bool) (env : AgentSurroundings)
    (htoken : DeletionToken pvs sent.token) (hreleases : Releases pvs) :
    ∀ m ∈ (executeRetire volumeID sent.token unexported env marks).1.values, MarkInv p pvs m := by
  refine Cell.Writes.forall_values (fun m hm => ?_) hmarks
  refine (retireFence_writes unexported env.retire m hm).imp_right ?_
  exact markInv_of_retired (visible_markInv hmarks) huid hsent.uid htoken.2 htoken.1 hreleases

theorem execute_marks (env : AgentSurroundings) :
    ∀ m ∈ (execute volumeID sent env marks).1.values, MarkInv p pvs m := by
  have hkind := hsent.kind
  unfold execute
  split <;> rename_i hrequest <;> simp only [hrequest] at hkind
  · exact executeFenced_marks huid hsent hmarks volumeID _ env hkind.1 hkind.2
  · refine Cell.Writes.forall_values (fun m hm => ?_) hmarks
    refine (fencedImport_writes _ _ env.importing m hm).imp_right ?_
    exact markInv_of_admitted (visible_markInv hmarks) huid hsent.uid hsent.generation hkind
      (fun hop => nomatch hop)
  · exact executeFilesystem_marks huid hsent hmarks volumeID _ _ env hkind
  · refine Cell.Writes.forall_values (fun m hm => ?_) hmarks
    refine (transferVolumeOwnership_writes volumeID _ _ env.transfer marks m hm).imp_right ?_
    exact markInv_of_transfer huid hkind.2.1 hkind.2.2 hkind.1
  · obtain ⟨htoken, hreleases, hfilesystem⟩ := hkind
    split
    · exact executeRetire_marks huid hsent hmarks volumeID false env htoken hreleases
    · unfold executeUnexport
      split
      · exact executeFenced_marks huid hsent hmarks volumeID _ env hfilesystem
          (fun hop => nomatch hop)
      · exact executeFilesystem_marks huid hsent hmarks volumeID _ _ env hfilesystem
    · exact executeRetire_marks huid hsent hmarks volumeID true env htoken hreleases

theorem execute_grant_owned (env : AgentSurroundings)
    (hrequest : sent.request = .fenced .grantExport)
    (hok : (execute volumeID sent env marks).2 = true) :
    ∀ m ∈ (execute volumeID sent env marks).1.values, MarkInv False pvs m := by
  intro m hm
  have hinv := execute_marks huid hsent hmarks volumeID env m hm
  refine hinv.imp fun hother _ _ => hother ?_
  simp only [execute, hrequest] at hok hm
  have howned := fencedChecked_grant_owned volumeID sent.token env.backend
    (FencedCall.grantExport.check volumeID) env.fenced marks hok m hm
  exact howned.trans hsent.uid

end Execute

end PillarCsi.LifecycleMarks
