import PillarCsi.History
import PillarCsi.LifecycleMarks

/-!
The invariant of a volume lifecycle.

`r0` is the record the run starts with.  Two parts depend on what the calls
meet: that no partial creation is recorded over a reported success (`ready`),
and that a record under deletion keeps its generation and its way of teardown
(`kept`).
-/

namespace PillarCsi.LifecycleInvariant

open History FencingAdmission VolumeRecord RecordMutations VolumeLifecycle
open LifecycleMarks

/-- An import was adopted: the agent answered so, or the first record says so. -/
def Adopted (r0 : VolumeState) (events : List Event) : Prop :=
  isImport r0.spec = true → .adopted ∈ events ∨ importNeverAdopted r0 = false

theorem recovery_not_import {spec : VolumeStateSpec} (hvalid : validSpec spec = true)
    (hrecovery : spec.recovery.isSome = true) :
    isImport spec = false ∧ spec.filesystemAdoption = none := by
  simp only [validSpec, Bool.and_eq_true, Bool.or_eq_true, Option.isNone_iff_eq_none,
    decide_eq_true_eq] at hvalid
  rcases hvalid.2 with hnone | ⟨⟨hlvm, hzvol⟩, hfilesystem⟩
  · rw [hnone] at hrecovery
    cases hrecovery
  · exact ⟨by simp [isImport, hlvm, hzvol, hfilesystem], hfilesystem⟩

/-- The record reached the generation its recovery declares. -/
def Declared (r0 : VolumeState) (history : List VolumeState) : Prop :=
  ∀ intent, r0.spec.recovery = some intent →
    ∃ pvs ∈ history, intent.newGeneration ≤ pvs.publicationGeneration

variable (s : System)

/-- A committed record under deletion. -/
def Marked (pvs : VolumeState) : Prop :=
  pvs ∈ s.history ∧ pvs.deleting = true

/-- The agent confirmed an export of the block volume. -/
def Exported : Prop :=
  ∃ id ∈ s.acked, ∃ token, s.sent[id]? = some ⟨.fenced .grantExport, token⟩

/-- The agent confirmed that the lifecycle was released. -/
def Released : Prop :=
  ∃ id ∈ s.acked, ∃ filesystem token, s.sent[id]? = some ⟨.releaseVolume filesystem, token⟩

/-- The teardown is done: the volume was destroyed, or it was released and is
one that is only released. -/
def TornDown : Prop :=
  .destroyed ∈ s.events ∨ Released s ∧ ∃ pvs, Marked s pvs ∧ Releases pvs

variable (r0 : VolumeState) (ready kept : Prop) {thread : Thread} {tid : Nat}

structure RequestInv (s : System) (sent : SentRequest) : Prop where
  uid : sent.token.volumeUID = r0.uid
  issued : ∃ pvs ∈ s.history, pvs.publicationGeneration = sent.token.generation
  kind : match sent.request with
    | .fenced call =>
      r0.spec.filesystemAdoption = none ∧
        (call = .deleteVolume → volumePreservesOriginal r0 = false ∧ Adopted r0 s.events ∧
          ∃ pvs, Marked s pvs ∧ pvs.publicationGeneration = sent.token.generation)
    | .importVolume _ _ => r0.spec.filesystemAdoption = none
    | .filesystem _ call => FilesystemFor r0 call
    | .transferVolumeOwnership _ auth =>
      r0.spec.filesystemAdoption = none ∧ auth.newVolumeUID = r0.uid ∧
        (kept → ∃ pvs ∈ s.history, auth.newGeneration ≤ pvs.publicationGeneration)
    | .releaseVolume filesystem =>
      (∃ pvs, Marked s pvs ∧ pvs.publicationGeneration = sent.token.generation ∧
          Releases pvs) ∧
        match filesystem with
        | none => r0.spec.filesystemAdoption = none
        | some call => FilesystemFor r0 call

def ThreadInv (s : System) : Thread → Prop
  | .idle | .ensuring | .marking _ _ => True
  | .adopting pvs _ | .pending pvs => pvs ∈ s.history
  | .preparing pvs | .claiming pvs _ => pvs ∈ s.history ∧ (kept → Declared r0 s.history)
  | .provisioning pvs _ id =>
    pvs ∈ s.history ∧ (kept → Declared r0 s.history) ∧
      ∃ sent, s.sent[id]? = some sent ∧
        (isImport r0.spec = true → .adopted ∈ answeredEvents sent.request)
  | .repersisting pvs _ | .recording pvs _ _ =>
    pvs ∈ s.history ∧ (kept → Declared r0 s.history) ∧ Adopted r0 s.events
  | .exportClaiming pvs => pvs ∈ s.history ∧ Adopted r0 s.events
  | .exporting pvs id =>
    pvs ∈ s.history ∧ Adopted r0 s.events ∧
      (r0.spec.filesystemAdoption = none →
        ∃ token, s.sent[id]? = some ⟨.fenced .grantExport, token⟩)
  | .finishing pvs info =>
    pvs ∈ s.history ∧ Adopted r0 s.events ∧
      (info.isSome = true → r0.spec.filesystemAdoption = none → Exported s)
  | .unexporting pvs _ => Marked s pvs ∧ releaseOnlyTeardown pvs = false
  | .destroying pvs id => Marked s pvs ∧ ∃ token, s.sent[id]? = some ⟨.fenced .deleteVolume, token⟩
  | .releasing pvs id =>
    Marked s pvs ∧ Releases pvs ∧
      ∃ filesystem token, s.sent[id]? = some ⟨.releaseVolume filesystem, token⟩
  | .removing pvs => Marked s pvs ∧ (.destroyed ∈ s.events ∨ Releases pvs ∧ Released s)

/-- What a record under deletion keeps, and the marks it needs for it. -/
structure KeptInv (s : System) (pvs : VolumeState) : Prop where
  named : pvs.uid ≠ ""
  deletion : ∀ old, Marked s old → pvs.publicationGeneration = old.publicationGeneration ∧
    releaseOnlyTeardown pvs = releaseOnlyTeardown old
  settled : pvs.deleting = true → pvs.publishedNodes = [] ∧ recoveryPending pvs = false ∧
    (pvs.spec.filesystemAdoption.isSome = true → isFilesystemVolumeID pvs = true)
  marks : ∀ m ∈ s.marks.values, MarkInv (recoveryPending pvs = true) pvs m
  exported : Exported s → ∀ m ∈ s.marks.values, MarkInv False pvs m

structure SharedInv (s : System) : Prop where
  valid : validSpec r0.spec = true
  current : ∀ pvs, s.record = some pvs → pvs ∈ s.history
  source : ∀ pvs ∈ s.history, SameSource r0 pvs
  adoption : ∀ pvs ∈ s.history, importNeverAdopted pvs = false → Adopted r0 s.events
  declared : kept → ∀ pvs ∈ s.history, pvs.phase = .createPartial → Declared r0 s.history
  latest : ∀ old ∈ s.history, ∀ pvs, s.record = some pvs →
    old.publicationGeneration ≤ pvs.publicationGeneration ∧
      (old.deleting = true → pvs.deleting = true)
  marked : ∀ reaping, .marked reaping ∈ s.events → ∃ pvs, Marked s pvs
  deleting : ∀ pvs, Marked s pvs → r0.deleting = true ∨ ∃ reaping, .marked reaping ∈ s.events
  handedOut : ready → .handedOut ∈ s.events → ∀ pvs, s.record = some pvs →
    reportedPhase pvs.phase = true
  reaped : ready → .marked true ∈ s.events → .handedOut ∉ s.events
  requests : ∀ (id : Nat) sent, s.sent[id]? = some sent → RequestInv r0 kept s sent
  acked : ∀ id ∈ s.acked, ∃ sent, s.sent[id]? = some sent ∧
    ∀ event ∈ answeredEvents sent.request, event ∈ s.events
  kept : kept → ∀ pvs, s.record = some pvs → KeptInv s pvs
  removed : s.record = none → TornDown s

structure Inv (s : System) : Prop where
  shared : SharedInv r0 ready kept s
  threads : ∀ tid, ThreadInv r0 kept s (s.threads tid)

/-- Everything that only grows. -/
structure Grows (s t : System) : Prop where
  history : ∀ pvs ∈ s.history, pvs ∈ t.history
  sent : ∀ (id : Nat) sent, s.sent[id]? = some sent → t.sent[id]? = some sent
  acked : ∀ id ∈ s.acked, id ∈ t.acked
  events : ∀ event ∈ s.events, event ∈ t.events

theorem Grows.of_eq {s t : System} (hhistory : t.history = s.history) (hsent : t.sent = s.sent)
    (hacked : t.acked = s.acked) (hevents : t.events = s.events) : Grows s t := by
  constructor
  · rw [hhistory]
    exact fun _ h => h
  · rw [hsent]
    exact fun _ _ h => h
  · rw [hacked]
    exact fun _ h => h
  · rw [hevents]
    exact fun _ h => h

theorem Grows.refl : Grows s s := .of_eq rfl rfl rfl rfl

theorem Grows.trans {s t u : System} (hst : Grows s t) (htu : Grows t u) : Grows s u :=
  ⟨fun pvs h => htu.history pvs (hst.history pvs h),
    fun id sent h => htu.sent id sent (hst.sent id sent h),
    fun id h => htu.acked id (hst.acked id h), fun event h => htu.events event (hst.events event h)⟩

theorem grows_goto (tid : Nat) (thread : Thread) : Grows s (s.goto tid thread) :=
  .of_eq rfl rfl rfl rfl

theorem grows_log (event : Event) : Grows s (s.log event) :=
  { Grows.refl s with events := fun _ h => .tail _ h }

theorem grows_send (request : AgentRequest) (token : FencingToken) :
    Grows s (s.send request token) := by
  refine { Grows.refl s with sent := fun id sent hsent => ?_ }
  exact getElem?_concat_of_some hsent

theorem getElem?_send (request : AgentRequest) (token : FencingToken) :
    (s.send request token).sent[s.sent.length]? = some ⟨request, token⟩ := by
  simp [System.send]

variable {pvs : VolumeState}

section Mono

variable {r0 : VolumeState} {kept : Prop} {s t : System} (hgrows : Grows s t)

include hgrows

theorem Adopted.mono (h : Adopted r0 s.events) : Adopted r0 t.events :=
  fun himport => (h himport).imp_left (hgrows.events _)

theorem Grows.exists_record {P : VolumeState → Prop} (h : ∃ pvs ∈ s.history, P pvs) :
    ∃ pvs ∈ t.history, P pvs := by
  obtain ⟨pvs, hmem, hP⟩ := h
  exact ⟨pvs, hgrows.history pvs hmem, hP⟩

theorem Declared.mono (h : Declared r0 s.history) : Declared r0 t.history :=
  fun intent hintent => hgrows.exists_record (h intent hintent)

theorem Marked.mono (h : Marked s pvs) : Marked t pvs :=
  ⟨hgrows.history pvs h.1, h.2⟩

theorem Exported.mono (h : Exported s) : Exported t := by
  obtain ⟨id, hid, token, hsent⟩ := h
  exact ⟨id, hgrows.acked id hid, token, hgrows.sent id _ hsent⟩

theorem Released.mono (h : Released s) : Released t := by
  obtain ⟨id, hid, filesystem, token, hsent⟩ := h
  exact ⟨id, hgrows.acked id hid, filesystem, token, hgrows.sent id _ hsent⟩

theorem TornDown.mono (h : TornDown s) : TornDown t := by
  rcases h with hdestroyed | ⟨hreleased, pvs, hmarked, hreleases⟩
  · exact .inl (hgrows.events _ hdestroyed)
  · exact .inr ⟨hreleased.mono hgrows, pvs, hmarked.mono hgrows, hreleases⟩

theorem RequestInv.mono {sent : SentRequest} (h : RequestInv r0 kept s sent) :
    RequestInv r0 kept t sent := by
  refine ⟨h.uid, hgrows.exists_record h.issued, ?_⟩
  have hkind := h.kind
  revert hkind
  cases sent.request with
  | fenced call =>
    rintro ⟨hblock, hdelete⟩
    refine ⟨hblock, fun hcall => ?_⟩
    obtain ⟨hpreserves, hadopted, pvs, hmarked, heq⟩ := hdelete hcall
    exact ⟨hpreserves, hadopted.mono hgrows, pvs, hmarked.mono hgrows, heq⟩
  | importVolume src preserve | filesystem revoking call => exact id
  | transferVolumeOwnership snap auth =>
    rintro ⟨hblock, hnew, hdeclared⟩
    exact ⟨hblock, hnew, fun hkept => hgrows.exists_record (hdeclared hkept)⟩
  | releaseVolume filesystem =>
    rintro ⟨⟨pvs, hmarked, heq, hreleases⟩, hfilesystem⟩
    exact ⟨⟨pvs, hmarked.mono hgrows, heq, hreleases⟩, hfilesystem⟩

theorem ThreadInv.mono (h : ThreadInv r0 kept s thread) : ThreadInv r0 kept t thread := by
  have hread := hgrows.history
  have hdeclared : (kept → Declared r0 s.history) → kept → Declared r0 t.history :=
    fun hs hkept => (hs hkept).mono hgrows
  cases thread with
  | idle | ensuring | marking volumeID reaping => trivial
  | adopting pvs resolved | pending pvs => exact hread pvs h
  | preparing pvs | claiming pvs exportSpec => exact ⟨hread pvs h.1, hdeclared h.2⟩
  | provisioning pvs exportSpec id =>
    obtain ⟨hpvs, hintent, sent, hsent, hadopted⟩ := h
    exact ⟨hread pvs hpvs, hdeclared hintent, sent, hgrows.sent id sent hsent, hadopted⟩
  | repersisting pvs exportSpec | recording pvs devicePath exportSpec =>
    exact ⟨hread pvs h.1, hdeclared h.2.1, h.2.2.mono hgrows⟩
  | exportClaiming pvs => exact ⟨hread pvs h.1, h.2.mono hgrows⟩
  | exporting pvs id =>
    refine ⟨hread pvs h.1, h.2.1.mono hgrows, fun hblock => ?_⟩
    obtain ⟨token, hsent⟩ := h.2.2 hblock
    exact ⟨token, hgrows.sent id _ hsent⟩
  | finishing pvs info =>
    exact ⟨hread pvs h.1, h.2.1.mono hgrows, fun hinfo hblock => (h.2.2 hinfo hblock).mono hgrows⟩
  | unexporting pvs id => exact ⟨h.1.mono hgrows, h.2⟩
  | destroying pvs id =>
    obtain ⟨hmarked, token, hsent⟩ := h
    exact ⟨hmarked.mono hgrows, token, hgrows.sent id _ hsent⟩
  | releasing pvs id =>
    obtain ⟨hmarked, hreleases, filesystem, token, hsent⟩ := h
    exact ⟨hmarked.mono hgrows, hreleases, filesystem, token, hgrows.sent id _ hsent⟩
  | removing pvs =>
    exact ⟨h.1.mono hgrows, h.2.imp (hgrows.events _) (And.imp_right (Released.mono hgrows))⟩

end Mono

theorem threads_goto {r0 : VolumeState} {kept : Prop} {s t : System}
    (h : ∀ tid, ThreadInv r0 kept s (s.threads tid)) (hgrows : Grows s t)
    (hthreads : t.threads = s.threads) (hthread : ThreadInv r0 kept t thread) (other : Nat) :
    ThreadInv r0 kept (t.goto tid thread) ((t.goto tid thread).threads other) := by
  have hold : ThreadInv r0 kept t (t.threads other) := by
    rw [hthreads]
    exact (h other).mono hgrows
  change ThreadInv r0 kept (t.goto tid thread) (Function.update t.threads tid thread other)
  by_cases hother : other = tid
  · subst hother
    rw [Function.update_self]
    exact hthread.mono (grows_goto t other thread)
  · rw [Function.update_of_ne hother]
    exact hold.mono (grows_goto t tid thread)

section Primitives

variable {r0 : VolumeState} {ready kept : Prop} {s : System} {request : AgentRequest}
  {token : FencingToken}

theorem KeptInv.congr {t : System} (h : KeptInv s pvs)
    (hmarked : ∀ old, Marked t old → Marked s old) (hexported : Exported t → Exported s)
    (hmarks : ∀ m ∈ t.marks.values, m ∈ s.marks.values) : KeptInv t pvs where
  named := h.named
  deletion := fun old hold => h.deletion old (hmarked old hold)
  settled := h.settled
  marks := fun m hm => h.marks m (hmarks m hm)
  exported := fun ht m hm => h.exported (hexported ht) m (hmarks m hm)

theorem SharedInv.goto (h : SharedInv r0 ready kept s) (tid : Nat) (thread : Thread) :
    SharedInv r0 ready kept (s.goto tid thread) :=
  { h with
    requests := fun id sent hsent => (h.requests id sent hsent).mono (grows_goto s tid thread)
    kept := fun hkept pvs hpvs => (h.kept hkept pvs hpvs).congr (fun _ hm => hm) id fun _ hm => hm
    removed := fun hnone => (h.removed hnone).mono (grows_goto s tid thread) }

theorem SharedInv.exported_send (h : SharedInv r0 ready kept s)
    (hexported : Exported (s.send request token)) : Exported s := by
  obtain ⟨id, hid, other, hsent⟩ := hexported
  obtain ⟨old, hold, -⟩ := h.acked id hid
  have hnew := (grows_send s request token).sent id old hold
  rw [hnew] at hsent
  exact ⟨id, hid, other, hold.trans hsent⟩

theorem SharedInv.send (h : SharedInv r0 ready kept s)
    (hnew : RequestInv r0 kept s ⟨request, token⟩) :
    SharedInv r0 ready kept (s.send request token) :=
  { h with
    requests := by
      intro id sent hsent
      rcases getElem?_concat_cases hsent with hold | ⟨-, rfl⟩
      · exact (h.requests id sent hold).mono (grows_send s request token)
      · exact hnew.mono (grows_send s request token)
    acked := by
      intro id hid
      obtain ⟨sent, hsent, hevents⟩ := h.acked id hid
      exact ⟨sent, (grows_send s request token).sent id sent hsent, hevents⟩
    kept := fun hkept pvs hpvs =>
      (h.kept hkept pvs hpvs).congr (fun _ hm => hm) h.exported_send fun _ hm => hm
    removed := fun hnone => (h.removed hnone).mono (grows_send s request token) }

theorem Inv.goto (h : Inv r0 ready kept s)
    (hthread : ThreadInv r0 kept s thread) : Inv r0 ready kept (s.goto tid thread) :=
  ⟨h.shared.goto tid thread, threads_goto h.threads (Grows.refl s) rfl hthread⟩

theorem Inv.idle (h : Inv r0 ready kept s) (tid : Nat) :
    Inv r0 ready kept (s.goto tid .idle) := h.goto trivial

theorem Inv.call (h : Inv r0 ready kept s) {wait : Nat → Thread}
    (hnew : RequestInv r0 kept s ⟨request, token⟩)
    (hwait : ThreadInv r0 kept (s.send request token) (wait s.sent.length)) :
    Inv r0 ready kept (s.call tid request token wait) :=
  ⟨(h.shared.send hnew).goto tid _,
    threads_goto h.threads (grows_send s request token) rfl hwait⟩

end Primitives

/-- What a committed write is the end of. -/
def commitEvents : Mutation → List Event
  | .persistVolumeReady _ => [.handedOut]
  | .markVolumeDeleting _ reaping => [.marked reaping.isSome]
  | _ => []

def committed (m : Mutation) (next : VolumeState) : System :=
  { s with
    record := some next, history := next :: s.history, events := commitEvents m ++ s.events }

theorem grows_committed (m : Mutation) (next : VolumeState) :
    Grows s (committed s m next) where
  history := fun _ h => .tail _ h
  sent := fun _ _ h => h
  acked := fun _ h => h
  events := fun _ h => List.mem_append_right _ h

/-- A write committed by one compare-and-swap on `pvs`. -/
structure CommitOf (driver : CSIDriver) (pvs : VolumeState) (m : Mutation)
    (next : VolumeState) : Prop where
  valid : validateVolumeStateForUpdate driver pvs = .ok ()
  mutated : Mutated pvs m next

theorem updateRecord_committed {s : System} {driver : CSIDriver} {uid : String}
    {m : Mutation} {next : VolumeState}
    (h : s.updateRecord driver uid m = .committed next) :
    ∃ pvs, s.record = some pvs ∧ CommitOf driver pvs m next := by
  obtain ⟨pvs, mutated, hrecord, hvalid, hmutate, rfl⟩ := updateVolumeState_committed h
  exact ⟨pvs, hrecord, hvalid, mutated_of_mutate hmutate⟩

section CommitOf

variable {driver : CSIDriver} {pvs next : VolumeState} {m : Mutation}
  (h : CommitOf driver pvs m next)

include h

theorem CommitOf.marks_deletion {volumeID : String} {reaping : Option String}
    (hm : m = .markVolumeDeleting volumeID reaping) :
    pvs.deleting = false ∧ recoveryPending next = false ∧ next.publishedNodes = [] ∧
      (reaping.isSome = true → reapablePhase pvs = true) ∧ next.deleting = true := by
  subst hm
  cases h.mutated with
  | access _ hother => exact absurd rfl (hother _ _)
  | markVolumeDeleting hpending hopen hpubs hadmits =>
  refine ⟨hopen, hpending, hpubs, fun hreaping => ?_, rfl⟩
  obtain ⟨uid, rfl⟩ := Option.isSome_iff_exists.mp hreaping
  unfold deletionAdmit reapAdmit refuse at hadmits
  have hphase := (ok_of_ite_error hadmits).1
  simp only [not_or, Bool.not_eq_false] at hphase
  exact hphase.2

theorem CommitOf.finishes {info : Option VolumeExportInfo} (hm : m = .persistVolumeReady info) :
    pvs.deleting = false ∧ next.phase = .ready ∧
      (info = none → pvs.spec.filesystemAdoption.isSome = true) := by
  subst hm
  cases h.mutated with
  | access hbump => cases hbump
  | persistVolumeReady hopen habsent =>
  refine ⟨hopen, rfl, fun hinfo => ?_⟩
  have hlocal := (habsent hinfo).1
  simp only [localOnlyFilesystem, Bool.and_eq_true] at hlocal
  exact hlocal.1

theorem CommitOf.recoveryPending (hm : ∀ info, m ≠ .persistVolumeReady info) :
    recoveryPending next = VolumeRecord.recoveryPending pvs := by
  have hinfo : next.exportInfo = pvs.exportInfo := by
    cases h.mutated with
    | persistVolumeReady => exact absurd rfl (hm _)
    | _ => rfl
  unfold VolumeRecord.recoveryPending
  rw [h.mutated.source.recovery_isSome, hinfo]

theorem CommitOf.isFilesystemVolumeID (hfilesystem : next.spec.filesystemAdoption.isSome = true) :
    isFilesystemVolumeID next = true := by
  have hvalid := h.valid
  unfold validateVolumeStateForUpdate at hvalid
  split at hvalid
  · cases hvalid
  have hid := (ok_of_ite_error hvalid).1
  rw [h.mutated.source.filesystemAdoption] at hfilesystem
  rw [h.mutated.source.isFilesystemVolumeID]
  simpa [hfilesystem] using hid

end CommitOf

/-- When a call may write `m` over `pvs`. -/
structure Allowed (r0 : VolumeState) (ready kept : Prop) (s : System) (pvs : VolumeState)
    (m : Mutation) : Prop where
  adopted : recordsAdoption m = true → Adopted r0 s.events
  declared : kept → ∀ devicePath exportSpec, m = .persistCreatePartial devicePath exportSpec →
    Declared r0 s.history
  exported : ∀ info, m = .persistVolumeReady (some info) →
    r0.spec.filesystemAdoption = none → Exported s
  ready : ready → ∀ devicePath exportSpec, m = .persistCreatePartial devicePath exportSpec →
    reportedPhase pvs.phase = false
  kept : kept → pvs.deleting = true → keepsDeletion pvs m = true

theorem allowed_of_not_adoption {r0 : VolumeState} {ready kept : Prop} {s : System}
    {m : Mutation} (hm : recordsAdoption m = false)
    (hkept : kept → pvs.deleting = true → keepsDeletion pvs m = true) :
    Allowed r0 ready kept s pvs m where
  adopted := by simp [hm]
  declared := by
    rintro _ _ _ rfl
    cases hm
  exported := by
    rintro _ rfl
    cases hm
  ready := by
    rintro _ _ _ rfl
    cases hm
  kept := hkept

section Commit

variable {r0 : VolumeState} {ready kept : Prop} {s : System} {driver : CSIDriver}
  {pvs next : VolumeState} {m : Mutation}

theorem mem_committed_events {event : Event} (h : event ∈ (committed s m next).events) :
    event ∈ commitEvents m ∨ event ∈ s.events := List.mem_append.mp h

theorem commitEvents_handedOut (h : .handedOut ∈ commitEvents m) :
    ∃ info, m = .persistVolumeReady info := by
  cases m with
  | persistVolumeReady info => exact ⟨info, rfl⟩
  | markVolumeDeleting volumeID reaping => exact absurd h (by simp [commitEvents])
  | _ => cases h

theorem commitEvents_marked {reaping : Bool} (h : .marked reaping ∈ commitEvents m) :
    ∃ volumeID uid, m = .markVolumeDeleting volumeID uid ∧ uid.isSome = reaping := by
  cases m with
  | markVolumeDeleting volumeID uid =>
    refine ⟨volumeID, uid, rfl, ?_⟩
    simpa [commitEvents, eq_comm] using h
  | persistVolumeReady info => exact absurd h (by simp [commitEvents])
  | _ => cases h

variable (h : SharedInv r0 ready kept s) (hrecord : s.record = some pvs)
  (hcommit : CommitOf driver pvs m next) (hallowed : Allowed r0 ready kept s pvs m)

include h hrecord hcommit hallowed

theorem KeptInv.commit_pending (hkeeps : KeptInv s pvs) :
    ∀ mark ∈ s.marks.values, MarkInv (recoveryPending next = true) pvs mark := by
  intro mark hmark
  have hsource := h.source pvs (h.current pvs hrecord)
  by_cases hready : ∃ info, m = .persistVolumeReady info
  · obtain ⟨info, rfl⟩ := hready
    -- A recovery exports a block volume before its record becomes ready.
    refine (hkeeps.marks mark hmark).imp fun hother hopen hpending => ?_
    have hrecovery : r0.spec.recovery.isSome = true := by
      simp only [recoveryPending, Bool.and_eq_true] at hpending
      rw [← hsource.recovery_isSome]
      exact hpending.1
    have hblock := (recovery_not_import h.valid hrecovery).2
    cases info with
    | none =>
      have hfilesystem := (hcommit.finishes rfl).2.2 rfl
      rw [hsource.filesystemAdoption, hblock] at hfilesystem
      cases hfilesystem
    | some info =>
      rcases (hkeeps.exported (hallowed.exported info rfl hblock) mark hmark).owner with
        howner | hended | hfalse
      · exact absurd howner hother
      · rw [hopen] at hended
        cases hended
      · exact hfalse.elim
  · rw [hcommit.recoveryPending fun info hm => hready ⟨info, hm⟩]
    exact hkeeps.marks mark hmark

theorem KeptInv.commit (hkeeps : KeptInv s pvs) (hkept : kept) :
    KeptInv (committed s m next) next := by
  have hdeletion : pvs.deleting = true → next.deleting = true ∧
      next.publicationGeneration = pvs.publicationGeneration ∧
      releaseOnlyTeardown next = releaseOnlyTeardown pvs := by
    intro hdeleting
    obtain ⟨hgeneration, -, -, hteardown⟩ := hcommit.mutated.keepsDeletion hdeleting
      (hkeeps.settled hdeleting).1 (hallowed.kept hkept hdeleting)
    exact ⟨hcommit.mutated.deleting hdeleting, hgeneration, hteardown⟩
  constructor
  case named =>
    rw [hcommit.mutated.source.uid]
    exact hkeeps.named
  case deletion =>
    rintro old ⟨hold, hdeleting⟩
    rcases List.mem_cons.mp hold with rfl | hold
    · exact ⟨rfl, rfl⟩
    · obtain ⟨hgeneration, hteardown⟩ := hkeeps.deletion old ⟨hold, hdeleting⟩
      have hpvs := (h.latest old hold pvs hrecord).2 hdeleting
      obtain ⟨-, hnextGeneration, hnextTeardown⟩ := hdeletion hpvs
      exact ⟨hnextGeneration.trans hgeneration, hnextTeardown.trans hteardown⟩
  case settled =>
    intro hnext
    cases hdeleting : pvs.deleting with
    | true =>
      obtain ⟨hpubs, hpending, -⟩ := hkeeps.settled hdeleting
      obtain ⟨-, hnextPubs, hnextPending, -⟩ :=
        hcommit.mutated.keepsDeletion hdeleting hpubs (hallowed.kept hkept hdeleting)
      exact ⟨hnextPubs, hnextPending.trans hpending, hcommit.isFilesystemVolumeID⟩
    | false =>
      obtain ⟨volumeID, reaping, hm⟩ := hcommit.mutated.starts_deletion hdeleting hnext
      obtain ⟨-, hpending, hpubs, -⟩ := hcommit.marks_deletion hm
      exact ⟨hpubs, hpending, hcommit.isFilesystemVolumeID⟩
  case marks =>
    intro mark hmark
    exact (hkeeps.commit_pending h hrecord hcommit hallowed mark hmark).commit hcommit.mutated.source
      hcommit.mutated.generation hdeletion
  case exported =>
    intro hexported mark hmark
    exact (hkeeps.exported hexported mark hmark).commit hcommit.mutated.source hcommit.mutated.generation hdeletion

theorem SharedInv.commit_handedOut (hready : ready) (hevent : .handedOut ∈ (committed s m next).events) :
    reportedPhase next.phase = true := by
  rcases mem_committed_events hevent with hnew | hold
  · obtain ⟨info, hm⟩ := commitEvents_handedOut hnew
    rw [(hcommit.finishes hm).2.1]
    rfl
  · have hreported := h.handedOut hready hold pvs hrecord
    refine hcommit.mutated.reported hreported fun devicePath exportSpec hm => ?_
    rw [hallowed.ready hready devicePath exportSpec hm] at hreported
    cases hreported

omit hallowed in
/-- The reaper marks only what was never handed out, and what is marked is
never handed out. -/
theorem SharedInv.commit_reaped (hready : ready) (hmarked : .marked true ∈ (committed s m next).events) :
    .handedOut ∉ (committed s m next).events := by
  intro hevent
  rcases mem_committed_events hevent with hfinish | hold
  · obtain ⟨info, rfl⟩ := commitEvents_handedOut hfinish
    have hmark : .marked true ∈ s.events := by
      rcases mem_committed_events hmarked with hnew | hold
      · obtain ⟨volumeID, uid, hm, -⟩ := commitEvents_marked hnew
        cases hm
      · exact hold
    obtain ⟨old, hold, hdeleting⟩ := h.marked true hmark
    have hpvs := (h.latest old hold pvs hrecord).2 hdeleting
    rw [(hcommit.finishes rfl).1] at hpvs
    cases hpvs
  · rcases mem_committed_events hmarked with hnew | hmark
    · obtain ⟨volumeID, uid, hm, huid⟩ := commitEvents_marked hnew
      obtain ⟨-, -, -, hreapable, -⟩ := hcommit.marks_deletion hm
      have hnot := reapablePhase_of_reported (h.handedOut hready hold pvs hrecord)
      rw [hreapable huid] at hnot
      cases hnot
    · exact h.reaped hready hmark hold

theorem SharedInv.commit : SharedInv r0 ready kept (committed s m next) := by
  have hgrows := grows_committed s m next
  have hpvs := h.current pvs hrecord
  constructor
  case valid => exact h.valid
  case current =>
    intro other hother
    rw [← Option.some.inj hother]
    exact .head _
  case source =>
    intro other hother
    rcases List.mem_cons.mp hother with rfl | hold
    · exact (h.source pvs hpvs).trans hcommit.mutated.source
    · exact h.source other hold
  case adoption =>
    intro other hother hadopted
    rcases List.mem_cons.mp hother with rfl | hold
    · cases hrecords : recordsAdoption m with
      | true => exact (hallowed.adopted hrecords).mono hgrows
      | false =>
        rw [hcommit.mutated.importNeverAdopted hrecords] at hadopted
        exact (h.adoption pvs hpvs hadopted).mono hgrows
    · exact (h.adoption other hold hadopted).mono hgrows
  case declared =>
    intro hkept other hother hphase
    rcases List.mem_cons.mp hother with rfl | hold
    · by_cases hincomplete : ∃ devicePath exportSpec, m = .persistCreatePartial devicePath exportSpec
      · obtain ⟨devicePath, exportSpec, hm⟩ := hincomplete
        exact (hallowed.declared hkept devicePath exportSpec hm).mono hgrows
      · have hphase := hcommit.mutated.createPartial hphase fun devicePath exportSpec hm =>
          hincomplete ⟨devicePath, exportSpec, hm⟩
        exact (h.declared hkept pvs hpvs hphase).mono hgrows
    · exact (h.declared hkept other hold hphase).mono hgrows
  case latest =>
    intro old hold other hother
    cases hother
    rcases List.mem_cons.mp hold with rfl | hold
    · exact ⟨Nat.le_refl _, id⟩
    · obtain ⟨hle, hdeleting⟩ := h.latest old hold pvs hrecord
      exact ⟨hle.trans hcommit.mutated.generation, fun hd => hcommit.mutated.deleting (hdeleting hd)⟩
  case marked =>
    intro reaping hevent
    rcases mem_committed_events hevent with hnew | hold
    · obtain ⟨volumeID, uid, hm, -⟩ := commitEvents_marked hnew
      exact ⟨next, .head _, (hcommit.marks_deletion hm).2.2.2.2⟩
    · obtain ⟨old, hmarked⟩ := h.marked reaping hold
      exact ⟨old, hmarked.mono hgrows⟩
  case deleting =>
    have hkeep : (r0.deleting = true ∨ ∃ reaping, .marked reaping ∈ s.events) →
        r0.deleting = true ∨ ∃ reaping, .marked reaping ∈ (committed s m next).events :=
      Or.imp_right fun ⟨reaping, hevent⟩ => ⟨reaping, hgrows.events _ hevent⟩
    rintro other ⟨hother, hdeleting⟩
    rcases List.mem_cons.mp hother with rfl | hold
    · cases hpvsDeleting : pvs.deleting with
      | true => exact hkeep (h.deleting pvs ⟨hpvs, hpvsDeleting⟩)
      | false =>
        obtain ⟨volumeID, reaping, rfl⟩ := hcommit.mutated.starts_deletion hpvsDeleting hdeleting
        exact .inr ⟨reaping.isSome, .head _⟩
    · exact hkeep (h.deleting other ⟨hold, hdeleting⟩)
  case handedOut =>
    intro hready hevent other hother
    cases hother
    exact h.commit_handedOut hrecord hcommit hallowed hready hevent
  case reaped => exact fun hready hmarked => h.commit_reaped hrecord hcommit hready hmarked
  case requests => exact fun id sent hsent => (h.requests id sent hsent).mono hgrows
  case acked =>
    intro id hid
    obtain ⟨sent, hsent, hevents⟩ := h.acked id hid
    exact ⟨sent, hsent, fun event hevent => hgrows.events event (hevents event hevent)⟩
  case kept =>
    intro hkept other hother
    cases hother
    exact (h.kept hkept pvs hrecord).commit h hrecord hcommit hallowed hkept
  case removed => exact fun hnone => nomatch hnone

omit h in
theorem Inv.commit (hinv : Inv r0 ready kept s) : Inv r0 ready kept (committed s m next) :=
  ⟨hinv.shared.commit hrecord hcommit hallowed,
    fun tid => (hinv.threads tid).mono (grows_committed s m next)⟩

end Commit

end PillarCsi.LifecycleInvariant
