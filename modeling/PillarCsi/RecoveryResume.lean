import PillarCsi.OwnershipTransfer
import PillarCsi.RecordHistory
import PillarCsi.RecoveryGrant

/-!
A recovery that stops anywhere is finished by its retry.

The record of a recovery, the agent's marks and any number of `CreateVolume`
attempts for the record run together; attempts die, requests arrive late or
twice, and the agent serves everybody else.  Once the agent committed the
transfer, an attempt that finds the recovery lifecycle owning the volume sees
its own transfer in the mark and sends no second one.
-/

namespace PillarCsi.RecoveryResume

open DurableCell FencingAdmission MarkOrder FencedOperations OwnershipOperations FencingContracts
open OwnershipContracts AgentRuns FencingOrder OwnershipTransfer VolumeRecord
open RecordMutations RecordHistory RecoveryGrant TransitionSystem

/-- Where a `CreateVolume` attempt stands. -/
inductive Stage where
  | idle
  | adopted
  | sending (devicePath : String) (id : Nat)
  | recovered (devicePath : String)
  | persisted
  | claimed
  deriving DecidableEq, Repr

structure World where
  record : VolumeState
  agent : AgentState
  attempts : Nat → Stage
  /-- The transfer requests the attempts sent. -/
  sent : List (RecoverySnapshot × RecoveryAuthorization)
  /-- Those that were answered as committed. -/
  acked : List Nat
  /-- Every token of the lifecycle the record issued, newest first. -/
  issued : List FencingToken

def World.init (record : VolumeState) (agent : AgentState) : World :=
  { record := record, agent := agent, attempts := fun _ => .idle, sent := [], acked := []
    issued := [] }

variable (w : World)

def World.goto (tid : Nat) (stage : Stage) : World :=
  { w with attempts := Function.update w.attempts tid stage }

/-- The record after a committed write, with the token when it is one. -/
def World.store (bump : Bool) (next : VolumeState) : World :=
  { w with record := next, issued := if bump then tokenOf next :: w.issued else w.issued }

def World.update (driver : CSIDriver) (m : VolumeRecord.Mutation) : UpdateResult :=
  updateVolumeState driver w.record.name w.record.uid m (some w.record)

/-- What the agent's report says besides the mark. -/
structure Report where
  lvm : Option (String × Int) := none
  consumers : List String := []
  exports : List ExportObservation := []
  capacityBytes : Int := 0
  requiredBytes : Int := 0

def World.inspection (report : Report) : InspectVolumeResponse :=
  { fence := fenceObservation w.agent.marks.visible, lvm := report.lvm
    consumers := report.consumers, exports := report.exports }

inductive Action where
  /-- `adoptRecoveryIntent` fills the write-once fields first. -/
  | fill (driver : CSIDriver) (resolved : Option ResolvedVolumeConfig)
  | adopt (tid : Nat) (driver : CSIDriver)
  /-- The attempt reads the mark and decides. -/
  | inspect (tid : Nat) (offer : Offer) (report : Report)
  /-- The agent runs a request, perhaps not for the first time. -/
  | deliver (id : Nat) (env : TransferSurroundings)
  | answer (tid : Nat)
  | persist (tid : Nat) (driver : CSIDriver) (exportSpec : Option VolumeExportSpec)
  | claim (tid : Nat) (driver : CSIDriver)
  | ready (tid : Nat) (driver : CSIDriver) (info : VolumeExportInfo)
  | abort (tid : Nat)
  /-- A write of publish, unpublish or `DeleteVolume`. -/
  | write (driver : CSIDriver) (m : VolumeRecord.Mutation)
  /-- Anything else the agent does. -/
  | serve (a : AgentAction)

/-- The writes of a publish, which is refused while the recovery is pending. -/
def publishing : VolumeRecord.Mutation → Bool
  | .reservePublicationState _ _ | .clearLocalAttachNode _ | .fencePublication _ => true
  | _ => false

/-- The writes of unpublish and `DeleteVolume`, which check the record
themselves. -/
def removing : VolumeRecord.Mutation → Bool
  | .fencePublications _ | .releasePublication _ _ | .markVolumeDeleting _ _ => true
  | _ => false

/-- Nobody imports for a recovery record, and nobody but its attempts asks for a
transfer to it. -/
def foreign (uid : String) : AgentAction → Bool
  | .importVolume token _ _ _ => token.volumeUID ≠ uid
  | .transfer _ auth _ => auth.newVolumeUID ≠ uid
  | _ => true

def step (volumeID : String) (decl : Declaration) (w : World) : Action → Option World
  | .fill driver resolved =>
    match w.update driver (.fillRecoveryWriteOnce w.record.uid resolved) with
    | .committed next => some (w.store false next)
    | _ => some w
  | .adopt tid driver =>
    match w.attempts tid with
    | .idle =>
      match w.update driver .adoptRecoveryPhase with
      | .committed next => some ((w.store false next).goto tid .adopted)
      | .unchanged _ => some (w.goto tid .adopted)
      | _ => some w
    | _ => none
  | .inspect tid offer report =>
    match w.attempts tid with
    | .adopted =>
      match recoverVolume w.record decl offer (w.inspection report) report.capacityBytes
          report.requiredBytes with
      | .error _ => some (w.goto tid .idle)
      | .ok ⟨devicePath, _, none⟩ => some (w.goto tid (.recovered devicePath))
      | .ok ⟨devicePath, _, some (snap, grant)⟩ =>
        some ({ w with sent := w.sent ++ [(snap.snap, grant.auth)] }.goto tid
          (.sending devicePath w.sent.length))
    | _ => none
  | .deliver id env =>
    match w.sent[id]? with
    | none => none
    | some (snap, auth) =>
      match AgentRuns.step volumeID w.agent (.transfer snap auth env) with
      | none => none
      | some agent =>
        let reply := (transferVolumeOwnership volumeID snap auth env w.agent.marks).2
        some { w with
          agent := agent
          acked := if reply = .ok .committed ∨ reply = .ok .alreadyCommitted then
            id :: w.acked else w.acked }
  | .answer tid =>
    match w.attempts tid with
    | .sending devicePath id =>
      if id ∈ w.acked then some (w.goto tid (.recovered devicePath)) else none
    | _ => none
  | .persist tid driver exportSpec =>
    match w.attempts tid with
    | .recovered devicePath =>
      match w.update driver (.persistCreatePartial devicePath exportSpec) with
      | .committed next => some ((w.store false next).goto tid .persisted)
      | _ => some (w.goto tid .idle)
    | _ => none
  | .claim tid driver =>
    match w.attempts tid with
    | .persisted =>
      match w.update driver (.claimOperation w.record.spec.volumeID) with
      | .committed next => some ((w.store true next).goto tid .claimed)
      | _ => some (w.goto tid .idle)
    | _ => none
  | .ready tid driver info =>
    match w.attempts tid with
    | .claimed =>
      match w.update driver (.persistVolumeReady (some info)) with
      | .committed next => some ((w.store false next).goto tid .idle)
      | _ => some (w.goto tid .idle)
    | _ => none
  | .abort tid => some (w.goto tid .idle)
  | .write driver m =>
    if (publishing m ∧ recoveryPending w.record = false) ∨ removing m then
      match w.update driver m with
      | .committed next => some (w.store true next)
      | _ => some w
    else
      none
  | .serve a =>
    if foreign w.record.uid a then
      match AgentRuns.step volumeID w.agent a with
      | some agent => some { w with agent := agent }
      | none => none
    else
      none

/-- The request of the recovery was answered as committed. -/
def World.committed : Prop := w.acked ≠ []

/-- What the agent records when it commits the declared transfer. -/
def declaredTransfer (decl : Declaration) (uid : String) : MarkTransfer :=
  { authorizationDigest := decl.authorizationDigest
    fromUID := decl.oldVolumeUID, fromGeneration := decl.oldGeneration
    toUID := uid, toGeneration := decl.newGeneration }

structure Carried (decl : Declaration) (uid : String) (m : FencingMark) : Prop where
  retired : decl.oldVolumeUID ∈ m.endedUIDs
  generation : decl.newGeneration ≤ m.generation
  source : lvmSourceMatches m.lvmSource decl.source = true
  preserve : m.preserveOriginal = decl.source.preserveOriginal
  transfer : m.transfer = some (declaredTransfer decl uid)

/-- A mark that made the recovery lifecycle the owner by a transfer did so by
the declared one. -/
def Faithful (decl : Declaration) (uid : String) (m : FencingMark) : Prop :=
  m.volumeUID = uid → m.transfer ≠ none → Carried decl uid m

variable {m : FencingMark}

theorem markTransferredTo_of_carried {decl : Declaration} {uid : String}
    (h : Carried decl uid m) (howner : m.volumeUID = uid) (hopen : m.ended = false) :
    markTransferredTo (fenceObservation (some m)) decl uid = true := by
  simp [markTransferredTo, fenceObservation, h.transfer, declaredTransfer, howner, hopen,
    h.generation, h.retired, h.source, h.preserve]

variable {snap : RecoverySnapshot} {auth : RecoveryAuthorization} {env : TransferSurroundings}
  {resolved : Option ResolvedVolumeConfig} {info : VolumeExportInfo} {stage : Stage} {a : Action}
  {record : VolumeState}

variable {stored : Option FencingMark}

section Marks

variable {decl : Declaration} {uid : String} {c : MarkCell} {volumeID : String}
  {token : FencingToken} {op : FenceOp}

theorem Faithful.sameLifecycle {a b : FencingMark} (ha : Faithful decl uid a)
    (h : SameLifecycle a b) : Faithful decl uid b := by
  intro howner htransfer
  rw [h.volumeUID] at howner
  rw [h.transfer] at htransfer
  have hcarried := ha howner htransfer
  exact
    { retired := h.endedUIDs ▸ hcarried.retired
      generation := h.generation ▸ hcarried.generation
      source := h.lvmSource ▸ hcarried.source
      preserve := h.preserveOriginal.trans hcarried.preserve
      transfer := h.transfer.trans hcarried.transfer }

theorem Faithful.ended (h : Faithful decl uid m) : Faithful decl uid { m with ended := true } :=
  fun howner htransfer => ⟨(h howner htransfer).retired, (h howner htransfer).generation,
    (h howner htransfer).source, (h howner htransfer).preserve, (h howner htransfer).transfer⟩

theorem Carried.retire (h : Carried decl uid m) (other : String) :
    Carried decl uid { m with endedUIDs := m.endedUIDs ++ [other] } :=
  ⟨List.mem_append_left _ h.retired, h.generation, h.source, h.preserve, h.transfer⟩

theorem admits_faithful {adm : FenceAdmission}
    (h : Admits token op stored adm) (hstored : ∀ m, stored = some m → Faithful decl uid m) :
    Faithful decl uid adm.next := by
  cases h with
  | first | successor => exact fun _ htransfer => absurd rfl htransfer
  | terminalRetry | sameGeneration => exact hstored _ rfl
  | @advance m _ _ _ hgeneration =>
    intro howner htransfer
    have hcarried := hstored m rfl howner htransfer
    exact ⟨hcarried.retired, hcarried.generation.trans hgeneration.le, hcarried.source,
      hcarried.preserve, hcarried.transfer⟩

theorem transferAdmittedMark_source {evidence : Except FenceError Unit} {next : FencingMark}
    (hok : transferAdmittedMark volumeID m snap auth evidence = .ok next) :
    m.lvmSource = auth.lvmSource ∧
      (m.preserveOriginal || auth.preserveOriginal) = auth.preserveOriginal := by
  unfold transferAdmittedMark at hok
  obtain ⟨-, -, hok⟩ := ok_of_ite_errors hok
  obtain ⟨-, -, hok⟩ := ok_of_ite_errors hok
  obtain ⟨-, hsource, hok⟩ := ok_of_ite_errors hok
  obtain ⟨-, hpolicy, -⟩ := ok_of_ite_errors hok
  refine ⟨not_not.mp hsource, ?_⟩
  cases hm : m.preserveOriginal <;> cases hauth : auth.preserveOriginal <;> simp_all

/-- The action is somebody else's, or a request of the recovery. -/
def Allowed (decl : Declaration) (uid : String) (a : AgentAction) : Prop :=
  foreign uid a = true ∨ ∃ snap auth env, a = .transfer snap auth env ∧ Pinned decl uid auth

theorem faithful_of_writtenBy {a : AgentAction}
    (h : WrittenBy volumeID stored a m) (hstored : ∀ m, stored = some m → Faithful decl uid m)
    (hallowed : Allowed decl uid a) : Faithful decl uid m := by
  cases h with
  | admitted _ hadm hnext => exact (admits_faithful hadm hstored).sameLifecycle hnext
  | destroyed _ hadm hnext => exact ((admits_faithful hadm hstored).sameLifecycle hnext).ended
  | @imported token _ _ _ _ _ _ hadm hpin =>
    intro howner
    have hother : token.volumeUID ≠ uid := by
      rcases hallowed with hforeign | ⟨_, _, _, heq, -⟩
      · simpa [foreign] using hforeign
      · cases heq
    obtain rfl := pinImportSource_ok hpin
    exact absurd ((admits_next_volumeUID hadm).symm.trans howner) hother
  | retiredFirst => exact fun _ htransfer => absurd rfl htransfer
  | retiredOther hm => exact fun howner htransfer => (hstored _ hm howner htransfer).retire _
  | retiredOwner hm hadm hsame =>
    intro howner htransfer
    have hcarried := admits_faithful hadm (hm ▸ hstored) howner htransfer
    exact
      { retired := List.mem_append_left _ (admits_owner_endedUIDs hadm hsame ▸ hcarried.retired)
        generation := hcarried.generation
        source := hcarried.source
        preserve := hcarried.preserve
        transfer := hcarried.transfer }
  | retried hm => exact hstored _ hm
  | @transferred snap auth env m _ hm _ _ hadmitted =>
    intro howner _
    obtain ⟨hsource, hpolicy⟩ := transferAdmittedMark_source hadmitted
    have hgeneration := transferAdmittedMark_generation hadmitted
    obtain ⟨-, hold, -, -, rfl⟩ := transferAdmittedMark_ok hadmitted
    have hpinned : Pinned decl uid auth := by
      rcases hallowed with hforeign | ⟨_, _, _, heq, hpinned⟩
      · exact absurd howner (by simpa [foreign, transferredMark] using hforeign)
      · cases heq
        exact hpinned
    exact
      { retired := by simp [transferredMark, ← hpinned.oldVolumeUID, hold]
        generation := hpinned.newGeneration.ge
        source := by
          show lvmSourceMatches m.lvmSource decl.source = true
          rw [hsource]
          exact hpinned.lvmSource
        preserve := hpolicy.trans hpinned.preserveOriginal
        transfer := by
          simp [transferredMark, declaredTransfer, hpinned.digest, hold, hgeneration,
            hpinned.oldVolumeUID, hpinned.oldGeneration, hpinned.newVolumeUID,
            hpinned.newGeneration] }

theorem step_faithful {s t : AgentState} {a : AgentAction}
    (h : ∀ m ∈ s.marks.values, Faithful decl uid m) (hallowed : Allowed decl uid a)
    (hstep : AgentRuns.step volumeID s a = some t) : ∀ m ∈ t.marks.values, Faithful decl uid m :=
  step_values (fun _ hm => faithful_of_writtenBy hm
    (fun m hvisible => h m (Cell.mem_values_of_visible hvisible)) hallowed) h hstep

end Marks

theorem kept_of_reply {decl : Declaration} {uid volumeID : String} {c : MarkCell}
    (hvalid : Valid c) (hpinned : Pinned decl uid auth)
    (hreply : (transferVolumeOwnership volumeID snap auth env c).2 = .ok .committed ∨
      (transferVolumeOwnership volumeID snap auth env c).2 = .ok .alreadyCommitted) :
    Kept True (declaredTransfer decl uid) (transferVolumeOwnership volumeID snap auth env c).1 := by
  have hrecord : transferRecord auth = declaredTransfer decl uid := by
    simp [transferRecord, declaredTransfer, hpinned.digest, hpinned.oldVolumeUID,
      hpinned.oldGeneration, hpinned.newVolumeUID, hpinned.newGeneration]
  have hsingle : ∀ m, Remembers (declaredTransfer decl uid) m →
      Kept True (declaredTransfer decl uid) ⟨some m, []⟩ := by
    intro m hm
    refine ⟨⟨m, rfl, hm⟩, fun _ => ⟨Option.some_ne_none _, fun x hx => ?_⟩⟩
    rw [List.mem_singleton.mp hx]
    exact hm
  rcases transferVolumeOwnership_cases volumeID snap auth env c with
    ⟨err, heq⟩ | ⟨m, next, reply, hm, heq, hsynced, -, hnext⟩
  · simp [heq] at hreply
  rw [heq] at hreply ⊢
  rw [hsynced hreply]
  rcases hnext with ⟨howner, rfl, hcheck⟩ | ⟨-, admitted, rfl, -, hadmitted⟩
  · have htransfer : next.transfer = some (declaredTransfer decl uid) := by
      cases htr : next.transfer with
      | none => simp [checkCommittedTransferRetry, htr] at hcheck
      | some tr =>
        rw [htr] at hcheck
        obtain ⟨hdigest, hendpoints, -⟩ := ok_of_ite_errors hcheck
        rw [← hrecord]
        cases tr
        simp_all [transferRecord]
    refine hsingle _ ⟨?_, fun _ => htransfer, fun hne => ?_⟩
    · exact (hvalid.visible hm).transfer_retired _ htransfer
    · exact absurd (howner.trans hpinned.newVolumeUID) hne
  refine hsingle (transferredMark m admitted auth) ⟨?_, fun _ => ?_, fun hne => ?_⟩
  · obtain ⟨-, hold, -, -, rfl⟩ := transferAdmittedMark_ok hadmitted
    simp [transferredMark, declaredTransfer, ← hpinned.oldVolumeUID, hold]
  · rw [← hrecord]
    exact transferredMark_transfer hadmitted
  · obtain ⟨-, -, -, -, rfl⟩ := transferAdmittedMark_ok hadmitted
    exact absurd hpinned.newVolumeUID hne

/-- The transfer is recorded. -/
abbrev Late (pvs : VolumeState) : Prop := pvs.phase = .createPartial ∨ pvs.phase = .ready

/-- What the record of the recovery looks like at every moment. -/
structure Recorded (decl : Declaration) (uid : String) (pvs : VolumeState) : Prop where
  uid : pvs.uid = uid
  intent : ∃ intent, pvs.spec.recovery = some intent ∧
    intent.newGeneration = decl.newGeneration
  block : pvs.spec.filesystemAdoption = none
  /-- Before the transfer nothing but the adoption moves the generation. -/
  phase : (pvs.phase = .unset ∨ pvs.phase = .recoveryPending) ∧
      pvs.publicationGeneration ≤ decl.newGeneration ∧ pvs.exportInfo = none ∨
    Late pvs ∧ decl.newGeneration ≤ pvs.publicationGeneration
  pending : pvs.exportInfo = none → pvs.publishedNodes = [] ∧ pvs.deleting = false

structure Follows (decl : Declaration) (uid : String) (pvs next : VolumeState) : Prop where
  record : Recorded decl uid next
  generation : pvs.publicationGeneration ≤ next.publicationGeneration
  late : Late pvs → Late next

section Record

variable {decl : Declaration} {uid : String} {pvs next : VolumeState} {m : VolumeRecord.Mutation}

variable (h : Recorded decl uid pvs)

include h

theorem Recorded.recoveryPending_iff : recoveryPending pvs = true ↔ pvs.exportInfo = none := by
  obtain ⟨intent, hintent, -⟩ := h.intent
  simp [recoveryPending, hintent]

theorem Recorded.bump (hlate : Late pvs) (hmutated : Mutated pvs m next) (hbump : m.bump = true)
    (hpending : pvs.exportInfo = none → next.publishedNodes = [] ∧ next.deleting = false) :
    Follows decl uid pvs next := by
  rw [hmutated.of_bump hbump]
  have hgeneration : decl.newGeneration ≤ pvs.publicationGeneration := by
    rcases h.phase with ⟨hearly, -⟩ | ⟨-, hgeneration⟩
    · rcases hearly with hearly | hearly <;> simp [Late, hearly] at hlate
    · exact hgeneration
  exact ⟨⟨h.uid, h.intent, h.block, .inr ⟨hlate, Nat.le_succ_of_le hgeneration⟩, hpending⟩,
    Nat.le_succ _, fun _ => hlate⟩

theorem Recorded.fill {given : String}
    (hmutated : Mutated pvs (.fillRecoveryWriteOnce given resolved) next) :
    Follows decl uid pvs next := by
  cases hmutated with
  | access hbump => cases hbump
  | fillRecoveryWriteOnce hintent =>
    obtain ⟨declared, hdeclared, hgeneration⟩ := h.intent
    obtain rfl := Option.mem_unique hintent hdeclared
    exact ⟨⟨h.uid, ⟨_, rfl, hgeneration⟩, h.block, h.phase, h.pending⟩, Nat.le_refl _, id⟩

theorem Recorded.adopt (hmutated : Mutated pvs .adoptRecoveryPhase next) :
    Follows decl uid pvs next ∧ decl.newGeneration ≤ next.publicationGeneration := by
  have hle := hmutated.generation
  cases hmutated with
  | access hbump => cases hbump
  | adoptRecoveryPhase hintent _ hphase =>
    obtain ⟨declared, hdeclared, hgeneration⟩ := h.intent
    obtain rfl := Option.mem_unique hintent hdeclared
    have hearly : ¬ Late pvs := by rcases hphase with hphase | hphase <;> simp [hphase]
    have hunexported : pvs.exportInfo = none := by
      rcases h.phase with ⟨-, -, hnone⟩ | ⟨hlate, -⟩
      · exact hnone
      · exact absurd hlate hearly
    refine ⟨⟨⟨h.uid, h.intent, h.block, .inl ⟨.inr rfl, hgeneration.le, hunexported⟩, h.pending⟩,
      hle, fun hlate => absurd hlate hearly⟩, hgeneration.ge⟩

theorem Recorded.adopt_unchanged
    (hmutate : adoptRecoveryPhase pvs = .error .noStatusChange) :
    decl.newGeneration ≤ pvs.publicationGeneration := by
  rcases adoptRecoveryPhase_unchanged hmutate with hcreated | ⟨intent, hintent, hgeneration⟩
  · rcases h.phase with ⟨hearly, -⟩ | ⟨-, hgeneration⟩
    · simp [hcreated] at hearly
    · exact hgeneration
  · obtain ⟨declared, hdeclared, hnew⟩ := h.intent
    obtain rfl : intent = declared := Option.mem_unique hintent hdeclared
    exact (hgeneration.trans hnew).ge

theorem Recorded.persist {devicePath : String} {exportSpec : Option VolumeExportSpec}
    (hgeneration : decl.newGeneration ≤ pvs.publicationGeneration)
    (hmutated : Mutated pvs (.persistCreatePartial devicePath exportSpec) next) :
    Follows decl uid pvs next := by
  cases hmutated with
  | access hbump => cases hbump
  | persistCreatePartial =>
    exact ⟨⟨h.uid, h.intent, h.block, .inr ⟨.inl rfl, hgeneration⟩, h.pending⟩, Nat.le_refl _,
      fun _ => .inl rfl⟩

theorem Recorded.ready (hgeneration : decl.newGeneration ≤ pvs.publicationGeneration)
    (hmutated : Mutated pvs (.persistVolumeReady (some info)) next) :
    Follows decl uid pvs next := by
  cases hmutated with
  | access hbump => cases hbump
  | persistVolumeReady =>
    exact ⟨⟨h.uid, h.intent, h.block, .inr ⟨.inr rfl, hgeneration⟩, fun hnone => nomatch hnone⟩,
      Nat.le_refl _, fun _ => .inr rfl⟩

theorem Recorded.written
    (hguard : (publishing m ∧ recoveryPending pvs = false) ∨ removing m)
    (hmutate : m.mutate pvs = .ok next) : pvs.exportInfo ≠ none := by
  intro hnone
  obtain ⟨hpubs, -⟩ := h.pending hnone
  have hpending : recoveryPending pvs = true := h.recoveryPending_iff.mpr hnone
  rcases hguard with ⟨-, hready⟩ | hremoving
  · simp [hpending] at hready
  · cases m with
    | fencePublications nodeID =>
      obtain ⟨hsome, -⟩ := fencePublications_ok hmutate
      simp [hpubs, revokedRecords] at hsome
    | releasePublication nodeIDs fence =>
      exact releasePublication_empty hpubs nodeIDs fence next hmutate
    | markVolumeDeleting volumeID reaping =>
      obtain ⟨hready, -⟩ := markVolumeDeletingMutation_ok hmutate
      simp [hpending] at hready
    | _ => cases hremoving

theorem Recorded.write
    (hguard : (publishing m ∧ recoveryPending pvs = false) ∨ removing m)
    (hmutate : m.mutate pvs = .ok next) :
    m.bump = true ∧ decl.newGeneration ≤ pvs.publicationGeneration ∧
      Follows decl uid pvs (bumped m.bump next) := by
  have hexported := h.written hguard hmutate
  have hbump : m.bump = true := by
    rcases hguard with ⟨hpublishing, -⟩ | hremoving
    · cases m <;> first | rfl | cases hpublishing
    · cases m <;> first | rfl | cases hremoving
  obtain ⟨hlate, hgeneration⟩ : Late pvs ∧ decl.newGeneration ≤ pvs.publicationGeneration := by
    rcases h.phase with ⟨-, -, hnone⟩ | hlate
    · exact absurd hnone hexported
    · exact hlate
  exact ⟨hbump, hgeneration,
    h.bump hlate (mutated_of_mutate hmutate) hbump fun hnone => absurd hnone hexported⟩

end Record

structure Inv (decl : Declaration) (uid : String) (w : World) : Prop where
  record : Recorded decl uid w.record
  agent : AgentInvariant False w.agent
  faithful : ∀ m ∈ w.agent.marks.values, Faithful decl uid m
  pinned : ∀ r ∈ w.sent, Pinned decl uid r.2
  /-- An attempt only starts once the record took the declared generation. -/
  begun : (∃ tid, w.attempts tid ≠ .idle) ∨ w.sent ≠ [] →
    decl.newGeneration ≤ w.record.publicationGeneration
  /-- A recorded transfer is never taken back. -/
  late : ∀ tid, w.attempts tid = .persisted ∨ w.attempts tid = .claimed → Late w.record
  kept : w.committed → w.sent ≠ [] ∧ Kept True (declaredTransfer decl uid) w.agent.marks

variable {volumeID : String} {decl : Declaration} {uid : String} {w w' : World} {driver : CSIDriver}
  {next : VolumeState}

theorem update_committed {m : VolumeRecord.Mutation} (h : w.update driver m = .committed next) :
    ∃ mutated, m.mutate w.record = .ok mutated ∧ next = bumped m.bump mutated := by
  obtain ⟨pvs, mutated, hpvs, -, hmutate, hnext⟩ := updateVolumeState_committed h
  cases hpvs
  exact ⟨mutated, hmutate, hnext⟩

theorem update_mutated {m : VolumeRecord.Mutation} (h : w.update driver m = .committed next) :
    Mutated w.record m next := by
  obtain ⟨mutated, hmutate, rfl⟩ := update_committed h
  exact mutated_of_mutate hmutate

variable {tid : Nat}

section

variable (h : Inv decl uid w)

include h

theorem Inv.goto (hbegun : stage ≠ .idle → decl.newGeneration ≤ w.record.publicationGeneration)
    (hlate : stage = .persisted ∨ stage = .claimed → Late w.record) :
    Inv decl uid (w.goto tid stage) := by
  have hattempt : ∀ other, (w.goto tid stage).attempts other = stage ∨
      (w.goto tid stage).attempts other = w.attempts other := by
    intro other
    by_cases hother : other = tid
    · exact .inl (by simp [World.goto, hother])
    · exact .inr (by simp [World.goto, Function.update_of_ne hother])
  refine ⟨h.record, h.agent, h.faithful, h.pinned, ?_, ?_, h.kept⟩
  · rintro (⟨other, hactive⟩ | hsent)
    · rcases hattempt other with hnew | hold
      · exact hbegun (hnew ▸ hactive)
      · exact h.begun (.inl ⟨other, hold ▸ hactive⟩)
    · exact h.begun (.inr hsent)
  · intro other hstage
    rcases hattempt other with hnew | hold
    · exact hlate (hnew ▸ hstage)
    · exact h.late other (hold ▸ hstage)

theorem Inv.store {bump : Bool} (hnext : Follows decl uid w.record next) :
    Inv decl uid (w.store bump next) :=
  ⟨hnext.record, h.agent, h.faithful, h.pinned, fun hbegun => (h.begun hbegun).trans hnext.generation,
    fun tid hstage => hnext.late (h.late tid hstage), h.kept⟩

theorem Inv.active (hstage : w.attempts tid = stage) (hne : stage ≠ .idle) :
    decl.newGeneration ≤ w.record.publicationGeneration :=
  h.begun (.inl ⟨tid, hstage ▸ hne⟩)

theorem Inv.fill
    (hupdate : w.update driver (.fillRecoveryWriteOnce w.record.uid resolved) = .committed next) :
    Inv decl uid (w.store false next) :=
  h.store (h.record.fill (update_mutated hupdate))

theorem Inv.adopt (hupdate : w.update driver .adoptRecoveryPhase = .committed next) :
    Inv decl uid ((w.store false next).goto tid .adopted) := by
  obtain ⟨hnext, hbegun⟩ := h.record.adopt (update_mutated hupdate)
  exact (h.store hnext).goto (fun _ => hbegun) (by simp)

theorem Inv.persist {devicePath : String} {exportSpec : Option VolumeExportSpec}
    (hstage : w.attempts tid = .recovered devicePath)
    (hupdate : w.update driver (.persistCreatePartial devicePath exportSpec) = .committed next) :
    Inv decl uid ((w.store false next).goto tid .persisted) := by
  have hbegun := h.active hstage (by simp)
  have hnext := h.record.persist hbegun (update_mutated hupdate)
  obtain ⟨_, hmutate, rfl⟩ := update_committed hupdate
  obtain rfl := Except.ok.inj hmutate
  exact (h.store hnext).goto (fun _ => hbegun) fun _ => .inl rfl

theorem Inv.claim {volume : String} (hstage : w.attempts tid = .persisted)
    (hupdate : w.update driver (.claimOperation volume) = .committed next) :
    Inv decl uid ((w.store true next).goto tid .claimed) := by
  have hlate := h.late tid (.inl hstage)
  have hmutated := update_mutated hupdate
  obtain ⟨_, hmutate, rfl⟩ := update_committed hupdate
  obtain ⟨-, rfl⟩ := claimOperation_ok hmutate
  have hnext := h.record.bump hlate hmutated rfl h.record.pending
  exact (h.store hnext).goto (fun _ => (h.active hstage (by simp)).trans hnext.generation)
    fun _ => hlate

theorem Inv.ready (hstage : w.attempts tid = .claimed)
    (hupdate : w.update driver (.persistVolumeReady (some info)) = .committed next) :
    Inv decl uid ((w.store false next).goto tid .idle) := by
  have hnext := h.record.ready (h.active hstage (by simp)) (update_mutated hupdate)
  exact (h.store hnext).goto (by simp) (by simp)

end

variable {agent : AgentState}

theorem Inv.serve (h : Inv decl uid w) {a : AgentAction} (hforeign : foreign w.record.uid a = true)
    (hstep : AgentRuns.step volumeID w.agent a = some agent) :
    Inv decl uid { w with agent := agent } := by
  rw [h.record.uid] at hforeign
  refine ⟨h.record, step_agentInvariant volumeID _ a _ h.agent nofun hstep,
    step_faithful h.faithful (.inl hforeign) hstep, h.pinned, h.begun, h.late, fun hcommitted => ?_⟩
  obtain ⟨hsent, hkept⟩ := h.kept hcommitted
  exact ⟨hsent, step_kept hkept (.inl trivial) hstep⟩

theorem Inv.deliver (h : Inv decl uid w) {id : Nat}
    {acked : List Nat} (hsent : w.sent[id]? = some (snap, auth))
    (hstep : AgentRuns.step volumeID w.agent (.transfer snap auth env) = some agent)
    (hacked : acked ≠ [] → w.committed ∨
      (transferVolumeOwnership volumeID snap auth env w.agent.marks).2 = .ok .committed ∨
      (transferVolumeOwnership volumeID snap auth env w.agent.marks).2 = .ok .alreadyCommitted) :
    Inv decl uid { w with agent := agent, acked := acked } := by
  have hmem : (snap, auth) ∈ w.sent := List.mem_of_getElem? hsent
  have hpinned := h.pinned _ hmem
  have hagent := step_agentInvariant volumeID _ _ _ h.agent nofun hstep
  have hfaithful := step_faithful h.faithful (.inr ⟨snap, auth, env, rfl, hpinned⟩) hstep
  refine ⟨h.record, hagent, hfaithful, h.pinned, h.begun, h.late, fun hcommitted =>
    ⟨List.ne_nil_of_mem hmem, ?_⟩⟩
  rcases hacked hcommitted with hbefore | hreply
  · exact step_kept (h.kept hbefore).2 (.inl trivial) hstep
  · cases hstep
    exact kept_of_reply h.agent.valid hpinned hreply

theorem Inv.send (h : Inv decl uid w) {offer : Offer}
    {response : InspectVolumeResponse} {capacityBytes requiredBytes : Int} {plan : RecoveryPlan}
    {snap : Snapshot} {grant : Grant} (hstage : w.attempts tid = .adopted)
    (hplan : recoverVolume w.record decl offer response capacityBytes requiredBytes = .ok plan)
    (hrequest : plan.request = some (snap, grant)) (hnext : ∃ devicePath id,
      stage = .sending devicePath id) :
    Inv decl uid ({ w with sent := w.sent ++ [(snap.snap, grant.auth)] }.goto tid stage) := by
  have hbegun := h.active hstage (by simp)
  have hpinned : Pinned decl uid grant.auth := by
    simp only [recoverVolume] at hplan
    obtain ⟨-, hplan⟩ := ok_of_ite_error hplan
    split at hplan
    · obtain rfl := Except.ok.inj hplan
      cases hrequest
    split at hplan
    · cases hplan
    rename_i request hok
    obtain rfl := Except.ok.inj hplan
    cases hrequest
    exact h.record.uid ▸ transferRequest_pinned hok
  have hsent : Inv decl uid { w with sent := w.sent ++ [(snap.snap, grant.auth)] } := by
    refine ⟨h.record, h.agent, h.faithful, fun r hr => ?_, fun _ => hbegun, h.late,
      fun hcommitted => ⟨by simp, (h.kept hcommitted).2⟩⟩
    rcases List.mem_append.mp hr with hold | hnew
    · exact h.pinned r hold
    · rw [List.mem_singleton.mp hnew]
      exact hpinned
  obtain ⟨devicePath, id, rfl⟩ := hnext
  exact hsent.goto (fun _ => hbegun) (by simp)

/-- What a step does to the record: nothing, or one committed write, which is a
token only once the record took the declared generation. -/
def Wrote (decl : Declaration) (w w' : World) : Prop :=
  w'.record = w.record ∧ w'.issued = w.issued ∨
    ∃ driver m next, w.update driver m = .committed next ∧ w'.record = next ∧
      w'.issued = (if m.bump then tokenOf next :: w.issued else w.issued) ∧
      (m.bump = true → decl.newGeneration ≤ w.record.publicationGeneration)

theorem step_spec (h : Inv decl uid w) (hstep : step volumeID decl w a = some w') :
    Inv decl uid w' ∧ Wrote decl w w' := by
  cases a <;> simp only [step] at hstep
  case fill driver resolved =>
    split at hstep
    · rename_i next hupdate
      cases hstep
      exact ⟨h.fill hupdate, .inr ⟨driver, _, next, hupdate, rfl, rfl, nofun⟩⟩
    · cases hstep
      exact ⟨h, .inl ⟨rfl, rfl⟩⟩
  case adopt tid driver =>
    split at hstep
    · split at hstep
      · rename_i next hupdate
        cases hstep
        exact ⟨h.adopt hupdate, .inr ⟨driver, _, next, hupdate, rfl, rfl, nofun⟩⟩
      · rename_i hupdate
        cases hstep
        obtain ⟨hrecord, hmutate⟩ := updateVolumeState_unchanged hupdate
        cases hrecord
        exact ⟨h.goto (fun _ => h.record.adopt_unchanged hmutate) (by simp), .inl ⟨rfl, rfl⟩⟩
      · cases hstep
        exact ⟨h, .inl ⟨rfl, rfl⟩⟩
    · cases hstep
  case inspect tid offer report =>
    split at hstep
    · rename_i hstage
      split at hstep
      · cases hstep
        exact ⟨h.goto (by simp) (by simp), .inl ⟨rfl, rfl⟩⟩
      · cases hstep
        exact ⟨h.goto (fun _ => h.active hstage (by simp)) (by simp), .inl ⟨rfl, rfl⟩⟩
      · rename_i hplan
        cases hstep
        exact ⟨h.send hstage hplan rfl ⟨_, _, rfl⟩, .inl ⟨rfl, rfl⟩⟩
    · cases hstep
  case deliver id env =>
    split at hstep
    · cases hstep
    rename_i snap auth hsent
    split at hstep
    · cases hstep
    rename_i agent hagent
    cases hstep
    refine ⟨h.deliver hsent hagent fun hacked => ?_, .inl ⟨rfl, rfl⟩⟩
    split at hacked
    · rename_i hreply
      exact .inr hreply
    · exact .inl hacked
  case answer tid =>
    split at hstep
    · rename_i hstage
      obtain ⟨-, rfl⟩ := of_guard hstep
      exact ⟨h.goto (fun _ => h.active hstage (by simp)) (by simp), .inl ⟨rfl, rfl⟩⟩
    · cases hstep
  case persist tid driver exportSpec =>
    split at hstep
    · rename_i hstage
      split at hstep
      · rename_i next hupdate
        cases hstep
        exact ⟨h.persist hstage hupdate, .inr ⟨driver, _, next, hupdate, rfl, rfl, nofun⟩⟩
      · cases hstep
        exact ⟨h.goto (by simp) (by simp), .inl ⟨rfl, rfl⟩⟩
    · cases hstep
  case claim tid driver =>
    split at hstep
    · rename_i hstage
      split at hstep
      · rename_i next hupdate
        cases hstep
        exact ⟨h.claim hstage hupdate,
          .inr ⟨driver, _, next, hupdate, rfl, rfl, fun _ => h.active hstage (by simp)⟩⟩
      · cases hstep
        exact ⟨h.goto (by simp) (by simp), .inl ⟨rfl, rfl⟩⟩
    · cases hstep
  case ready tid driver info =>
    split at hstep
    · rename_i hstage
      split at hstep
      · rename_i next hupdate
        cases hstep
        exact ⟨h.ready hstage hupdate, .inr ⟨driver, _, next, hupdate, rfl, rfl, nofun⟩⟩
      · cases hstep
        exact ⟨h.goto (by simp) (by simp), .inl ⟨rfl, rfl⟩⟩
    · cases hstep
  case abort tid =>
    cases hstep
    exact ⟨h.goto (by simp) (by simp), .inl ⟨rfl, rfl⟩⟩
  case write driver m =>
    split at hstep
    · rename_i hguard
      split at hstep
      · rename_i next hupdate
        cases hstep
        obtain ⟨mutated, hmutate, rfl⟩ := update_committed hupdate
        obtain ⟨hbump, hgeneration, hnext⟩ := h.record.write hguard hmutate
        refine ⟨h.store hnext, .inr ⟨driver, m, _, hupdate, rfl, ?_, fun _ => hgeneration⟩⟩
        rw [hbump]
        rfl
      · cases hstep
        exact ⟨h, .inl ⟨rfl, rfl⟩⟩
    · cases hstep
  case serve a =>
    split at hstep
    · rename_i hforeign
      split at hstep
      · rename_i agent hagent
        cases hstep
        exact ⟨h.serve hforeign hagent, .inl ⟨rfl, rfl⟩⟩
      · cases hstep
    · cases hstep

/-- Every token of the lifecycle is newer than the declared transfer. -/
def Newer (decl : Declaration) (uid : String) (w : World) : Prop :=
  ∀ token ∈ w.issued, token.volumeUID = uid ∧ decl.newGeneration < token.generation

theorem step_newer (h : Inv decl uid w) (hnewer : Newer decl uid w)
    (hstep : step volumeID decl w a = some w') : Newer decl uid w' := by
  obtain ⟨hinv, ⟨-, hissued⟩ | ⟨driver, m, next, hupdate, hrecord, hissued, hbegun⟩⟩ :=
    step_spec h hstep
  · exact fun token htoken => hnewer token (hissued ▸ htoken)
  intro token htoken
  rw [hissued] at htoken
  split at htoken
  · rename_i hbump
    rcases List.mem_cons.mp htoken with rfl | hold
    · refine ⟨hrecord ▸ hinv.record.uid, ?_⟩
      rw [(update_mutated hupdate).of_bump hbump]
      exact Nat.lt_succ_of_le (hbegun hbump)
    · exact hnewer token hold
  · exact hnewer token htoken

theorem update_block {name : String} {pvs : VolumeState} {m : VolumeRecord.Mutation}
    (h : pvs.spec.filesystemAdoption = none) :
    (m.mutate pvs = .error .noStatusChange →
      updateVolumeState .block name pvs.uid m (some pvs) = .unchanged pvs) ∧
    ∀ next, m.mutate pvs = .ok next →
      updateVolumeState .block name pvs.uid m (some pvs) = writeStatus m.bump next := by
  constructor <;> intros <;>
    simp_all [updateVolumeState, validateVolumeStateForUpdate, validateVolumeDriver,
      scopedDriverForVolume]

theorem Recorded.adoptable {pvs : VolumeState} (h : Recorded decl uid pvs)
    (hphase : pvs.phase ≠ .ready) (hopen : pvs.deleting = false) :
    adoptRecoveryPhase pvs = .error .noStatusChange ∨
      ∃ next, adoptRecoveryPhase pvs = .ok next := by
  obtain ⟨intent, hintent, hgeneration⟩ := h.intent
  rcases h.phase with ⟨hearly, hle, -⟩ | ⟨hlate, -⟩
  · have hcreated : pvs.phase ≠ .createPartial := by
      rcases hearly with hearly | hearly <;> simp [hearly]
    have hknown : ¬ (pvs.phase ≠ .unset ∧ pvs.phase ≠ .recoveryPending) := by tauto
    have hfits : ¬ intent.newGeneration < pvs.publicationGeneration := by omega
    simp only [adoptRecoveryPhase, hintent, hopen, hcreated, hknown, hfits, if_false,
      Bool.false_eq_true]
    split
    · exact .inl rfl
    · exact .inr ⟨_, rfl⟩
  · have hcreated := hlate.resolve_right hphase
    simp [adoptRecoveryPhase, hintent, hopen, hcreated]

/-- One more attempt: it adopts the record, finds the transfer done, and records
the backend without sending a request. -/
theorem retry_completes (h : Inv decl uid w) (hphase : w.record.phase ≠ .ready)
    (hopen : w.record.deleting = false)
    (hmark : markTransferredTo (fenceObservation w.agent.marks.visible) decl uid = true)
    (tid : Nat) (offer : Offer) (report : Report) (exportSpec : Option VolumeExportSpec)
    (hfits : report.requiredBytes ≤ providedCapacity report.lvm report.capacityBytes) :
    ∃ w', run (step volumeID decl) w [.abort tid, .adopt tid .block, .inspect tid offer report,
          .persist tid .block exportSpec] = some w' ∧
      w'.sent = w.sent ∧ w'.agent = w.agent ∧ w'.record.phase = .createPartial ∧
      decl.newGeneration ≤ w'.record.publicationGeneration ∧ w'.attempts tid = .persisted := by
  obtain ⟨adopted, hadopt, hstage, hagent, hsent⟩ : ∃ adopted,
      step volumeID decl (w.goto tid .idle) (.adopt tid .block) = some adopted ∧
        adopted.attempts tid = .adopted ∧ adopted.agent = w.agent ∧ adopted.sent = w.sent := by
    have hidle : (w.goto tid .idle).attempts tid = .idle := by simp [World.goto]
    rcases h.record.adoptable hphase hopen with hsame | ⟨next, hnext⟩
    · have hupdate : (w.goto tid .idle).update .block .adoptRecoveryPhase = .unchanged w.record :=
        (update_block h.record.block).1 hsame
      refine ⟨(w.goto tid .idle).goto tid .adopted, ?_, by simp [World.goto], rfl, rfl⟩
      simp only [step, hidle, hupdate]
    · have hupdate : (w.goto tid .idle).update .block .adoptRecoveryPhase = .committed next :=
        (update_block h.record.block).2 next hnext
      refine ⟨((w.goto tid .idle).store false next).goto tid .adopted, ?_, by simp [World.goto],
        rfl, rfl⟩
      simp only [step, hidle, hupdate]
  have hidle : Inv decl uid (w.goto tid .idle) := h.goto (by simp) (by simp)
  have hinv := (step_spec hidle hadopt).1
  have hseen : markTransferredTo (adopted.inspection report).fence decl adopted.record.uid =
      true := by
    rw [hinv.record.uid]
    simpa [World.inspection, hagent] using hmark
  have hplan := recoverVolume_of_transferred offer hseen hfits
  generalize (adopted.inspection report).lvm.elim "" (·.1) = devicePath at hplan
  have hinspect : step volumeID decl adopted (.inspect tid offer report) =
      some (adopted.goto tid (.recovered devicePath)) := by
    simp only [step, hstage, hplan]
  obtain ⟨next, hpersist, hnext, hgeneration⟩ : ∃ next,
      step volumeID decl (adopted.goto tid (.recovered devicePath))
          (.persist tid .block exportSpec) =
        some (((adopted.goto tid (.recovered devicePath)).store false next).goto tid .persisted) ∧
        next.phase = .createPartial ∧
        next.publicationGeneration = adopted.record.publicationGeneration := by
    have hrecovered : (adopted.goto tid (.recovered devicePath)).attempts tid =
        .recovered devicePath := by simp [World.goto]
    obtain ⟨next, hmutate, hnext, hgeneration⟩ : ∃ next,
        VolumeRecord.persistCreatePartial devicePath exportSpec adopted.record = .ok next ∧
          next.phase = .createPartial ∧
          next.publicationGeneration = adopted.record.publicationGeneration := ⟨_, rfl, rfl, rfl⟩
    have hupdate : (adopted.goto tid (.recovered devicePath)).update .block
        (.persistCreatePartial devicePath exportSpec) = .committed next :=
      (update_block hinv.record.block).2 next hmutate
    exact ⟨next, by simp only [step, hrecovered, hupdate], hnext, hgeneration⟩
  have habort : step volumeID decl w (.abort tid) = some (w.goto tid .idle) := rfl
  refine ⟨((adopted.goto tid (.recovered devicePath)).store false next).goto tid .persisted, ?_,
    hsent, hagent, hnext, ?_, by simp [World.goto]⟩
  · rw [run_cons_of_step habort, run_cons_of_step hadopt, run_cons_of_step hinspect,
      run_cons_of_step hpersist]
    rfl
  · exact (hinv.active hstage (by simp)).trans_eq hgeneration.symm

/-- A recovery begins with a fresh record that declares the grant, and an agent
whose marks do not name the new volume yet. -/
structure Starts (volumeID : String) (decl : Declaration) (record : VolumeState)
    (agent : AgentState) : Prop where
  declares : ∃ successRecorded spec newVolumeUID,
    record = freshRecord record.name record.uid successRecorded spec ∧ validSpec spec = true ∧
      spec.recovery = some
        { source := some decl.source
          newVolumeUID := newVolumeUID
          newGeneration := decl.newGeneration }
  reached : ∃ before, run (AgentRuns.step volumeID) AgentRuns.initial before = some agent
  unknown : ∀ m ∈ agent.marks.values, m.volumeUID ≠ record.uid

theorem Starts.inv
    (h : Starts volumeID decl record agent) : Inv decl record.uid (.init record agent) := by
  obtain ⟨successRecorded, spec, newVolumeUID, hfresh, hvalid, hintent⟩ := h.declares
  obtain ⟨before, hrun⟩ := h.reached
  have hspec : record.spec = spec := by rw [hfresh]; rfl
  have hblock : spec.filesystemAdoption = none := by
    simp [validSpec, hintent] at hvalid
    exact hvalid.2.2
  refine ⟨⟨rfl, ⟨_, hspec ▸ hintent, rfl⟩, hspec ▸ hblock, ?_, ?_⟩,
    run_agentInvariant False hrun nofun, fun m hm howner => absurd howner (h.unknown m hm),
    by simp [World.init], by simp [World.init], by simp [World.init], by simp [World.init, World.committed]⟩
  · refine .inl ⟨.inl ?_, ?_, ?_⟩ <;> simp only [World.init] <;> rw [hfresh] <;> simp [freshRecord]
  · intro _
    simp only [World.init]
    rw [hfresh]
    exact ⟨rfl, rfl⟩

theorem run_inv (hstart : Starts volumeID decl record agent) {actions : List Action}
    (hrun : run (step volumeID decl) (.init record agent) actions = some w) :
    Inv decl record.uid w ∧ Newer decl record.uid w := by
  have hstep : ∀ u a v, Inv decl record.uid u ∧ Newer decl record.uid u →
      step volumeID decl u a = some v → Inv decl record.uid v ∧ Newer decl record.uid v :=
    fun u a v h hstep => ⟨(step_spec h.1 hstep).1, step_newer h.1 h.2 hstep⟩
  exact invariant_run hstep ⟨hstart.inv, by simp [Newer, World.init]⟩ hrun

theorem Inv.recognised (h : Inv decl uid w) (hcommitted : w.committed)
    (hm : w.agent.marks.visible = some m) (howner : m.volumeUID = uid) (hopen : m.ended = false) :
    m.transfer = some (declaredTransfer decl uid) ∧
      markTransferredTo (fenceObservation w.agent.marks.visible) decl uid = true := by
  obtain ⟨seen, hseen, hremembers⟩ := (h.kept hcommitted).2.visible
  obtain rfl := Option.mem_unique hm hseen
  have htransfer := hremembers.recorded howner
  have hcarried := h.faithful m (Cell.mem_values_of_visible hm) howner (by simp [htransfer])
  exact ⟨htransfer, hm ▸ markTransferredTo_of_carried hcarried howner hopen⟩

/-- However the attempts, the agent and the other writers of the record
interleave and crash: once the agent committed the transfer, and as long as the
recovery lifecycle owns the volume, an attempt finds the transfer done and
records the backend without sending another.  The record is then at the
transferred generation or past it, and every token it ever issues is newer. -/
theorem recovery_resumes {record : VolumeState} {agent : AgentState}
    (hstart : Starts volumeID decl record agent) {actions : List Action}
    (hrun : run (step volumeID decl) (.init record agent) actions = some w) : (∀ token ∈ w.issued,
        token.volumeUID = record.uid ∧ decl.newGeneration < token.generation) ∧ (w.committed →
        decl.newGeneration ≤ w.record.publicationGeneration ∧
        (∀ m ∈ w.agent.marks.values, decl.oldVolumeUID ∈ m.endedUIDs) ∧
        ∀ m, w.agent.marks.visible = some m → m.volumeUID = record.uid → m.ended = false →
          m.transfer = some (declaredTransfer decl record.uid) ∧ ∀ offer report,
            report.requiredBytes ≤ providedCapacity report.lvm report.capacityBytes →
              (∃ plan, recoverVolume w.record decl offer (w.inspection report)
                report.capacityBytes report.requiredBytes = .ok plan ∧ plan.request = none) ∧
              (w.record.phase ≠ .ready → w.record.deleting = false → ∀ tid exportSpec,
                ∃ w', run (step volumeID decl) w
                    [.abort tid, .adopt tid .block, .inspect tid offer report,
                      .persist tid .block exportSpec] = some w' ∧
                  w'.sent = w.sent ∧ w'.agent = w.agent ∧ w'.record.phase = .createPartial ∧
                  decl.newGeneration ≤ w'.record.publicationGeneration ∧
                  w'.attempts tid = .persisted)) := by
  obtain ⟨hinv, hnewer⟩ := run_inv hstart hrun
  refine ⟨hnewer, fun hcommitted => ?_⟩
  obtain ⟨hsent, hkept⟩ := hinv.kept hcommitted
  refine ⟨hinv.begun (.inr hsent), fun m hm => ((hkept.values trivial).2 m hm).source_retired, ?_⟩
  intro m hm howner hopen
  obtain ⟨htransfer, hmark⟩ := hinv.recognised hcommitted hm howner hopen
  refine ⟨htransfer, fun offer report hfits => ⟨?_, ?_⟩⟩
  · have hseen : markTransferredTo (w.inspection report).fence decl w.record.uid = true := by
      rw [hinv.record.uid]
      exact hmark
    exact ⟨_, recoverVolume_of_transferred offer hseen hfits, rfl⟩
  · intro hphase hdeleting tid exportSpec
    exact retry_completes hinv hphase hdeleting hmark tid offer report exportSpec hfits

/-- Recovery of an adopted LV from lifecycle `a` to a record with UID `b`. -/
def sampleDigest : List UInt8 := List.replicate 32 0

def sampleDeclaration : Declaration :=
  { oldVolumeUID := "a", oldGeneration := 7, newGeneration := 3
    source := ⟨"vg", "lv", "vg-uuid", "lv-uuid", false⟩
    authorizationDigest := digestHex sampleDigest
    digest_field := .inr (by decide +kernel) }

def sampleGrant : Grant :=
  { auth := { recoverToB with newGeneration := 3, digest := digestHex sampleDigest }
    volumeID := "vg/lv", backendType := some .lvm, preserveOriginal := some false
    issuedAt := .at 0, expiresAt := .at 3600, snapshotDigest := [], digest := sampleDigest
    digest_eq := rfl, preserve_eq := rfl }

def sampleSnapshot : Snapshot :=
  { snap := ⟨"a", 7, false⟩, volumeID := "vg/lv", backendType := some .lvm
    lvmSource := some adoptedLV, consumers := [], exports := [], exclusiveClaim := "free"
    digest := [] }

def sampleOffer : Offer :=
  { authorization := some (some sampleGrant), snapshot := some (some sampleSnapshot) }

def sampleRecord : VolumeState :=
  freshRecord "pv" "b" false
    { volumeID := "b", agentVolumeID := "vg/lv", agentRef := "n1", backendType := "lvm-lv"
      protocolType := "nvmeof-tcp"
      recovery := some { source := some sampleDeclaration.source, newGeneration := 3 } }

/-- The answer to the committed transfer is lost, and the agent's host crashes. -/
def lostAnswer : List Action :=
  [.adopt 0 .block, .inspect 0 sampleOffer {}, .deliver 0 {}, .serve (.crash 0)]

theorem recovery_resumes_lostAnswer :
    ∃ agent w w', run (AgentRuns.step "vg/lv") AgentRuns.initial adoptLV = some agent ∧
      run (step "vg/lv" sampleDeclaration) (.init sampleRecord agent) lostAnswer = some w ∧
      w.sent.length = 1 ∧ run (step "vg/lv" sampleDeclaration) w
        [.abort 0, .adopt 0 .block, .inspect 0 {} {}, .persist 0 .block none] = some w' ∧
      w'.sent = w.sent ∧ w'.record.phase = .createPartial ∧
      3 ≤ w'.record.publicationGeneration := by
  obtain ⟨agent, hagent, hunknown, w, hw, hsent, hcommitted, hphase, hdeleting, m, hm, howner,
      hopen⟩ : ∃ agent, run (AgentRuns.step "vg/lv") AgentRuns.initial adoptLV = some agent ∧
      (∀ m ∈ agent.marks.values, m.volumeUID ≠ sampleRecord.uid) ∧
      ∃ w, run (step "vg/lv" sampleDeclaration) (.init sampleRecord agent) lostAnswer = some w ∧
        w.sent.length = 1 ∧ w.acked ≠ [] ∧ w.record.phase ≠ .ready ∧ w.record.deleting = false ∧
        ∃ m, w.agent.marks.visible = some m ∧ m.volumeUID = "b" ∧ m.ended = false := by
    decide +kernel
  have hstart : Starts "vg/lv" sampleDeclaration sampleRecord agent :=
    ⟨⟨false, _, "", rfl, by decide, rfl⟩, ⟨adoptLV, hagent⟩, hunknown⟩
  have hresumes := (recovery_resumes hstart hw).2 hcommitted
  obtain ⟨-, hretry⟩ := (hresumes.2.2 m hm howner hopen).2 {} {} (by decide)
  obtain ⟨w', hw', hsame, -, hnext, hgeneration, -⟩ := hretry hphase hdeleting 0 none
  exact ⟨agent, w, w', hagent, hw, hsent, hw', hsame, hnext, hgeneration⟩

end PillarCsi.RecoveryResume
