import PillarCsi.FencingOrder
import PillarCsi.MarkWrites

/-!
What a committed ownership transfer leaves behind: over every later run the
mark remembers it, so no second authorization moves the volume ID away from the
same lifecycle.
-/

namespace PillarCsi.OwnershipTransfer

open DurableCell FencingAdmission MarkOrder FencedOperations OwnershipOperations FencingContracts
open OwnershipContracts MarkWrites AgentRuns FencingOrder TransitionSystem

/-- The mark follows the stored one, and keeps its transfer record as long as
it keeps its owner. -/
def Continues (stored : Option FencingMark) (m : FencingMark) : Prop :=
  ∀ old, stored = some old →
    old ≤ m ∧ (m.volumeUID = old.volumeUID → m.transfer = old.transfer)

/-- The marks that an action of the agent may write over the stored one. -/
inductive WrittenBy (volumeID : String) (stored : Option FencingMark) :
    AgentAction → FencingMark → Prop
  | admitted {a : AgentAction} {token : FencingToken} {op : FenceOp} {adm : FenceAdmission}
      {next : FencingMark} (htoken : token.volumeUID ≠ "") (hadm : Admits token op stored adm)
      (hnext : SameLifecycle adm.next next) : WrittenBy volumeID stored a next
  | destroyed {a : AgentAction} {token : FencingToken} {op : FenceOp} {adm : FenceAdmission}
      {next : FencingMark} (htoken : token.volumeUID ≠ "") (hadm : Admits token op stored adm)
      (hnext : SameLifecycle adm.next next) :
      WrittenBy volumeID stored a { next with ended := true }
  | imported {token : FencingToken} {src : Option MarkLVMSource} {preserve : Bool}
      {env : ImportSurroundings} {adm : FenceAdmission} {next : FencingMark}
      (htoken : token.volumeUID ≠ "") (hadm : Admits token .grant stored adm)
      (hpin : pinImportSource volumeID adm.next (stored.getD {}) src preserve = .ok next) :
      WrittenBy volumeID stored (.importVolume token src preserve env) next
  | retiredFirst {a : AgentAction} {token : FencingToken} (htoken : token.volumeUID ≠ "") (hstored : stored = none) :
      WrittenBy volumeID stored a
        { volumeUID := token.volumeUID, generation := token.generation
          ended := true, endedUIDs := [token.volumeUID] }
  | retiredOther {a : AgentAction} {token : FencingToken} {m : FencingMark}
      (hm : stored = some m) (hfresh : token.volumeUID ∉ m.endedUIDs) :
      WrittenBy volumeID stored a { m with endedUIDs := m.endedUIDs ++ [token.volumeUID] }
  | retiredOwner {a : AgentAction} {token : FencingToken} {m : FencingMark} {adm : FenceAdmission}
      (hm : stored = some m) (hadm : Admits token .revoke (some m) adm)
      (howner : token.volumeUID = m.volumeUID) : WrittenBy volumeID stored a
        { adm.next with ended := true, endedUIDs := m.endedUIDs ++ [token.volumeUID] }
  | retried {a : AgentAction} {m : FencingMark} (hm : stored = some m) : WrittenBy volumeID stored a m
  | transferred {snap : RecoverySnapshot} {auth : RecoveryAuthorization}
      {env : TransferSurroundings} {m admitted : FencingMark} (hm : stored = some m)
      (hother : m.volumeUID ≠ auth.newVolumeUID)
      (hsignatures : verifyTransferSignatures auth env.signatures = .ok ())
      (hadmitted : transferAdmittedMark volumeID m snap auth env.evidence = .ok admitted) :
      WrittenBy volumeID stored (.transfer snap auth env) (transferredMark m admitted auth)

variable {m : FencingMark} {next : FencingMark} {s t : AgentState} {a : AgentAction}
  {stored : Option FencingMark}

section Operations

variable {c : MarkCell} {volumeID : String} {token : FencingToken} {op : FenceOp}
  {adm : FenceAdmission}

theorem admits_transfer
    (h : Admits token op (some m) adm) (howner : adm.next.volumeUID = m.volumeUID) :
    adm.next.transfer = m.transfer := by
  rw [admits_owner_next h ((admits_next_volumeUID h).symm.trans howner)]

theorem continues_admitted (hadm : Admits token op stored adm)
    (hnext : SameLifecycle adm.next next) : Continues stored next := by
  rintro old rfl
  refine ⟨(admits_le hadm).trans hnext.le, fun howner => ?_⟩
  rw [hnext.transfer]
  exact admits_transfer hadm (hnext.volumeUID.symm.trans howner)

theorem recheckFence_marks {env : Surroundings} :
    (recheckFence volumeID token op env c).marks = c := by
  unfold recheckFence
  split
  · rfl
  split
  · rfl
  split
  · rfl
  split
  · rfl
  split <;> rfl

theorem WrittenBy.continues (h : WrittenBy volumeID stored a m) : Continues stored m := by
  cases h with
  | admitted _ hadm hnext => exact continues_admitted hadm hnext
  | destroyed _ hadm hnext =>
    intro old hold
    obtain ⟨hle, htransfer⟩ := continues_admitted hadm hnext old hold
    exact ⟨hle.trans le_ended, htransfer⟩
  | imported _ hadm hpin =>
    rintro old rfl
    refine ⟨pinImportSource_le hpin (admits_le hadm), fun howner => ?_⟩
    obtain rfl := pinImportSource_ok hpin
    exact admits_transfer hadm howner
  | retiredFirst _ hnone =>
    rintro old rfl
    cases hnone
  | retiredOther hm _ =>
    rintro old rfl
    cases hm
    exact ⟨le_retire_other _, fun _ => rfl⟩
  | retiredOwner hm hadm howner =>
    rintro old rfl
    cases hm
    exact ⟨le_retire_owner hadm howner, admits_transfer hadm⟩
  | retried hm =>
    rintro old rfl
    cases hm
    exact ⟨le_refl _, fun _ => rfl⟩
  | transferred hm hother _ hadmitted =>
    rintro old rfl
    cases hm
    refine ⟨le_transferredMark hadmitted hother, fun howner => ?_⟩
    obtain ⟨hdestination, -⟩ := transferMark_transferredMark hadmitted hother
    exact absurd (hdestination.symm.trans howner).symm hother

end Operations

def transferRecord (auth : RecoveryAuthorization) : MarkTransfer :=
  { authorizationDigest := auth.digest
    fromUID := auth.oldVolumeUID, fromGeneration := auth.oldGeneration
    toUID := auth.newVolumeUID, toGeneration := auth.newGeneration }

/-- The mark belongs to the destination of the transfer and records it, or the
destination is retired as well. -/
structure Remembers (tr : MarkTransfer) (m : FencingMark) : Prop where
  source_retired : tr.fromUID ∈ m.endedUIDs
  recorded : m.volumeUID = tr.toUID → m.transfer = some tr
  retired : m.volumeUID ≠ tr.toUID → tr.toUID ∈ m.endedUIDs

theorem Remembers.continues {tr : MarkTransfer} {old : FencingMark} (h : Remembers tr old)
    (hm : Continues (some old) m) : Remembers tr m := by
  obtain ⟨hle, htransfer⟩ := hm old rfl
  refine ⟨hle.retired h.source_retired, fun howner => ?_, fun hother => ?_⟩
  · by_cases hold : old.volumeUID = tr.toUID
    · exact (htransfer (howner.trans hold.symm)).trans (h.recorded hold)
    · -- a retired destination does not come back
      have hfresh := hle.fresh (howner ▸ h.retired hold)
      exact absurd (hfresh.trans howner) hold
  · by_cases hold : old.volumeUID = tr.toUID
    · rcases hle.owner with heq | hretired
      · exact absurd (heq.symm.trans hold) hother
      · exact hold ▸ hretired
    · exact hle.retired (h.retired hold)

/-- Readers see a mark that remembers the transfer, and, once it is `lasting`,
so does every mark a crash can leave behind. -/
structure Kept (lasting : Prop) (tr : MarkTransfer) (c : MarkCell) : Prop where
  visible : ∃ m, c.visible = some m ∧ Remembers tr m
  values : lasting → c.durable ≠ none ∧ ∀ m ∈ c.values, Remembers tr m

variable {lasting : Prop} {tr : MarkTransfer} {c c' : MarkCell} {volumeID : String}

theorem Kept.evolves (h : Kept lasting tr c) (hc : c.Evolves (Continues c.visible) c') :
    Kept lasting tr c' := by
  obtain ⟨m, hm, hremembers⟩ := h.visible
  have hwritten : c.Evolves (Remembers tr) c' := hc.mono fun v hv => by
    rw [hm] at hv
    exact hremembers.continues hv
  refine ⟨?_, fun hlasting => ?_⟩
  · rcases hwritten.visible with hsame | hnew
    · exact ⟨m, hsame.trans hm, hremembers⟩
    · exact hnew
  · obtain ⟨hdurable, hvalues⟩ := h.values hlasting
    exact ⟨hwritten.durable_ne_none hdurable, hwritten.writes.forall_values hvalues⟩

theorem Kept.flush (h : Kept lasting tr c) (k : Nat) : Kept lasting tr (c.flush k) := by
  refine ⟨by simpa using h.visible, fun hlasting => ?_⟩
  obtain ⟨hdurable, hvalues⟩ := h.values hlasting
  exact ⟨Cell.flush_durable_ne_none k hdurable,
    (Cell.writes_flush (Remembers tr) c k).forall_values hvalues⟩

theorem Kept.crash (h : Kept lasting tr c) (hlasting : lasting) (k : Nat) :
    Kept lasting tr (c.crash k) := by
  obtain ⟨hdurable, hvalues⟩ := h.values hlasting
  have hcrashed : ∀ m ∈ (c.crash k).values, Remembers tr m :=
    (Cell.writes_crash (Remembers tr) c k).forall_values hvalues
  have hleft : (c.crash k).durable ≠ none := Cell.flush_durable_ne_none k hdurable
  obtain ⟨d, hd⟩ := Option.ne_none_iff_exists'.mp hleft
  obtain ⟨m, hm⟩ := Cell.exists_visible_of_durable hd
  exact ⟨⟨m, hm, hcrashed m (Cell.mem_values_of_visible hm)⟩, fun _ => ⟨hleft, hcrashed⟩⟩

/-- A step writes marks over the visible one, or the disk does something by
itself. -/
theorem step_writtenBy (hstep : step volumeID s a = some t) :
    s.marks.Evolves (WrittenBy volumeID s.marks.visible a) t.marks ∨
      (∃ k, t.marks = s.marks.flush k) ∨ ∃ k, a = .crash k ∧ t.marks = s.marks.crash k := by
  cases a with
  | fenced call token backend env =>
    have hwritten : s.marks.Evolves (WrittenBy volumeID s.marks.visible
        (.fenced call token backend env)) (fencedChecked volumeID token call.op backend
          (call.check volumeID) env s.marks).marks :=
      fencedChecked_evolves fun adm next htoken hadm hnext =>
        ⟨.admitted htoken hadm hnext, fun _ => .destroyed htoken hadm hnext⟩
    cases hstep
    split
    · exact .inl hwritten
    · exact .inl hwritten
  | importVolume token src preserve env =>
    cases hstep
    exact .inl (fencedImport_evolves fun _ _ => .imported)
  | retire token unexported env =>
    cases hstep
    refine .inl (retireFence_evolves fun next htoken hretired => ?_)
    cases hretired with
    | first hnone => exact .retiredFirst htoken hnone
    | other hm hfresh => exact .retiredOther hm hfresh
    | owner _ hm hadm howner => exact .retiredOwner hm hadm howner
  | recheck token env =>
    simp only [step] at hstep
    obtain ⟨-, rfl⟩ := of_guard hstep
    exact .inl (recheckFence_marks ▸ .refl)
  | transfer snap auth env =>
    cases hstep
    exact .inl (transferVolumeOwnership_evolves (fun _ => .retried) fun _ _ => .transferred)
  | filesystem revoking call token env =>
    cases hstep
    exact .inl (filesystemOperation_evolves fun _ _ htoken hadm hnext _ _ =>
      .admitted htoken hadm hnext)
  | flush k =>
    cases hstep
    exact .inr (.inl ⟨k, rfl⟩)
  | crash k =>
    cases hstep
    exact .inr (.inr ⟨k, rfl, rfl⟩)
  | restart =>
    cases hstep
    exact .inl .refl

/-- What holds of every mark and of what an action writes holds after it. -/
theorem step_values {p : FencingMark → Prop}
    (hwritten : ∀ m, WrittenBy volumeID s.marks.visible a m → p m)
    (h : ∀ m ∈ s.marks.values, p m) (hstep : step volumeID s a = some t) :
    ∀ m ∈ t.marks.values, p m := by
  rcases step_writtenBy hstep with hevolves | ⟨k, heq⟩ | ⟨k, -, heq⟩
  · exact (hevolves.mono hwritten).writes.forall_values h
  · exact heq ▸ (Cell.writes_flush p s.marks k).forall_values h
  · exact heq ▸ (Cell.writes_crash p s.marks k).forall_values h

theorem step_kept
    (h : Kept lasting tr s.marks) (hcrash : lasting ∨ ∀ k, a ≠ .crash k)
    (hstep : step volumeID s a = some t) : Kept lasting tr t.marks := by
  rcases step_writtenBy hstep with hwritten | ⟨k, heq⟩ | ⟨k, rfl, heq⟩
  · exact h.evolves (hwritten.mono fun _ => WrittenBy.continues)
  · exact heq ▸ h.flush k
  · rcases hcrash with hlasting | hne
    · exact heq ▸ h.crash hlasting k
    · exact absurd rfl (hne k)

theorem run_kept {actions : List AgentAction}
    (h : Kept lasting tr s.marks) (hcrash : lasting ∨ ∀ k, .crash k ∉ actions)
    (hrun : run (step volumeID) s actions = some t) : Kept lasting tr t.marks := by
  induction actions generalizing s with
  | nil =>
    cases Option.some.inj hrun
    exact h
  | cons a rest ih =>
    obtain ⟨next, hnext, hrest⟩ := run_cons_eq_some hrun
    refine ih (step_kept h (hcrash.imp_right fun hnone k => ?_) hnext)
      (hcrash.imp_right fun hnone k => ?_) hrest
    · exact fun heq => hnone k (heq ▸ (.head _))
    · exact fun hmem => hnone k (.tail a hmem)

section Transfer

variable {snap : RecoverySnapshot} {auth : RecoveryAuthorization}
  {env : TransferSurroundings} {evidence : Except FenceError Unit} {snap' : RecoverySnapshot}
  {auth' : RecoveryAuthorization} {env' : TransferSurroundings}

/-- The request takes the volume ID away from the lifecycle that owns it. -/
def Moves (volumeID : String) (snap : RecoverySnapshot) (auth : RecoveryAuthorization)
    (env : TransferSurroundings) (c : MarkCell) : Prop :=
  ∃ m n, c.visible = some m ∧
    (transferVolumeOwnership volumeID snap auth env c).1.visible = some n ∧
      n.volumeUID ≠ m.volumeUID

theorem transferAdmittedMark_generation
    (h : transferAdmittedMark volumeID m snap auth evidence = .ok next) :
    m.generation = auth.oldGeneration := by
  unfold transferAdmittedMark at h
  obtain ⟨-, -, h⟩ := ok_of_ite_errors h
  obtain ⟨hgeneration, -⟩ := ok_of_ite_error h
  exact not_not.mp hgeneration

theorem transferredMark_transfer
    (h : transferAdmittedMark volumeID m snap auth evidence = .ok next) :
    (transferredMark m next auth).transfer = some (transferRecord auth) := by
  obtain ⟨-, howner, -, -, -⟩ := transferAdmittedMark_ok h
  simp [transferredMark, transferRecord, howner, transferAdmittedMark_generation h]

/-- A request that moves the volume ID is an admitted transfer whose mark was
renamed into place. -/
theorem exists_admitted_of_moves (h : Moves volumeID snap auth env c) :
    auth.newVolumeUID ≠ "" ∧ ∃ m admitted, c.visible = some m ∧ m.volumeUID ≠ auth.newVolumeUID ∧
      transferAdmittedMark volumeID m snap auth env.evidence = .ok admitted ∧
      (transferVolumeOwnership volumeID snap auth env c).1 =
        c.write (transferredMark m admitted auth) env.write ∧
      (c.write (transferredMark m admitted auth) env.write).visible =
        some (transferredMark m admitted auth) := by
  obtain ⟨m, n, hm, hn, hne⟩ := h
  have hsame : (transferVolumeOwnership volumeID snap auth env c).1.visible ≠ c.visible := by
    rw [hn, hm]
    exact fun heq => hne (congrArg FencingMark.volumeUID (Option.some.inj heq))
  rcases transferVolumeOwnership_cases volumeID snap auth env c with
    ⟨err, heq⟩ | ⟨stored, next, reply, hstored, heq, -, -, hnext⟩
  · exact absurd (by rw [heq]) hsame
  have hvisible : (c.write next env.write).visible = some next :=
    (Cell.visible_write c next env.write).resolve_right fun hold => hsame (by rw [heq, hold])
  rcases hnext with ⟨-, rfl, -⟩ | ⟨hother, admitted, rfl, hsigned, hadmitted⟩
  · exact absurd (by rw [heq, hvisible, hstored]) hsame
  · refine ⟨newVolumeUID_of_verifyTransferSignatures hsigned, stored, admitted, hstored, hother,
      hadmitted, ?_, hvisible⟩
    rw [heq]

theorem kept_of_moves (h : Moves volumeID snap auth env c) :
    Kept (env.write = .synced) (transferRecord auth)
      (transferVolumeOwnership volumeID snap auth env c).1 := by
  obtain ⟨-, m, admitted, -, hother, hadmitted, heq, hvisible⟩ := exists_admitted_of_moves h
  obtain ⟨-, howner, -, -, hnext⟩ := transferAdmittedMark_ok hadmitted
  have hremembers : Remembers (transferRecord auth) (transferredMark m admitted auth) := by
    refine ⟨?_, fun _ => transferredMark_transfer hadmitted, fun hne => ?_⟩
    · simp [hnext, transferredMark, transferRecord, howner]
    · exact absurd (transferMark_transferredMark hadmitted hother).1 hne
  rw [heq]
  refine ⟨⟨_, hvisible, hremembers⟩, fun hsynced => ?_⟩
  rw [hsynced]
  refine ⟨Option.some_ne_none _, fun x hx => ?_⟩
  rw [List.mem_singleton.mp hx]
  exact hremembers

section

variable (h : Kept lasting (transferRecord auth) c)

include h

theorem Kept.not_moves_again (hvalid : Valid c)
    (hmoves : Moves volumeID snap' auth' env' c) : auth'.oldVolumeUID ≠ auth.oldVolumeUID := by
  obtain ⟨m, hm, hremembers⟩ := h.visible
  obtain ⟨-, stored, admitted, hstored, -, hadmitted, -⟩ := exists_admitted_of_moves hmoves
  obtain rfl : m = stored := Option.mem_unique hm hstored
  obtain ⟨hopen, howner, -⟩ := transferAdmittedMark_ok hadmitted
  intro hsame
  have hretired : m.volumeUID ∈ m.endedUIDs := by
    rw [howner, hsame]
    exact hremembers.source_retired
  rw [(hvalid.visible hm).retired_ended hretired] at hopen
  cases hopen

theorem Kept.retry (hm : c.visible = some m) (howner : m.volumeUID = auth.newVolumeUID)
    (hnamed : auth.newVolumeUID ≠ "") (hrequest : env.request = .ok ())
    (hreadable : env.readable = true) :
    (transferVolumeOwnership volumeID snap auth env c).1.visible = c.visible ∧
      (transferVolumeOwnership volumeID snap auth env c).2 =
        .ok (if env.write = .synced then .alreadyCommitted else .unknown) := by
  obtain ⟨_, hvisible, hremembers⟩ := h.visible
  obtain rfl := Option.mem_unique hm hvisible
  have hread : readFencingMark volumeID c true = .ok (some m) := by
    simp [readFencingMark, hm, howner, hnamed]
  have hcheck : checkCommittedTransferRetry volumeID m.transfer auth = .ok () := by
    rw [hremembers.recorded howner]
    simp [checkCommittedTransferRetry, transferRecord]
  unfold transferVolumeOwnership
  simp only [hrequest, hreadable, hread, howner, if_true, hcheck, and_true]
  rcases Cell.visible_write c m env.write with hwritten | hwritten
  · rw [hwritten, hm]
  · exact hwritten

/-- Any other request is refused, unless it moves the volume ID on from its
present owner. -/
theorem Kept.refuses (hm : c.visible = some m) (howner : m.volumeUID = auth.newVolumeUID)
    (hother : transferRecord auth' ≠ transferRecord auth)
    (honward : ¬ (auth'.oldVolumeUID = m.volumeUID ∧ auth'.oldGeneration = m.generation)) :
    ∃ err, transferVolumeOwnership volumeID snap' auth' env' c = (c, .error err) := by
  obtain ⟨_, hvisible, hremembers⟩ := h.visible
  obtain rfl := Option.mem_unique hm hvisible
  refine (transferVolumeOwnership_cases volumeID snap' auth' env' c).resolve_right ?_
  rintro ⟨stored, next, reply, hstored, -, -, -, ⟨-, -, hcheck⟩ | ⟨-, admitted, -, -, hadmitted⟩⟩ <;>
    obtain rfl := Option.mem_unique hm hstored
  · rw [hremembers.recorded howner] at hcheck
    obtain ⟨hdigest, hendpoints, -⟩ := ok_of_ite_errors hcheck
    refine absurd ?_ hother
    simp only [transferRecord, MarkTransfer.mk.injEq] at hdigest hendpoints ⊢
    tauto
  · obtain ⟨-, hsource, -⟩ := transferAdmittedMark_ok hadmitted
    exact honward ⟨hsource.symm, (transferAdmittedMark_generation hadmitted).symm⟩

end

theorem transferVolumeOwnership_refused {err : FenceError}
    (h : (transferVolumeOwnership volumeID snap auth env c).2 = .error err) :
    (transferVolumeOwnership volumeID snap auth env c).1 = c := by
  rcases transferVolumeOwnership_cases volumeID snap auth env c with
    ⟨err, heq⟩ | ⟨m, next, reply, -, heq, -, hfailed, -⟩
  · rw [heq]
  · rw [heq] at h ⊢
    rw [hfailed err h]
    rfl

end Transfer

/-- Once a transfer moved the volume ID, and no crash lost a mark the agent had
not yet answered for, no other request moves it away from the same lifecycle.
While the destination owns the volume ID the committed request is recognised
without changing the mark, and a request that names another authorization or
other endpoints is refused unless its source is the present owner.  A refused
request leaves the mark file as it was. -/
theorem ownership_transferred_once {volumeID : String} {before after : List AgentAction}
    {s t u : AgentState} {snap : RecoverySnapshot} {auth : RecoveryAuthorization}
    {env : TransferSurroundings} (hbefore : run (step volumeID) initial before = some s)
    (hmoves : Moves volumeID snap auth env s.marks)
    (hcommit : step volumeID s (.transfer snap auth env) = some t)
    (hafter : run (step volumeID) t after = some u)
    (hlasting : env.write = .synced ∨ ∀ k, .crash k ∉ after) :
    (∀ snap' auth' env', Moves volumeID snap' auth' env' u.marks →
      auth'.oldVolumeUID ≠ auth.oldVolumeUID) ∧
    (∀ m, u.marks.visible = some m → m.volumeUID = auth.newVolumeUID →
      (∀ snap' env', env'.request = .ok () → env'.readable = true →
        (transferVolumeOwnership volumeID snap' auth env' u.marks).1.visible = u.marks.visible ∧
        (transferVolumeOwnership volumeID snap' auth env' u.marks).2 =
          .ok (if env'.write = .synced then .alreadyCommitted else .unknown)) ∧
      (∀ snap' auth' env', transferRecord auth' ≠ transferRecord auth →
        ¬ (auth'.oldVolumeUID = m.volumeUID ∧ auth'.oldGeneration = m.generation) →
          ∃ err, transferVolumeOwnership volumeID snap' auth' env' u.marks =
            (u.marks, .error err))) ∧ (∀ (marks : MarkCell) snap' auth' env' err,
      (transferVolumeOwnership volumeID snap' auth' env' marks).2 = .error err →
        (transferVolumeOwnership volumeID snap' auth' env' marks).1 = marks) := by
  have hmarks : t.marks = (transferVolumeOwnership volumeID snap auth env s.marks).1 := by
    cases hcommit
    rfl
  have hkept : Kept (env.write = .synced) (transferRecord auth) u.marks := by
    refine run_kept ?_ hlasting hafter
    rw [hmarks]
    exact kept_of_moves hmoves
  have hrun : run (step volumeID) initial (before ++ .transfer snap auth env :: after) = some u :=
    run_append hbefore ((run_cons_of_step hcommit after).trans hafter)
  have hvalid : Valid u.marks := (run_agentInvariant False hrun nofun).valid
  refine ⟨fun snap' auth' env' h => hkept.not_moves_again hvalid h, ?_,
    fun marks snap' auth' env' err h => transferVolumeOwnership_refused h⟩
  intro m hm howner
  have hsigned := (exists_admitted_of_moves hmoves).1
  refine ⟨fun snap' env' hrequest hreadable => hkept.retry hm howner hsigned hrequest hreadable, ?_⟩
  exact fun snap' auth' env' hother honward => hkept.refuses hm howner hother honward

/-- An adopted LV and its recovery from lifecycle `a` to `b`. -/
def adoptedLV : MarkLVMSource := ⟨"vg", "lv", "vg-uuid", "lv-uuid"⟩

def adoptLV : List AgentAction := [.importVolume ⟨"a", 7⟩ (some adoptedLV) false {}]

def recoverToB : RecoveryAuthorization :=
  { oldVolumeUID := "a", oldGeneration := 7, newVolumeUID := "b", newGeneration := 1
    lvmSource := some adoptedLV, preserveOriginal := false, digest := "d1" }

def recoverToC : RecoveryAuthorization :=
  { oldVolumeUID := "b", oldGeneration := 1, newVolumeUID := "c", newGeneration := 1
    lvmSource := some adoptedLV, preserveOriginal := false, digest := "d2" }

/-- After the destination advanced its generation and the host crashed, the
committed request is still recognised. -/
theorem ownership_transferred_once_after_crash :
    ∃ s t u, run (step "vg/lv") initial adoptLV = some s ∧
      step "vg/lv" s (.transfer ⟨"a", 7, false⟩ recoverToB {}) = some t ∧
      run (step "vg/lv") t [.fenced .grantExport ⟨"b", 2⟩ none {}, .crash 0] = some u ∧
      (transferVolumeOwnership "vg/lv" ⟨"a", 7, false⟩ recoverToB {} u.marks).2 =
        .ok .alreadyCommitted := by
  obtain ⟨s, t, u, m, hs, hmoves, ht, hu, hm, howner⟩ :
      ∃ s t u m, run (step "vg/lv") initial adoptLV = some s ∧
        Moves "vg/lv" ⟨"a", 7, false⟩ recoverToB {} s.marks ∧
        step "vg/lv" s (.transfer ⟨"a", 7, false⟩ recoverToB {}) = some t ∧
        run (step "vg/lv") t [.fenced .grantExport ⟨"b", 2⟩ none {}, .crash 0] = some u ∧
        u.marks.visible = some m ∧ m.volumeUID = "b" :=
    ⟨_, _, _, _, rfl, ⟨_, _, rfl, rfl, by decide⟩, rfl, rfl, rfl, rfl⟩
  have honce := ownership_transferred_once hs hmoves ht hu (.inl rfl)
  exact ⟨s, t, u, hs, ht, hu, ((honce.2.1 m hm howner).1 ⟨"a", 7, false⟩ {} rfl rfl).2⟩

/-- A further transfer, with another digest, destination and source, is
committed against the mark that records the first one. -/
theorem onward_transfer_committed : ∃ s t m, run (step "vg/lv") initial adoptLV = some s ∧
      step "vg/lv" s (.transfer ⟨"a", 7, false⟩ recoverToB {}) = some t ∧
      t.marks.visible = some m ∧ m.transfer = some (transferRecord recoverToB) ∧
      (transferVolumeOwnership "vg/lv" ⟨"b", 1, false⟩ recoverToC {} t.marks).2 = .ok .committed ∧
      recoverToC.digest ≠ recoverToB.digest ∧ recoverToC.newVolumeUID ≠ recoverToB.newVolumeUID ∧
      recoverToC.oldVolumeUID ≠ recoverToB.oldVolumeUID :=
  ⟨_, _, _, rfl, rfl, rfl, rfl, rfl, by decide, by decide, by decide⟩

end PillarCsi.OwnershipTransfer
