import Mathlib
import PillarCsi.NodeRuns

/-!
What failed stages leave on the node once an unstage has returned success.

A stage attaches before it records.  An unstage takes away what the record
names; without a record it looks for mounts and for the claim of a local attach,
whose name it can compute, but not for sessions.  So a stage that dies or fails
between its connect and its record leaves a session that no unstage finds,
except that an iSCSI stage whose device does not appear logs out itself.

That a recorded port reads back as itself, `Nat.toNat?_repr`, is a lemma that
only the whole of Mathlib exports.
-/

namespace PillarCsi.StageLeftovers

open TransitionSystem FalliblePrograms EffectPrograms StageRecord NodeHost NodeStaging NodeContracts
open StageContracts NodeRuns

variable {n : Nat} {state : NodeStageState} {h s : Host}

theorem parsePort_repr (hn : 1 ≤ n ∧ n ≤ 65535) : parsePort n.repr = some n := by
  unfold parsePort
  rw [Nat.toNat?_repr]
  exact if_pos hn

theorem port_of_parsePort {port : String} (h : parsePort port = some n) : 1 ≤ n ∧ n ≤ 65535 := by
  obtain ⟨m, -, hm⟩ := Option.bind_eq_some_iff.mp h
  split at hm
  · cases hm
    assumption
  · cases hm

theorem port_of_parseISCSIAttachParams {node : NodeServer} {params : AttachParams}
    {spec : ISCSIAttachSpec} (h : parseISCSIAttachParams node params = .ok spec) :
    1 ≤ spec.port ∧ spec.port ≤ 65535 := by
  unfold parseISCSIAttachParams at h
  split at h
  · cases h
  split at h
  · cases h
  split at h
  · cases h
  · cases h
  · rename_i port lun hport hlun
    split at h
    · cases h
    · cases h
    · obtain rfl := Except.ok.inj h
      exact port_of_parsePort hport

theorem detachSession_of_attachedAs {node : NodeServer} {req : StageRequest}
    {result : AttachResult} (h : AttachedAs node req.attachParams result) :
    detachSession result.state = attachSession node req := by
  unfold AttachedAs at h
  unfold attachSession
  rw [show req.attachParams.protocolType = req.protocolType from rfl] at h
  revert h
  cases req.protocolType with
  | nvmeofTCP =>
    intro h
    rw [h]
    rfl
  | iscsi =>
    rintro ⟨spec, hspec, hstate⟩
    rw [hstate, hspec]
    change (parsePort spec.port.repr).map _ = _
    rw [parsePort_repr (port_of_parseISCSIAttachParams hspec)]
    rfl
  | nfs =>
    rintro ⟨state, hstate⟩
    rw [hstate]
    rfl
  | other name => exact fun h => h.elim

/-- What the attempts of a stage have in common. -/
structure StagePlan where
  (volumeID stagingPath : String)
  accessType : AccessType
  /-- Through device mapper instead of the network. -/
  isLocal : Bool
  session : Option Session

structure Follows (node : NodeServer) (plan : StagePlan) (req : StageRequest) : Prop where
  volumeID : req.volumeID = plan.volumeID
  stagingPath : req.stagingPath = plan.stagingPath
  accessType : req.accessType = plan.accessType
  isLocal : ∀ localDevice, validateStage node req = .ok localDevice →
    localDevice.isSome = plan.isLocal
  session : attachSession node req = plan.session

/-- The record tells an unstage how to undo the plan's attachment. -/
structure Undoes (node : NodeServer) (plan : StagePlan) (state : NodeStageState) : Prop where
  accessType : state.accessType = some plan.accessType
  file : state.file = false
  claimed : plan.isLocal = true → state.attachMode = .local ∧
    state.localState.map (·.dmName) = some (node.localDMName plan.volumeID)
  connected : plan.isLocal = false → state.attachMode = .protocol ∧
    ∃ proto, state.toProtocolState = .ok proto ∧ detachSession proto = plan.session

variable {new : NodeStageState}

section Plan

variable {node : NodeServer} {plan : StagePlan} {req : StageRequest} {localDevice : Option String}
  {start : Host}

theorem undoes_of_stagedAs (hfollows : Follows node plan req)
    (hlocal : localDevice.isSome = plan.isLocal) (hstaged : StagedAs node req localDevice new) :
    Undoes node plan new where
  accessType := by rw [hstaged.accessType, hfollows.accessType]
  file := hstaged.file
  claimed := by
    intro hplan
    rw [← hfollows.volumeID]
    exact hstaged.claimed (hlocal.trans hplan)
  connected := by
    intro hplan
    have hnone : localDevice = none := by simpa using hlocal.trans hplan
    obtain ⟨hmode, result, hattached, hproto⟩ := hstaged.connected hnone
    refine ⟨hmode, result.state, hproto, ?_⟩
    rw [detachSession_of_attachedAs hattached, hfollows.session]

theorem Undoes.rewrites {volumeID : String} {old : NodeStageState} (h : Undoes node plan old)
    (hnew : Rewrites volumeID old new) : Undoes node plan new where
  accessType := hnew.accessType.trans h.accessType
  file := hnew.file.trans h.file
  claimed := by
    rw [hnew.attachMode, hnew.localState]
    exact h.claimed
  connected := by
    rw [hnew.attachMode, hnew.protocolState]
    exact h.connected

theorem Undoes.backfilled (h : Undoes node plan state) : Undoes node plan state.backfilled := by
  rw [backfilled_of_isSome (by rw [h.accessType]; rfl)]
  exact h

/-- The record, if there is one, undoes the plan's attachment. -/
def Undoable (node : NodeServer) (plan : StagePlan) (h : Host) : Prop :=
  ∀ state, recordOf h plan.volumeID = some state → Undoes node plan state

theorem undoable_writeRecord (hnew : Undoes node plan new) :
    Undoable node plan (h.apply (.writeRecord (stateFileKey plan.volumeID) new)) := by
  intro state hstate
  rw [recordOf_writeRecord] at hstate
  cases hstate
  exact hnew.backfilled

theorem Undoable.rewritesIn (hundoable : Undoable node plan h)
    (hrewrites : RewritesIn plan.volumeID h new) :
    Undoable node plan (h.apply (.writeRecord (stateFileKey plan.volumeID) new)) := by
  obtain ⟨old, hold, hnew⟩ := hrewrites
  exact undoable_writeRecord ((hundoable old hold).rewrites hnew)

theorem undoable_removeRecord (h : Host) :
    Undoable node plan (h.apply (.removeRecord (stateFileKey plan.volumeID))) := by
  intro state hstate
  rw [recordOf_removeRecord] at hstate
  cases hstate

/-- What the attempts may have left: a record that undoes the attachment, the
plan's session, the plan's claim. -/
structure Attempted (node : NodeServer) (plan : StagePlan) (start h : Host) : Prop where
  undoable : Undoable node plan h
  sessions : ∀ session ∈ h.sessions, session ∈ start.sessions ∨
    (plan.isLocal = false ∧ plan.session = some session)
  claims : ∀ claim ∈ h.claims, claim ∈ start.claims ∨
    (plan.isLocal = true ∧ claim.1 = node.localDMName plan.volumeID)

theorem closed_attempted (hfollows : Follows node plan req)
    (hlocal : localDevice.isSome = plan.isLocal) :
    Closed (StageContract node req localDevice) (Attempted node plan start) := by
  intro event h hevent hh
  have hkey : stateFileKey req.volumeID = stateFileKey plan.volumeID := by rw [hfollows.volumeID]
  cases event with
  | writeRecord key new =>
    obtain ⟨rfl, hwrite⟩ := hevent
    rw [hkey]
    refine ⟨?_, hh.sessions, hh.claims⟩
    rcases hwrite with hrewrites | ⟨hstaged, -⟩
    · rw [hfollows.volumeID] at hrewrites
      exact hh.undoable.rewritesIn hrewrites
    · exact undoable_writeRecord (undoes_of_stagedAs hfollows hlocal hstaged)
  | removeRecord key =>
    obtain ⟨rfl, -⟩ := hevent
    rw [hkey]
    exact ⟨undoable_removeRecord h, hh.sessions, hh.claims⟩
  | connect session =>
    obtain ⟨hnone, hsession⟩ := hevent
    refine ⟨hh.undoable, fun x hx => ?_, hh.claims⟩
    rcases List.mem_insert_iff.mp hx with rfl | hmem
    · refine .inr ⟨?_, hfollows.session.symm.trans hsession⟩
      rw [← hlocal, hnone]
      rfl
    · exact hh.sessions x hmem
  | disconnect session =>
    exact ⟨hh.undoable, fun x hx => hh.sessions x (List.mem_of_mem_filter hx), hh.claims⟩
  | createClaim name device =>
    obtain ⟨hsome, rfl⟩ := hevent
    refine ⟨hh.undoable, hh.sessions, fun claim hclaim => ?_⟩
    rcases List.mem_cons.mp hclaim with rfl | hmem
    · exact .inr ⟨hlocal.symm.trans hsome, by rw [hfollows.volumeID]⟩
    · exact hh.claims claim hmem
  | removeClaim name =>
    exact ⟨hh.undoable, hh.sessions, fun x hx => hh.claims x (List.mem_of_mem_filter hx)⟩
  | _ => exact ⟨hh.undoable, hh.sessions, hh.claims⟩

theorem attempted_step {a : Action} (hh : Attempted node plan start h)
    (hcall : a.call = .stage req) (hfollows : Follows node plan req) :
    Attempted node plan start (a.after node h) := by
  have hentered : Attempted node plan start (a.around.enter h) :=
    ⟨hh.undoable, hh.sessions, hh.claims⟩
  exact keeps_after_stage hcall hentered fun localDevice hvalid =>
    closed_attempted hfollows (hfollows.isLocal localDevice hvalid)

theorem run_attempted {attempts : List Action} (hstart : Undoable node plan start)
    (hattempts : ∀ a ∈ attempts, ∃ req, a.call = .stage req ∧ Follows node plan req)
    (hrun : run (step node) start attempts = some s) : Attempted node plan start s := by
  have hall : AllSteps (step node)
      (fun _ a => ∃ req, a.call = .stage req ∧ Follows node plan req) start attempts :=
    allSteps_of_forall_mem (fun a ha _ => hattempts a ha) start
  refine invariant_run_of_allSteps ?_ ⟨hstart, fun _ => .inl, fun _ => .inl⟩ hall hrun
  rintro h a _ hh ⟨req, hcall, hfollows⟩ ⟨⟩
  exact attempted_step hh hcall hfollows

end Plan

section Calls

variable {outcomes : List Outcome} {error : NodeError} {event : Event}

def takesEffect (outcome : Outcome) : Bool := outcome = .done || outcome = .lost

theorem runs_act (hdone : outcomes.getD n .done = .done) :
    Runs (act error event) ⟨h, outcomes.drop n⟩ (.ok ()) ⟨h.apply event, outcomes.drop (n + 1)⟩ := by
  unfold Runs act perform Program.call
  rw [next_drop, hdone]
  rfl

theorem stops_act (error : NodeError) (event : Event) (h : Host)
    (hfailed : outcomes.getD n .done ≠ .done) :
    Stops (act error event) ⟨h, outcomes.drop n⟩ fun s =>
      s = if takesEffect (outcomes.getD n .done) then h.apply event else h := by
  unfold Stops Runs act perform Program.call
  rw [next_drop]
  cases houtcome : outcomes.getD n .done with
  | done => exact absurd houtcome hfailed
  | refused | lost | died => exact ⟨_, _, rfl, rfl⟩

theorem runs_attempt_act (error : NodeError) (event : Event) (h : Host)
    (heffect : takesEffect (outcomes.getD n .done) = true) :
    ∃ r, Runs (Program.attempt (act error event)) ⟨h, outcomes.drop n⟩ (.ok r)
      ⟨h.apply event, outcomes.drop (n + 1)⟩ := by
  unfold Runs Program.attempt act perform Program.call
  rw [next_drop]
  cases houtcome : outcomes.getD n .done with
  | done | lost => exact ⟨_, rfl⟩
  | refused | died =>
    rw [houtcome] at heffect
    cases heffect

theorem runs_deviceForLUN (what : String) {spec : ISCSIAttachSpec}
    (halive : outcomes.getD n .done ≠ .died)
    (hmissing : outcomes.getD n .done = .done → h.devices spec.session = "") :
    ∃ e, Runs (Program.attempt (deviceForLUN what spec)) ⟨h, outcomes.drop n⟩ (.ok (.error e))
      ⟨h, outcomes.drop (n + 1)⟩ := by
  unfold Runs Program.attempt deviceForLUN
  simp only [bind, Program.bind, Program.query, next_drop]
  cases houtcome : outcomes.getD n .done with
  | done =>
    simp only [hmissing houtcome]
    exact ⟨_, rfl⟩
  | refused | lost => exact ⟨_, rfl⟩
  | died => exact absurd houtcome halive

end Calls

section Attempt

variable {node : NodeServer} {req : StageRequest} {session : Session} {a : Action}
  {outcomes : List Outcome} {what : String} {φ : Host → Prop}

/-- How the attempt's `n`-th system call ends. -/
def answer (a : Action) (n : Nat) : Outcome := a.outcomes.getD n .done

/-- The attempt finds no record, and its connect, the call after the read of the
record, is carried out. -/
structure Opens (node : NodeServer) (req : StageRequest) (session : Session) (a : Action)
    (h : Host) : Prop where
  call : a.call = .stage req
  protocol : validateStage node req = .ok none
  fresh : h.files (stateFileKey req.volumeID) = none
  read : answer a 0 = .done
  filesystem : ∃ fs, req.filesystem node = .ok fs
  options : req.protocolType = .nvmeofTCP →
    node.parseNVMeoFConnectOptions req.attachParams.extra req.attachParams.publishContext = .ok ()
  attaches : attachSession node req = some session
  connect : takesEffect (answer a 1) = true

/-- Its login succeeds, its device does not appear, and its logout is carried
out. -/
structure RollsBack (node : NodeServer) (req : StageRequest) (session : Session) (a : Action)
    (h : Host) : Prop extends Opens node req session a h where
  iscsi : req.protocolType = .iscsi
  login : answer a 1 = .done
  wait : answer a 2 ≠ .died
  device : answer a 2 = .done → a.around.devices session = ""
  logout : takesEffect (answer a 3) = true

theorem stops_stageFresh {preserve : Bool} {w : World Host}
    (hattach : (∃ fs, req.filesystem node = .ok fs) → ∀ what,
      Stops (handlerAttach node what req.attachParams) w φ) (hfails : φ w.state) :
    Stops (stageFresh node req preserve none) w φ := by
  unfold stageFresh
  cases hfilesystem : req.filesystem node with
  | error e => exact ⟨_, _, rfl, hfails⟩
  | ok fs => exact (hattach ⟨fs, hfilesystem⟩ _).bind.bind

theorem stops_readFile {key : String} (hfailed : outcomes.getD 0 .done ≠ .done) :
    Stops (readFile key) ⟨h, outcomes⟩ fun s => s.sessions = h.sessions := by
  obtain ⟨stop, w, hrun, hstate⟩ := stops_act (internal s!"read state file {key}")
    (.readRecord key) h hfailed
  refine Stops.bind ⟨stop, w, hrun, ?_⟩
  rw [hstate]
  split <;> rfl

theorem runs_readFile (key : String) (h : Host) (hdone : outcomes.getD 0 .done = .done) :
    Runs (readFile key) ⟨h, outcomes⟩ (.ok (h.files key))
      ⟨h.apply (.readRecord key), outcomes.drop 1⟩ :=
  (runs_act hdone).bind rfl

/-- A stage that finds no record stops where its attach does. -/
theorem stops_nodeStageVolume (hvalid : validateStage node req = .ok none)
    (hfresh : h.files (stateFileKey req.volumeID) = none)
    (hread : outcomes.getD 0 .done = .done)
    (hattach : Stops (stageFresh node req req.preserveKey none)
      ⟨h.apply (.readRecord (stateFileKey req.volumeID)), outcomes.drop 1⟩ φ) :
    Stops (nodeStageVolume node req) ⟨h, outcomes⟩ φ := by
  have hfound : Runs (readStageState req.volumeID) ⟨h, outcomes⟩ (.ok none)
      ⟨h.apply (.readRecord (stateFileKey req.volumeID)), outcomes.drop 1⟩ := by
    have hfile := runs_readFile (stateFileKey req.volumeID) h hread
    rw [hfresh] at hfile
    exact hfile.bind rfl
  unfold nodeStageVolume
  rw [hvalid]
  exact hfound.then_stops hattach

/-- A stage that cannot read the record stops there. -/
theorem stops_unread (hvalid : validateStage node req = .ok none)
    (hunread : outcomes.getD 0 .done ≠ .done ∨
      ∃ file, h.files (stateFileKey req.volumeID) = some file ∧ file.contents = none) :
    Stops (nodeStageVolume node req) ⟨h, outcomes⟩ fun s => s.sessions = h.sessions := by
  unfold nodeStageVolume
  rw [hvalid]
  refine Stops.bind ?_
  by_cases hread : outcomes.getD 0 .done = .done
  · obtain ⟨file, hfile, hcontents⟩ := hunread.resolve_left (fun hne => hne hread)
    have hrun := runs_readFile (stateFileKey req.volumeID) h hread
    rw [hfile] at hrun
    refine hrun.then_stops ?_
    dsimp only
    rw [hcontents]
    exact ⟨_, _, rfl, rfl⟩
  · exact (stops_readFile hread).bind

theorem stops_handlerAttach (what : String) (h : Host)
    (hattaches : attachSession node req = some session)
    (hclosed : takesEffect (outcomes.getD n .done) = false ∨ (req.protocolType = .nvmeofTCP ∧
      node.parseNVMeoFConnectOptions req.attachParams.extra req.attachParams.publishContext ≠
        .ok ())) :
    Stops (handlerAttach node what req.attachParams) ⟨h, outcomes.drop n⟩ (· = h) := by
  have hconnect : ∀ error event, takesEffect (outcomes.getD n .done) = false →
      Stops (act error event) ⟨h, outcomes.drop n⟩ (· = h) := by
    intro error event hoff
    have hne : outcomes.getD n .done ≠ .done := by
      rintro hdone
      rw [hdone] at hoff
      cases hoff
    have hstops := stops_act error event h hne
    rwa [hoff] at hstops
  unfold attachSession at hattaches
  unfold handlerAttach
  rw [show req.attachParams.protocolType = req.protocolType from rfl]
  cases hprotocol : req.protocolType with
  | nvmeofTCP =>
    change Stops (attachNVMeoF node what req.attachParams) _ _
    unfold attachNVMeoF
    cases hoptions : node.parseNVMeoFConnectOptions req.attachParams.extra
        req.attachParams.publishContext with
    | error e => exact ⟨_, _, rfl, rfl⟩
    | ok _ =>
      rcases hclosed with hoff | ⟨-, hbad⟩
      · exact (hconnect _ _ hoff).bind
      · exact absurd hoptions hbad
  | iscsi =>
    change Stops (attachISCSI node what req.attachParams) _ _
    unfold attachISCSI
    cases hspec : parseISCSIAttachParams node req.attachParams with
    | error e => exact ⟨_, _, rfl, rfl⟩
    | ok spec =>
      rcases hclosed with hoff | ⟨hnvme, -⟩
      · exact (hconnect _ _ hoff).bind
      · rw [hprotocol] at hnvme
        cases hnvme
  | nfs =>
    rw [hprotocol] at hattaches
    cases hattaches
  | other name =>
    rw [hprotocol] at hattaches
    cases hattaches

/-- A login whose device does not appear is taken back. -/
theorem stops_attachISCSI (hiscsi : req.protocolType = .iscsi)
    (hattaches : attachSession node req = some session) (hlogin : outcomes.getD n .done = .done)
    (hwait : outcomes.getD (n + 1) .done ≠ .died)
    (hdevice : outcomes.getD (n + 1) .done = .done → h.devices session = "")
    (hlogout : takesEffect (outcomes.getD (n + 2) .done) = true) :
    Stops (handlerAttach node what req.attachParams) ⟨h, outcomes.drop n⟩ fun s =>
      s.sessions = (h.sessions.insert session).filter (· ≠ session) := by
  unfold attachSession at hattaches
  rw [hiscsi] at hattaches
  obtain ⟨spec, hspec, rfl⟩ := Option.map_eq_some_iff.mp hattaches
  unfold handlerAttach
  rw [show req.attachParams.protocolType = .iscsi from hiscsi]
  change Stops (attachISCSI node what req.attachParams) _ _
  unfold attachISCSI
  cases hparsed : parseISCSIAttachParams node req.attachParams with
  | error e =>
    rw [hparsed] at hspec
    cases hspec
  | ok parsed =>
    obtain rfl : parsed = spec := by
      rw [hparsed] at hspec
      exact Option.some.inj hspec
    refine (runs_act hlogin).then_stops ?_
    have hunseen : outcomes.getD (n + 1) .done = .done →
        (h.apply (.connect parsed.session)).devices parsed.session = "" := hdevice
    obtain ⟨e, hdeviceRun⟩ := runs_deviceForLUN what hwait hunseen
    refine hdeviceRun.then_stops ?_
    obtain ⟨r, hlogoutRun⟩ := runs_attempt_act (internal (s!"iscsi Attach: roll back login to " ++
      s!"{parsed.targetIQN} at {parsed.address}:{parsed.port}")) (.disconnect parsed.session)
      (h.apply (.connect parsed.session)) hlogout
    exact hlogoutRun.then_stops ⟨_, _, rfl, rfl⟩

theorem sessions_rolledBack (hback : RollsBack node req session a h) :
    ∀ opened ∈ (a.after node h).sessions, opened ∈ h.sessions ∧ opened ≠ session := by
  obtain ⟨call, around, outcomes⟩ := a
  obtain rfl : call = .stage req := hback.call
  have hstops : Stops (nodeStageVolume node req) ⟨around.enter h, outcomes⟩ fun s =>
      s.sessions = (h.sessions.insert session).filter (· ≠ session) := by
    refine stops_nodeStageVolume hback.protocol hback.fresh hback.read ?_
    unfold stageFresh
    obtain ⟨fs, hfilesystem⟩ := hback.filesystem
    rw [hfilesystem]
    have hunseen : outcomes.getD 2 .done = .done →
        ((around.enter h).apply (.readRecord (stateFileKey req.volumeID))).devices session = "" :=
      hback.device
    exact (stops_attachISCSI hback.iscsi hback.attaches hback.login hback.wait hunseen
      hback.logout).bind.bind
  intro opened hmem
  rw [show (Action.after node ⟨.stage req, around, outcomes⟩ h).sessions = _ from hstops.after] at hmem
  have hne : opened ≠ session := by simpa using List.of_mem_filter hmem
  exact ⟨(List.mem_insert_iff.mp (List.mem_of_mem_filter hmem)).resolve_left hne, hne⟩

/-- What a stage attempt that opens no session leaves, unless there is a record. -/
theorem sessions_unopened (hcall : a.call = .stage req)
    (hprotocol : ∀ localDevice, validateStage node req = .ok localDevice → localDevice = none)
    (hrecord : recordOf h req.volumeID = none) (hunopened : ∀ session, ¬ Opens node req session a h) :
    (a.after node h).sessions = h.sessions := by
  obtain ⟨call, around, outcomes⟩ := a
  obtain rfl : call = .stage req := hcall
  cases hvalid : validateStage node req with
  | error e =>
    rw [after_invalid rfl hvalid]
    rfl
  | ok localDevice =>
  obtain rfl := hprotocol localDevice hvalid
  by_cases hreads : outcomes.getD 0 .done = .done ∧ h.files (stateFileKey req.volumeID) = none
  · obtain ⟨hread, hfresh⟩ := hreads
    cases hattaches : attachSession node req with
    | none =>
      -- no session to open
      have hclosed : Closed (StageContract node req none)
          fun s => s.sessions = h.sessions := by
        intro event s hevent hs
        cases event with
        | connect session | disconnect session =>
          exact absurd (hattaches.symm.trans hevent.2) (by simp)
        | _ => exact hs
      exact keeps_after (nodeStageVolume_spec hvalid) hclosed rfl trivial
    | some session =>
      have hstops : Stops (nodeStageVolume node req) ⟨around.enter h, outcomes⟩ fun s =>
          s.sessions = h.sessions := by
        refine stops_nodeStageVolume hvalid hfresh hread (stops_stageFresh ?_ rfl)
        intro hfilesystem what
        have hclosed : takesEffect (outcomes.getD 1 .done) = false ∨
            (req.protocolType = .nvmeofTCP ∧ node.parseNVMeoFConnectOptions req.attachParams.extra
              req.attachParams.publishContext ≠ .ok ()) := by
          by_contra hopen
          rw [not_or, Bool.not_eq_false, not_and_not_right] at hopen
          exact hunopened session
            ⟨rfl, hvalid, hfresh, hread, hfilesystem, hopen.2, hattaches, hopen.1⟩
        obtain ⟨stop, w, hrun, hstate⟩ := stops_handlerAttach what
          ((around.enter h).apply (.readRecord (stateFileKey req.volumeID))) hattaches hclosed
        refine ⟨stop, w, hrun, ?_⟩
        rw [hstate]
        rfl
      exact hstops.after
  · have hunread : outcomes.getD 0 .done ≠ .done ∨
        ∃ file, h.files (stateFileKey req.volumeID) = some file ∧ file.contents = none := by
      by_contra hreadable
      rw [not_or, not_not] at hreadable
      cases hfile : h.files (stateFileKey req.volumeID) with
      | none => exact hreads ⟨hreadable.1, hfile⟩
      | some file =>
        refine hreadable.2 ⟨file, hfile, ?_⟩
        simpa [recordOf, hfile, StageFile.record] using hrecord
    have hstops : Stops (nodeStageVolume node req) ⟨around.enter h, outcomes⟩ fun s =>
        s.sessions = h.sessions := stops_unread hvalid hunread
    exact hstops.after

end Attempt

variable {req : UnstageRequest}

section Unstage

variable {node : NodeServer} {plan : StagePlan}

theorem closed_fewer (before : Host) : Closed (UnstageContract req) fun h =>
      (∀ session ∈ h.sessions, session ∈ before.sessions) ∧
        ∀ claim ∈ h.claims, claim ∈ before.claims := by
  rintro event h hevent ⟨hsessions, hclaims⟩
  cases event with
  | connect session | createClaim name device => exact hevent.elim
  | disconnect session => exact ⟨fun x hx => hsessions x (List.mem_of_mem_filter hx), hclaims⟩
  | removeClaim name => exact ⟨hsessions, fun x hx => hclaims x (List.mem_of_mem_filter hx)⟩
  | _ => exact ⟨hsessions, hclaims⟩

/-- What is read before the teardown: a record that undoes the attachment, and a
record at all if there was one. -/
def Readable (node : NodeServer) (plan : StagePlan) (before h : Host) : Prop :=
  Undoable node plan h ∧
    ((recordOf before plan.volumeID).isSome → (recordOf h plan.volumeID).isSome)

theorem closed_readable (before : Host) :
    Closed (ReadContract plan.volumeID) (Readable node plan before) := by
  rintro event h hevent ⟨hundoable, hsome⟩
  cases event with
  | readRecord key => exact ⟨hundoable, hsome⟩
  | writeRecord key new =>
    obtain ⟨rfl, old, hold, halike⟩ := hevent
    refine ⟨hundoable.rewritesIn ⟨old, hold, rewrites_of_alike halike⟩, fun _ => ?_⟩
    rw [apply_eq, recordOf_writeRecord]
    rfl
  | _ => exact hevent.elim

theorem Undoes.of_alike {recorded : NodeStageState} (h : Undoes node plan recorded)
    (halike : Alike state recorded) : Undoes node plan state := by
  have hrewrites : Rewrites plan.volumeID recorded state := rewrites_of_alike halike
  exact h.rewrites hrewrites

/-- A record that undoes the plan's attachment, once detached, leaves neither the
plan's session nor its claim. -/
theorem gone_of_detached (hundoes : Undoes node plan state) (hdetached : Detached state h) :
    (plan.isLocal = false → ∀ session, plan.session = some session → session ∉ h.sessions) ∧
      (plan.isLocal = true → node.localDMName plan.volumeID ∉ h.claims.map (·.1)) := by
  obtain ⟨hclaim, hsession⟩ := hdetached hundoes.file
  refine ⟨fun hplan session hsome => ?_, fun hplan => ?_⟩
  · obtain ⟨hmode, proto, hproto, heq⟩ := hundoes.connected hplan
    exact hsession hmode proto session hproto (heq.trans hsome)
  · obtain ⟨hmode, hname⟩ := hundoes.claimed hplan
    obtain ⟨claim, hstate, hdm⟩ := Option.map_eq_some_iff.mp hname
    rw [← hdm]
    exact hclaim hmode claim hstate

theorem gone_of_unstaged {existing : Option NodeStageState}
    {before seen : Host} (hvolume : req.volumeID = plan.volumeID)
    (hpath : req.stagingPath = plan.stagingPath) (hseen : Readable node plan before seen)
    (hfound : Found req.volumeID existing seen) (hunstaged : Unstaged node req existing h) :
    h.mountedAt (stageSurface plan.stagingPath plan.accessType) = false ∧
      (plan.isLocal = true → node.localDMName plan.volumeID ∉ h.claims.map (·.1)) ∧
      ((recordOf before plan.volumeID).isSome → plan.isLocal = false →
        ∀ session, plan.session = some session → session ∉ h.sessions) := by
  obtain ⟨-, hunstaged⟩ := hunstaged
  rw [hvolume] at hfound
  cases existing with
  | none =>
    obtain ⟨hunmounted, hclaim⟩ := hunstaged
    rw [hpath] at hunmounted
    rw [hvolume] at hclaim
    refine ⟨hunmounted _, fun _ => hclaim, fun hsome => ?_⟩
    have hrecorded := hseen.2 hsome
    rw [recordOf_of_found_none hfound] at hrecorded
    cases hrecorded
  | some state =>
    obtain ⟨hunmounted, hdetached⟩ := hunstaged
    obtain ⟨recorded, hrecorded, halike⟩ := hfound
    have hundoes := (hseen.1 recorded hrecorded).of_alike halike
    obtain ⟨hsession, hclaim⟩ := gone_of_detached hundoes hdetached
    rw [hpath, hundoes.accessType] at hunmounted
    exact ⟨hunmounted, hclaim, fun _ => hsession⟩

theorem unstage_fewer {a : Action} (hcall : a.call = .unstage req) :
    (∀ session ∈ (a.after node s).sessions, session ∈ s.sessions) ∧
      ∀ claim ∈ (a.after node s).claims, claim ∈ s.claims := by
  obtain ⟨call, around, outcomes⟩ := a
  obtain rfl : call = .unstage req := hcall
  exact keeps_after (nodeUnstageVolume_spec (J := fun _ => True) fun _ _ _ _ => trivial)
    (closed_fewer s) ⟨fun _ hx => hx, fun _ hx => hx⟩ trivial

theorem unstage_gone {a : Action} (hcall : a.call = .unstage req)
    (hvolume : req.volumeID = plan.volumeID) (hpath : req.stagingPath = plan.stagingPath)
    (hundoable : Undoable node plan s) (hsucceeds : a.succeeds node s = true) :
    (a.after node s).mountedAt (stageSurface plan.stagingPath plan.accessType) = false ∧
      (plan.isLocal = true → node.localDMName plan.volumeID ∉ (a.after node s).claims.map (·.1)) ∧
      ((recordOf s plan.volumeID).isSome → plan.isLocal = false →
        ∀ session, plan.session = some session → session ∉ (a.after node s).sessions) := by
  obtain ⟨call, around, outcomes⟩ := a
  obtain rfl : call = .unstage req := hcall
  have hclosed : Closed (ReadContract req.volumeID) (Readable node plan s) := by
    rw [hvolume]
    exact closed_readable s
  have hreadable : Readable node plan s (around.enter s) := ⟨hundoable, fun hsome => hsome⟩
  obtain ⟨existing, ⟨seen, hseen, hfound⟩, hunstaged⟩ :=
    returns_of_succeeds (nodeUnstageVolume_spec hclosed) hreadable hsucceeds
  exact gone_of_unstaged hvolume hpath hseen hfound hunstaged

end Unstage

section Settled

variable {node : NodeServer} {plan : StagePlan} {req : StageRequest} {a : Action} {start : Host}
  {attempts : List Action}

/-- The attempt opens a session, does not take it back, and fails or dies before
it has recorded it. -/
def Strands (node : NodeServer) (a : Action) (h : Host) : Prop :=
  ∃ req session, Opens node req session a h ∧ ¬ RollsBack node req session a h ∧
    a.succeeds node h = false

/-- One of the attempts succeeds. -/
def SomeSucceeds (node : NodeServer) : Host → List Action → Prop
  | _, [] => False
  | h, a :: rest => a.succeeds node h = true ∨ SomeSucceeds node (a.after node h) rest

/-- An attempt that strands a session is retried until one succeeds. -/
def Settled (node : NodeServer) : Host → List Action → Prop
  | _, [] => True
  | h, a :: rest => (Strands node a h → SomeSucceeds node (a.after node h) rest) ∧
      Settled node (a.after node h) rest

/-- A session that was not open at the start has a record. -/
def Accounted (plan : StagePlan) (start h : Host) : Prop :=
  (∀ session ∈ h.sessions, session ∈ start.sessions) ∨ (recordOf h plan.volumeID).isSome

theorem closed_recorded : Closed (StageContract node req none) fun h =>
      (recordOf h req.volumeID).isSome := by
  intro event h hevent hsome
  cases event with
  | writeRecord key new =>
    obtain ⟨rfl, -⟩ := hevent
    rw [apply_eq, recordOf_writeRecord]
    rfl
  | removeRecord key => cases hevent.2
  | _ =>
    rw [apply_eq, recordOf_apply rfl]
    exact hsome

theorem recorded_of_succeeds (hcall : a.call = .stage req) (hsucceeds : a.succeeds node h = true) :
    (recordOf (a.after node h) req.volumeID).isSome := by
  obtain ⟨recorded, hrecorded, -⟩ := stageDone_of_succeeds hcall hsucceeds
  rw [hrecorded]
  rfl

theorem accounted_step (hcall : a.call = .stage req) (hfollows : Follows node plan req)
    (hprotocol : plan.isLocal = false) (hh : Accounted plan start h) :
    Accounted plan start (a.after node h) ∨ Strands node a h := by
  have hnone : ∀ localDevice, validateStage node req = .ok localDevice → localDevice = none := by
    intro localDevice hvalid
    simpa using (hfollows.isLocal localDevice hvalid).trans hprotocol
  unfold Accounted at hh ⊢
  rw [← hfollows.volumeID] at hh ⊢
  by_cases hsucceeds : a.succeeds node h = true
  · exact .inl (.inr (recorded_of_succeeds hcall hsucceeds))
  by_cases hsome : (recordOf h req.volumeID).isSome
  · -- a protocol stage never removes the record
    have hclosed : ∀ localDevice, validateStage node req = .ok localDevice →
        Closed (StageContract node req localDevice)
          fun h => (recordOf h req.volumeID).isSome := by
      intro localDevice hvalid
      rw [hnone localDevice hvalid]
      exact closed_recorded
    exact .inl (.inr (keeps_after_stage hcall hsome hclosed))
  have hold := hh.resolve_right hsome
  have hrecord : recordOf h req.volumeID = none := by simpa using hsome
  by_cases hopens : ∃ session, Opens node req session a h
  · obtain ⟨session, hopens⟩ := hopens
    by_cases hback : RollsBack node req session a h
    · exact .inl (.inl fun opened hmem => hold opened (sessions_rolledBack hback opened hmem).1)
    · exact .inr ⟨req, session, hopens, hback, Bool.eq_false_iff.mpr hsucceeds⟩
  · refine .inl (.inl ?_)
    rw [sessions_unopened hcall hnone hrecord (not_exists.mp hopens)]
    exact hold

theorem accounted_run (hprotocol : plan.isLocal = false)
    (hattempts : ∀ a ∈ attempts, ∃ req, a.call = .stage req ∧ Follows node plan req)
    (hsettled : Settled node h attempts)
    (hh : Accounted plan start h ∨ SomeSucceeds node h attempts)
    (hrun : run (step node) h attempts = some s) : Accounted plan start s := by
  -- until the retry that succeeds, a stranded session is not accounted for
  induction attempts generalizing h with
  | nil =>
    cases hrun
    exact hh.resolve_right fun hnone => hnone
  | cons a rest ih =>
    obtain ⟨hretried, hsettled⟩ := hsettled
    obtain ⟨req, hcall, hfollows⟩ := hattempts a (by simp)
    refine ih (fun b hb => hattempts b (.tail a hb)) hsettled ?_ hrun
    rcases hh with hh | hsucceeds | hlater
    · rcases accounted_step hcall hfollows hprotocol hh with hafter | hstrands
      · exact .inl hafter
      · exact .inr (hretried hstrands)
    · refine .inl (.inr ?_)
      rw [← hfollows.volumeID]
      exact recorded_of_succeeds hcall hsucceeds
    · exact .inr hlater

end Settled

/-- Any stage attempts of one attachment, failed or cut off anywhere, followed by
an unstage that succeeds, leave no staged mount, no session and no claim that was
not there before, if a protocol attempt that fails or dies after its connect and
does not log out again is retried until one succeeds. -/
theorem unstage_leaves_nothing (node : NodeServer) (plan : StagePlan) (start s : Host)
    (attempts : List Action) (unstage : Action) (hstart : Undoable node plan start)
    (hattempts : ∀ a ∈ attempts, ∃ req, a.call = .stage req ∧ Follows node plan req)
    (hrun : run (step node) start attempts = some s)
    (hsettled : plan.isLocal = false → Settled node start attempts)
    (hcall : unstage.call = .unstage ⟨plan.volumeID, plan.stagingPath⟩)
    (hsucceeds : unstage.succeeds node s = true) :
    (unstage.after node s).mountedAt (stageSurface plan.stagingPath plan.accessType) = false ∧
      (∀ session ∈ (unstage.after node s).sessions, session ∈ start.sessions) ∧
      ∀ claim ∈ (unstage.after node s).claims, claim ∈ start.claims := by
  have hattempted := run_attempted hstart hattempts hrun
  obtain ⟨hfewer, hfewerClaims⟩ := unstage_fewer hcall
  obtain ⟨hunmounted, hclaim, hsession⟩ := unstage_gone hcall rfl rfl hattempted.undoable hsucceeds
  refine ⟨hunmounted, fun session hmem => ?_, fun claim hmem => ?_⟩
  · rcases hattempted.sessions session (hfewer session hmem) with hold | ⟨hplan, hopened⟩
    · exact hold
    · have haccounted : Accounted plan start s :=
        accounted_run hplan hattempts (hsettled hplan) (.inl (.inl fun _ hx => hx)) hrun
      rcases haccounted with hold | hsome
      · exact hold session (hfewer session hmem)
      · exact absurd hmem (hsession hsome hplan session hopened)
  · rcases hattempted.claims claim (hfewerClaims claim hmem) with hold | ⟨hplan, hname⟩
    · exact hold
    · refine absurd ?_ (hclaim hplan)
      rw [← hname]
      exact List.mem_map_of_mem hmem

/-- An attempt whose device does not appear, one that succeeds, and the
unstage. -/
theorem unstage_leaves_nothing_retried :
    let failed : Action := ⟨.stage (nvmeStage "vol" "/stage" "nqn.1"), surroundings "" "", []⟩
    ∃ s, run (step plainNode) bareHost [failed, stageOf "vol" "/stage" "nqn.1"] = some s ∧
      s.sessions = [.nvme "nqn.1"] ∧
      ∀ session ∈ ((unstageOf "vol" "/stage").after plainNode s).sessions,
        session ∈ bareHost.sessions := by
  intro failed
  let plan : StagePlan := ⟨"vol", "/stage", .filesystem, false, some (.nvme "nqn.1")⟩
  have hfollows : Follows plainNode plan (nvmeStage "vol" "/stage" "nqn.1") := by
    refine ⟨rfl, rfl, rfl, fun localDevice hvalid => ?_, by decide +kernel⟩
    have hprotocol : validateStage plainNode (nvmeStage "vol" "/stage" "nqn.1") = .ok none := by rfl
    rw [hprotocol] at hvalid
    cases hvalid
    rfl
  have hattempts : ∀ a ∈ [failed, stageOf "vol" "/stage" "nqn.1"],
      ∃ req, a.call = .stage req ∧ Follows plainNode plan req := by
    intro a ha
    rw [List.mem_pair] at ha
    rcases ha with rfl | rfl
    · exact ⟨_, rfl, hfollows⟩
    · exact ⟨_, rfl, hfollows⟩
  have hstart : Undoable plainNode plan bareHost := by
    intro state hstate
    cases hstate
  have hretried : (stageOf "vol" "/stage" "nqn.1").succeeds plainNode
      (failed.after plainNode bareHost) = true := by decide +kernel
  have hsettled : Settled plainNode bareHost [failed, stageOf "vol" "/stage" "nqn.1"] := by
    refine ⟨fun _ => .inl hretried, fun hstrands => ?_, trivial⟩
    obtain ⟨-, -, -, -, hfailed⟩ := hstrands
    rw [hretried] at hfailed
    cases hfailed
  obtain ⟨s, hrun, hsessions, hsucceeds⟩ :
      ∃ s, run (step plainNode) bareHost [failed, stageOf "vol" "/stage" "nqn.1"] = some s ∧
        s.sessions = [.nvme "nqn.1"] ∧ (unstageOf "vol" "/stage").succeeds plainNode s = true :=
    ⟨_, rfl, by decide +kernel, by decide +kernel⟩
  have hnothing := unstage_leaves_nothing plainNode plan bareHost s _ (unstageOf "vol" "/stage")
    hstart hattempts hrun (fun _ => hsettled) rfl hsucceeds
  exact ⟨s, hrun, hsessions, hnothing.2.1⟩

/-- The controller is connected but its device does not appear: the stage fails
without a record, and the unstage succeeds and leaves the connection. -/
theorem unstage_leaves_connection :
    let failed : Action := ⟨.stage (nvmeStage "vol" "/stage" "nqn.1"), surroundings "" "", []⟩
    ∃ s, run (step plainNode) bareHost [failed] = some s ∧
      (unstageOf "vol" "/stage").succeeds plainNode s = true ∧
      .nvme "nqn.1" ∉ bareHost.sessions ∧
      .nvme "nqn.1" ∈ ((unstageOf "vol" "/stage").after plainNode s).sessions := by
  refine ⟨_, rfl, ?_⟩
  decide +kernel

end PillarCsi.StageLeftovers
