import PillarCsi.TransitionSystem

/-!
The backend device of one volume, exported by the agent and claimed by the
storage node (`internal/agent/nvmeof/local_attach.go`,
`internal/agent/lio/target.go`, `internal/csi/devicemapper.go`).

The two sides are processes that share kernel state only.  A thread stops
before every system call; whatever the kernel answers is a choice of the run.
-/

namespace PillarCsi.LocalAttachExclusion

open TransitionSystem

inductive ProtocolType where
  | nvmeofTCP
  | iscsi
  deriving DecidableEq, Repr

/-- Who holds the block device exclusively.  A loaded device-mapper table and
an enabled backstore are holders. -/
inductive Holder where
  | agent (tid : Nat)
  | deviceMapper
  | backstore
  deriving DecidableEq, Repr

inductive AgentThread where
  | idle
  | readEnable
  | readDevicePath
  | claimDevice
  | writeEnable (claimed : Bool)
  | releaseClaim
  | readDisable
  | writeDisable
  /-- `configureBackstore`. -/
  | probeDevice
  | releaseProbe
  | enableBackstore
  deriving DecidableEq, Repr

/-- The next system call of a node thread. -/
inductive NodeThread where
  | idle
  /-- `attachLocal`: `EnsureLinear`, then the export check. -/
  | findTable
  | createTable
  | checkExport
  | unmountSurface
  /-- `Remove` of the table, by `abortLocal` or by `NodeUnstageVolume`. -/
  | removeTable
  deriving DecidableEq, Repr

structure System where
  (present devicePath : Bool)
  enabled : Bool
  /-- LUN 0 of the LIO target exists. -/
  lun : Bool
  holder : Option Holder
  agents : Nat → AgentThread
  nodes : Nat → NodeThread
  /-- An `attachLocal` returned success and the table was not removed since. -/
  attached : Bool

variable (s : System)

def System.agentGoto (tid : Nat) (thread : AgentThread) : System :=
  { s with agents := Function.update s.agents tid thread }

def System.nodeGoto (tid : Nat) (thread : NodeThread) : System :=
  { s with nodes := Function.update s.nodes tid thread }

/-- The exclusive open of `ClaimDeviceExclusively`: a missing device yields a
claim that holds nothing. -/
def System.claimDeviceExclusively (tid : Nat) (absent claimed : AgentThread) : System :=
  if s.present = false then
    s.agentGoto tid absent
  else if s.holder = none then
    { s.agentGoto tid claimed with holder := some (.agent tid) }
  else
    s.agentGoto tid .idle

/-- The kernel opens the device of a namespace without holding it. -/
def System.enableNamespace (ok : Bool) : System :=
  if ok ∧ s.devicePath ∧ s.present then { s with enabled := true } else s

def System.enableBackstore (ok : Bool) : System :=
  if ok ∧ s.present ∧ s.holder = none then { s with holder := some .backstore } else s

/-- The next system call of an agent thread.  `ok`: the kernel does what it can
do. -/
def System.agentStep (tid : Nat) (ok : Bool) : Option System :=
  match s.agents tid with
  | .idle => none
  | .readEnable =>
    some (s.agentGoto tid (if ok = false ∨ s.enabled then .idle else .readDevicePath))
  | .readDevicePath =>
    some (s.agentGoto tid
      (if ok = false then .idle
      else if s.devicePath then .claimDevice
      else .writeEnable false))
  | .claimDevice =>
    if ok then some (s.claimDeviceExclusively tid (.writeEnable false) (.writeEnable true))
    else some (s.agentGoto tid .idle)
  | .writeEnable claimed =>
    some ((s.enableNamespace ok).agentGoto tid (if claimed then .releaseClaim else .idle))
  | .releaseClaim => some { s.agentGoto tid .idle with holder := none }
  | .readDisable =>
    some (s.agentGoto tid (if ok = false ∨ s.enabled = false then .idle else .writeDisable))
  | .writeDisable => some { s.agentGoto tid .idle with enabled := s.enabled && !ok }
  | .probeDevice =>
    if ok then some (s.claimDeviceExclusively tid .enableBackstore .releaseProbe)
    else some (s.agentGoto tid .idle)
  | .releaseProbe =>
    some { s.agentGoto tid (if ok then .enableBackstore else .idle) with holder := none }
  | .enableBackstore => some ((s.enableBackstore ok).agentGoto tid .idle)

/-- What the export check of `attachLocal` sees: `enabledNvmetNamespaces` or
`enabledLIOLUNs`. -/
def System.exportEnabled (protocol : ProtocolType) (s : System) : Bool :=
  match protocol with
  | .nvmeofTCP => s.enabled
  | .iscsi => s.lun

def System.nodeStep (protocol : ProtocolType) (s : System) (tid : Nat) (ok : Bool) :
    Option System :=
  match s.nodes tid with
  | .idle => none
  | .findTable =>
    some (s.nodeGoto tid
      (if ok = false ∨ s.present = false then .idle
      else if s.holder = some .deviceMapper then .checkExport
      else .createTable))
  | .createTable =>
    if s.present ∧ s.holder = none then
      -- The table stays when its read-back fails.
      some { s.nodeGoto tid (if ok then .checkExport else .idle) with
        holder := some .deviceMapper }
    else
      some (s.nodeGoto tid .idle)
  | .checkExport =>
    if ok = false ∨ s.exportEnabled protocol then
      some (s.nodeGoto tid .unmountSurface)
    else
      some { s.nodeGoto tid .idle with
        attached := s.attached || decide (s.holder = some .deviceMapper) }
  | .unmountSurface => some (s.nodeGoto tid (if ok then .removeTable else .idle))
  | .removeTable =>
    if ok ∧ s.holder = some .deviceMapper then
      some { s.nodeGoto tid .idle with holder := none, attached := false }
    else
      some (s.nodeGoto tid .idle)

inductive Action where
  | startEnable (tid : Nat)
  | startDisable (tid : Nat)
  | startConfigureBackstore (tid : Nat)
  | agent (tid : Nat) (ok : Bool)
  /-- The agent dies: the kernel closes its claim. -/
  | dieAgent (tid : Nat)
  | writeDevicePath
  | removeNamespace
  | bindLUN
  | removeLUN
  | removeBackstore
  | startAttach (tid : Nat)
  | startRemove (tid : Nat)
  | node (tid : Nat) (ok : Bool)
  | dieNode (tid : Nat)
  /-- The pool is imported or exported. -/
  | appear
  | disappear
  deriving DecidableEq, Repr

/-- A volume that is exported by iSCSI has no nvmet namespace. -/
def step (protocol : ProtocolType) (s : System) : Action → Option System
  | .startEnable tid =>
    if protocol = .nvmeofTCP ∧ s.agents tid = .idle then some (s.agentGoto tid .readEnable)
    else none
  | .startDisable tid => if s.agents tid = .idle then some (s.agentGoto tid .readDisable) else none
  | .startConfigureBackstore tid =>
    if s.agents tid = .idle then some (s.agentGoto tid .probeDevice) else none
  | .agent tid ok => s.agentStep tid ok
  | .dieAgent tid =>
    some { s.agentGoto tid .idle with
      holder := if s.holder = some (.agent tid) then none else s.holder }
  | .writeDevicePath => some (if s.enabled then s else { s with devicePath := true })
  | .removeNamespace => some { s with enabled := false, devicePath := false }
  | .bindLUN => some (if s.holder = some .backstore then { s with lun := true } else s)
  | .removeLUN => some { s with lun := false }
  | .removeBackstore =>
    if s.lun = false ∧ s.holder = some .backstore then some { s with holder := none }
    else some s
  | .startAttach tid => if s.nodes tid = .idle then some (s.nodeGoto tid .findTable) else none
  | .startRemove tid => if s.nodes tid = .idle then some (s.nodeGoto tid .removeTable) else none
  | .node tid ok => s.nodeStep protocol tid ok
  | .dieNode tid => some (s.nodeGoto tid .idle)
  | .appear => some { s with present := true }
  | .disappear =>
    if s.holder = none ∧ s.enabled = false then some { s with present := false } else some s

/-- No call is under way. -/
structure Initial (protocol : ProtocolType) (s : System) : Prop where
  agents : s.agents = fun _ => .idle
  nodes : s.nodes = fun _ => .idle
  attached : s.attached = false
  iscsi : protocol = .iscsi → s.enabled = false

/-- An enable that found nothing to claim still finds nothing to open. -/
def WritesClaimed : Action → Prop
  | .agent tid _ => s.agents tid = .writeEnable false → (s.devicePath && s.present) = false
  | _ => True

instance (s : System) (a : Action) : Decidable (WritesClaimed s a) := by
  cases a <;> dsimp only [WritesClaimed] <;> infer_instance

def AgentInv (protocol : ProtocolType) (holder : Option Holder) (tid : Nat) : AgentThread → Prop
  | .readEnable | .readDevicePath | .claimDevice | .writeEnable false => protocol = .nvmeofTCP
  | .writeEnable true => protocol = .nvmeofTCP ∧ holder = some (.agent tid)
  | .releaseClaim | .releaseProbe => holder = some (.agent tid)
  | _ => True

structure Inv (protocol : ProtocolType) (s : System) : Prop where
  agents : ∀ tid, AgentInv protocol s.holder tid (s.agents tid)
  attached : s.attached = true → s.holder = some .deviceMapper ∧ s.enabled = false
  enabled : s.enabled = true → protocol = .nvmeofTCP

variable {protocol : ProtocolType}

theorem inv_initial {s : System} (h : Initial protocol s) : Inv protocol s where
  agents := fun tid => by
    rw [h.agents]
    trivial
  attached := fun hattached => by
    rw [h.attached] at hattached
    cases hattached
  enabled := fun henabled => by
    cases hprotocol : protocol with
    | nvmeofTCP => rfl
    | iscsi =>
      rw [h.iscsi hprotocol] at henabled
      cases henabled

variable {thread : AgentThread}

section Step

variable {protocol : ProtocolType} {s t : System} {tid : Nat} {ok : Bool} {holder : Option Holder}

theorem AgentInv.change {holder' : Option Holder} (h : AgentInv protocol holder tid thread)
    (hheld : holder = some (.agent tid) → holder' = some (.agent tid)) :
    AgentInv protocol holder' tid thread := by
  cases thread with
  | writeEnable claimed =>
    cases claimed with
    | true => exact ⟨h.1, hheld h.2⟩
    | false => exact h
  | releaseClaim | releaseProbe => exact hheld h
  | _ => exact h

variable (h : Inv protocol s)

include h

theorem agents_goto
    (hheld : ∀ other ≠ tid, s.holder = some (.agent other) → holder = some (.agent other))
    (hthread : AgentInv protocol holder tid thread) (other : Nat) :
    AgentInv protocol holder other (Function.update s.agents tid thread other) := by
  by_cases hother : other = tid
  · subst hother
    rwa [Function.update_self]
  · rw [Function.update_of_ne hother]
    exact (h.agents other).change (hheld other hother)

theorem Inv.agents_of_free
    (hfree : ∀ other, s.holder ≠ some (.agent other)) (holder : Option Holder) (other : Nat) :
    AgentInv protocol holder other (s.agents other) :=
  (h.agents other).change fun hheld => absurd hheld (hfree other)

theorem Inv.agentGoto
    (hthread : AgentInv protocol s.holder tid thread) : Inv protocol (s.agentGoto tid thread) :=
  ⟨agents_goto h (fun _ _ hheld => hheld) hthread, h.attached, h.enabled⟩

theorem Inv.nodeGoto (thread : NodeThread) :
    Inv protocol (s.nodeGoto tid thread) := ⟨h.agents, h.attached, h.enabled⟩

theorem Inv.not_attached (hholder : s.holder ≠ some .deviceMapper) :
    ¬s.attached = true := fun hattached => hholder (h.attached hattached).1

theorem Inv.claimDeviceExclusively {absent claimed : AgentThread}
    (habsent : AgentInv protocol s.holder tid absent)
    (hclaimed : AgentInv protocol (some (.agent tid)) tid claimed) :
    Inv protocol (s.claimDeviceExclusively tid absent claimed) := by
  unfold System.claimDeviceExclusively
  split
  · exact h.agentGoto habsent
  split
  · rename_i hfree
    refine ⟨agents_goto h (fun other _ hheld => ?_) hclaimed, fun hattached => ?_, h.enabled⟩
    · rw [hfree] at hheld
      cases hheld
    · exact absurd hattached (h.not_attached (by simp [hfree]))
  · exact h.agentGoto trivial

theorem Inv.release (hheld : s.holder = some (.agent tid))
    (hthread : AgentInv protocol none tid thread) :
    Inv protocol { s.agentGoto tid thread with holder := none } := by
  refine ⟨agents_goto h (fun other hother hholder => ?_) hthread, fun hattached => ?_, h.enabled⟩
  · rw [hheld] at hholder
    exact absurd (Holder.agent.inj (Option.some.inj hholder)).symm hother
  · exact absurd hattached (h.not_attached (by simp [hheld]))

theorem Inv.enableNamespace (hprotocol : protocol = .nvmeofTCP)
    (hclaimed : (s.devicePath && s.present) = true → s.holder ≠ some .deviceMapper) :
    Inv protocol (s.enableNamespace ok) := by
  unfold System.enableNamespace
  split
  · rename_i hopen
    have hholder := hclaimed (by simp [hopen.2.1, hopen.2.2])
    exact ⟨h.agents, fun hattached => absurd hattached (h.not_attached hholder),
      fun _ => hprotocol⟩
  · exact h

theorem Inv.enableBackstore : Inv protocol (s.enableBackstore ok) := by
  unfold System.enableBackstore
  split
  · rename_i hopen
    refine ⟨h.agents_of_free (by simp [hopen.2.2]) _, fun hattached => ?_, h.enabled⟩
    exact absurd hattached (h.not_attached (by simp [hopen.2.2]))
  · exact h

theorem Inv.agentStep
    (hclaimed : s.agents tid = .writeEnable false → (s.devicePath && s.present) = false)
    (hstep : s.agentStep tid ok = some t) : Inv protocol t := by
  have hthread := h.agents tid
  unfold System.agentStep at hstep
  split at hstep <;> rename_i hstage <;> rw [hstage] at hthread
  · cases hstep
  · cases hstep
    refine h.agentGoto ?_
    split
    · trivial
    · exact hthread
  · cases hstep
    refine h.agentGoto ?_
    split
    · trivial
    split
    · exact hthread
    · exact hthread
  · split at hstep
    · cases hstep
      exact h.claimDeviceExclusively hthread ⟨hthread, rfl⟩
    · cases hstep
      exact h.agentGoto trivial
  · rename_i claimed
    cases hstep
    cases claimed with
    | true =>
      -- The claim keeps the table from being loaded.
      have hnext : Inv protocol (s.enableNamespace ok) :=
        h.enableNamespace hthread.1 fun _ => by simp [hthread.2]
      refine hnext.agentGoto ?_
      change (s.enableNamespace ok).holder = _
      unfold System.enableNamespace
      split <;> exact hthread.2
    | false =>
      have hnext : Inv protocol (s.enableNamespace ok) :=
        h.enableNamespace hthread fun hopen => by simp [hclaimed hstage] at hopen
      exact hnext.agentGoto trivial
  · cases hstep
    exact h.release hthread trivial
  · cases hstep
    refine h.agentGoto ?_
    split <;> trivial
  · cases hstep
    have hnext : Inv protocol (s.agentGoto tid .idle) := h.agentGoto trivial
    refine ⟨hnext.agents, fun hattached => ?_, fun henabled => ?_⟩
    · exact ⟨(h.attached hattached).1, by simp [(h.attached hattached).2]⟩
    · exact h.enabled (Bool.and_eq_true_iff.mp henabled).1
  · split at hstep
    · cases hstep
      exact h.claimDeviceExclusively trivial rfl
    · cases hstep
      exact h.agentGoto trivial
  · cases hstep
    refine h.release hthread ?_
    split <;> trivial
  · cases hstep
    exact h.enableBackstore.agentGoto trivial

theorem Inv.disabled_of_check (hcheck : s.exportEnabled protocol = false) : s.enabled = false := by
  cases hprotocol : protocol with
  | nvmeofTCP =>
    rw [hprotocol] at hcheck
    exact hcheck
  | iscsi =>
    cases henabled : s.enabled with
    | false => rfl
    | true =>
      have hnvmeof := h.enabled henabled
      rw [hprotocol] at hnvmeof
      cases hnvmeof

theorem Inv.nodeStep (hstep : s.nodeStep protocol tid ok = some t) : Inv protocol t := by
  unfold System.nodeStep at hstep
  split at hstep
  · cases hstep
  · cases hstep
    exact h.nodeGoto _
  · split at hstep
    · rename_i hfree
      cases hstep
      refine ⟨h.agents_of_free (by simp [hfree.2]) _, fun hattached => ?_, h.enabled⟩
      exact ⟨rfl, (h.attached hattached).2⟩
    · cases hstep
      exact h.nodeGoto _
  · split at hstep
    · cases hstep
      exact h.nodeGoto _
    · rename_i hcheck
      cases hstep
      have hdisabled := h.disabled_of_check (by simp_all)
      refine ⟨h.agents, fun hattached => ?_, h.enabled⟩
      rcases Bool.or_eq_true_iff.mp hattached with hbefore | hloaded
      · exact h.attached hbefore
      · exact ⟨of_decide_eq_true hloaded, hdisabled⟩
  · cases hstep
    exact h.nodeGoto _
  · split at hstep
    · rename_i hloaded
      cases hstep
      exact ⟨h.agents_of_free (by simp [hloaded.2]) _, (fun hattached => nomatch hattached),
        h.enabled⟩
    · cases hstep
      exact h.nodeGoto _

end Step

theorem Inv.step {s t : System} {a : Action} (h : Inv protocol s)
    (hclaimed : WritesClaimed s a) (hstep : step protocol s a = some t) : Inv protocol t := by
  cases a with
  | startEnable tid =>
    obtain ⟨hstart, rfl⟩ := of_guard hstep
    exact h.agentGoto hstart.1
  | startDisable tid | startConfigureBackstore tid =>
    obtain ⟨-, rfl⟩ := of_guard hstep
    exact h.agentGoto trivial
  | agent tid ok => exact h.agentStep hclaimed hstep
  | dieAgent tid =>
    cases hstep
    by_cases hheld : s.holder = some (.agent tid)
    · rw [if_pos hheld]
      exact h.release hheld trivial
    · rw [if_neg hheld]
      exact h.agentGoto trivial
  | writeDevicePath =>
    cases hstep
    split
    · exact h
    · exact ⟨h.agents, h.attached, h.enabled⟩
  | removeNamespace =>
    cases hstep
    exact ⟨h.agents, fun hattached => ⟨(h.attached hattached).1, rfl⟩,
      fun henabled => nomatch henabled⟩
  | bindLUN =>
    cases hstep
    split
    · exact ⟨h.agents, h.attached, h.enabled⟩
    · exact h
  | removeLUN =>
    cases hstep
    exact ⟨h.agents, h.attached, h.enabled⟩
  | removeBackstore =>
    simp only [LocalAttachExclusion.step] at hstep
    split at hstep
    · rename_i hunbound
      cases hstep
      refine ⟨h.agents_of_free (by simp [hunbound.2]) _, fun hattached => ?_, h.enabled⟩
      exact absurd hattached (h.not_attached (by simp [hunbound.2]))
    · cases hstep
      exact h
  | startAttach tid | startRemove tid =>
    obtain ⟨-, rfl⟩ := of_guard hstep
    exact h.nodeGoto _
  | node tid ok => exact h.nodeStep hstep
  | dieNode tid =>
    cases hstep
    exact h.nodeGoto _
  | appear =>
    cases hstep
    exact ⟨h.agents, h.attached, h.enabled⟩
  | disappear =>
    simp only [LocalAttachExclusion.step] at hstep
    split at hstep
    · cases hstep
      exact ⟨h.agents, h.attached, h.enabled⟩
    · cases hstep
      exact h

theorem inv_run {s t : System} {actions : List Action}
    (h : Inv protocol s) (hclaimed : AllSteps (step protocol) WritesClaimed s actions)
    (hrun : run (step protocol) s actions = some t) : Inv protocol t :=
  invariant_run_of_allSteps (fun _ _ _ hinv hcond hstep => hinv.step hcond hstep) h hclaimed hrun

def RemovesTable : Action → Prop
  | .node tid ok => s.nodes tid = .removeTable ∧ ok = true
  | _ => False

instance (s : System) (a : Action) : Decidable (RemovesTable s a) := by
  cases a <;> dsimp only [RemovesTable] <;> infer_instance

theorem attached_agentStep {s t : System} {tid : Nat} {ok : Bool}
    (hstep : s.agentStep tid ok = some t) : t.attached = s.attached := by
  unfold System.agentStep at hstep
  split at hstep
  case h_1 => cases hstep
  case h_4 | h_9 =>
    split at hstep <;> cases hstep
    · unfold System.claimDeviceExclusively
      split
      · rfl
      split <;> rfl
    · rfl
  case h_5 =>
    cases hstep
    change (s.enableNamespace ok).attached = _
    unfold System.enableNamespace
    split <;> rfl
  case h_11 =>
    cases hstep
    change (s.enableBackstore ok).attached = _
    unfold System.enableBackstore
    split <;> rfl
  all_goals
    cases hstep
    rfl

theorem attached_nodeStep {s t : System} {tid : Nat} {ok : Bool}
    (hstep : s.nodeStep protocol tid ok = some t)
    (hkeeps : ¬(s.nodes tid = .removeTable ∧ ok = true)) (hattached : s.attached = true) :
    t.attached = true := by
  unfold System.nodeStep at hstep
  split at hstep
  case h_1 => cases hstep
  case h_3 => split at hstep <;> cases hstep <;> exact hattached
  case h_4 =>
    split at hstep
    · cases hstep
      exact hattached
    · cases hstep
      exact Bool.or_eq_true_iff.mpr (.inl hattached)
  case h_6 hstage =>
    split at hstep
    · rename_i hremoved
      exact absurd ⟨hstage, hremoved.1⟩ hkeeps
    · cases hstep
      exact hattached
  all_goals
    cases hstep
    exact hattached

theorem attached_step {s t : System} {a : Action}
    (hstep : step protocol s a = some t) (hkeeps : ¬RemovesTable s a)
    (hattached : s.attached = true) : t.attached = true := by
  cases a with
  | agent tid ok =>
    rw [attached_agentStep hstep]
    exact hattached
  | node tid ok => exact attached_nodeStep hstep hkeeps hattached
  | _ =>
    simp only [step] at hstep
    grind [System.agentGoto, System.nodeGoto]

theorem local_attach_exclusive (protocol : ProtocolType) (init : System)
    (hinit : Initial protocol init) (actions : List Action) (s : System)
    (hclaimed : AllSteps (step protocol) WritesClaimed init actions)
    (hrun : run (step protocol) init actions = some s) (hattached : s.attached = true) :
    (s.holder = some .deviceMapper ∧ s.enabled = false) ∧
      ∀ more t, AllSteps (step protocol) (fun s a => WritesClaimed s a ∧ ¬RemovesTable s a) s more →
        run (step protocol) s more = some t →
        t.holder = some .deviceMapper ∧ t.enabled = false := by
  have hinv := inv_run (inv_initial hinit) hclaimed hrun
  refine ⟨hinv.attached hattached, fun more t hmore hrest => ?_⟩
  have hstep : ∀ u a v, Inv protocol u ∧ u.attached = true →
      WritesClaimed u a ∧ ¬RemovesTable u a → step protocol u a = some v →
      Inv protocol v ∧ v.attached = true := fun u a v hu hcond hstep =>
    ⟨hu.1.step hcond.1 hstep, attached_step hstep hcond.2 hu.2⟩
  obtain ⟨hlater, hkept⟩ := invariant_run_of_allSteps hstep ⟨hinv, hattached⟩ hmore hrest
  exact hlater.attached hkept

def disabledNamespace : System :=
  { present := true, devicePath := true, enabled := false, lun := false, holder := none
    agents := fun _ => .idle, nodes := fun _ => .idle, attached := false }

def attachSteps : List Action :=
  [.startAttach 0, .node 0 true, .node 0 true, .node 0 true]

/-- The agent is about to claim the device when the node loads its table. -/
theorem local_attach_exclusive_enableRefused : ∃ s t, run (step .nvmeofTCP) disabledNamespace
        ([.startEnable 0, .agent 0 true, .agent 0 true] ++ attachSteps) = some s ∧
      s.attached = true ∧ run (step .nvmeofTCP) s [.agent 0 true] = some t ∧
      t.holder = some .deviceMapper ∧ t.enabled = false := by
  obtain ⟨s, t, hrun, hattached, hmore, hstage⟩ :
      ∃ s t, run (step .nvmeofTCP) disabledNamespace
          ([.startEnable 0, .agent 0 true, .agent 0 true] ++ attachSteps) = some s ∧
        s.attached = true ∧ run (step .nvmeofTCP) s [.agent 0 true] = some t ∧
        s.agents 0 = .claimDevice := ⟨_, _, rfl, rfl, rfl, rfl⟩
  have hinit : Initial .nvmeofTCP disabledNamespace := ⟨rfl, rfl, rfl, fun _ => rfl⟩
  obtain ⟨-, hafter⟩ := local_attach_exclusive .nvmeofTCP disabledNamespace hinit _ s
    (by decide +kernel) hrun hattached
  refine ⟨s, t, hrun, hattached, hmore, hafter _ t ?_ hmore⟩
  refine ⟨⟨fun hwrite => ?_, id⟩, fun _ _ => trivial⟩
  rw [hstage] at hwrite
  cases hwrite

/-- The agent finds no device to claim; the device appears, the node attaches
it, and then the agent writes. -/
theorem namespace_enabled_under_attach :
    ∃ actions s, run (step .nvmeofTCP) { disabledNamespace with present := false } actions =
        some s ∧ s.attached = true ∧ s.holder = some .deviceMapper ∧ s.enabled = true :=
  ⟨[.startEnable 0, .agent 0 true, .agent 0 true, .agent 0 true, .appear] ++ attachSteps ++
    [.agent 0 true], _, rfl, rfl, rfl, rfl⟩

end PillarCsi.LocalAttachExclusion
