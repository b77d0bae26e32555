import PillarCsi.FencingOrder

/-!
A volume ID that adopted an LV with the PreserveOriginal policy keeps the pin,
and the backend never provisions, resizes or deletes for it again.
-/

namespace PillarCsi.PreservedOriginal

open DurableCell FencingAdmission FencedOperations OwnershipOperations FencingContracts
open AgentRuns FencingOrder TransitionSystem

def callsBackend : FencedCall → Bool
  | .createVolume | .expandVolume | .deleteVolume => true
  | .grantExport | .revokeExport => false

variable {volumeID : String} {token : FencingToken} {m : FencingMark} {c : MarkCell}
  {env : Surroundings} {call : FencedCall} {p : Event → Prop} {s t : AgentState}

theorem check_refuses (hpreserve : m.preserveOriginal = true) (hpinned : m.lvmSource ≠ none)
    (hcall : callsBackend call = true) :
    checkFencePreconditions call.op (call.check volumeID) env.verifyLV m ≠ .ok () := by
  cases call with
  | createVolume =>
    obtain ⟨src, hsrc⟩ := Option.ne_none_iff_exists'.mp hpinned
    simp [checkFencePreconditions, FencedCall.check, refusePinnedCreate, hsrc]
  | expandVolume | deleteVolume =>
    simp [checkFencePreconditions, FencedCall.check, refusePreserved, hpreserve]
  | grantExport | revokeExport => cases hcall

theorem fencedChecked_not_ran (hvisible : c.visible = some m)
    (hpreserve : m.preserveOriginal = true) (hpinned : m.lvmSource ≠ none)
    (hcall : callsBackend call = true) (volumeID : String)
    (token : FencingToken) (backend : Option BackendType) (env : Surroundings) :
    (fencedChecked volumeID token call.op backend (call.check volumeID) env c).ran = false := by
  unfold fencedChecked
  split
  · rfl
  rename_i stored hread
  cases eq_visible_of_readFencingMark hread
  rw [hvisible]
  split
  · rfl
  rename_i adm hadmits
  rw [Option.getD_some]
  dsimp only
  split
  · rfl
  rename_i hresync
  have hadm := admits_of_admitFencingToken hadmits
  -- a terminal retry that reaches the mutation would be a destroy of an unpinned mark
  have hdecision : adm.decision ≠ .admitTerminalRetry := by
    intro hterminal
    cases hadm with
    | terminalRetry _ _ _ hop _ =>
      cases call with
      | createVolume | expandVolume => exact hop rfl
      | deleteVolume => exact hresync ⟨rfl, rfl, hpinned⟩
      | grantExport | revokeExport => cases hcall
    | successor | sameGeneration | advance => cases hterminal
  rw [if_neg hdecision]
  split
  · rfl
  · rename_i hchecked
    exact absurd hchecked (check_refuses hpreserve hpinned hcall)

/-- The event is a call of the backend's Create, Expand or Delete. -/
def IsBackendCall : Event → Prop
  | .ran _ (.call call) => callsBackend call = true
  | _ => False

def Pins (src : MarkLVMSource) (d : FencingMark) : Prop :=
  d.preserveOriginal = true ∧ d.lvmSource = some src

variable {src : MarkLVMSource}

theorem pins_mono (a b : FencingMark) (hab : a ≤ b)
    (h : Pins src a) : Pins src b := ⟨hab.preserve h.1, hab.source src h.2⟩

theorem pins_values (hvalid : Valid c) (h : c.Settled (Pins src))
    (x : FencingMark) (hx : x ∈ c.values) : Pins src x := by
  obtain ⟨d, hd, hpins⟩ := h
  exact pins_mono d x (hvalid.sorted.durable_le hd hx) hpins

def Adds (p : Event → Prop) (s t : AgentState) : Prop :=
  ∃ added, t.history = added ++ s.history ∧ ∀ e ∈ added, p e

theorem Adds.trans {u : AgentState} (hst : Adds p s t) (htu : Adds p t u) : Adds p s u := by
  obtain ⟨first, hfirst, hp⟩ := hst
  obtain ⟨later, hlater, hq⟩ := htu
  refine ⟨later ++ first, by rw [hlater, hfirst, List.append_assoc], ?_⟩
  intro e he
  rcases List.mem_append.mp he with he | he
  · exact hq e he
  · exact hp e he

theorem adds_record (howned : ∀ uid, p (.owned uid)) (s : AgentState)
    {events : List Event} (hevents : ∀ e ∈ events, p e) : Adds p s (s.record c events) := by
  refine ⟨(c.durable.map fun d => Event.owned d.volumeUID).toList ++ events,
    by simp [AgentState.record], ?_⟩
  intro e he
  rcases List.mem_append.mp he with he | he
  · obtain ⟨d, hd, rfl⟩ : ∃ d, c.durable = some d ∧ Event.owned d.volumeUID = e := by simpa using he
    exact howned _
  · exact hevents e he

theorem fencedEvents_not_backend
    (hvalid : Valid s.marks) (hpins : s.marks.Settled (Pins src)) (volumeID : String)
    (token : FencingToken) (call : FencedCall) (backend : Option BackendType) (env : Surroundings) :
    ∀ e ∈ fencedEvents token call
      (fencedChecked volumeID token call.op backend (call.check volumeID) env s.marks),
      ¬ IsBackendCall e := by
  intro e he hbackend
  obtain ⟨d, hd, hd'⟩ := hpins
  obtain ⟨m, hm⟩ := Cell.exists_visible_of_durable hd
  have hpin := pins_values hvalid ⟨d, hd, hd'⟩ m (Cell.mem_values_of_visible hm)
  rcases List.mem_append.mp he with he | he
  · split at he
    · cases List.mem_singleton.mp he
      exact hbackend
    · cases he
  · cases hcall : callsBackend call with
    | false =>
      unfold ranEvents at he
      split at he
      · cases List.mem_singleton.mp he
        simp [IsBackendCall, hcall] at hbackend
      · cases he
    | true =>
      have hnot := fencedChecked_not_ran hm hpin.1 (by simp [hpin.2]) hcall volumeID token
        backend env
      simp [ranEvents, hnot] at he

theorem ranEvents_not_backend {mutation : Mutation} {r : Outcome}
    (hmutation : ∀ call, mutation = .call call → callsBackend call = false) :
    ∀ e ∈ ranEvents token mutation r, ¬ IsBackendCall e := by
  intro e he hbackend
  unfold ranEvents at he
  split at he
  · cases List.mem_singleton.mp he
    cases mutation with
    | call call => simp [IsBackendCall, hmutation call rfl] at hbackend
    | filesystem revoking => exact hbackend
  · cases he

theorem step_adds {a : AgentAction} (hvalid : Valid s.marks) (hpins : s.marks.Settled (Pins src))
    (hstep : step volumeID s a = some t) : Adds (¬ IsBackendCall ·) s t := by
  have howned : ∀ uid, ¬ IsBackendCall (.owned uid) := fun _ h => h
  cases a with
  | fenced call token backend env =>
    have hevents := fencedEvents_not_backend hvalid hpins volumeID token call backend env
    cases hstep
    split
    · exact adds_record howned s hevents
    · exact adds_record howned s hevents
  | importVolume token src' preserve env =>
    cases hstep
    exact adds_record howned s (by simp)
  | retire token unexported env =>
    cases hstep
    refine adds_record howned s ?_
    split
    · simp [IsBackendCall]
    · simp
  | recheck token env =>
    simp only [step] at hstep
    obtain ⟨-, rfl⟩ := of_guard hstep
    refine adds_record howned s (ranEvents_not_backend ?_)
    rintro call heq
    cases heq
    rfl
  | transfer snap auth env =>
    cases hstep
    refine adds_record howned s ?_
    rcases transferEvents_cases auth
      (transferVolumeOwnership volumeID snap auth env s.marks).2 with heq | ⟨heq, -⟩
    · simp [heq]
    · simp [heq, IsBackendCall]
  | filesystem revoking call token env =>
    cases hstep
    exact adds_record howned s (ranEvents_not_backend fun _ heq => by cases heq)
  | flush k =>
    cases hstep
    exact adds_record howned s (by simp)
  | crash k =>
    cases hstep
    have hadds : Adds (¬ IsBackendCall ·) s (s.record (s.marks.crash k) []) :=
      adds_record howned s (by simp)
    exact hadds
  | restart =>
    cases hstep
    exact ⟨[], rfl, by simp⟩

/-- From a durable mark that preserves the original on, every run keeps the
pin and never calls the backend. -/
theorem run_preserves {actions : List AgentAction}
    (hinv : AgentInvariant False s) (hpins : s.marks.Settled (Pins src))
    (hrun : run (step volumeID) s actions = some t) :
    AgentInvariant False t ∧ t.marks.Settled (Pins src) ∧ Adds (¬ IsBackendCall ·) s t := by
  induction actions generalizing s with
  | nil =>
    cases Option.some.inj hrun
    exact ⟨hinv, hpins, [], rfl, by simp⟩
  | cons a rest ih =>
    obtain ⟨u, hu, hrest⟩ := run_cons_eq_some hrun
    have hnext := step_agentInvariant volumeID s a u hinv nofun hu
    have hpinned := hpins.advance pins_mono (step_follows hinv hu).advances
    obtain ⟨hlast, hkept, hadds⟩ := ih hnext hpinned hrest
    exact ⟨hlast, hkept, (step_adds hinv.valid hpins hu).trans hadds⟩

/-- Once a mark with PreserveOriginal is durable, every later mark of the
volume ID keeps the policy and the pinned LV, and the backend's create, expand
and delete are never called again. -/
theorem preserved_original_kept (volumeID : String) (before later : List AgentAction)
    {s t : AgentState} {d : FencingMark} (hbefore : run (step volumeID) initial before = some s)
    (hdurable : s.marks.durable = some d) (hpreserve : d.preserveOriginal = true)
    (hlater : run (step volumeID) s later = some t) : (∃ src, d.lvmSource = some src ∧
      ∀ m ∈ t.marks.values, m.preserveOriginal = true ∧ m.lvmSource = some src) ∧
    ∃ added, t.history = added ++ s.history ∧
      ∀ token call, .ran token (.call call) ∈ added → callsBackend call = false := by
  have hinv := run_agentInvariant False hbefore nofun
  have hwf := hinv.valid.wellFormed d (Cell.mem_values_of_durable hdurable)
  obtain ⟨src, hsrc⟩ := Option.ne_none_iff_exists'.mp (hwf.preserve_pinned hpreserve)
  obtain ⟨hlast, hpins, added, hhistory, hadded⟩ :=
    run_preserves hinv ⟨d, hdurable, hpreserve, hsrc⟩ hlater
  refine ⟨⟨src, hsrc, pins_values hlast.valid hpins⟩, added, hhistory, ?_⟩
  intro token call hmem
  simpa [IsBackendCall] using hadded _ hmem

def adoptLV : List AgentAction :=
  [.importVolume ⟨"a", 1⟩ (some ⟨"vg", "lv", "vg-uuid", "lv-uuid"⟩) true {}]

/-- A delete, a release and the next lifecycle's create. -/
def reuseLV : List AgentAction :=
  [.fenced .deleteVolume ⟨"a", 1⟩ (some .lvm) {},
    .retire ⟨"a", 1⟩ true {},
    .fenced .createVolume ⟨"b", 1⟩ (some .lvm) {}]

theorem preserved_original_kept_reuseLV :
    ∃ s t d, run (step "vg/lv") initial adoptLV = some s ∧ s.marks.durable = some d ∧
      d.preserveOriginal = true ∧ run (step "vg/lv") s reuseLV = some t ∧
      ∃ src, d.lvmSource = some src ∧
        ∀ m ∈ t.marks.values, m.preserveOriginal = true ∧ m.lvmSource = some src :=
  ⟨_, _, _, rfl, rfl, rfl, rfl,
    (preserved_original_kept "vg/lv" adoptLV reuseLV rfl rfl rfl rfl).1⟩

end PillarCsi.PreservedOriginal
