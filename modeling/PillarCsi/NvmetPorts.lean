import Mathlib
import PillarCsi.ProtocolHandlers

/-!
The ports of the nvmet target under the rules of the kernel: a port with a
linked subsystem is enabled, its attributes are fixed, and no two enabled ports
listen at one place (`internal/agent/nvmeof/configfs.go`).

`Nvmet` has the same functions on the tree, where a refusal of the kernel is the
outcome of a call; here the state of the ports decides it.  The lemmas that read
numbers back from their text (`Nat.toNat?_repr`, `Int.repr_inj`) come only with
the whole library.
-/

namespace PillarCsi.NvmetPorts

open Configfs ItemTree Nvmet NvmetTarget ProtocolHandlers

structure Port where
  /-- The attributes of the listener. -/
  attrs : Name → String := fun _ => ""
  inlineDataSize : String := "-1"
  /-- Older kernels have no such attribute. -/
  mdts : Option String := some "0"
  subsystems : List String := []

abbrev Ports := AList fun _ : Name => Port

inductive LinkFailure where
  | invalidArgument
  | attributeFrozen
  | inlineDataSizeConflict
  | mdtsConflict
  | addressInUse
  deriving DecidableEq, Repr

def Port.listener (port : Port) : List String :=
  [.of "addr_trtype", .of "addr_adrfam", .of "addr_traddr", .of "addr_trsvcid"].map port.attrs

def ensureAttr (port : Port) (attr : Name × String) : Except LinkFailure Port :=
  if port.attrs attr.1 = attr.2 then .ok port
  else if port.subsystems ≠ [] then .error .attributeFrozen
  else .ok { port with attrs := Function.update port.attrs attr.1 attr.2 }

variable (spec : PortSpec)

def ensureInlineDataSizeLocked (port : Port) : Except LinkFailure Port :=
  match spec.inlineDataSize with
  | none => if port.subsystems ≠ [] then .ok port else .ok { port with inlineDataSize := "-1" }
  | some want =>
    if port.subsystems = [] then .ok { port with inlineDataSize := toString want }
    else if port.inlineDataSize = toString want then .ok port
    else .error .inlineDataSizeConflict

def ensureMDTSLocked (port : Port) : Except LinkFailure Port :=
  match port.mdts with
  | none => .ok port
  | some current =>
    if port.subsystems ≠ [] then
      if linkedPortMDTSAllows spec current then .ok port else .error .mdtsConflict
    else
      .ok { port with mdts := some (idlePortMDTS spec) }

def ensurePortLocked (port : Port) : Except LinkFailure Port := do
  let port ← spec.attrs.foldlM ensureAttr port
  let port ← ensureInlineDataSizeLocked spec port
  ensureMDTSLocked spec port

/-- Another enabled port listens where this one would. -/
def occupied (ports : Ports) (id : Name) (port : Port) : Bool :=
  ports.entries.any fun e => e.1 ≠ id && e.2.subsystems ≠ [] && e.2.listener = port.listener

def symlink (ports : Ports) (id : Name) (nqn : String) (port : Port) : Except LinkFailure Port :=
  if nqn ∈ port.subsystems then .ok port
  else if port.subsystems = [] ∧ occupied ports id port then .error .addressInUse
  else .ok { port with subsystems := nqn :: port.subsystems }

/-- What a failed link leaves: a port without a subsystem goes again. -/
def prunePortLocked (id : Name) (ports : Ports) : Ports :=
  if (ports.lookup id).any fun port => port.subsystems ≠ [] then ports else ports.erase id

/-- The kernel makes a new port with the transfer size `mdts`. -/
def linkSubsystemToPort (mdts : Option String) (nqn : String) (spec : PortSpec) (ports : Ports) :
    Except LinkFailure Unit × Ports :=
  match ensurePortLocked spec ((ports.lookup spec.id).getD { mdts }) >>= symlink ports spec.id nqn with
  | .ok port => (.ok (), ports.insert spec.id port)
  | .error failure => (.error failure, prunePortLocked spec.id ports)

/-- The specification that a prepared target carries. -/
def specOf (host : Host) (t : NvmetTarget) : Option PortSpec :=
  ((t.portSpec host).result [] { entries := [] }).toOption

/-- The link phase: every prepared export in order. -/
def linkAll (host : Host) (mdts : Option String) :
    List NvmetTarget → Ports → List (Except LinkFailure Unit) × Ports
  | [], ports => ([], ports)
  | t :: rest, ports =>
    let (result, ports) := match specOf host t with
      | some spec => linkSubsystemToPort mdts t.subsystemNQN spec ports
      | none => (.error .invalidArgument, ports)
    let (results, ports) := linkAll host mdts rest ports
    (result :: results, ports)

def endpoint (t : NvmetTarget) : String × Int :=
  (t.bindAddress, if t.port = 0 then 4420 else t.port)

def listenerAttrs (family : IPFamily) (number : Int) : List (Name × String) :=
  [(.of "addr_trtype", "tcp"), (.of "addr_adrfam", if family = .ipv4 then "ipv4" else "ipv6"),
    (.of "addr_traddr", if family = .ipv4 then "0.0.0.0" else "::"),
    (.of "addr_trsvcid", toString number)]

theorem specOf_eq {host : Host} {t : NvmetTarget} {spec : PortSpec} (h : specOf host t = some spec) :
    ∃ family, host.parseIP t.bindAddress = some family ∧
      t.maxDataTransferSize.all validMaxDataTransferSize = true ∧
      spec.id = .ofNat (stablePortID (endpoint t).1 (endpoint t).2) ∧
      spec.attrs = listenerAttrs family (endpoint t).2 ∧ spec.inlineDataSize = t.inlineDataSize ∧
      spec.maxDataTransferSize = t.maxDataTransferSize ∧ spec.mdtsFloor = t.portMDTSFloor := by
  unfold specOf portSpec at h
  dsimp only at h
  split at h
  · cases h
  · rename_i family hfamily
    split at h
    · cases h
    · rename_i hsizes
      simp only [Bool.or_eq_true, Bool.not_eq_true', not_or, Bool.not_eq_false] at hsizes
      cases h
      exact ⟨family, hfamily, hsizes.1.2, rfl, rfl, rfl, rfl, rfl⟩

section Ensure

variable {port : Port} {spec : PortSpec}

theorem foldlM_ensureAttr_idle (h : port.subsystems = []) (attrs : List (Name × String)) :
    attrs.foldlM ensureAttr port = .ok { port with
      attrs := attrs.foldl (fun f attr => Function.update f attr.1 attr.2) port.attrs } := by
  induction attrs generalizing port with
  | nil => rfl
  | cons attr attrs ih =>
    have hfirst : ensureAttr port attr =
        .ok { port with attrs := Function.update port.attrs attr.1 attr.2 } := by
      unfold ensureAttr
      split
      · rename_i hsame
        rw [← hsame, Function.update_eq_self]
      · rw [if_neg (by simp [h])]
    rw [List.foldlM_cons, hfirst]
    exact ih h

theorem foldlM_ensureAttr_enabled (h : port.subsystems ≠ []) (attrs : List (Name × String)) :
    attrs.foldlM ensureAttr port =
      if ∀ attr ∈ attrs, port.attrs attr.1 = attr.2 then .ok port else .error .attributeFrozen := by
  induction attrs with
  | nil => rfl
  | cons attr attrs ih =>
    rw [List.foldlM_cons, ensureAttr]
    by_cases hsame : port.attrs attr.1 = attr.2
    · rw [if_pos hsame]
      exact ih.trans (by simp only [List.forall_mem_cons, hsame, true_and])
    · rw [if_neg hsame, if_pos h, if_neg (by simp [hsame])]
      rfl

/-- An idle port as an export sets it up. -/
def opened (spec : PortSpec) (port : Port) : Port where
  attrs := spec.attrs.foldl (fun f attr => Function.update f attr.1 attr.2) port.attrs
  inlineDataSize := (spec.inlineDataSize.map toString).getD "-1"
  mdts := port.mdts.map fun _ => idlePortMDTS spec

theorem ensurePortLocked_idle (spec : PortSpec) (h : port.subsystems = []) :
    ensurePortLocked spec port = .ok (opened spec port) := by
  rw [ensurePortLocked, foldlM_ensureAttr_idle h]
  obtain ⟨attrs, inlineDataSize, mdts, subsystems⟩ := port
  obtain rfl : subsystems = [] := h
  cases hinline : spec.inlineDataSize <;> cases mdts <;>
    simp [bind, Except.bind, ensureInlineDataSizeLocked, ensureMDTSLocked, opened, hinline]

theorem ensureInlineDataSizeLocked_enabled (h : port.subsystems ≠ []) :
    ensureInlineDataSizeLocked spec port =
      if ∀ want ∈ spec.inlineDataSize, port.inlineDataSize = toString want then .ok port
      else .error .inlineDataSizeConflict := by
  cases hinline : spec.inlineDataSize <;> simp [ensureInlineDataSizeLocked, hinline, h]

theorem ensureMDTSLocked_enabled (h : port.subsystems ≠ []) :
    ensureMDTSLocked spec port =
      if ∀ current ∈ port.mdts, linkedPortMDTSAllows spec current = true then .ok port
      else .error .mdtsConflict := by
  cases hmdts : port.mdts <;> simp [ensureMDTSLocked, hmdts, h]

/-- An enabled port stays as it is, or the export is refused. -/
theorem ensurePortLocked_enabled (spec : PortSpec) (h : port.subsystems ≠ []) :
    ensurePortLocked spec port =
      if ∀ attr ∈ spec.attrs, port.attrs attr.1 = attr.2 then
        if ∀ want ∈ spec.inlineDataSize, port.inlineDataSize = toString want then
          if ∀ current ∈ port.mdts, linkedPortMDTSAllows spec current = true then .ok port
          else .error .mdtsConflict
        else .error .inlineDataSizeConflict
      else .error .attributeFrozen := by
  rw [ensurePortLocked, foldlM_ensureAttr_enabled h, ← ensureMDTSLocked_enabled h]
  split
  · change (ensureInlineDataSizeLocked spec port >>= ensureMDTSLocked spec) = _
    rw [ensureInlineDataSizeLocked_enabled h]
    split <;> rfl
  · rfl

end Ensure

variable {size : Int} {order : List NvmetTarget}

theorem validMaxDataTransferSize_exact (h : validMaxDataTransferSize size = true)
    (hsize : size ≠ 0) : size = 4096 * 2 ^ mdtsExponent size ∧ 0 < mdtsExponent size := by
  simp only [validMaxDataTransferSize, hsize, decide_false, Bool.false_or, Bool.and_eq_true,
    decide_eq_true_eq] at h
  obtain ⟨⟨hmin, -⟩, hpower⟩ := h
  obtain ⟨n, rfl⟩ := Int.eq_ofNat_of_zero_le (by omega : 0 ≤ size)
  rw [Int.toNat_natCast] at hpower
  obtain ⟨k, rfl⟩ := (Nat.and_sub_one_eq_zero_iff_isPowerOfTwo (by omega)).mp hpower
  have hk : 12 < k := by
    by_contra hsmall
    have hle : 2 ^ k ≤ 2 ^ 12 := Nat.pow_le_pow_right (by omega) (by omega)
    omega
  obtain ⟨m, rfl⟩ : ∃ m, k = 12 + m := ⟨k - 12, by omega⟩
  have hexponent : mdtsExponent ((2 ^ (12 + m) : Nat) : Int) = m := by
    rw [mdtsExponent, Int.toNat_natCast, Nat.pow_add, Nat.mul_div_cancel_left _ (by norm_num),
      Nat.log2_two_pow]
  rw [hexponent]
  refine ⟨?_, by omega⟩
  push_cast
  rw [pow_add]
  norm_num

theorem mdtsExponent_mono {a b : Int} (h : a ≤ b) : mdtsExponent a ≤ mdtsExponent b := by
  unfold mdtsExponent
  rw [Nat.log2_eq_log_two, Nat.log2_eq_log_two]
  exact Nat.log_mono_right (Nat.div_le_div_right (Int.toNat_le_toNat h))

section Floors

variable {targets : List NvmetTarget} {t : NvmetTarget}

def portLimit (targets : List NvmetTarget) (t : NvmetTarget) : Int :=
  (portMDTSFloor targets t).getD 0

theorem portMDTSFloor_valid {floor : Int} (h : portMDTSFloor targets t = some floor) :
    floor ≠ 0 ∧ validMaxDataTransferSize floor = true := by
  simpa using (List.mem_filter.mp (List.min?_mem h)).2

theorem portMDTSFloor_spec (ht : t ∈ targets)
    (hsize : t.maxDataTransferSize = some size) (hvalid : validMaxDataTransferSize size = true)
    (hne : size ≠ 0) : ∃ floor, portMDTSFloor targets t = some floor ∧ floor ≤ size ∧
      floor ≠ 0 ∧ validMaxDataTransferSize floor = true := by
  have hmem : size ∈ (((targets.filter fun u => endpoint u = endpoint t).filterMap
      NvmetTarget.maxDataTransferSize).filter fun size =>
        size ≠ 0 ∧ validMaxDataTransferSize size) := by
    simp only [List.mem_filter, List.mem_filterMap]
    exact ⟨⟨t, ⟨ht, by simp⟩, hsize⟩, by simp [hne, hvalid]⟩
  cases hfloor : portMDTSFloor targets t with
  | none =>
    have hnone : size ∈ ([] : List Int) := by
      rw [← List.min?_eq_none_iff.mp hfloor]
      exact hmem
    cases hnone
  | some floor =>
    obtain ⟨-, hle⟩ := List.min?_eq_some_iff.mp hfloor
    exact ⟨floor, rfl, hle size hmem, portMDTSFloor_valid hfloor⟩

theorem portMDTSFloor_nonneg {floor : Int} (h : portMDTSFloor targets t = some floor) :
    0 < floor := by
  obtain ⟨hne, hvalid⟩ := portMDTSFloor_valid h
  simp [validMaxDataTransferSize] at hvalid
  omega

/-- The limit belongs to the endpoint. -/
theorem portMDTSFloor_congr {u : NvmetTarget}
    (h : endpoint t = endpoint u) : portMDTSFloor targets t = portMDTSFloor targets u := by
  simp only [endpoint] at h
  simp only [ProtocolHandlers.portMDTSFloor, h]

theorem setPortMDTSFloors_eq (targets : List NvmetTarget) :
    setPortMDTSFloors (targets.map .ok) =
      (targets.map fun u => { u with portMDTSFloor := portMDTSFloor targets u }).map .ok := by
  have hall : (targets.map Except.ok).filterMap (Except.toOption : Except Failure NvmetTarget → _) =
      targets := by simp [List.filterMap_map, Function.comp_def, Except.toOption]
  rw [setPortMDTSFloors, hall, List.map_map, List.map_map]
  rfl

theorem mem_setPortMDTSFloors (h : .ok t ∈ setPortMDTSFloors (targets.map .ok)) :
    ∃ u ∈ targets, t = { u with portMDTSFloor := portMDTSFloor targets u } := by
  rw [setPortMDTSFloors_eq] at h
  obtain ⟨u, hu, heq⟩ := List.mem_map.mp h
  obtain ⟨v, hv, rfl⟩ := List.mem_map.mp hu
  exact ⟨v, hv, (Except.ok.inj heq).symm⟩

variable {spec : PortSpec} (ht : t ∈ targets) (hmax : spec.maxDataTransferSize = t.maxDataTransferSize)
  (hvalid : t.maxDataTransferSize.all validMaxDataTransferSize = true)
  (hfloor : spec.mdtsFloor = portMDTSFloor targets t)

include ht hmax hvalid

include hfloor in
theorem idlePortMDTS_eq : idlePortMDTS spec = toString (mdtsExponent (portLimit targets t)) := by
  rw [idlePortMDTS, hfloor, hmax, portLimit]
  cases hsize : t.maxDataTransferSize with
  | none =>
    cases hf : portMDTSFloor targets t with
    | none => rfl
    | some floor => simp [portMDTSFloor_nonneg hf]
  | some size =>
    rw [hsize] at hvalid
    by_cases hne : size = 0
    · subst hne
      cases hf : portMDTSFloor targets t with
      | none => rfl
      | some floor => simp [portMDTSFloor_nonneg hf]
    · obtain ⟨floor, hf, hle, -, -⟩ := portMDTSFloor_spec ht hsize (by simpa using hvalid) hne
      have hpos := portMDTSFloor_nonneg hf
      rw [hf]
      simp only [Option.getD_some, hpos, hne, true_and, false_or]
      split
      · rfl
      · rw [show floor = size by omega]

omit ht in
/-- A port with the limit of `first` takes the exports that ask for no less. -/
theorem linkedPortMDTSAllows_iff (first : NvmetTarget) :
    linkedPortMDTSAllows spec (toString (mdtsExponent (portLimit targets first))) = true ↔
      ∀ size, t.maxDataTransferSize = some size → size ≠ 0 → portLimit targets first ≤ size := by
  rw [linkedPortMDTSAllows, hmax, portLimit]
  cases hsize : t.maxDataTransferSize with
  | none => simp
  | some size =>
    rw [hsize, Option.all_some] at hvalid
    by_cases hne : size = 0
    · simp [hne]
    obtain ⟨hexact, -⟩ := validMaxDataTransferSize_exact hvalid hne
    cases hfloor : portMDTSFloor targets first with
    | none =>
      have hpos : 0 ≤ size := by
        rw [hexact]
        positivity
      exact iff_of_true (by simp [mdtsExponent, show Nat.repr 0 = "0" from rfl]) fun _ hsame _ => by
        obtain rfl := Option.some.inj hsame
        exact hpos
    | some floor =>
      obtain ⟨hfloorNe, hfloorValid⟩ := portMDTSFloor_valid hfloor
      obtain ⟨hfloorExact, hpos⟩ := validMaxDataTransferSize_exact hfloorValid hfloorNe
      have hle : mdtsExponent floor ≤ mdtsExponent size ↔ floor ≤ size := by
        refine ⟨fun h => ?_, mdtsExponent_mono⟩
        rw [hfloorExact, hexact]
        exact Int.mul_le_mul_of_nonneg_left (pow_le_pow_right₀ (by norm_num) h) (by norm_num)
      have hrepr : (mdtsExponent floor).repr ≠ "0" :=
        fun h => Nat.ne_of_gt hpos (Nat.repr_inj.mp h)
      simp [hne, Nat.toNat?_repr, hpos, hrepr, hle]

omit hmax in
theorem portLimit_le (hsize : t.maxDataTransferSize = some size) (hne : size ≠ 0) :
    portLimit targets t ≤ size := by
  obtain ⟨floor, hfloor, hle, -⟩ :=
    portMDTSFloor_spec ht hsize (by simpa [hsize] using hvalid) hne
  rw [portLimit, hfloor]
  exact hle

theorem linkedPortMDTSAllows_limit :
    linkedPortMDTSAllows spec (toString (mdtsExponent (portLimit targets t))) = true :=
  (linkedPortMDTSAllows_iff hmax hvalid t).mpr fun _ => portLimit_le ht hvalid

end Floors

variable {port : Port}

section Endpoint

variable {id : Name} {limit : String} {ports : Ports} {mdts : Option String} {nqn : String}
  {spec : PortSpec}

def Fits (id : Name) (limit : String) (ports : Ports) : Prop :=
  ∀ port, ports.lookup id = some port → port.subsystems ≠ [] →
    ∀ value, port.mdts = some value → value = limit

def Enabled (id : Name) (ports : Ports) : Prop :=
  ∃ port, ports.lookup id = some port ∧ port.subsystems ≠ []

section Link

variable (mdts : Option String) (nqn : String)

theorem linkSubsystemToPort_idle (h : ((ports.lookup spec.id).getD { mdts }).subsystems = []) :
    linkSubsystemToPort mdts nqn spec ports =
      if occupied ports spec.id (opened spec ((ports.lookup spec.id).getD { mdts })) = true then
        (.error .addressInUse, prunePortLocked spec.id ports)
      else (.ok (), ports.insert spec.id
        { opened spec ((ports.lookup spec.id).getD { mdts }) with subsystems := [nqn] }) := by
  rw [linkSubsystemToPort, ensurePortLocked_idle spec h]
  generalize hmade : opened spec ((ports.lookup spec.id).getD { mdts }) = made
  have hempty : made.subsystems = [] := hmade ▸ rfl
  change (match symlink ports spec.id nqn made with | .ok _ => _ | .error _ => _) = _
  cases hbusy : occupied ports spec.id made <;> simp [symlink, hempty, hbusy]

theorem linkSubsystemToPort_enabled (hport : ports.lookup spec.id = some port)
    (h : port.subsystems ≠ []) :
    (∃ linked, linked ≠ [] ∧ ensurePortLocked spec port = .ok port ∧
      linkSubsystemToPort mdts nqn spec ports =
        (.ok (), ports.insert spec.id { port with subsystems := linked })) ∨
      ∃ failure, ensurePortLocked spec port = .error failure ∧
        linkSubsystemToPort mdts nqn spec ports =
          (.error failure, prunePortLocked spec.id ports) := by
  have hsame : ensurePortLocked spec port = .ok port ∨
      ∃ failure, ensurePortLocked spec port = .error failure := by
    rw [ensurePortLocked_enabled spec h]
    split_ifs <;> simp
  rw [linkSubsystemToPort, hport, Option.getD_some]
  rcases hsame with hok | ⟨failure, herror⟩
  · obtain ⟨linked, hne, hlink⟩ : ∃ linked, linked ≠ [] ∧
        symlink ports spec.id nqn port = .ok { port with subsystems := linked } := by
      unfold symlink
      split
      · exact ⟨port.subsystems, h, rfl⟩
      · exact ⟨nqn :: port.subsystems, by simp, if_neg fun hidle => h hidle.1⟩
    refine .inl ⟨linked, hne, hok, ?_⟩
    rw [hok]
    change (match symlink ports spec.id nqn port with | .ok _ => _ | .error _ => _) = _
    rw [hlink]
  · exact .inr ⟨failure, herror, by rw [herror]; rfl⟩

theorem linkSubsystemToPort_cases (spec : PortSpec) (ports : Ports) :
    (∃ port, linkSubsystemToPort mdts nqn spec ports = (.ok (), ports.insert spec.id port) ∧
        port.subsystems ≠ [] ∧
        ((∃ before, ports.lookup spec.id = some before ∧ before.subsystems ≠ [] ∧
          port.mdts = before.mdts) ∨ ∀ value, port.mdts = some value → value = idlePortMDTS spec)) ∨
      ∃ failure, linkSubsystemToPort mdts nqn spec ports =
          (.error failure, prunePortLocked spec.id ports) ∧
        (failure = .mdtsConflict → ∃ port value, ports.lookup spec.id = some port ∧
          port.subsystems ≠ [] ∧ port.mdts = some value ∧
            linkedPortMDTSAllows spec value = false) := by
  by_cases hidle : ((ports.lookup spec.id).getD { mdts }).subsystems = []
  · rw [linkSubsystemToPort_idle mdts nqn hidle]
    split
    · exact .inr ⟨_, rfl, by simp⟩
    · refine .inl ⟨_, rfl, by simp, .inr fun value hvalue => ?_⟩
      obtain ⟨_, -, rfl⟩ := Option.map_eq_some_iff.mp hvalue
      rfl
  · obtain ⟨port, hport⟩ : ∃ port, ports.lookup spec.id = some port := by
      by_contra hnone
      simp [Option.eq_none_iff_forall_ne_some.mpr fun p hp => hnone ⟨p, hp⟩] at hidle
    rw [hport, Option.getD_some] at hidle
    rcases linkSubsystemToPort_enabled mdts nqn hport hidle with ⟨linked, hne, -, hlink⟩ |
      ⟨failure, hensure, hlink⟩
    · exact .inl ⟨_, hlink, hne, .inl ⟨port, hport, hidle, rfl⟩⟩
    · refine .inr ⟨failure, hlink, ?_⟩
      rintro rfl
      have hrefused : ¬∀ current ∈ port.mdts, linkedPortMDTSAllows spec current = true := by
        intro hall
        rw [ensurePortLocked_enabled spec hidle, if_pos hall] at hensure
        split_ifs at hensure <;> cases hensure
      push Not at hrefused
      obtain ⟨value, hvalue, hfalse⟩ := hrefused
      exact ⟨port, value, hport, hidle, hvalue, by simpa using hfalse⟩

end Link

theorem lookup_prunePortLocked (h : (prunePortLocked id ports).lookup id = some port) :
    ports.lookup id = some port := by
  unfold prunePortLocked at h
  split at h
  · exact h
  · rw [AList.lookup_erase] at h
    cases h

theorem Enabled.prunePortLocked (h : Enabled id ports) : prunePortLocked id ports = ports := by
  obtain ⟨port, hport, hlinked⟩ := h
  exact if_pos (by simp [hport, hlinked])

theorem fits_linkSubsystemToPort (mdts : Option String) (nqn : String)
    (hidle : idlePortMDTS spec = limit)
    (hallows : linkedPortMDTSAllows spec limit = true) (hfits : Fits spec.id limit ports) :
    (linkSubsystemToPort mdts nqn spec ports).1 ≠ .error .mdtsConflict ∧
      Fits spec.id limit (linkSubsystemToPort mdts nqn spec ports).2 ∧
      ((linkSubsystemToPort mdts nqn spec ports).1 = .ok () ∨ Enabled spec.id ports →
        Enabled spec.id (linkSubsystemToPort mdts nqn spec ports).2) := by
  rcases linkSubsystemToPort_cases mdts nqn spec ports with ⟨port, hlink, hlinked, hmdts⟩ |
    ⟨failure, hlink, hconflict⟩ <;> rw [hlink]
  · refine ⟨by simp, fun after hafter _ value hvalue => ?_, fun _ => ⟨port, AList.lookup_insert _, hlinked⟩⟩
    rw [AList.lookup_insert] at hafter
    cases hafter
    rcases hmdts with ⟨before, hbefore, hbeforeLinked, hsame⟩ | hwritten
    · exact hfits before hbefore hbeforeLinked value (hsame ▸ hvalue)
    · exact (hwritten value hvalue).trans hidle
  · refine ⟨fun heq => ?_, fun after hafter => hfits after (lookup_prunePortLocked hafter), ?_⟩
    · obtain ⟨port, value, hport, hlinked, hvalue, hrefused⟩ := hconflict (Except.error.inj heq)
      rw [hfits port hport hlinked value hvalue, hallows] at hrefused
      cases hrefused
    · rintro (h | h)
      · cases h
      · rwa [h.prunePortLocked]

/-- Links of exports that all suit the limit of one port. -/
theorem fits_linkAll {host : Host} (mdts : Option String)
    (hsuits : ∀ t ∈ order, ∀ spec, specOf host t = some spec →
      spec.id = id ∧ idlePortMDTS spec = limit ∧ linkedPortMDTSAllows spec limit = true)
    (hfits : Fits id limit ports) :
    (∀ result ∈ (linkAll host mdts order ports).1, result ≠ .error .mdtsConflict) ∧
      Fits id limit (linkAll host mdts order ports).2 ∧
      (.ok () ∈ (linkAll host mdts order ports).1 ∨ Enabled id ports →
        Enabled id (linkAll host mdts order ports).2) := by
  induction order generalizing ports with
  | nil => exact ⟨by simp [linkAll], hfits, by simp [linkAll]⟩
  | cons t rest ih =>
    have hrest : ∀ u ∈ rest, ∀ spec, specOf host u = some spec → spec.id = id ∧
        idlePortMDTS spec = limit ∧ linkedPortMDTSAllows spec limit = true :=
      fun u hu => hsuits u (.tail _ hu)
    cases hspec : specOf host t with
    | none =>
      obtain ⟨hno, hafter, henabled⟩ := ih hrest hfits
      simp only [linkAll, hspec, List.mem_cons, forall_eq_or_imp, reduceCtorEq, false_or]
      exact ⟨⟨by simp, hno⟩, hafter, henabled⟩
    | some spec =>
      obtain ⟨rfl, hidle, hallows⟩ := hsuits t (by simp) spec hspec
      obtain ⟨hfirst, hfitsNext, hnext⟩ :=
        fits_linkSubsystemToPort mdts t.subsystemNQN hidle hallows hfits
      obtain ⟨hno, hafter, henabled⟩ := ih hrest hfitsNext
      simp only [linkAll, hspec, List.mem_cons, forall_eq_or_imp]
      refine ⟨⟨hfirst, hno⟩, hafter, fun h => henabled ?_⟩
      rcases h with (h | h) | h
      · exact .inr (hnext (.inl h.symm))
      · exact .inl h
      · exact .inr (hnext (.inr h))

end Endpoint

/-- A restore of exports at one endpoint: linked in any order, none of them
finds the port's limit too large, and each one's own limit covers the port's.
The sizes are exact powers of two pages. -/
theorem restore_transfer_sizes_agree (host : Host) (mdts : Option String) (ports : Ports)
    {targets order : List NvmetTarget} {address : String} {number : Int}
    (hendpoint : ∀ t ∈ targets, endpoint t = (address, number))
    (hvalid : ∀ t ∈ targets, t.maxDataTransferSize.all validMaxDataTransferSize = true)
    (hidle : ∀ port, ports.lookup (.ofNat (stablePortID address number)) = some port →
      port.subsystems = []) (horder : ∀ t ∈ order, .ok t ∈ setPortMDTSFloors (targets.map .ok)) :
    (∀ result ∈ (linkAll host mdts order ports).1, result ≠ .error .mdtsConflict) ∧
      (∀ t, (t, .ok ()) ∈ order.zip (linkAll host mdts order ports).1 → ∀ size,
        t.maxDataTransferSize = some size → size ≠ 0 →
          ∃ port, (linkAll host mdts order ports).2.lookup
              (.ofNat (stablePortID address number)) = some port ∧ ∀ value, port.mdts = some value →
              ∃ n : Nat, value = toString n ∧ 0 < n ∧ 4096 * 2 ^ n ≤ size) ∧
      ∀ size, validMaxDataTransferSize size = true → size = 0 ∧ mdtsExponent size = 0 ∨
        size = 4096 * 2 ^ mdtsExponent size ∧ 0 < mdtsExponent size := by
  -- the limit of the endpoint, read at a target of its own
  let at_ : NvmetTarget := { subsystemNQN := "", bindAddress := address, port := number }
  have hsame : ∀ u ∈ targets, portMDTSFloor targets u = portMDTSFloor targets at_ := by
    intro u hu
    refine portMDTSFloor_congr ((hendpoint u hu).trans ?_)
    have hne : number ≠ 0 := by
      rw [← show (endpoint u).2 = number by rw [hendpoint u hu], endpoint]
      split
      · simp
      · assumption
    simp [at_, endpoint, hne]
  have hfits : Fits (.ofNat (stablePortID address number))
      (toString (mdtsExponent (portLimit targets at_))) ports :=
    fun port hport hlinked => absurd (hidle port hport) hlinked
  have hsuits : ∀ t ∈ order, ∀ spec, specOf host t = some spec →
      spec.id = .ofNat (stablePortID address number) ∧
        idlePortMDTS spec = toString (mdtsExponent (portLimit targets at_)) ∧
          linkedPortMDTSAllows spec (toString (mdtsExponent (portLimit targets at_))) = true := by
    intro t ht spec hspec
    obtain ⟨u, hu, rfl⟩ := mem_setPortMDTSFloors (horder t ht)
    obtain ⟨family, -, -, hid, -, -, hmax, hfloor⟩ := specOf_eq hspec
    have hlimit : portLimit targets at_ = portLimit targets u := by
      rw [portLimit, portLimit, hsame u hu]
    rw [hlimit, hid]
    refine ⟨?_, idlePortMDTS_eq hu hmax (hvalid u hu) hfloor,
      linkedPortMDTSAllows_limit hu hmax (hvalid u hu)⟩
    rw [show endpoint { u with portMDTSFloor := portMDTSFloor targets u } = (address, number) from
      hendpoint u hu]
  obtain ⟨hno, hafter, henabled⟩ := fits_linkAll mdts hsuits hfits
  refine ⟨hno, fun t ht size hsize hne => ?_, fun size hsize => ?_⟩
  · obtain ⟨htorder, hok⟩ := List.of_mem_zip ht
    obtain ⟨u, hu, rfl⟩ := mem_setPortMDTSFloors (horder t htorder)
    have hasked : u.maxDataTransferSize = some size := hsize
    obtain ⟨floor, hfloor, hle, hfloorNe, hfloorValid⟩ := portMDTSFloor_spec hu hasked
      (by simpa [hasked] using hvalid u hu) hne
    obtain ⟨hexact, hpos⟩ := validMaxDataTransferSize_exact hfloorValid hfloorNe
    obtain ⟨port, hport, hlinked⟩ := henabled (.inl hok)
    refine ⟨port, hport, fun value hvalue => ⟨mdtsExponent floor, ?_, hpos, hexact ▸ hle⟩⟩
    rw [hafter port hport hlinked value hvalue, portLimit, ← hsame u hu, hfloor, Option.getD_some]
  · by_cases hzero : size = 0
    · exact .inl ⟨hzero, by simp [hzero, mdtsExponent]⟩
    · exact .inr (validMaxDataTransferSize_exact hsize hzero)

def sampleHost : Host :=
  { kernel := { root := [] }, parseIP := fun _ => some .ipv4,
    deriveIdentity := fun _ => { uuid := "", nguid := "", serial := "" } }

def sampleTarget (nqn address : String) (size : Option Int) : NvmetTarget :=
  { subsystemNQN := nqn, bindAddress := address, port := 4420, maxDataTransferSize := size }

/-- Two volumes at one endpoint, one of them with a limit. -/
def sampleTargets : List NvmetTarget :=
  [sampleTarget "a" "10.0.0.1" (some 65536), sampleTarget "b" "10.0.0.1" none]

def sampleOrder : List NvmetTarget :=
  sampleTargets.map fun u => { u with portMDTSFloor := portMDTSFloor sampleTargets u }

theorem restore_transfer_sizes_agree_mixed :
    (linkAll sampleHost (some "0") sampleOrder ∅).1 = [.ok (), .ok ()] ∧
      ∃ port, (linkAll sampleHost (some "0") sampleOrder ∅).2.lookup
          (.ofNat (stablePortID "10.0.0.1" 4420)) = some port ∧
        ∀ value, port.mdts = some value → ∃ n : Nat, value = toString n ∧ 0 < n ∧
          (4096 * 2 ^ n : Int) ≤ 65536 := by
  have hlinked : (linkAll sampleHost (some "0") sampleOrder ∅).1 = [.ok (), .ok ()] := by decide +kernel
  have hsample : ∀ t ∈ sampleTargets, endpoint t = ("10.0.0.1", 4420) := by decide
  have hvalid : ∀ t ∈ sampleTargets,
      t.maxDataTransferSize.all validMaxDataTransferSize = true := by decide +kernel
  have horder : ∀ t ∈ sampleOrder, .ok t ∈ setPortMDTSFloors (sampleTargets.map .ok) := by
    simp [sampleOrder, setPortMDTSFloors, sampleTargets, Except.map, Except.toOption]
  refine ⟨hlinked, ?_⟩
  have hfirst : ({ sampleTarget "a" "10.0.0.1" (some 65536) with
      portMDTSFloor := portMDTSFloor sampleTargets (sampleTarget "a" "10.0.0.1" (some 65536)) },
      .ok ()) ∈ sampleOrder.zip (linkAll sampleHost (some "0") sampleOrder ∅).1 := by
    rw [hlinked]
    exact .head _
  exact (restore_transfer_sizes_agree sampleHost (some "0") ∅ hsample hvalid (by simp) horder).2.1
    _ hfirst 65536 rfl (by decide)

def portID (t : NvmetTarget) : Nat := stablePortID (endpoint t).1 (endpoint t).2

/-- The family and the service ID of the wildcard that the port listens at. -/
def listensAt (host : Host) (t : NvmetTarget) : Option IPFamily × Int :=
  (host.parseIP t.bindAddress, (endpoint t).2)

/-- An export finds its port free or with its own listener and a limit that is
not above its own, after those before it were linked. -/
structure Fitting (host : Host) (mdts : Option String) (targets before : List NvmetTarget)
    (t : NvmetTarget) : Prop where
  place : ∀ u ∈ before, portID t = portID u ↔ listensAt host t = listensAt host u
  limit : mdts.isSome = true → ∀ first, before.find? (portID · = portID t) = some first →
    ∀ size, t.maxDataTransferSize = some size → size ≠ 0 → portLimit targets first ≤ size

/-- In the order of the restore every export fits those before it. -/
def Separated (host : Host) (mdts : Option String) (targets : List NvmetTarget) : Prop :=
  ∀ done t rest, targets = done ++ t :: rest → Fitting host mdts targets done t

section Restore

variable {host : Host} {mdts : Option String} {targets before : List NvmetTarget} {ports : Ports}
  {t : NvmetTarget} {spec : PortSpec} {family : IPFamily} {number : Int}

theorem ofNat_portID_inj {t u : NvmetTarget} (h : Name.ofNat (portID t) = .ofNat (portID u)) :
    portID t = portID u :=
  Nat.repr_inj.mp (congrArg Name.text h)

/-- The port as the first export at it left it. -/
structure MadeFor (mdts : Option String) (targets : List NvmetTarget) (spec : PortSpec)
    (t : NvmetTarget) (port : Port) : Prop where
  linked : port.subsystems ≠ []
  attrs : ∀ attr ∈ spec.attrs, port.attrs attr.1 = attr.2
  mdts : port.mdts = mdts.map fun _ => toString (mdtsExponent (portLimit targets t))

def floored (targets : List NvmetTarget) (t : NvmetTarget) : NvmetTarget :=
  { t with portMDTSFloor := portMDTSFloor targets t }

/-- The ports after the links of `before`. -/
structure Restored (host : Host) (mdts : Option String) (targets before : List NvmetTarget)
    (ports : Ports) : Prop where
  made : ∀ id port, ports.lookup id = some port → ∃ first spec, id = .ofNat (portID first) ∧
    before.find? (portID · = portID first) = some first ∧
      specOf host (floored targets first) = some spec ∧ MadeFor mdts targets spec first port
  there : ∀ u ∈ before, ∃ port, ports.lookup (.ofNat (portID u)) = some port
  place : ∀ u ∈ before, ∀ v ∈ before, portID u = portID v ↔ listensAt host u = listensAt host v

theorem listener_eq (h : ∀ attr ∈ listenerAttrs family number, port.attrs attr.1 = attr.2) :
    port.listener = (listenerAttrs family number).map Prod.snd := by
  simp only [listenerAttrs, List.forall_mem_cons] at h
  obtain ⟨htype, hfamily, haddress, hservice, -⟩ := h
  simp only [Port.listener, listenerAttrs, List.map_cons, List.map_nil, htype, hfamily, haddress,
    hservice]

theorem listenerAttrs_inj {family' : IPFamily} {number' : Int}
    (h : (listenerAttrs family number).map Prod.snd = (listenerAttrs family' number').map Prod.snd) :
    family = family' ∧ number = number' := by
  simp only [listenerAttrs, List.map_cons, List.map_nil, List.cons.injEq, true_and, and_true] at h
  refine ⟨?_, Int.repr_inj.mp h.2.2⟩
  cases family <;> cases family' <;> simp at h ⊢

/-- The attributes of a port are those that the export asks for exactly if it
listens where the export would. -/
theorem attrs_iff {first : NvmetTarget} {spec' : PortSpec}
    (hspec : specOf host (floored targets t) = some spec)
    (hspec' : specOf host (floored targets first) = some spec')
    (hattrs : ∀ attr ∈ spec'.attrs, port.attrs attr.1 = attr.2) :
    (∀ attr ∈ spec.attrs, port.attrs attr.1 = attr.2) ↔ listensAt host t = listensAt host first := by
  obtain ⟨family, hfamily, -, -, hspecAttrs, -⟩ := specOf_eq hspec
  obtain ⟨family', hfamily', -, -, hspecAttrs', -⟩ := specOf_eq hspec'
  change host.parseIP t.bindAddress = _ at hfamily
  change host.parseIP first.bindAddress = _ at hfamily'
  rw [hspecAttrs'] at hattrs
  rw [hspecAttrs, listensAt, listensAt, hfamily, hfamily']
  constructor
  · intro h
    obtain ⟨rfl, hnumber⟩ := listenerAttrs_inj ((listener_eq h).symm.trans (listener_eq hattrs))
    exact congrArg (Prod.mk _) hnumber
  · intro h
    obtain ⟨hfamilies, hnumber⟩ := Prod.mk.inj h
    obtain rfl := Option.some.inj hfamilies
    change ∀ attr ∈ listenerAttrs family (endpoint t).2, _
    rw [hnumber]
    exact hattrs

theorem Restored.insert (h : Restored host mdts targets before ports)
    (hplace : ∀ u ∈ before, portID t = portID u ↔ listensAt host t = listensAt host u)
    (hport : ∃ first spec, portID t = portID first ∧
      (before ++ [t]).find? (portID · = portID first) = some first ∧
      specOf host (floored targets first) = some spec ∧ MadeFor mdts targets spec first port) :
    Restored host mdts targets (before ++ [t]) (ports.insert (.ofNat (portID t)) port) where
  made id after hafter := by
    by_cases hid : id = .ofNat (portID t)
    · subst hid
      rw [AList.lookup_insert] at hafter
      cases hafter
      obtain ⟨first, spec, hfirst, hmade⟩ := hport
      exact ⟨first, spec, congrArg _ hfirst, hmade⟩
    · rw [AList.lookup_insert_ne hid] at hafter
      obtain ⟨first, spec, hid, hfirst, hmade⟩ := h.made id after hafter
      exact ⟨first, spec, hid, by rw [List.find?_append, hfirst]; rfl, hmade⟩
  there u hu := by
    by_cases hid : Name.ofNat (portID u) = .ofNat (portID t)
    · rw [hid]
      exact ⟨port, AList.lookup_insert _⟩
    · rw [AList.lookup_insert_ne hid]
      rcases List.mem_append.mp hu with hold | hnew
      · exact h.there u hold
      · rw [List.mem_singleton.mp hnew] at hid
        exact absurd rfl hid
  place u hu v hv := by
    rcases List.mem_append.mp hu with hu | hu <;> rcases List.mem_append.mp hv with hv | hv
    · exact h.place u hu v hv
    · rw [List.mem_singleton.mp hv]
      exact (eq_comm.trans (hplace u hu)).trans eq_comm
    · rw [List.mem_singleton.mp hu]
      exact hplace v hv
    · rw [List.mem_singleton.mp hu, List.mem_singleton.mp hv]
      exact iff_of_true rfl rfl

/-- The link of `t` succeeds exactly if it fits, and then the ports are as they
should be after it. -/
def Links (host : Host) (mdts : Option String) (targets before : List NvmetTarget) (ports : Ports)
    (t : NvmetTarget) (spec : PortSpec) : Prop :=
  ((linkSubsystemToPort mdts t.subsystemNQN spec ports).1 = .ok () ↔
      Fitting host mdts targets before t) ∧
    (Fitting host mdts targets before t → Restored host mdts targets (before ++ [t])
      (linkSubsystemToPort mdts t.subsystemNQN spec ports).2)

variable (h : Restored host mdts targets before ports)
include h

/-- What is asked of a port, in terms of the first export at it. -/
theorem Restored.fitting_iff {first : NvmetTarget}
    (hfirst : before.find? (portID · = portID t) = some first) :
    Fitting host mdts targets before t ↔ listensAt host t = listensAt host first ∧
      (mdts.isSome = true → ∀ size, t.maxDataTransferSize = some size → size ≠ 0 →
        portLimit targets first ≤ size) := by
  have hin : first ∈ before := List.mem_of_find?_eq_some hfirst
  have hsame : portID t = portID first :=
    (of_decide_eq_true (List.find?_some (p := (decide <| portID · = portID t)) hfirst)).symm
  constructor
  · intro hfits
    exact ⟨(hfits.place first hin).mp hsame, fun hsome => hfits.limit hsome first hfirst⟩
  · rintro ⟨hlistens, hlimit⟩
    refine ⟨fun u hu => ?_, fun hsome other hother => ?_⟩
    · rw [hsame, hlistens]
      exact h.place first hin u hu
    · obtain rfl := Option.some.inj (hfirst.symm.trans hother)
      exact hlimit hsome

variable (hspec : specOf host (floored targets t) = some spec)
include hspec

/-- A port that is there already. -/
theorem link_at_port (hinline : t.inlineDataSize = none) (hport : ports.lookup spec.id = some port) :
    Links host mdts targets before ports t spec := by
  obtain ⟨family, -, hvalid, hid, -, hinlineSpec, hmax, -⟩ := specOf_eq hspec
  change spec.id = .ofNat (portID t) at hid
  obtain ⟨first, spec', hfirstID, hfirst, hspec', hmade⟩ := h.made _ _ hport
  have hsame : portID t = portID first := ofNat_portID_inj (hid.symm.trans hfirstID)
  have hfound : before.find? (portID · = portID t) = some first := by
    rw [hsame]
    exact hfirst
  have hensure : ensurePortLocked spec port = .ok port ↔ Fitting host mdts targets before t := by
    have hlimit : _ ↔ ∀ size, t.maxDataTransferSize = some size → size ≠ 0 → _ :=
      @linkedPortMDTSAllows_iff targets (floored targets t) spec hmax hvalid first
    have hinlines : ∀ want ∈ spec.inlineDataSize, port.inlineDataSize = toString want := by
      simp [hinlineSpec.trans hinline]
    have hmdts : (∀ current ∈ port.mdts, linkedPortMDTSAllows spec current = true) ↔
        (mdts.isSome = true → ∀ size, t.maxDataTransferSize = some size → size ≠ 0 →
          portLimit targets first ≤ size) := by
      rw [hmade.mdts]
      cases mdts with
      | none => simp
      | some value => simpa using hlimit
    rw [h.fitting_iff hfound, ensurePortLocked_enabled spec hmade.linked,
      ← attrs_iff hspec hspec' hmade.attrs, if_pos hinlines, ← hmdts]
    split_ifs with hattrs hallowed
    · exact iff_of_true rfl ⟨hattrs, hallowed⟩
    · exact iff_of_false (by simp) fun hboth => hallowed hboth.2
    · exact iff_of_false (by simp) fun hboth => hattrs hboth.1
  unfold Links
  rw [← hensure]
  rcases linkSubsystemToPort_enabled mdts t.subsystemNQN hport hmade.linked with
    ⟨linked, hne, hok, hlink⟩ | ⟨failure, herror, hlink⟩ <;> rw [hlink]
  · refine ⟨iff_of_true rfl hok, fun _ => ?_⟩
    rw [hid]
    refine h.insert (hensure.mp hok).place
      ⟨first, spec', hsame, ?_, hspec', hne, hmade.attrs, hmade.mdts⟩
    rw [List.find?_append, hfirst]
    rfl
  · rw [herror]
    exact ⟨iff_of_false (by simp) (by simp), fun hok => by cases hok⟩

/-- A port that the export opens. -/
theorem link_at_new_port (ht : t ∈ targets) (hport : ports.lookup spec.id = none) :
    Links host mdts targets before ports t spec := by
  obtain ⟨family, hfamily, hvalid, hid, hattrs, hinlineSpec, hmax, hfloor⟩ := specOf_eq hspec
  change spec.id = .ofNat (portID t) at hid
  have hfresh : ∀ u ∈ before, portID t ≠ portID u := by
    intro u hu heq
    obtain ⟨port, hthere⟩ := h.there u hu
    rw [← heq, ← hid, hport] at hthere
    cases hthere
  have hnone : before.find? (portID · = portID t) = none := by
    simpa using fun u hu => (hfresh u hu).symm
  have hidle : ((ports.lookup spec.id).getD { mdts }).subsystems = [] := by rw [hport]; rfl
  unfold Links
  rw [linkSubsystemToPort_idle mdts t.subsystemNQN hidle, hport, Option.getD_none]
  have hopened : ∀ attr ∈ spec.attrs, (opened spec { mdts }).attrs attr.1 = attr.2 := by
    simp [opened, hattrs, listenerAttrs, Function.update]
  have hmdts : (opened spec { mdts }).mdts =
      mdts.map fun _ => toString (mdtsExponent (portLimit targets t)) := by
    rw [← idlePortMDTS_eq ht hmax hvalid hfloor]
    rfl
  have hoccupied : occupied ports spec.id (opened spec { mdts }) = true ↔
      ∃ u ∈ before, listensAt host t = listensAt host u := by
    simp only [occupied, List.any_eq_true, Bool.and_eq_true, decide_eq_true_eq]
    constructor
    · rintro ⟨e, he, ⟨-, -⟩, hlistener⟩
      obtain ⟨first, spec', -, hfirst, hspec', hmade⟩ :=
        h.made e.1 e.2 (AList.mem_lookup_iff.mpr he)
      refine ⟨first, List.mem_of_find?_eq_some hfirst, ?_⟩
      obtain ⟨family', hfamily', -, -, hattrs', -⟩ := specOf_eq hspec'
      rw [listener_eq (hattrs' ▸ hmade.attrs), listener_eq (hattrs ▸ hopened)] at hlistener
      obtain ⟨rfl, hnumber⟩ := listenerAttrs_inj hlistener
      exact Prod.ext (hfamily.trans hfamily'.symm) hnumber.symm
    · rintro ⟨u, hu, hlistens⟩
      obtain ⟨port, hthere⟩ := h.there u hu
      obtain ⟨first, spec', hfirstID, hfirst, hspec', hmade⟩ := h.made _ _ hthere
      have hsame : listensAt host u = listensAt host first :=
        (h.place u hu first (List.mem_of_find?_eq_some hfirst)).mp (ofNat_portID_inj hfirstID)
      have hlistener : port.listener = (opened spec { mdts }).listener := by
        have hagree := (attrs_iff hspec hspec' hmade.attrs).mpr (hlistens.trans hsame)
        rw [listener_eq (hattrs ▸ hagree), listener_eq (hattrs ▸ hopened)]
      refine ⟨⟨_, port⟩, AList.mem_lookup_iff.mp hthere, ⟨?_, hmade.linked⟩, hlistener⟩
      rw [hid]
      exact fun heq => hfresh u hu (ofNat_portID_inj heq.symm)
  have hfitting : Fitting host mdts targets before t ↔
      ¬occupied ports spec.id (opened spec { mdts }) = true := by
    rw [hoccupied]
    constructor
    · rintro hfits ⟨u, hu, hlistens⟩
      exact hfresh u hu ((hfits.place u hu).mpr hlistens)
    · intro hfree
      refine ⟨fun u hu => iff_of_false (hfresh u hu) fun hlistens => hfree ⟨u, hu, hlistens⟩, ?_⟩
      intro _ first hfirst
      cases hnone.symm.trans hfirst
  rw [hfitting]
  split
  · next hbusy =>
    exact ⟨iff_of_false (fun hok => by cases hok) fun hfree => hfree hbusy,
      fun hfree => absurd hbusy hfree⟩
  · next hfree =>
    refine ⟨iff_of_true rfl hfree, fun _ => ?_⟩
    rw [hid]
    refine h.insert (hfitting.mpr hfree).place ⟨t, spec, rfl, ?_, hspec, by simp, hopened, hmdts⟩
    rw [List.find?_append, hnone]
    simp

omit h hspec in
/-- The link phase: all links succeed exactly if each export fits those before
it. -/
theorem linkAll_eq_ok_iff (hinlines : ∀ t ∈ targets, t.inlineDataSize = none)
    (horder : ∀ t ∈ order, t ∈ targets ∧ (specOf host (floored targets t)).isSome = true)
    (h : Restored host mdts targets before ports) :
    (linkAll host mdts (order.map (floored targets)) ports).1 = order.map (fun _ => .ok ()) ↔
      ∀ done t rest, order = done ++ t :: rest → Fitting host mdts targets (before ++ done) t := by
  induction order generalizing before ports with
  | nil => exact iff_of_true rfl fun done t rest heq => by simp at heq
  | cons t rest ih =>
    obtain ⟨⟨ht, hsome⟩, hrest⟩ := List.forall_mem_cons.mp horder
    obtain ⟨spec, hspec⟩ := Option.isSome_iff_exists.mp hsome
    have hstep : Links host mdts targets before ports t spec := by
      cases hport : ports.lookup spec.id with
      | some port => exact link_at_port h hspec (hinlines t ht) hport
      | none => exact link_at_new_port h hspec ht hport
    simp only [List.map_cons, linkAll, hspec, List.cons.injEq]
    constructor
    · rintro ⟨hok, htail⟩ done u more heq
      have hfits := hstep.1.mp hok
      cases done with
      | nil =>
        obtain ⟨rfl, -⟩ := List.cons.inj heq
        rwa [List.append_nil]
      | cons v done =>
        obtain ⟨rfl, hmore⟩ := List.cons.inj heq
        have hlater := (ih hrest (hstep.2 hfits)).mp htail done u more hmore
        rwa [List.append_assoc, List.singleton_append] at hlater
    · intro hall
      have hfits : Fitting host mdts targets before t := by
        simpa using hall [] t rest rfl
      refine ⟨hstep.1.mpr hfits, (ih hrest (hstep.2 hfits)).mpr fun done u more heq => ?_⟩
      rw [List.append_assoc, List.singleton_append]
      exact hall (t :: done) u more (by rw [heq]; rfl)

end Restore

/-- A restore on a node without ports links every prepared export exactly if
each has the number of an earlier port where it listens at its place and nowhere
else, and asks for no less than that port's limit. -/
theorem restore_links_every_export (host : Host) (mdts : Option String)
    (targets order : List NvmetTarget) (hinline : ∀ t ∈ targets, t.inlineDataSize = none)
    (horder : setPortMDTSFloors (targets.map .ok) = order.map .ok)
    (hprepared : ∀ t ∈ order, (specOf host t).isSome = true) :
    (linkAll host mdts order ∅).1 = order.map (fun _ => .ok ()) ↔ Separated host mdts targets := by
  obtain rfl : order = targets.map (floored targets) := by
    have hfloored : setPortMDTSFloors (targets.map .ok) = (targets.map (floored targets)).map .ok :=
      setPortMDTSFloors_eq targets
    exact List.map_injective_iff.mpr (fun _ _ => Except.ok.inj) (horder.symm.trans hfloored)
  have hspecs : ∀ t ∈ targets, t ∈ targets ∧ (specOf host (floored targets t)).isSome = true :=
    fun t ht => ⟨ht, hprepared _ (List.mem_map_of_mem ht)⟩
  rw [List.map_map]
  have hempty : Restored host mdts targets [] ∅ := ⟨by simp, by simp, by simp⟩
  exact linkAll_eq_ok_iff hinline hspecs hempty

/-- Two addresses of one node that share a port number. -/
def sharedTargets : List NvmetTarget :=
  [sampleTarget "a" "10.0.0.31" none, sampleTarget "b" "10.0.0.128" none]

theorem restore_links_every_export_shared : (portID <$> sharedTargets) = [42267, 42267] ∧
    (linkAll sampleHost (some "0") sharedTargets ∅).1 = sharedTargets.map fun _ => .ok () := by
  have hplace : ∀ t ∈ sharedTargets, ∀ u ∈ sharedTargets,
      portID t = portID u ↔ listensAt sampleHost t = listensAt sampleHost u := by decide +kernel
  have hunlimited : ∀ t ∈ sharedTargets, t.maxDataTransferSize = none := by decide
  refine ⟨by decide +kernel, (restore_links_every_export sampleHost (some "0") sharedTargets
    sharedTargets (by decide) rfl (by decide +kernel)).mpr fun done t rest heq => ?_⟩
  have ht : t ∈ sharedTargets := by simp [heq]
  refine ⟨fun u hu => hplace t ht u (by simp [heq, hu]), fun _ _ _ size hsize => ?_⟩
  rw [hunlimited t ht] at hsize
  cases hsize

/-- Volumes that were exported under two addresses of the node. -/
def movedTargets : List NvmetTarget :=
  [sampleTarget "a" "10.0.0.1" none, sampleTarget "b" "10.0.0.2" none]

/-- Their ports have different numbers and listen at one place: the second
export stays unlinked. -/
theorem moved_export_not_linked : setPortMDTSFloors (movedTargets.map .ok) = movedTargets.map .ok ∧
      (∀ t ∈ movedTargets, (specOf sampleHost t).isSome = true) ∧
      (linkAll sampleHost (some "0") movedTargets ∅).1 = [.ok (), .error .addressInUse] :=
  ⟨rfl, by decide +kernel, by decide +kernel⟩

end PillarCsi.NvmetPorts
