import PillarCsi.NfsManager

/-!
Convergence: when it succeeds, the admission table holds on the manager's paths
the rows of its policies and no others, and whatever happens it leaves the rows
alone that it does not own.
-/

namespace PillarCsi.NfsConvergence

open FalliblePrograms EffectPrograms NfsExports NfsManager Program

variable {config : Config} {checks : Checks}

variable {table : ExportTable} {row : Entry}

theorem mem_rows : row ∈ table.rows ↔ table.lookup row.key = some row.options := by
  rw [← Option.mem_def, AList.mem_lookup_iff, ExportTable.rows, List.mem_map]
  constructor
  · rintro ⟨⟨⟨path, client⟩, options⟩, hmem, rfl⟩
    exact hmem
  · intro hmem
    exact ⟨_, hmem, rfl⟩

variable {desired : Policies} {e : Export} {exports : List (String × Export)} {e' : Export}
  {m' : Manager} {want : Entry} {rows : List Entry} {missing : Wanted} {listed : ExportTable}
  {client : String}

theorem mem_exports {id : String} : (id, e) ∈ desired.exports ↔ desired.lookup id = some e := by
  rw [← Option.mem_def, AList.mem_lookup_iff, Policies.exports, List.mem_map]
  constructor
  · rintro ⟨⟨id', e'⟩, hmem, heq⟩
    cases heq
    exact hmem
  · intro hmem
    exact ⟨_, hmem, rfl⟩

variable {ledger : List Export}

theorem owns_iff :
    owns config ledger row = true ↔ ∃ e ∈ ledger, e.path = row.path ∧ row.client ∈ e.admitted ∧
      optionValue row.options "fsid" = e.fsid config := by
  simp [owns, and_assoc]

theorem owns_mono {ledger' : List Export} (h : ∀ e ∈ ledger, e ∈ ledger')
    (hrow : owns config ledger row = true) : owns config ledger' row = true := by
  obtain ⟨e, he, hmatch⟩ := owns_iff.mp hrow
  exact owns_iff.mpr ⟨e, h e he, hmatch⟩

theorem ne_of_foreignConflict_eq_none
    (h : foreignConflict config ledger row = none) (he : e ∈ ledger) : row.path ≠ e.path := by
  rw [foreignConflict, Option.map_eq_none_iff, List.find?_eq_none] at h
  intro hpath
  exact h e he (by simp [hpath])

/-- The policy of a volume under which clients are admitted, if it is usable. -/
def Considered (policy : String × Export) : Prop :=
  policy.1 ≠ rootVolumeID ∧ policy.2.active = true
  deriving Decidable

/-- The active exports that this pass finds usable. -/
def validExports (config : Config) (checks : Checks) (exports : List (String × Export)) :
    List Export :=
  (exports.filter fun policy =>
    decide (Considered policy ∧ validateActivation config checks policy.2 = .usable)).map Prod.snd

/-- The exports that a pass admits: the usable ones, and the pseudoroot for
their clients. -/
def passExports (config : Config) (checks : Checks) (desired : Policies) : List Export :=
  validExports config checks desired.exports ++
    [rootExport config (validExports config checks desired.exports)]

/-- The ledger that a pass commits before it changes a row: what was on it, and
the exports that the pass admits. -/
def convergenceLedger (config : Config) (checks : Checks) (state : DiskState) : List Export :=
  state.ledger ++ (passExports config checks state.desired).filter (·.active)

theorem mem_convergenceLedger {state : DiskState} : e ∈ convergenceLedger config checks state ↔
      e ∈ state.ledger ∨ e ∈ passExports config checks state.desired ∧ e.active = true := by
  simp [convergenceLedger]

/-- What the manager keeps of its policies: each under its own volume ID, no
two on one path, none on the pseudoroot's. -/
structure Consistent (config : Config) (desired : Policies) : Prop where
  keyed : ∀ id e, desired.lookup id = some e → e.volumeID = id
  separate : ∀ id e id' e', desired.lookup id = some e → desired.lookup id' = some e' →
    id ≠ rootVolumeID → id' ≠ rootVolumeID → e.path = e'.path → id = id'
  below : ∀ id e, desired.lookup id = some e → id ≠ rootVolumeID → e.path ≠ config.exportRoot

theorem mem_validExports : e ∈ validExports config checks exports ↔ ∃ id, (id, e) ∈ exports ∧
      Considered (id, e) ∧ validateActivation config checks e = .usable := by
  simp [validExports]

theorem Consistent.eq_of_path (h : Consistent config desired)
    {id id' : String} (he : desired.lookup id = some e)
    (he' : desired.lookup id' = some e') (hid : id ≠ rootVolumeID) (hid' : id' ≠ rootVolumeID)
    (hpath : e.path = e'.path) : e = e' := by
  have hsame := h.separate id e id' e' he he' hid hid' hpath
  subst hsame
  rw [he] at he'
  exact Option.some.inj he'

theorem Consistent.eq_of_mem_passExports (h : Consistent config desired)
    (he : e ∈ passExports config checks desired)
    (he' : e' ∈ passExports config checks desired) (hpath : e.path = e'.path) : e = e' := by
  simp only [passExports, List.mem_append, List.mem_singleton] at he he'
  rcases he with he | rfl
  · obtain ⟨id, hmem, hconsidered, -⟩ := mem_validExports.mp he
    rcases he' with he' | rfl
    · obtain ⟨id', hmem', hconsidered', -⟩ := mem_validExports.mp he'
      exact h.eq_of_path (mem_exports.mp hmem) (mem_exports.mp hmem') hconsidered.1
        hconsidered'.1 hpath
    · exact absurd hpath (h.below id e (mem_exports.mp hmem) hconsidered.1)
  · rcases he' with he' | rfl
    · obtain ⟨id', hmem', hconsidered', -⟩ := mem_validExports.mp he'
      exact absurd hpath.symm (h.below id' e' (mem_exports.mp hmem') hconsidered'.1)
    · rfl

/-- Policies put on the ledger, and a new account of the unavailable ones. -/
def recorded (m : Manager) (admitted : List Export) (errors : List String) : Manager :=
  { m with state := { m.state with ledger := m.state.ledger ++ admitted }, exportErrors := errors }

theorem admitExports_manager (exports : List (String × Export)) (wanted : Wanted) (m : Manager) :
    ∃ admitted errors, (admitExports config checks exports wanted m).2 = recorded m admitted errors ∧
      ∀ e ∈ admitted, e ∈ validExports config checks exports := by
  have hwiden : ∀ {policy : String × Export} {rest : List (String × Export)} {e : Export},
      e ∈ validExports config checks rest → e ∈ validExports config checks (policy :: rest) := by
    intro policy rest e he
    obtain ⟨id, hmem, hvalid⟩ := mem_validExports.mp he
    exact mem_validExports.mpr ⟨id, .tail policy hmem, hvalid⟩
  fun_induction admitExports config checks exports wanted m with
  | case1 wanted m | case3 id e rest wanted m hskip hverdict =>
    exact ⟨[], m.exportErrors, by simp [recorded], by simp⟩
  | case2 id e rest wanted m hskip ih | case4 id e rest wanted m hskip hverdict ih =>
    obtain ⟨admitted, errors, hm, hvalid⟩ := ih
    exact ⟨admitted, errors, hm, fun e he => hwiden (hvalid e he)⟩
  | case5 id e rest wanted m hskip hverdict ih =>
    obtain ⟨admitted, errors, hm, hvalid⟩ := ih
    refine ⟨e :: admitted, errors, ?_, ?_⟩
    · rw [hm]
      simp [recorded]
    · rintro e' (_ | ⟨_, he'⟩)
      · push Not at hskip
        exact mem_validExports.mpr
          ⟨id, by simp, ⟨hskip.1, by simpa using hskip.2⟩, hverdict⟩
      · exact hwiden (hvalid e' he')

/-- A pass that gets through has put every usable export on the ledger, wants
their rows and knows the others by name. -/
theorem admitExports_ok {wanted wanted' : Wanted} {m : Manager}
    (h : admitExports config checks exports wanted m = (.ok wanted', m')) :
    ∃ errors, m' = recorded m (validExports config checks exports) errors ∧
      wanted' = (validExports config checks exports).foldl
        (fun wanted e => wantRows config e wanted) wanted ∧ (∀ policy ∈ exports, Considered policy →
        validateActivation config checks policy.2 ≠ .unreadable) ∧
      ∀ volumeID, volumeID ∈ errors ↔ volumeID ∈ m.exportErrors ∨
        ∃ policy ∈ exports, Considered policy ∧
          validateActivation config checks policy.2 = .unavailable ∧
          policy.2.volumeID = volumeID := by
  fun_induction admitExports config checks exports wanted m with
  | case1 wanted m =>
    cases h
    exact ⟨m'.exportErrors, by simp [recorded, validExports], rfl, by simp, by simp⟩
  | case2 id e rest wanted m hskip ih =>
    obtain ⟨errors, hm, hwanted, hreadable, herrors⟩ := ih h
    have hnot : ¬Considered (id, e) := by
      rintro ⟨hid, hactive⟩
      rcases hskip with heq | hinactive
      · exact hid heq
      · simp [hinactive] at hactive
    have hvalid : validExports config checks ((id, e) :: rest) = validExports config checks rest := by
      simp [validExports, hnot]
    refine ⟨errors, by rw [hvalid]; exact hm, by rw [hvalid]; exact hwanted,
      List.forall_mem_cons.mpr ⟨fun hconsidered => absurd hconsidered hnot, hreadable⟩, ?_⟩
    intro volumeID
    rw [herrors volumeID]
    simp [hnot]
  | case3 id e rest wanted m hskip hverdict => cases h
  | case4 id e rest wanted m hskip hverdict ih =>
    obtain ⟨errors, hm, hwanted, hreadable, herrors⟩ := ih h
    push Not at hskip
    have hconsidered : Considered (id, e) := ⟨hskip.1, by simpa using hskip.2⟩
    have hvalid : validExports config checks ((id, e) :: rest) = validExports config checks rest := by
      simp [validExports, hverdict]
    refine ⟨errors, by rw [hvalid]; exact hm, by rw [hvalid]; exact hwanted,
      List.forall_mem_cons.mpr ⟨fun _ => by simp [hverdict], hreadable⟩, ?_⟩
    intro volumeID
    rw [herrors volumeID]
    simp only [List.mem_cons, exists_eq_or_imp, hverdict, hconsidered, true_and]
    grind
  | case5 id e rest wanted m hskip hverdict ih =>
    obtain ⟨errors, hm, hwanted, hreadable, herrors⟩ := ih h
    push Not at hskip
    have hconsidered : Considered (id, e) := ⟨hskip.1, by simpa using hskip.2⟩
    have hvalid : validExports config checks ((id, e) :: rest) =
        e :: validExports config checks rest := by
      simp [validExports, hverdict, hconsidered]
    refine ⟨errors, ?_, by rw [hvalid]; exact hwanted,
      List.forall_mem_cons.mpr ⟨fun _ => by simp [hverdict], hreadable⟩, ?_⟩
    · rw [hvalid, hm]
      simp [recorded]
    · intro volumeID
      rw [herrors volumeID]
      simp [hverdict]

variable {errors : List String}

theorem rootMembers_eq (hkeyed : ∀ id e, desired.lookup id = some e → e.volumeID = id)
    (hreadable : ∀ policy ∈ desired.exports, Considered policy →
      validateActivation config checks policy.2 ≠ .unreadable)
    (herrors : ∀ volumeID, volumeID ∈ errors ↔ ∃ policy ∈ desired.exports, Considered policy ∧
      validateActivation config checks policy.2 = .unavailable ∧ policy.2.volumeID = volumeID) :
    rootMembers desired errors = validExports config checks desired.exports := by
  unfold rootMembers validExports
  refine congrArg (List.map Prod.snd) (List.filter_congr fun policy hpolicy => ?_)
  obtain ⟨id, e⟩ := policy
  have hid := hkeyed id e (mem_exports.mp hpolicy)
  have husable : Considered (id, e) →
      (id ∉ errors ↔ validateActivation config checks e = .usable) := by
    intro hconsidered
    have hread := hreadable (id, e) hpolicy hconsidered
    rw [herrors id]
    constructor
    · intro hnone
      cases hverdict : validateActivation config checks e with
      | usable => rfl
      | unavailable => exact absurd ⟨(id, e), hpolicy, hconsidered, hverdict, hid⟩ hnone
      | unreadable => exact absurd hverdict hread
    · rintro hverdict ⟨⟨id', e'⟩, hpolicy', -, hverdict', hid'⟩
      have hsame : id' = id := (hkeyed id' e' (mem_exports.mp hpolicy')).symm.trans hid'
      subst hsame
      have heq : some e' = some e := (mem_exports.mp hpolicy').symm.trans (mem_exports.mp hpolicy)
      cases heq
      rw [hverdict] at hverdict'
      cases hverdict'
  rw [decide_eq_decide, ← and_assoc]
  exact and_congr_right husable

theorem lookup_wantRows (e : Export) (wanted : Wanted) (key : Key) :
    (wantRows config e wanted).lookup key =
      if key.path = e.path ∧ key.client ∈ e.admitted then
        some ⟨key.path, key.client, e.options config⟩
      else wanted.lookup key := by
  unfold wantRows
  induction e.admitted generalizing wanted with
  | nil => simp
  | cons client rest ih =>
    rw [List.foldl_cons, ih]
    obtain ⟨path, c⟩ := key
    by_cases hkey : path = e.path ∧ c = client
    · obtain ⟨rfl, rfl⟩ := hkey
      simp
    · have hne : (⟨path, c⟩ : Key) ≠ ⟨e.path, client⟩ := fun h => hkey (by simpa using h)
      rw [AList.lookup_insert_ne hne]
      refine if_congr (and_congr_right fun hpath => ?_) rfl rfl
      have hc : c ≠ client := fun h => hkey ⟨hpath, h⟩
      simp [hc]

def Wants (config : Config) (exports : List Export) (key : Key) (want : Entry) : Prop :=
  ∃ e ∈ exports, key.path = e.path ∧ key.client ∈ e.admitted ∧
    want = ⟨key.path, key.client, e.options config⟩

variable {key : Key} {wanted : Wanted}

theorem wants_of_lookup {exports : List Export}
    (h : (exports.foldl (fun wanted e => wantRows config e wanted) wanted).lookup key = some want) :
    Wants config exports key want ∨ wanted.lookup key = some want := by
  induction exports generalizing wanted with
  | nil => exact .inr h
  | cons e rest ih =>
    rcases ih h with ⟨e', he', hwants⟩ | hrows
    · exact .inl ⟨e', .tail e he', hwants⟩
    · rw [lookup_wantRows] at hrows
      split at hrows
      · rename_i hkey
        cases hrows
        exact .inl ⟨e, by simp, hkey.1, hkey.2, rfl⟩
      · exact .inr hrows

theorem isSome_lookup_foldl {exports : List Export}
    (h : (wanted.lookup key).isSome ∨ ∃ e ∈ exports, key.path = e.path ∧ key.client ∈ e.admitted) :
    ((exports.foldl (fun wanted e => wantRows config e wanted) wanted).lookup key).isSome := by
  induction exports generalizing wanted with
  | nil => simpa using h
  | cons e rest ih =>
    refine ih ?_
    rw [lookup_wantRows]
    split
    · exact .inl rfl
    · rename_i hkey
      rcases h with hsome | ⟨e', _ | ⟨_, he'⟩, hwants⟩
      · exact .inl hsome
      · exact absurd hwants hkey
      · exact .inr ⟨e', he', hwants⟩

theorem keeps_iff :
    keeps wanted row = true ↔ ∃ want, wanted.lookup row.key = some want ∧
      optionsMatch row.options want.options = true := by
  unfold keeps
  split <;> simp_all

theorem keeps_of_keeps_erase
    (h : keeps (wanted.erase key) row = true) : keeps wanted row = true := by
  obtain ⟨want, hlookup, hmatch⟩ := keeps_iff.mp h
  by_cases hkey : row.key = key
  · rw [hkey, AList.lookup_erase] at hlookup
    cases hlookup
  · rw [AList.lookup_erase_ne hkey] at hlookup
    exact keeps_iff.mpr ⟨want, hlookup, hmatch⟩

/-- What `verifyRows` has seen when it accepts: every owned row is wanted, no
other one is in the way, and a wanted row is there or reported missing. -/
theorem verifyRows_ok (h : verifyRows config ledger rows wanted = .ok missing) :
    (∀ row ∈ rows, owns config ledger row = true → keeps wanted row = true) ∧
      (∀ row ∈ rows, owns config ledger row = false → foreignConflict config ledger row = none) ∧
      ∀ key want, wanted.lookup key = some want → missing.lookup key = some want ∨
        ∃ row ∈ rows, row.key = key ∧ optionsMatch row.options want.options = true := by
  fun_induction verifyRows config ledger rows wanted with
  | case1 wanted =>
    cases h
    exact ⟨by simp, by simp, fun key want hwant => .inl hwant⟩
  | case2 row rest wanted howns hkeeps ih =>
    obtain ⟨howned, hforeign, hfound⟩ := ih h
    obtain ⟨want, hwant, hmatch⟩ := keeps_iff.mp hkeeps
    refine ⟨?_, ?_, fun key want' hwant' => ?_⟩
    · rintro row' (_ | ⟨_, hrow'⟩) howns'
      · exact hkeeps
      · exact keeps_of_keeps_erase (howned row' hrow' howns')
    · rintro row' (_ | ⟨_, hrow'⟩) howns'
      · rw [howns] at howns'
        cases howns'
      · exact hforeign row' hrow' howns'
    · by_cases hkey : key = row.key
      · subst hkey
        rw [hwant] at hwant'
        cases hwant'
        exact .inr ⟨row, by simp, rfl, hmatch⟩
      · have herased : (wanted.erase row.key).lookup key = some want' := by
          rwa [AList.lookup_erase_ne hkey]
        rcases hfound key want' herased with hleft | ⟨row', hrow', hfound'⟩
        · exact .inl hleft
        · exact .inr ⟨row', .tail row hrow', hfound'⟩
  | case3 row rest wanted howns hkeeps | case4 row rest wanted howns error hconflict => cases h
  | case5 row rest wanted howns hconflict ih =>
    obtain ⟨howned, hforeign, hfound⟩ := ih h
    refine ⟨?_, ?_, fun key want hwant => ?_⟩
    · rintro row' (_ | ⟨_, hrow'⟩) howns'
      · exact absurd howns' howns
      · exact howned row' hrow' howns'
    · rintro row' (_ | ⟨_, hrow'⟩) howns'
      · exact hconflict
      · exact hforeign row' hrow' howns'
    · rcases hfound key want hwant with hleft | ⟨row', hrow', hfound'⟩
      · exact .inl hleft
      · exact .inr ⟨row', .tail row hrow', hfound'⟩

theorem admitted_eq_nil (h : e.active = false) : e.admitted = [] := by
  simp [Export.admitted, h]

theorem active_of_mem_validExports
    (h : e ∈ validExports config checks exports) : e.active = true := by
  obtain ⟨id, -, hconsidered, -⟩ := mem_validExports.mp h
  exact hconsidered.2

/-- What a pass over the exports leaves of the manager, however far it gets. -/
structure Passed (config : Config) (checks : Checks) (m m' : Manager) : Prop where
  mem_ledger : ∀ e ∈ m'.state.ledger, e ∈ convergenceLedger config checks m.state
  desired : ∀ id, id ≠ rootVolumeID → m'.state.desired.lookup id = m.state.desired.lookup id
  rootPolicy : ∀ e, m'.state.desired.lookup rootVolumeID = some e →
    m.state.desired.lookup rootVolumeID = some e ∨
      e = rootExport config (validExports config checks m.state.desired.exports)
  kept : ∀ e ∈ m.state.ledger, e ∈ m'.state.ledger
  rest : ∃ desired ledger errors, m' = { m with
    state := { m.state with desired := desired, ledger := ledger }, exportErrors := errors }

structure Completed (config : Config) (checks : Checks) (m : Manager) (wanted : Wanted)
    (m' : Manager) : Prop extends Passed config checks m m' where
  mem_ledger_of_mem : ∀ e ∈ convergenceLedger config checks m.state, e ∈ m'.state.ledger
  root : m'.state.desired.lookup rootVolumeID =
    some (rootExport config (validExports config checks m.state.desired.exports))
  available : ∀ e, e ∈ availableExports m'.state.desired m'.exportErrors ↔
    e ∈ passExports config checks m.state.desired ∧ e.active = true
  wanted : wanted = (passExports config checks m.state.desired).foldl
    (fun wanted e => wantRows config e wanted) ∅

theorem mem_availableExports :
    e ∈ availableExports desired errors ↔ ∃ id, desired.lookup id = some e ∧ e.active = true ∧
      (id = rootVolumeID ∨ id ∉ errors) := by
  simp [availableExports, mem_exports]

theorem mem_rootMembers :
    e ∈ rootMembers desired errors ↔ ∃ id, desired.lookup id = some e ∧ id ≠ rootVolumeID ∧
      e.active = true ∧ id ∉ errors := by
  simp [rootMembers, mem_exports]

theorem mem_availableExports_insert {root : Export} :
    e ∈ availableExports (desired.insert rootVolumeID root) errors ↔
      e ∈ rootMembers desired errors ∨ e = root ∧ root.active = true := by
  rw [mem_availableExports, mem_rootMembers]
  constructor
  · rintro ⟨id, hlookup, hactive, herrors⟩
    by_cases hid : id = rootVolumeID
    · subst hid
      rw [AList.lookup_insert] at hlookup
      cases hlookup
      exact .inr ⟨rfl, hactive⟩
    · rw [AList.lookup_insert_ne hid] at hlookup
      exact .inl ⟨id, hlookup, hid, hactive, herrors.resolve_left hid⟩
  · rintro (⟨id, hlookup, hid, hactive, herrors⟩ | ⟨rfl, hactive⟩)
    · exact ⟨id, by rwa [AList.lookup_insert_ne hid], hactive, .inr herrors⟩
    · exact ⟨rootVolumeID, AList.lookup_insert _, hactive, .inl rfl⟩

theorem wantRows_of_inactive (h : e.active = false) (wanted : Wanted) :
    wantRows config e wanted = wanted := by
  simp [wantRows, admitted_eq_nil h]

theorem mem_updateRoot_ledger {m : Manager} :
    e ∈ (m.updateRoot config).state.ledger ↔ e ∈ m.state.ledger ∨
      e = rootExport config (rootMembers m.state.desired m.exportErrors) ∧ e.active = true := by
  unfold Manager.updateRoot
  dsimp only
  split
  · rename_i hactive
    rw [List.mem_append, List.mem_singleton]
    exact or_congr_right ⟨fun h => ⟨h, by rw [h]; exact hactive⟩, fun h => h.1⟩
  · rename_i hactive
    refine ⟨Or.inl, ?_⟩
    rintro (h | ⟨rfl, h⟩)
    · exact h
    · exact absurd h hactive

section Pass

variable {m : Manager}
  (hkeyed : ∀ id e, m.state.desired.lookup id = some e → e.volumeID = id)
include hkeyed

theorem completed_of_admitExports {m₁ : Manager}
    (h : admitExports config checks m.state.desired.exports ∅ { m with exportErrors := [] } =
      (.ok wanted, m₁)) :
    rootMembers m₁.state.desired m₁.exportErrors =
        validExports config checks m.state.desired.exports ∧
      Completed config checks m
        (wantRows config (rootExport config (validExports config checks m.state.desired.exports))
          wanted)
        (m₁.updateRoot config) := by
  obtain ⟨errors, rfl, rfl, hreadable, herrors⟩ := admitExports_ok h
  have hmembers : rootMembers m.state.desired errors =
      validExports config checks m.state.desired.exports :=
    rootMembers_eq hkeyed hreadable fun volumeID => by simpa using herrors volumeID
  refine ⟨hmembers, ⟨⟨?_, ?_, ?_, ?_, ?_⟩, ?_, ?_, ?_, ?_⟩⟩
  · intro e he
    refine mem_convergenceLedger.mpr ?_
    rcases mem_updateRoot_ledger.mp he with he | ⟨rfl, hactive⟩
    · rcases List.mem_append.mp he with he | he
      · exact .inl he
      · exact .inr ⟨List.mem_append_left _ he, active_of_mem_validExports he⟩
    · exact .inr ⟨by simp [passExports, recorded, hmembers], hactive⟩
  · intro id hid
    exact AList.lookup_insert_ne hid
  · intro e he
    cases (AList.lookup_insert m.state.desired).symm.trans he
    exact .inr (by simp [recorded, hmembers])
  · intro e he
    exact mem_updateRoot_ledger.mpr (.inl (List.mem_append_left _ he))
  · exact ⟨_, _, _, rfl⟩
  · intro e he
    refine mem_updateRoot_ledger.mpr ?_
    rcases mem_convergenceLedger.mp he with he | ⟨he, hactive⟩
    · exact .inl (List.mem_append_left _ he)
    · rcases List.mem_append.mp he with he | he
      · exact .inl (List.mem_append_right _ he)
      · exact .inr ⟨by simpa [recorded, hmembers] using he, hactive⟩
  · simp [Manager.updateRoot, recorded, hmembers]
  · intro e
    have hdesired : ((recorded { m with exportErrors := [] }
        (validExports config checks m.state.desired.exports) errors).updateRoot config).state.desired =
        m.state.desired.insert rootVolumeID
          (rootExport config (validExports config checks m.state.desired.exports)) := by
      simp [Manager.updateRoot, recorded, hmembers]
    rw [hdesired]
    change e ∈ availableExports _ errors ↔ _
    rw [mem_availableExports_insert, hmembers, passExports, List.mem_append, List.mem_singleton]
    constructor
    · rintro (he | ⟨rfl, hactive⟩)
      · exact ⟨.inl he, active_of_mem_validExports he⟩
      · exact ⟨.inr rfl, hactive⟩
    · rintro ⟨he | rfl, hactive⟩
      · exact .inl he
      · exact .inr ⟨rfl, hactive⟩
  · simp [passExports, List.foldl_append]

theorem passed_desiredEntries : Passed config checks m (desiredEntries config checks m).2 := by
  unfold desiredEntries
  split
  · rename_i error m₁ h
    have hmanager : ∃ admitted errors,
        m₁ = recorded { m with exportErrors := [] } admitted errors ∧
          ∀ e ∈ admitted, e ∈ validExports config checks m.state.desired.exports := by
      have hpass := @admitExports_manager config checks m.state.desired.exports ∅
        { m with exportErrors := [] }
      rwa [h] at hpass
    obtain ⟨admitted, errors, rfl, hvalid⟩ := hmanager
    refine ⟨?_, fun _ _ => rfl, fun e he => .inl he, fun e he => List.mem_append_left _ he,
      ⟨_, _, _, rfl⟩⟩
    intro e he
    rcases List.mem_append.mp he with he | he
    · exact mem_convergenceLedger.mpr (.inl he)
    · have hpass := hvalid e he
      exact mem_convergenceLedger.mpr
        (.inr ⟨List.mem_append_left _ hpass, active_of_mem_validExports hpass⟩)
  · rename_i wanted m₁ h
    have hpassed := (completed_of_admitExports hkeyed h).2.toPassed
    unfold rootEntries
    dsimp only
    split
    · exact hpassed
    · split <;> exact hpassed

theorem completed_desiredEntries
    (h : desiredEntries config checks m = (.ok wanted, m')) :
    Completed config checks m wanted m' := by
  unfold desiredEntries at h
  split at h
  · cases h
  · rename_i wanted₁ m₁ hpass
    obtain ⟨hmembers, hcompleted⟩ := completed_of_admitExports hkeyed hpass
    unfold rootEntries at h
    rw [hmembers] at h
    dsimp only at h
    split at h
    · rename_i hinactive
      rw [wantRows_of_inactive hinactive] at hcompleted
      cases h
      exact hcompleted
    · split at h
      · cases h
        exact hcompleted
      · cases h

end Pass

theorem mem_rows_erase :
    row ∈ ExportTable.rows (table.erase key) ↔ row.key ≠ key ∧ row ∈ table.rows := by
  rw [mem_rows, mem_rows]
  by_cases hkey : row.key = key
  · subst hkey
    simp
  · simp [hkey, AList.lookup_erase_ne]

theorem mem_rows_insert {options : List Flag} : row ∈ ExportTable.rows (table.insert key options) ↔
      row.key = key ∧ row.options = options ∨ row.key ≠ key ∧ row ∈ table.rows := by
  rw [mem_rows, mem_rows]
  by_cases hkey : row.key = key
  · subst hkey
    simp [eq_comm]
  · simp [hkey, AList.lookup_insert_ne]

theorem eq_of_mem_rows {row' : Entry} (h : row ∈ table.rows)
    (h' : row' ∈ table.rows) (hkey : row.key = row'.key) : row = row' := by
  rw [mem_rows] at h h'
  rw [hkey, h'] at h
  obtain ⟨path, client, options⟩ := row
  obtain ⟨path', client', options'⟩ := row'
  cases hkey
  cases h
  rfl

def Undisturbed (config : Config) (ledger : List Export) (before after : ExportTable) : Prop :=
  ∀ row, owns config ledger row = false → (row ∈ after.rows ↔ row ∈ before.rows)

theorem Undisturbed.refl (ledger : List Export) (table : ExportTable) :
    Undisturbed config ledger table table := fun _ _ => Iff.rfl

theorem Undisturbed.erase {before : ExportTable}
    (h : Undisturbed config ledger before table) (hlisted : Undisturbed config ledger before listed)
    (hrow : row ∈ listed.rows) (howns : owns config ledger row = true) :
    Undisturbed config ledger before (table.erase row.key) := by
  intro other hother
  rw [mem_rows_erase, h other hother]
  refine and_iff_right_of_imp fun hbefore hkey => ?_
  have hsame := eq_of_mem_rows ((hlisted other hother).mpr hbefore) hrow hkey
  rw [hsame, howns] at hother
  cases hother

theorem Undisturbed.insert {before : ExportTable}
    (h : Undisturbed config ledger before table) (howns : owns config ledger row = true)
    (hclear : ∀ other ∈ before.rows, owns config ledger other = false → other.path ≠ row.path) :
    Undisturbed config ledger before (table.insert row.key row.options) := by
  intro other hother
  rw [mem_rows_insert, h other hother]
  constructor
  · rintro (⟨hkey, hoptions⟩ | ⟨-, hbefore⟩)
    · have hsame : other = row := by
        obtain ⟨path, client, options⟩ := other
        obtain ⟨path', client', options'⟩ := row
        cases hkey
        cases hoptions
        rfl
      rw [hsame, howns] at hother
      cases hother
    · exact hbefore
  · intro hbefore
    refine .inr ⟨fun hkey => hclear other hbefore hother ?_, hbefore⟩
    exact congrArg Key.path hkey

theorem owns_granted (he : e ∈ ledger) (hclient : client ∈ e.admitted) :
    owns config ledger ⟨e.path, client, config.readback (e.options config)⟩ = true :=
  owns_iff.mpr ⟨e, he, rfl, hclient, (identified_options e).readback.optionValue_eq⟩

section Frame

variable {ledger : List Export} {before : ExportTable} {m : Manager}

/-- The manager and the foreign rows as they were. -/
structure Framed (config : Config) (ledger : List Export) (before : ExportTable) (m : Manager)
    (host : Host) : Prop where
  manager : host.manager = m
  rows : Undisturbed config ledger before host.table

theorem framed_persist : Preserves (Framed config ledger before m) persist :=
  .call_some fun _ h => ⟨h.manager, h.rows⟩

theorem framed_revoke (hlisted : Undisturbed config ledger before listed) (hrow : row ∈ listed.rows)
    (howns : owns config ledger row = true) :
    Preserves (Framed config ledger before m) (revoke row.path row.client) :=
  .call_some fun _ h => ⟨h.manager, h.rows.erase hlisted hrow howns⟩

theorem framed_grant (he : e ∈ ledger) (hclient : client ∈ e.admitted)
    (hclear : ∀ other ∈ before.rows, owns config ledger other = false → other.path ≠ e.path) :
    Preserves (Framed config ledger before m) (grant config e client) :=
  .call_some fun _ h => ⟨h.manager, h.rows.insert (owns_granted he hclient) hclear⟩

theorem framed_revokeEach (hlisted : Undisturbed config ledger before listed)
    (hrows : ∀ row ∈ rows, row ∈ listed.rows ∧ owns config ledger row = true) :
    Preserves (Framed config ledger before m) (revokeEach rows) := by
  induction rows with
  | nil => exact .pure _
  | cons row rest ih =>
    have hfirst := hrows row (by simp)
    refine (framed_revoke hlisted hfirst.1 hfirst.2).attempt.bind fun result => ?_
    refine (ih fun row' hrow' => hrows row' (.tail row hrow')).bind fun later => ?_
    split <;> exact .pure _

theorem triple_list_framed : Triple (Framed config ledger before m) list fun result host =>
    match result with
    | .ok rows => Framed config ledger before m host ∧
        ∃ listed, rows = ExportTable.rows listed ∧ Undisturbed config ledger before listed
    | .error _ => Framed config ledger before m host :=
  .query (fun host h => ⟨h, host.table, rfl, h.rows⟩) (fun _ h => h) fun _ h => h

theorem framed_revokeOwned (hledger : ∀ e ∈ m.state.ledger, e ∈ ledger) :
    Preserves (Framed config ledger before m) (revokeOwned config) := by
  refine Triple.bind triple_list_framed (fun rows => ?_) fun _ _ h => h
  refine .assuming ?_
  rintro ⟨listed, rfl, hlisted⟩
  refine triple_read_bind (fun host h => h.manager) ?_
  have hrows : ∀ row ∈ listed.rows.filter (owns config m.state.ledger),
      row ∈ listed.rows ∧ owns config ledger row = true := by
    intro row hrow
    obtain ⟨hmem, howns⟩ := List.mem_filter.mp hrow
    exact ⟨hmem, owns_mono hledger howns⟩
  refine (framed_revokeEach hlisted hrows).bind fun result => ?_
  split
  · exact .pure _
  · exact .fail

/-- Withdrawing the obsolete rows: it goes through only if no foreign row is in
the way of the ledger. -/
theorem framed_revokeObsolete (hledger : ∀ e ∈ m.state.ledger, e ∈ ledger) (wanted : Wanted)
    (hrows : ∀ row ∈ rows, row ∈ before.rows) :
    Yields (Framed config ledger before m) (revokeObsolete config rows wanted)
      (fun _ host => Framed config ledger before m host ∧ ∀ row ∈ rows,
        owns config m.state.ledger row = false →
          foreignConflict config m.state.ledger row = none) (Framed config ledger before m) := by
  refine triple_read_bind (fun host h => h.manager) ?_
  refine Yields.forEach (fun row hrow => ?_) fun row other hother => ?_
  · unfold revokeRow
    refine .ite (fun howns => ?_) fun howns => ?_
    · refine (Triple.returns (Preserves.when (framed_revoke (Undisturbed.refl ledger before)
        (hrows row hrow) (owns_mono hledger howns))) fun _ h => h).post fun _ _ h => ⟨h, fun hnot => ?_⟩
      rw [howns] at hnot
      cases hnot
    · split
      · exact Yields.error
      · next hconflict => exact Yields.pure _ fun _ h => ⟨h, fun _ => hconflict⟩
  · exact fun w hw => hw.2

theorem framed_grantDesired (rows : List Entry)
    (hwanted : ∀ id e client want, m.state.desired.lookup id = some e → client ∈ e.admitted →
      wanted.lookup ⟨e.path, client⟩ = some want → e ∈ m.state.ledger)
    (hledger : ∀ e ∈ m.state.ledger, e ∈ ledger)
    (hclear : ∀ e ∈ m.state.ledger, ∀ other ∈ before.rows, owns config ledger other = false →
      other.path ≠ e.path) :
    Preserves (Framed config ledger before m) (grantDesired config rows wanted) := by
  refine triple_read_bind (fun host h => h.manager) ?_
  refine Preserves.forEach fun policy hpolicy => Preserves.forEach fun client hclient => ?_
  unfold grantRow
  split
  · exact .pure _
  · rename_i want hwant
    have he := hwanted policy.1 policy.2 client want (mem_exports.mp hpolicy) hclient hwant
    exact .ite (.pure _) (framed_grant (hledger _ he) hclient (hclear _ he))

theorem yields_verifyAdmissions {P I : Host → Prop} (hm : ∀ host, P host → host.manager = m)
    (hI : ∀ host, P host → I host) (wanted : Wanted) :
    Yields P (verifyAdmissions config wanted) (fun _ host => P host ∧ ∃ missing : Wanted,
      missing.entries = [] ∧
        verifyRows config m.state.ledger host.table.rows wanted = .ok missing) I := by
  refine .bind (Q := fun rows host => P host ∧ rows = host.table.rows)
    (.query (fun _ h => ⟨h, rfl⟩) hI) fun rows => ?_
  refine triple_read_bind (fun host h => hm host h.1) ?_
  refine (yields_orFail _ fun host h => hI host h.1).bind fun missing => ?_
  refine .ite (fun hnone => .pure _ fun host h => ⟨h.1.1, missing, hnone, ?_⟩) fun _ =>
    .fail fun host h => hI host h.1.1
  rw [← h.1.2]
  exact h.2

end Frame

/-- On the paths of the ledger the table holds one row for each client that an
export of the pass admits, with options that enforce its policy, and no other
row. -/
structure Exact (config : Config) (checks : Checks) (state : DiskState) (table : ExportTable) :
    Prop where
  complete : ∀ e ∈ passExports config checks state.desired, ∀ client ∈ e.admitted,
    ∃ options, table.lookup ⟨e.path, client⟩ = some options ∧ Enforces config e options
  only : ∀ row ∈ table.rows, (∃ e ∈ convergenceLedger config checks state, e.path = row.path) →
    ∃ e ∈ passExports config checks state.desired,
      e.path = row.path ∧ row.client ∈ e.admitted ∧ Enforces config e row.options

variable {before : Manager}

section Converge

variable {host : Host} {m : Manager} {after : Host}

theorem Completed.lookup_wanted (h : Completed config checks before wanted m)
    (hwant : wanted.lookup key = some want) :
    Wants config (passExports config checks before.state.desired) key want := by
  rw [h.wanted] at hwant
  exact (wants_of_lookup hwant).resolve_right (by simp)

theorem Completed.exact (h : Completed config checks before wanted m)
    (hconsistent : Consistent config before.state.desired) (hnone : missing.entries = [])
    (hverify : verifyRows config m.state.ledger table.rows wanted = .ok missing) :
    Exact config checks before.state table := by
  obtain ⟨howned, hforeign, hfound⟩ := verifyRows_ok hverify
  constructor
  · intro e he client hclient
    have hsome : (wanted.lookup ⟨e.path, client⟩).isSome := by
      rw [h.wanted]
      exact isSome_lookup_foldl (.inr ⟨e, he, rfl, hclient⟩)
    obtain ⟨want, hwant⟩ := Option.isSome_iff_exists.mp hsome
    obtain ⟨e', he', hpath, -, rfl⟩ := h.lookup_wanted hwant
    obtain rfl := hconsistent.eq_of_mem_passExports he he' hpath
    rcases hfound _ _ hwant with hleft | ⟨row, hrow, hkey, hmatch⟩
    · have hempty : missing.lookup ⟨e.path, client⟩ = none := by
        rw [AList.lookup_eq_none, AList.mem_keys, AList.keys, hnone]
        simp
      rw [hempty] at hleft
      cases hleft
    · refine ⟨row.options, ?_, enforces_of_optionsMatch hmatch⟩
      rw [← hkey]
      exact mem_rows.mp hrow
  · rintro row hrow ⟨e', he', hpath⟩
    have hledger := h.mem_ledger_of_mem e' he'
    have howns : owns config m.state.ledger row = true := by
      cases howns : owns config m.state.ledger row with
      | true => rfl
      | false =>
        exact absurd hpath.symm
          (ne_of_foreignConflict_eq_none (hforeign row hrow howns) hledger)
    obtain ⟨want, hwant, hmatch⟩ := keeps_iff.mp (howned row hrow howns)
    obtain ⟨e, he, hpath', hclient, rfl⟩ := h.lookup_wanted hwant
    exact ⟨e, he, hpath'.symm, hclient, enforces_of_optionsMatch hmatch⟩

theorem Completed.mem_passExports (h : Completed config checks before wanted m)
    (hconsistent : Consistent config before.state.desired) {id : String}
    (he : m.state.desired.lookup id = some e) (hwant : wanted.lookup ⟨e.path, client⟩ = some want) :
    e ∈ passExports config checks before.state.desired := by
  obtain ⟨e', he', hpath, -⟩ := h.lookup_wanted hwant
  by_cases hid : id = rootVolumeID
  · subst hid
    rw [h.root] at he
    cases he
    simp [passExports]
  · rw [h.desired id hid] at he
    simp only [passExports, List.mem_append, List.mem_singleton] at he'
    rcases he' with he' | rfl
    · obtain ⟨id', hmem', hconsidered, -⟩ := mem_validExports.mp he'
      obtain rfl := hconsistent.eq_of_path he (mem_exports.mp hmem') hid hconsidered.1 hpath
      exact List.mem_append_left _ he'
    · exact absurd hpath (hconsistent.below id e he hid)

theorem Completed.mem_ledger_of_wanted (h : Completed config checks before wanted m)
    (hconsistent : Consistent config before.state.desired) {id : String}
    (he : m.state.desired.lookup id = some e) (hclient : client ∈ e.admitted)
    (hwant : wanted.lookup ⟨e.path, client⟩ = some want) : e ∈ m.state.ledger := by
  have hpass := h.mem_passExports hconsistent he hwant
  refine h.mem_ledger_of_mem e (mem_convergenceLedger.mpr (.inr ⟨hpass, ?_⟩))
  by_contra hinactive
  rw [admitted_eq_nil (by simpa using hinactive)] at hclient
  cases hclient

/-- What convergence leaves, whatever happens, and what it has reached when it
succeeds. -/
structure Settled (config : Config) (checks : Checks) (before : Host)
    (result : Except (Stop NfsError) Unit) (after : Host) : Prop where
  foreign : Undisturbed config (convergenceLedger config checks before.manager.state) before.table
    after.table
  ledger : ∀ e ∈ after.manager.state.ledger,
    e ∈ convergenceLedger config checks before.manager.state
  exact : result = .ok () → Exact config checks before.manager.state after.table

theorem Framed.settled {before : Host} {stop : Stop NfsError}
    (h : Framed config (convergenceLedger config checks before.manager.state) before.table m after)
    (hledger : ∀ e ∈ m.state.ledger, e ∈ convergenceLedger config checks before.manager.state) :
    Settled config checks before (.error stop) after :=
  ⟨h.rows, by rwa [h.manager], by simp⟩

theorem Settled.error {before : Host} {result : Except (Stop NfsError) Unit}
    (h : Settled config checks before result after) (stop : Stop NfsError) :
    Settled config checks before (.error stop) after :=
  ⟨h.foreign, h.ledger, by simp⟩

/-- The end of convergence: the ledger is trimmed once the table was read back
as wanted. -/
theorem settled_trim {before : Host} (hexact : ∀ e, e ∈ availableExports m.state.desired
      m.exportErrors → e ∈ convergenceLedger config checks before.manager.state) :
    Triple (fun after => Framed config (convergenceLedger config checks before.manager.state)
        before.table m after ∧ Exact config checks before.manager.state after.table) (do
        modify Manager.rebuildLedger
        match ← attempt persist with
        | .ok _ => pure ()
        | .error error => do
          modify fun m => { m with failure := some error }
          fail error)
      (Settled config checks before) := by
  have htrim : Triple (fun after => Framed config
        (convergenceLedger config checks before.manager.state) before.table m after ∧
        Exact config checks before.manager.state after.table)
      (modify Manager.rebuildLedger) fun _ after => Settled config checks before (.ok ()) after :=
    triple_modify fun after h => ⟨h.1.rows, by
      rw [h.1.manager]
      exact hexact, fun _ => h.2⟩
  refine .bind htrim (fun _ => ?_) fun stop after h => h.error stop
  have hpersist : Preserves (Settled config checks before (.ok ())) (attempt persist) :=
    .attempt (.call_some fun _ h => ⟨h.foreign, h.ledger, h.exact⟩)
  refine .bind hpersist (fun result => ?_) fun stop after h => h.error stop
  split
  · exact .pure _ fun after h => h
  · refine .bind (R := fun _ after => Settled config checks before (.ok ()) after) ?_
      (fun _ => .fail fun after h => h.error _) fun stop after h => h.error stop
    exact triple_modify fun after h => ⟨h.foreign, h.ledger, h.exact⟩

theorem settled_admission (hconsistent : Consistent config host.manager.state.desired)
    (h : Completed config checks host.manager wanted m) :
    Triple (Framed config (convergenceLedger config checks host.manager.state) host.table m) (do
        persist
        revokeObsolete config host.table.rows wanted
        grantDesired config host.table.rows wanted
        verifyAdmissions config wanted
        healthLocked
        modify Manager.rebuildLedger
        match ← attempt persist with
        | .ok _ => pure ()
        | .error error => do
          modify fun m => { m with failure := some error }
          fail error)
      (Settled config checks host) := by
  refine .bind framed_persist (fun _ => ?_) fun stop after hf => hf.settled h.mem_ledger
  refine .bind (framed_revokeObsolete h.mem_ledger wanted fun row hrow => hrow)
    (fun _ => .assuming fun hconflict => ?_) fun stop after hf => hf.settled h.mem_ledger
  -- a foreign row on a path of the ledger would have ended the pass above
  have hclear : ∀ e ∈ m.state.ledger, ∀ other ∈ host.table.rows,
      owns config (convergenceLedger config checks host.manager.state) other = false →
        other.path ≠ e.path := by
    intro e he other hother hforeign
    refine ne_of_foreignConflict_eq_none (hconflict other hother ?_) he
    cases howns : owns config m.state.ledger other with
    | false => rfl
    | true =>
      rw [owns_mono h.mem_ledger howns] at hforeign
      cases hforeign
  refine .bind (framed_grantDesired _
    (fun _ _ _ _ he hclient hwant => h.mem_ledger_of_wanted hconsistent he hclient hwant)
    h.mem_ledger hclear) (fun _ => ?_)
    fun stop after hf => hf.settled h.mem_ledger
  refine .bind (yields_verifyAdmissions (fun after hf => hf.manager) (fun _ hf => hf) wanted)
    (fun _ => ?_) fun stop after hf => hf.settled h.mem_ledger
  refine .pre (.bind (preserves_healthLocked (P := fun after =>
    Framed config (convergenceLedger config checks host.manager.state) host.table m after ∧
      Exact config checks host.manager.state after.table)) (fun _ => settled_trim ?_)
    fun stop after hf => hf.1.settled h.mem_ledger) ?_
  · intro e he
    obtain ⟨hpass, hactive⟩ := (h.available e).mp he
    exact mem_convergenceLedger.mpr (.inr ⟨hpass, hactive⟩)
  · rintro after ⟨hf, missing, hnone, hverify⟩
    exact ⟨hf, h.exact hconsistent hnone hverify⟩

theorem settled_converge (hconsistent : Consistent config host.manager.state.desired) :
    Triple (· = host) (converge config checks) (Settled config checks host) := by
  have hpassed : Passed config checks host.manager
      (desiredEntries config checks host.manager).2 := passed_desiredEntries hconsistent.keyed
  have hstart : Yields (· = host) list (fun rows after => after = host ∧ rows = host.table.rows)
      (· = host) := .query (fun _ h => ⟨h, by rw [h]⟩) fun _ h => h
  refine .bind hstart (fun rows => .assuming ?_) ?_
  · rintro rfl
    have hpass : Yields (· = host) (memory (desiredEntries config checks)) (fun wanted after =>
        Framed config (convergenceLedger config checks host.manager.state) host.table
          (desiredEntries config checks host.manager).2 after ∧
        Completed config checks host.manager wanted (desiredEntries config checks host.manager).2)
        (Framed config (convergenceLedger config checks host.manager.state) host.table
          (desiredEntries config checks host.manager).2) := by
      refine triple_memory ?_ ?_
      · rintro _ wanted rfl hok
        exact ⟨⟨rfl, Undisturbed.refl _ _⟩,
          completed_desiredEntries hconsistent.keyed (Prod.ext hok rfl)⟩
      · rintro _ error rfl -
        exact ⟨rfl, Undisturbed.refl _ _⟩
    exact .bind hpass (fun wanted => .assuming fun hcompleted =>
      settled_admission hconsistent hcompleted) fun stop after h => h.settled hpassed.mem_ledger
  · rintro stop after rfl
    exact ⟨Undisturbed.refl _ _, fun e he => List.mem_append_left _ he, by simp⟩

theorem settled_failClosed (stop : Stop NfsError) (error : NfsError) :
    Triple (Settled config checks host (.error stop)) (failClosed config error)
      (Settled config checks host) := by
  have hrevoke : Preserves (Settled config checks host (.error stop)) (revokeOwned config) :=
    fun w hw => (framed_revokeOwned hw.ledger w ⟨rfl, hw.foreign⟩).settled hw.ledger
  refine .bind hrevoke.ignore (fun _ => ?_) fun stop' _ h => h.error stop'
  refine .bind preserves_check.ignore (fun _ => ?_) fun stop' _ h => h.error stop'
  refine .bind (preserves_modify fun after h => ⟨h.foreign, h.ledger, h.exact⟩)
    (fun _ => ?_) fun stop' _ h => h.error stop'
  exact .fail fun after h => h.error _

theorem settled_apply (hconsistent : Consistent config host.manager.state.desired) :
    Triple (· = host) (apply config checks) (Settled config checks host) := by
  have hattempt : Triple (· = host) (attempt (converge config checks)) fun result after =>
      match result with
      | .ok (.ok _) => Settled config checks host (.ok ()) after
      | .ok (.error error) => Settled config checks host (.error (.failed error)) after
      | .error stop => Settled config checks host (.error stop) after :=
    .attempt (settled_converge hconsistent) (fun _ _ h => h) (fun _ _ h => h) fun _ h => h
  refine .bind hattempt (fun result => ?_) fun _ _ h => h
  cases result with
  | ok _ => exact .pure _ fun _ h => h
  | error error => exact settled_failClosed _ error

end Converge

/-- When convergence succeeds, the table holds on the paths of the ledger
exactly the rows of the exports that it found usable and of the pseudoroot for
their clients, with options that enforce each policy.  However it ends, and also
through the withdrawal that follows a failure, the rows that its ledger does not
own are the rows that were there before. -/
theorem converge_exact_and_undisturbed (config : Config) (checks : Checks) (host : Host)
    (outcomes : List Outcome) (hconsistent : Consistent config host.manager.state.desired) :
    ((converge config checks).result outcomes host = .ok () →
      Exact config checks host.manager.state ((converge config checks).after outcomes host).table) ∧
    Undisturbed config (convergenceLedger config checks host.manager.state) host.table
      ((converge config checks).after outcomes host).table ∧
    Undisturbed config (convergenceLedger config checks host.manager.state) host.table
      ((apply config checks).after outcomes host).table := by
  have hconverge : Settled config checks host ((converge config checks).result outcomes host)
      ((converge config checks).after outcomes host) :=
    settled_converge hconsistent { state := host, outcomes := outcomes } rfl
  have happly : Settled config checks host ((apply config checks).result outcomes host)
      ((apply config checks).after outcomes host) :=
    settled_apply hconsistent { state := host, outcomes := outcomes } rfl
  exact ⟨hconverge.exact, hconverge.foreign, happly.foreign⟩

/-- Addresses whose texts are their own normal form. -/
def plainAddresses : Addresses where
  Addr := String
  unicastAddress text := if text = "*" ∨ text = "" then none else some text
  is4 _ := true
  text := id
  unicastAddress_text := by
    intro s a h
    split at h
    · cases h
    · rename_i hs
      cases h
      exact if_neg hs

def plainConfig : Config where
  addresses := plainAddresses
  bind := ("10.0.0.1" : String)
  exportRoot := "/srv"
  FSID := id
  readback flags := flags ++ [.word "wdelay"]
  guarded := false
  bind_readable := by simp [plainAddresses]
  exportRoot_safe := by decide +kernel
  readback_fsid := by simp

def datasetExport : Export :=
  { volumeID := "tank/a", path := "/srv/a", bindAddress := "10.0.0.1", version := nfsVersion,
    squash := .root, readOnly := false, aclEnabled := true, clients := ["10.0.0.2"],
    active := true, sourceKey := "", fenceUID := "" }

def allUsable : Checks := { validateExport := fun _ => .usable, beforeActivate := fun _ => true }

/-- A running manager with one policy, before a table with a foreign row and a
row of the policy that is out of date. -/
def runningHost : Host :=
  { disk := none
    table := AList.insert ⟨"/srv/a", "10.0.0.3"⟩ [.setting "fsid" "tank/a"]
      (AList.insert ⟨"/home", "*"⟩ [.setting "fsid" "7"] ∅)
    granted := []
    manager :=
      { state :=
          { schema := 1, bindAddress := "10.0.0.1", exportRoot := "/srv",
            desired := AList.insert "tank/a" datasetExport ∅,
            ledger := [{ datasetExport with clients := ["10.0.0.3"] }] }
        locked := true, started := true, closed := false, failure := none, exportErrors := [],
        closeErr := none } }

theorem consistent_runningHost : Consistent plainConfig runningHost.manager.state.desired := by
  have hlookup : ∀ id e, runningHost.manager.state.desired.lookup id = some e →
      id = "tank/a" ∧ e = datasetExport := by
    intro id e h
    by_cases hid : id = "tank/a"
    · subst hid
      cases (AList.lookup_insert ∅).symm.trans h
      exact ⟨rfl, rfl⟩
    · cases (AList.lookup_insert_ne hid).symm.trans h
  refine ⟨?_, ?_, ?_⟩
  · intro id e h
    obtain ⟨rfl, rfl⟩ := hlookup id e h
    rfl
  · intro id e id' e' h h' _ _ _
    rw [(hlookup id e h).1, (hlookup id' e' h').1]
  · intro id e h _
    obtain ⟨rfl, rfl⟩ := hlookup id e h
    decide

theorem converge_runningHost : Exact plainConfig allUsable runningHost.manager.state
        ((converge plainConfig allUsable).after [] runningHost).table ∧
      ⟨"/home", "*", [.setting "fsid" "7"]⟩ ∈
        ((converge plainConfig allUsable).after [] runningHost).table.rows := by
  have h := converge_exact_and_undisturbed plainConfig allUsable runningHost []
    consistent_runningHost
  have hok : (converge plainConfig allUsable).result [] runningHost = .ok () := by decide +kernel
  refine ⟨h.1 hok, (h.2.1 _ ?_).mpr ?_⟩
  · decide +kernel
  · decide +kernel

end PillarCsi.NfsConvergence
