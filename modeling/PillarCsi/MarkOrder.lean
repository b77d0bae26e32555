import PillarCsi.FencingAdmission

/-!
The order in which marks of one volume ID may replace each other.
-/

namespace PillarCsi.MarkOrder

open FencingAdmission

/-- `b` may replace `a`: no retired lifecycle comes back, the owner keeps the
volume ID or is retired, an ended owner stays ended at its generation, and the
adopted LV with its policy stays pinned. -/
structure Precedes (a b : FencingMark) : Prop where
  retired : a.endedUIDs ⊆ b.endedUIDs
  owner : a.volumeUID = b.volumeUID ∨ a.volumeUID ∈ b.endedUIDs
  fresh : b.volumeUID ∈ a.endedUIDs → a.volumeUID = b.volumeUID
  generation : a.volumeUID = b.volumeUID → a.generation ≤ b.generation
  ended : a.volumeUID = b.volumeUID → a.ended = true →
    b.ended = true ∧ b.generation = a.generation
  source : ∀ s, a.lvmSource = some s → b.lvmSource = some s
  preserve : a.preserveOriginal = true → b.preserveOriginal = true

theorem Precedes.refl (a : FencingMark) : Precedes a a where
  retired := List.Subset.refl _
  owner := .inl rfl
  fresh := fun _ => rfl
  generation := fun _ => le_refl _
  ended := fun _ h => ⟨h, rfl⟩
  source := fun _ h => h
  preserve := id

variable {a b c m : FencingMark}

theorem Precedes.owner_between (hab : Precedes a b)
    (hbc : Precedes b c) (hac : a.volumeUID = c.volumeUID) :
    a.volumeUID = b.volumeUID ∧ b.volumeUID = c.volumeUID := by
  rcases hab.owner with heq | hretired
  · exact ⟨heq, heq.symm.trans hac⟩
  · have hbc' := hbc.fresh (hac ▸ hretired)
    exact ⟨hac.trans hbc'.symm, hbc'⟩

theorem Precedes.trans (hab : Precedes a b) (hbc : Precedes b c) : Precedes a c where
  retired := List.Subset.trans hab.retired hbc.retired
  owner := by
    rcases hab.owner with heq | hretired
    · rw [heq]
      exact hbc.owner
    · exact .inr (hbc.retired hretired)
  fresh := by
    intro hmem
    have hbc' := hbc.fresh (hab.retired hmem)
    exact (hab.fresh (hbc' ▸ hmem)).trans hbc'
  generation := by
    intro hac
    obtain ⟨h₁, h₂⟩ := hab.owner_between hbc hac
    exact (hab.generation h₁).trans (hbc.generation h₂)
  ended := by
    intro hac hended
    obtain ⟨h₁, h₂⟩ := hab.owner_between hbc hac
    obtain ⟨hb, hgb⟩ := hab.ended h₁ hended
    obtain ⟨hc, hgc⟩ := hbc.ended h₂ hb
    exact ⟨hc, hgc.trans hgb⟩
  source := fun s h => hbc.source s (hab.source s h)
  preserve := fun h => hbc.preserve (hab.preserve h)

instance : Preorder FencingMark where
  le := Precedes
  le_refl := Precedes.refl
  le_trans := fun _ _ _ => Precedes.trans

/-- What every mark the agent writes satisfies by itself. -/
structure WellFormed (m : FencingMark) : Prop where
  retired_ended : m.volumeUID ∈ m.endedUIDs → m.ended = true
  preserve_pinned : m.preserveOriginal = true → m.lvmSource ≠ none
  transfer_retired : ∀ t, m.transfer = some t → t.fromUID ∈ m.endedUIDs

/-- `b` carries the same lifecycle state and pin as `a`; only the filesystem
bookkeeping or the legacy claim may differ. -/
structure SameLifecycle (a b : FencingMark) : Prop where
  volumeUID : b.volumeUID = a.volumeUID
  generation : b.generation = a.generation
  ended : b.ended = a.ended
  endedUIDs : b.endedUIDs = a.endedUIDs
  lvmSource : b.lvmSource = a.lvmSource
  preserveOriginal : b.preserveOriginal = a.preserveOriginal
  transfer : b.transfer = a.transfer

theorem SameLifecycle.refl (a : FencingMark) : SameLifecycle a a :=
  ⟨rfl, rfl, rfl, rfl, rfl, rfl, rfl⟩

theorem SameLifecycle.le (h : SameLifecycle a b) : a ≤ b where
  retired := h.endedUIDs ▸ List.Subset.refl _
  owner := .inl h.volumeUID.symm
  fresh := fun _ => h.volumeUID.symm
  generation := fun _ => h.generation.ge
  ended := fun _ hended => ⟨h.ended.trans hended, h.generation⟩
  source := fun _ hs => h.lvmSource.trans hs
  preserve := fun hp => h.preserveOriginal.trans hp

theorem SameLifecycle.wellFormed (h : SameLifecycle a b) (ha : WellFormed a) : WellFormed b where
  retired_ended := by
    rw [h.volumeUID, h.endedUIDs, h.ended]
    exact ha.retired_ended
  preserve_pinned := by
    rw [h.preserveOriginal, h.lvmSource]
    exact ha.preserve_pinned
  transfer_retired := by
    rw [h.transfer, h.endedUIDs]
    exact ha.transfer_retired

theorem le_ended : m ≤ { m with ended := true } where
  retired := List.Subset.refl _
  owner := .inl rfl
  fresh := fun _ => rfl
  generation := fun _ => le_refl _
  ended := fun _ _ => ⟨rfl, rfl⟩
  source := fun _ h => h
  preserve := id

theorem WellFormed.ended (h : WellFormed m) : WellFormed { m with ended := true } where
  retired_ended := fun _ => rfl
  preserve_pinned := h.preserve_pinned
  transfer_retired := h.transfer_retired

section Admission

variable {token : FencingToken} {op : FenceOp} {stored : Option FencingMark}
  {adm : FenceAdmission}

variable (h : Admits token op stored adm)

include h

theorem admits_next_volumeUID : adm.next.volumeUID = token.volumeUID := by
  cases h with
  | first => rfl
  | successor => rfl
  | terminalRetry _ howner | sameGeneration _ howner | advance _ howner => exact howner.symm

theorem admits_next_generation : adm.next.generation = token.generation := by
  cases h with
  | first => rfl
  | successor => rfl
  | terminalRetry _ _ _ _ hgeneration | sameGeneration _ _ _ hgeneration => exact hgeneration.symm
  | advance => rfl

theorem admits_not_retired : token.volumeUID ∉ adm.next.endedUIDs := by
  cases h with
  | first => simp
  | successor hretired hother => simp [hretired, hother]
  | terminalRetry hretired | sameGeneration hretired | advance hretired => exact hretired

omit h in
theorem admits_grant_open (h : Admits token .grant stored adm) : adm.next.ended = false := by
  cases h with
  | first => rfl
  | successor => rfl
  | terminalRetry _ _ _ hop => exact absurd rfl hop
  | sameGeneration _ _ hopen | advance _ _ hopen => exact hopen

theorem admits_ended (hended : adm.next.ended = true) : adm.decision = .admitTerminalRetry := by
  cases h with
  | first | successor => cases hended
  | terminalRetry => rfl
  | sameGeneration _ _ hopen | advance _ _ hopen => simp [hopen] at hended

theorem admits_unchanged (hchanged : adm.changed = false) : stored = some adm.next := by
  cases h with
  | first | successor => cases hchanged
  | terminalRetry => rfl
  | sameGeneration => rfl
  | advance => cases hchanged

theorem admits_preserveOriginal (hpreserve : adm.next.preserveOriginal = true) :
    ∃ m, stored = some m ∧ m.preserveOriginal = true := by
  cases h with
  | first => cases hpreserve
  | @successor m | @terminalRetry m | @sameGeneration m | @advance m => exact ⟨m, rfl, hpreserve⟩

theorem admits_terminalRetry (hdecision : adm.decision = .admitTerminalRetry) :
    ∃ m, stored = some m ∧ token.volumeUID = m.volumeUID ∧ m.ended = true ∧
      token.generation = m.generation := by
  cases h with
  | first | successor => cases hdecision
  | @terminalRetry m _ howner hended _ hgeneration => exact ⟨m, rfl, howner, hended, hgeneration⟩
  | sameGeneration | advance => cases hdecision

omit h in
theorem admits_le (h : Admits token op (some m) adm) : m ≤ adm.next := by
  cases h with
  | successor hretired hother hended =>
    exact
      { retired := fun x hx => by simp [hx]
        owner := by simp
        fresh := fun hmem => absurd hmem hretired
        generation := fun heq => absurd heq.symm hother
        ended := fun heq => absurd heq.symm hother
        source := fun _ hs => hs
        preserve := id }
  | terminalRetry | sameGeneration => exact le_refl m
  | advance _ howner hopen hgeneration =>
    exact
      { retired := List.Subset.refl _
        owner := .inl rfl
        fresh := fun _ => rfl
        generation := fun _ => Nat.le_of_lt hgeneration
        ended := fun _ hended => by simp [hopen] at hended
        source := fun _ hs => hs
        preserve := id }

omit h in
theorem admits_owner_next (h : Admits token op (some m) adm)
    (howner : token.volumeUID = m.volumeUID) :
    adm.next = { m with generation := token.generation } := by
  cases h with
  | successor _ hother => exact absurd howner hother
  | terminalRetry _ _ _ _ hgeneration | sameGeneration _ _ _ hgeneration => rw [hgeneration]
  | advance => rfl

omit h in
theorem admits_owner_endedUIDs (h : Admits token op (some m) adm)
    (howner : token.volumeUID = m.volumeUID) : adm.next.endedUIDs = m.endedUIDs := by
  rw [admits_owner_next h howner]

theorem admits_wellFormed
    (hstored : ∀ m, stored = some m → WellFormed m) : WellFormed adm.next := by
  cases h with
  | first => exact ⟨by simp, by simp, by simp⟩
  | @successor m hretired hother hended =>
    refine ⟨?_, (hstored m rfl).preserve_pinned, by simp⟩
    simp [hretired, hother]
  | terminalRetry | sameGeneration => exact hstored _ rfl
  | @advance m hretired howner hopen hgeneration =>
    exact ⟨(hstored m rfl).retired_ended, (hstored m rfl).preserve_pinned,
      (hstored m rfl).transfer_retired⟩

end Admission

end PillarCsi.MarkOrder
