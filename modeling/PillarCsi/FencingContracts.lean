import PillarCsi.FencedOperations
import PillarCsi.MarkOrder

/-!
What every fenced operation guarantees about the marks it leaves behind and
about the mark its mutation ran under.
-/

namespace PillarCsi.FencingContracts

open DurableCell FencingAdmission MarkOrder FencedOperations

/-- Every mark a crash can leave behind is well formed, and each one may
replace the ones before it. -/
structure Valid (c : MarkCell) : Prop where
  sorted : c.Sorted
  wellFormed : ∀ m ∈ c.values, WellFormed m

/-- `c'` is a valid state of the mark file that lost nothing durable in `c`. -/
structure Follows (c c' : MarkCell) : Prop where
  valid : Valid c'
  advances : c.Advances c'

variable {c c' c'' : MarkCell} {volumeID : String} {token : FencingToken}
  {op : FenceOp} {uid : String} {marks : MarkCell} {readable : Bool} {stored : Option FencingMark}

theorem valid_empty : Valid Cell.empty :=
  ⟨Cell.Sorted.empty, by simp [Cell.empty, Cell.values]⟩

theorem Valid.follows (h : Valid c) : Follows c c := ⟨h, Cell.Advances.refl c⟩

theorem Follows.trans (h₁ : Follows c c') (h₂ : Follows c' c'') : Follows c c'' :=
  ⟨h₂.valid, h₁.advances.trans h₂.advances⟩

theorem Valid.visible (h : Valid c) {m : FencingMark} (hm : c.visible = some m) :
    WellFormed m := h.wellFormed m (Cell.mem_values_of_visible hm)

theorem Valid.write (h : Valid c) {v : FencingMark}
    (hle : ∀ m, c.visible = some m → m ≤ v) (hv : WellFormed v) (o : WriteOutcome) :
    Follows c (c.write v o) := by
  refine ⟨⟨h.sorted.write hle o, ?_⟩, h.sorted.advances_write hle o⟩
  intro m hm
  rcases Cell.mem_values_write hm with hold | rfl
  · exact h.wellFormed m hold
  · exact hv

theorem Valid.sync (h : Valid c) (ok : Bool) : Follows c (c.sync ok) :=
  ⟨⟨h.sorted.sync ok, fun m hm =>
    h.wellFormed m ((Cell.values_sync_sublist c ok).subset hm)⟩, h.sorted.advances_sync ok⟩

theorem Valid.flush (h : Valid c) (k : Nat) : Follows c (c.flush k) :=
  ⟨⟨h.sorted.flush k, fun m hm =>
    h.wellFormed m ((Cell.values_flush_sublist c k).subset hm)⟩, h.sorted.advances_flush k⟩

theorem Valid.crash (h : Valid c) (k : Nat) : Follows c (c.crash k) :=
  ⟨⟨h.sorted.crash k, fun m hm =>
    h.wellFormed m ((Cell.values_crash_sublist c k).subset hm)⟩, h.sorted.advances_crash k⟩

/-- The durable mark under which a mutation of `token` may run. -/
structure Authorizes (token : FencingToken) (op : FenceOp) (d : FencingMark) : Prop where
  volumeUID : d.volumeUID = token.volumeUID
  generation : d.generation = token.generation
  not_retired : token.volumeUID ∉ d.endedUIDs
  grant_open : op = .grant → d.ended = false

/-- The mark has seen the token: it owns the volume ID at the token's
generation or a later one, or it is retired. -/
def Covers (token : FencingToken) (d : FencingMark) : Prop :=
  (d.volumeUID = token.volumeUID ∧ token.generation ≤ d.generation) ∨
    token.volumeUID ∈ d.endedUIDs

def EndedFor (uid : String) (d : FencingMark) : Prop :=
  (d.volumeUID = uid ∧ d.ended = true) ∨ uid ∈ d.endedUIDs

def RetiredIn (uid : String) (d : FencingMark) : Prop := uid ∈ d.endedUIDs

theorem Authorizes.covers {d : FencingMark} (h : Authorizes token op d) : Covers token d :=
  .inl ⟨h.volumeUID, h.generation.ge⟩

theorem covers_mono (a b : FencingMark) (hab : a ≤ b) (h : Covers token a) : Covers token b := by
  rcases h with ⟨howner, hgeneration⟩ | hretired
  · rcases hab.owner with heq | hretired
    · exact .inl ⟨heq ▸ howner, hgeneration.trans (hab.generation heq)⟩
    · exact .inr (howner ▸ hretired)
  · exact .inr (hab.retired hretired)

theorem endedFor_mono (a b : FencingMark) (hab : a ≤ b) (h : EndedFor uid a) : EndedFor uid b := by
  rcases h with ⟨howner, hended⟩ | hretired
  · rcases hab.owner with heq | hretired
    · exact .inl ⟨heq ▸ howner, (hab.ended heq hended).1⟩
    · exact .inr (howner ▸ hretired)
  · exact .inr (hab.retired hretired)

theorem retiredIn_mono (a b : FencingMark) (hab : a ≤ b)
    (h : RetiredIn uid a) : RetiredIn uid b := hab.retired h

theorem Authorizes.of_sameLifecycle {d next : FencingMark}
    (hsame : SameLifecycle d next) (h : Authorizes token op next) : Authorizes token op d where
  volumeUID := hsame.volumeUID ▸ h.volumeUID
  generation := hsame.generation ▸ h.generation
  not_retired := hsame.endedUIDs ▸ h.not_retired
  grant_open := fun hop => hsame.ended ▸ h.grant_open hop

def RanUnder (token : FencingToken) (op : FenceOp) (c c' : MarkCell) : Prop :=
  ∃ mid, Follows c mid ∧ Follows mid c' ∧ mid.Settled (Authorizes token op)

/-- What a call may do to the marks and when it may mutate. -/
structure Contract (token : FencingToken) (op : FenceOp) (c : MarkCell) (r : Outcome) :
    Prop where
  follows : Follows c r.marks
  ran : r.ran = true → RanUnder token op c r.marks

/-- What success of a fenced call promises. -/
structure FencedContract (token : FencingToken) (op : FenceOp) (c : MarkCell)
    (r : Outcome) : Prop extends Contract token op c r where
  passed : r.reply = .ok () → r.marks.Settled (Covers token)
  ended : op = .destroy → r.reply = .ok () → r.marks.Settled (EndedFor token.volumeUID)

theorem contract_idle (h : Valid c) (reply : Except FenceError Unit) :
    Contract token op c ⟨c, false, reply⟩ :=
  ⟨h.follows, fun hran => nomatch hran⟩

theorem fencedContract_error {ran : Bool} {err : FenceError}
    (h : Contract token op c ⟨marks, ran, .error err⟩) :
    FencedContract token op c ⟨marks, ran, .error err⟩ where
  toContract := h
  passed := fun hok => nomatch hok
  ended := fun _ hok => nomatch hok

theorem eq_visible_of_readFencingMark
    (h : readFencingMark volumeID c readable = .ok stored) : stored = c.visible := by
  unfold readFencingMark at h
  split at h
  · split at h
    · rename_i hnone
      cases h
      exact hnone.symm
    · rename_i m hsome
      split at h
      · cases h
      · cases h
        exact hsome.symm
  · cases h

theorem named_of_readFencingMark
    (h : readFencingMark volumeID c readable = .ok stored) (m : FencingMark)
    (hm : c.visible = some m) : m.volumeUID ≠ "" := by
  unfold readFencingMark at h
  simp only [hm] at h
  split at h
  · split at h
    · cases h
    · assumption
  · cases h

section Persist

variable {next : FencingMark} {changed : Bool} {o : WriteOutcome}

theorem persistFencingMark_follows (h : Valid c)
    (hle : ∀ m, c.visible = some m → m ≤ next) (hnext : WellFormed next) :
    Follows c (persistFencingMark volumeID c next changed o).1 := by
  unfold persistFencingMark
  split
  · exact h.write hle hnext o
  · exact h.sync _

theorem persistFencingMark_ok
    (hsame : changed = false → ∃ m, c.visible = some m ∧ SameLifecycle m next)
    (hok : (persistFencingMark volumeID c next changed o).2 = .ok ()) :
    ∃ d, (persistFencingMark volumeID c next changed o).1 = ⟨some d, []⟩ ∧
      SameLifecycle d next := by
  have hsynced : o = .synced := by
    by_contra hne
    simp [persistFencingMark, writeFencingMark, hne] at hok
    split at hok <;> cases hok
  subst hsynced
  cases changed with
  | true => exact ⟨next, rfl, SameLifecycle.refl next⟩
  | false =>
    obtain ⟨m, hm, hsame⟩ := hsame rfl
    exact ⟨m, by simp [persistFencingMark, Cell.sync, hm], hsame⟩

theorem writeFencingMark_durable (hok : (writeFencingMark volumeID c next o).2 = .ok ()) :
    (writeFencingMark volumeID c next o).1.durable = some next := by
  cases o with
  | failedBeforeRename | failedAfterRename => cases hok
  | synced => rfl

end Persist

section Mutation

variable {next d : FencingMark} {env : Surroundings}

theorem ranUnder_synced (h : Follows c ⟨some d, []⟩) (hauth : Authorizes token op d)
    (hafter : Follows ⟨some d, []⟩ c') : RanUnder token op c c' :=
  ⟨_, h, hafter, d, rfl, hauth⟩

theorem runFencedMutation_contract (h : Follows c ⟨some d, []⟩)
    (hsame : SameLifecycle d next) (hauth : Authorizes token op next) (hnext : WellFormed next) :
    FencedContract token op c (runFencedMutation volumeID op next env ⟨some d, []⟩) := by
  have hd : Authorizes token op d := hauth.of_sameLifecycle hsame
  have hkeep : ∀ ran reply, Contract token op c ⟨⟨some d, []⟩, ran, reply⟩ :=
    fun ran reply => ⟨h, fun _ => ranUnder_synced h hd h.valid.follows⟩
  unfold runFencedMutation
  split
  · exact fencedContract_error (hkeep _ _)
  · exact fencedContract_error (hkeep _ _)
  split
  · have hle : ∀ m, (⟨some d, []⟩ : MarkCell).visible = some m →
        m ≤ { next with ended := true } := by
      intro m hm
      cases Option.some.inj hm
      exact hsame.le.trans le_ended
    have hwrite := h.valid.write hle hnext.ended env.finish
    refine ⟨⟨h.trans hwrite, fun _ => ranUnder_synced h hd hwrite⟩, ?_, ?_⟩
    · intro hok
      exact ⟨_, writeFencingMark_durable hok, .inl ⟨hauth.volumeUID, hauth.generation.ge⟩⟩
    · intro _ hok
      exact ⟨_, writeFencingMark_durable hok, .inl ⟨hauth.volumeUID, rfl⟩⟩
  · rename_i hopen
    refine ⟨hkeep _ _, fun _ => ⟨d, rfl, hd.covers⟩, ?_⟩
    intro hop _
    have hended : next.ended = true := by simpa [hop] using hopen
    exact ⟨d, rfl, .inl ⟨hd.volumeUID, hsame.ended ▸ hended⟩⟩

theorem prepareFencingMark_sameLifecycle {backend : Option BackendType}
    {guardLegacy : Except FenceError Unit} {adm : FenceAdmission}
    (h : prepareFencingMark backend token op guardLegacy stored adm = .ok next) :
    SameLifecycle adm.next next := by
  unfold prepareFencingMark at h
  split at h
  · cases h
  split at h
  · split at h
    · cases h
      exact ⟨rfl, rfl, rfl, rfl, rfl, rfl, rfl⟩
    split at h
    · cases h
      exact ⟨rfl, rfl, rfl, rfl, rfl, rfl, rfl⟩
    · cases h
      exact SameLifecycle.refl _
  · cases h
    exact SameLifecycle.refl _

section Admitted

variable {adm : FenceAdmission}

theorem Valid.admitted_wellFormed (h : Valid c) (hadm : Admits token op c.visible adm)
    (hnext : SameLifecycle adm.next next) : WellFormed next :=
  hnext.wellFormed (admits_wellFormed hadm fun _ hm => h.visible hm)

theorem visible_le_admitted (hadm : Admits token op c.visible adm)
    (hnext : SameLifecycle adm.next next) (m : FencingMark) (hm : c.visible = some m) :
    m ≤ next := by
  rw [hm] at hadm
  exact (admits_le hadm).trans hnext.le

theorem authorizes_admitted (hadm : Admits token op c.visible adm)
    (hnext : SameLifecycle adm.next next) : Authorizes token op next where
  volumeUID := hnext.volumeUID.trans (admits_next_volumeUID hadm)
  generation := hnext.generation.trans (admits_next_generation hadm)
  not_retired := hnext.endedUIDs ▸ admits_not_retired hadm
  grant_open := by
    rintro rfl
    exact hnext.ended.trans (admits_grant_open hadm)

/-- Once the mark of an admitted token is persisted, a durable mark of the same
lifecycle authorizes the token's mutation. -/
theorem Valid.persist_admitted (h : Valid c) (hadm : Admits token op c.visible adm)
    (hnext : SameLifecycle adm.next next) {changed : Bool} {o : WriteOutcome}
    (hchanged : changed = false → adm.changed = false) {reply : Except FenceError Unit}
    (heq : persistFencingMark volumeID c next changed o = (marks, reply)) :
    Follows c marks ∧ (reply = .ok () → ∃ d, marks = ⟨some d, []⟩ ∧
      SameLifecycle d next ∧ Authorizes token op d) := by
  have hfollows : Follows c (persistFencingMark volumeID c next changed o).1 :=
    persistFencingMark_follows h (visible_le_admitted hadm hnext)
      (h.admitted_wellFormed hadm hnext)
  rw [heq] at hfollows
  refine ⟨hfollows, fun hok => ?_⟩
  have hpersisted : (persistFencingMark volumeID c next changed o).2 = .ok () := by rw [heq, hok]
  obtain ⟨d, hcell, hd⟩ := persistFencingMark_ok
    (fun hfalse => ⟨adm.next, admits_unchanged hadm (hchanged hfalse), hnext⟩) hpersisted
  rw [heq] at hcell
  exact ⟨d, hcell, hd, (authorizes_admitted hadm hnext).of_sameLifecycle hd⟩

theorem persistAndRun_contract (h : Valid c) {changed : Bool}
    (hadm : Admits token op c.visible adm) (hnext : SameLifecycle adm.next next)
    (hchanged : changed = false → adm.changed = false) :
    FencedContract token op c (persistAndRun volumeID op next changed env c) := by
  unfold persistAndRun
  split
  · rename_i marks err heq
    obtain ⟨hfollows, -⟩ := h.persist_admitted hadm hnext hchanged heq
    exact fencedContract_error ⟨hfollows, fun hran => nomatch hran⟩
  · rename_i marks heq
    obtain ⟨hfollows, hdurable⟩ := h.persist_admitted hadm hnext hchanged heq
    obtain ⟨d, rfl, hsame, -⟩ := hdurable rfl
    exact runFencedMutation_contract hfollows hsame (authorizes_admitted hadm hnext)
      (h.admitted_wellFormed hadm hnext)

end Admitted

theorem fencedChecked_contract (volumeID : String) (token : FencingToken) (op : FenceOp)
    (backend : Option BackendType) (check : Option (FencingMark → Except FenceError Unit))
    (env : Surroundings) (h : Valid c) :
    FencedContract token op c (fencedChecked volumeID token op backend check env c) := by
  have hrefused : ∀ err, FencedContract token op c ⟨c, false, .error err⟩ :=
    fun err => fencedContract_error (contract_idle h _)
  unfold fencedChecked
  split
  · exact hrefused _
  rename_i stored hread
  cases eq_visible_of_readFencingMark hread
  split
  · exact hrefused _
  rename_i adm hadmits
  have hadm := admits_of_admitFencingToken hadmits
  dsimp only
  split
  · -- the terminal destroy retry of a pinned volume only re-syncs its mark
    rename_i hterminal
    obtain ⟨m, hm, howner, hended, hgeneration⟩ := admits_terminalRetry hadm hterminal.1
    rw [hm, Option.getD_some]
    have hdurable : (persistFencingMark volumeID c m false env.persist).2 = .ok () →
        (persistFencingMark volumeID c m false env.persist).1.Settled
          (SameLifecycle · m) := by
      intro hok
      obtain ⟨d, hcell, hd⟩ := persistFencingMark_ok
        (fun _ => ⟨m, hm, SameLifecycle.refl m⟩) hok
      exact ⟨d, by rw [hcell], hd⟩
    have hself : ∀ x, c.visible = some x → x ≤ m := by
      intro x hx
      rw [hm] at hx
      cases hx
      exact le_refl m
    refine ⟨⟨persistFencingMark_follows h hself (h.visible hm), fun hran => nomatch hran⟩,
      ?_, ?_⟩
    · intro hok
      obtain ⟨d, hd, hsame⟩ := hdurable hok
      exact ⟨d, hd, .inl ⟨hsame.volumeUID.symm.trans howner.symm,
        (hgeneration.trans hsame.generation).le⟩⟩
    · intro _ hok
      obtain ⟨d, hd, hsame⟩ := hdurable hok
      exact ⟨d, hd, .inl ⟨hsame.volumeUID.symm.trans howner.symm,
        hsame.ended.symm.trans hended⟩⟩
  split
  · exact hrefused _
  split
  · exact hrefused _
  rename_i next hprepare
  refine persistAndRun_contract h hadm (prepareFencingMark_sameLifecycle hprepare) ?_
  intro hfalse
  exact (Bool.or_eq_false_iff.mp hfalse).1

end Mutation

end PillarCsi.FencingContracts
