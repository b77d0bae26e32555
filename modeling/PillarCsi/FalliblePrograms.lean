import Mathlib.Logic.Function.Basic

/-!
Programs of system calls that may fail and may be cut off by the death of
their process.

A call is answered by the next of a list of outcomes; a list that is used up
answers with success.  So a statement about every list of outcomes is one about
every way the calls can fail.
-/

namespace PillarCsi.FalliblePrograms

/-- How a system call ends: done, refused without effect, reported as failed
though it took effect, or cut off with its process. -/
inductive Outcome where
  | done
  | refused
  | lost
  | died
  deriving DecidableEq, Repr

structure World (σ : Type*) where
  state : σ
  outcomes : List Outcome

/-- Why a program did not return: an error, or the death of its process. -/
inductive Stop (ε : Type*) where
  | failed (error : ε)
  | died
  deriving DecidableEq, Repr

def Program (σ ε α : Type) : Type := World σ → Except (Stop ε) α × World σ

variable {σ ε α β : Type}

namespace Program

variable (p : Program σ ε α)

protected def bind (f : α → Program σ ε β) : Program σ ε β := fun w =>
  match p w with
  | (.ok a, w') => f a w'
  | (.error stop, w') => (.error stop, w')

instance : Monad (Program σ ε) where
  pure a := fun w => (.ok a, w)
  bind := Program.bind

instance : LawfulMonad (Program σ ε) := by
  refine .mk' _ (fun p => ?_) (fun _ _ => rfl) fun p f g => ?_
  · funext w
    change Program.bind p _ w = p w
    unfold Program.bind
    cases p w with
    | mk result w' => cases result <;> rfl
  · funext w
    change Program.bind (Program.bind p f) g w = Program.bind p _ w
    unfold Program.bind
    cases p w with
    | mk result w' => cases result <;> rfl

def fail (error : ε) : Program σ ε α := fun w => (.error (.failed error), w)

def next (w : World σ) : Outcome × World σ :=
  match w.outcomes with
  | [] => (.done, w)
  | outcome :: rest => (outcome, { w with outcomes := rest })

/-- A call that changes the state, or that the state refuses. -/
def call (error : ε) (f : σ → Option σ) : Program σ ε Unit := fun w =>
  match next w with
  | (.done, w') =>
    match f w'.state with
    | some s => (.ok (), { w' with state := s })
    | none => (.error (.failed error), w')
  | (.refused, w') => (.error (.failed error), w')
  | (.lost, w') => (.error (.failed error), { w' with state := (f w'.state).getD w'.state })
  | (.died, w') => (.error .died, w')

/-- A call that only looks at the state. -/
def query (error : ε) (f : σ → α) : Program σ ε α := fun w =>
  match next w with
  | (.done, w') => (.ok (f w'.state), w')
  | (.died, w') => (.error .died, w')
  | (_, w') => (.error (.failed error), w')

/-- A call whose answer its caller interprets. -/
def draw : Program σ ε Outcome := fun w =>
  match next w with
  | (.died, w') => (.error .died, w')
  | (outcome, w') => (.ok outcome, w')

/-- A step in memory: it makes no call, so nothing cuts it off. -/
def compute (f : σ → Except ε α × σ) : Program σ ε α := fun w =>
  match f w.state with
  | (.ok a, s) => (.ok a, { w with state := s })
  | (.error error, s) => (.error (.failed error), { w with state := s })

/-- Goes on after an error, but not after death. -/
def attempt : Program σ ε (Except ε α) := fun w =>
  match p w with
  | (.ok a, w') => (.ok (.ok a), w')
  | (.error (.failed error), w') => (.ok (.error error), w')
  | (.error .died, w') => (.error .died, w')

/-- A step whose error nobody looks at. -/
def ignore : Program σ ε Unit := do
  let _ ← attempt p
  pure ()

def when (c : Prop) [Decidable c] (p : Program σ ε Unit) : Program σ ε Unit :=
  if c then p else pure ()

def forEach (f : α → Program σ ε Unit) : List α → Program σ ε Unit
  | [] => pure ()
  | a :: rest => do
    f a
    forEach f rest

def mapEach (f : α → Program σ ε β) : List α → Program σ ε (List β)
  | [] => pure []
  | a :: rest => do
    let b ← f a
    let bs ← mapEach f rest
    pure (b :: bs)

def mapError {ε' : Type} (f : ε → ε') (p : Program σ ε α) : Program σ ε' α := fun w =>
  match p w with
  | (.ok a, w') => (.ok a, w')
  | (.error (.failed error), w') => (.error (.failed (f error)), w')
  | (.error .died, w') => (.error .died, w')

def zoom {τ : Type} (get : σ → τ) (set : τ → σ → σ) (p : Program τ ε α) : Program σ ε α := fun w =>
  match p { state := get w.state, outcomes := w.outcomes } with
  | (result, w') => (result, { state := set w'.state w.state, outcomes := w'.outcomes })

def after (outcomes : List Outcome) (s : σ) : σ :=
  (p { state := s, outcomes := outcomes }).2.state

def result (outcomes : List Outcome) (s : σ) : Except (Stop ε) α :=
  (p { state := s, outcomes := outcomes }).1

end Program

open Program

def Triple (P : σ → Prop) (p : Program σ ε α) (Q : Except (Stop ε) α → σ → Prop) : Prop :=
  ∀ w : World σ, P w.state → Q (p w).1 (p w).2.state

/-- Whatever the program returns, `I` holds after it when it held before. -/
def Preserves (I : σ → Prop) (p : Program σ ε α) : Prop := Triple I p fun _ => I

def Yields (P : σ → Prop) (p : Program σ ε α) (Q : α → σ → Prop) (I : σ → Prop) : Prop :=
  Triple P p fun r s =>
    match r with
    | .ok a => Q a s
    | .error _ => I s

variable {Q : Except (Stop ε) α → σ → Prop} {p : Program σ ε α} {f : α → Program σ ε β}

section Rules

variable {P : σ → Prop} {I : σ → Prop} {error : ε} {P' : σ → Prop} {φ c : Prop}
  {R : Except (Stop ε) α → σ → Prop} {q : Program σ ε α} {items : List α} {s : σ}

theorem next_state (w : World σ) : (next w).2.state = w.state := by
  unfold next
  split <;> rfl

theorem Triple.weaken {Q' : Except (Stop ε) α → σ → Prop}
    (h : Triple P p Q) (hP : ∀ s, P' s → P s) (hQ : ∀ r s, Q r s → Q' r s) : Triple P' p Q' :=
  fun w hw => hQ _ _ (h w (hP _ hw))

theorem Triple.pre (h : Triple P p Q) (hP : ∀ s, P' s → P s) : Triple P' p Q :=
  h.weaken hP fun _ _ hs => hs

theorem Triple.post {Q' : Except (Stop ε) α → σ → Prop} (h : Triple P p Q)
    (hQ : ∀ r s, Q r s → Q' r s) : Triple P p Q' :=
  h.weaken (fun _ hs => hs) hQ

theorem Triple.assuming (h : φ → Triple P p Q) : Triple (fun s => P s ∧ φ) p Q :=
  fun w hw => h hw.2 w hw.1

theorem Triple.of_exists {ι : Type} {P : ι → σ → Prop} (h : ∀ i, Triple (P i) p Q) :
    Triple (fun s => ∃ i, P i s) p Q :=
  fun w hw => hw.elim fun i hi => h i w hi

protected theorem Triple.pure (a : α) (h : ∀ s, P s → Q (.ok a) s) : Triple P (pure a : Program σ ε α) Q :=
  fun w hw => h w.state hw

protected theorem Triple.fail
    (h : ∀ s, P s → Q (.error (.failed error)) s) : Triple P (fail error : Program σ ε α) Q :=
  fun w hw => h w.state hw

theorem fail_bind (f : α → Program σ ε β) : fail error >>= f = fail error := rfl

theorem Triple.bind
    {Q : Except (Stop ε) β → σ → Prop} (hp : Triple P p R) (hf : ∀ a, Triple (R (.ok a)) (f a) Q)
    (hstop : ∀ stop s, R (.error stop) s → Q (.error stop) s) : Triple P (p >>= f) Q := by
  intro w hw
  have hfirst := hp w hw
  change Q (Program.bind p f w).1 (Program.bind p f w).2.state
  unfold Program.bind
  revert hfirst
  cases p w with
  | mk result w' =>
    cases result with
    | ok a => exact fun hfirst => hf a w' hfirst
    | error stop => exact fun hfirst => hstop stop w'.state hfirst

protected theorem Triple.call {f : σ → Option σ} {Q : Except (Stop ε) Unit → σ → Prop}
    (hdone : ∀ s t, P s → f s = some t → Q (.ok ()) t)
    (hfailed : ∀ s, P s → Q (.error (.failed error)) s)
    (hlost : ∀ s t, P s → f s = some t → Q (.error (.failed error)) t)
    (hdied : ∀ s, P s → Q (.error .died) s) : Triple P (call error f) Q := by
  intro w hw
  rw [← next_state w] at hw
  unfold call
  revert hw
  obtain ⟨outcome, w'⟩ := next w
  intro hw
  cases outcome with
  | done =>
    dsimp only
    cases hf : f w'.state with
    | some t => exact hdone _ t hw hf
    | none => exact hfailed _ hw
  | refused => exact hfailed _ hw
  | lost =>
    dsimp only
    cases hf : f w'.state with
    | some t => exact hlost _ t hw hf
    | none => exact hfailed _ hw
  | died => exact hdied _ hw

protected theorem Triple.query {f : σ → α}
    (hdone : ∀ s, P s → Q (.ok (f s)) s) (hfailed : ∀ s, P s → Q (.error (.failed error)) s)
    (hdied : ∀ s, P s → Q (.error .died) s) : Triple P (query error f) Q := by
  intro w hw
  rw [← next_state w] at hw
  unfold query
  revert hw
  obtain ⟨outcome, w'⟩ := next w
  intro hw
  cases outcome with
  | done => exact hdone _ hw
  | refused | lost => exact hfailed _ hw
  | died => exact hdied _ hw

protected theorem Triple.draw {Q : Except (Stop ε) Outcome → σ → Prop} (hok : ∀ outcome s, P s → Q (.ok outcome) s)
    (hdied : ∀ s, P s → Q (.error .died) s) : Triple P draw Q := by
  intro w hw
  rw [← next_state w] at hw
  unfold draw
  revert hw
  obtain ⟨outcome, w'⟩ := next w
  intro hw
  cases outcome with
  | died => exact hdied _ hw
  | done => exact hok .done _ hw
  | refused => exact hok .refused _ hw
  | lost => exact hok .lost _ hw

protected theorem Triple.compute {f : σ → Except ε α × σ}
    (hok : ∀ s a t, P s → f s = (.ok a, t) → Q (.ok a) t)
    (hfailed : ∀ s error t, P s → f s = (.error error, t) → Q (.error (.failed error)) t) :
    Triple P (compute f) Q := by
  intro w hw
  unfold compute
  cases hf : f w.state with
  | mk result t =>
    cases result with
    | ok a => exact hok w.state a t hw hf
    | error e => exact hfailed w.state e t hw hf

theorem Triple.attempt {Q : Except (Stop ε) (Except ε α) → σ → Prop} (h : Triple P p R)
    (hok : ∀ a s, R (.ok a) s → Q (.ok (.ok a)) s)
    (hfailed : ∀ error s, R (.error (.failed error)) s → Q (.ok (.error error)) s)
    (hdied : ∀ s, R (.error .died) s → Q (.error .died) s) : Triple P (attempt p) Q := by
  intro w hw
  have hp := h w hw
  unfold Program.attempt
  revert hp
  cases p w with
  | mk result w' =>
    cases result with
    | ok a => exact hok a w'.state
    | error stop =>
      cases stop with
      | failed error => exact hfailed error w'.state
      | died => exact hdied w'.state

theorem Triple.mapError {ε' : Type} {g : ε → ε'}
    {Q : Except (Stop ε') α → σ → Prop} (h : Triple P p R) (hok : ∀ a s, R (.ok a) s → Q (.ok a) s)
    (hfailed : ∀ error s, R (.error (.failed error)) s → Q (.error (.failed (g error))) s)
    (hdied : ∀ s, R (.error .died) s → Q (.error .died) s) : Triple P (mapError g p) Q := by
  intro w hw
  have hp := h w hw
  unfold Program.mapError
  revert hp
  cases p w with
  | mk result w' =>
    cases result with
    | ok a => exact hok a w'.state
    | error stop =>
      cases stop with
      | failed error => exact hfailed error w'.state
      | died => exact hdied w'.state

protected theorem Triple.ite [Decidable c] (hp : c → Triple P p Q) (hq : ¬c → Triple P q Q) :
    Triple P (if c then p else q) Q := by
  split
  · exact hp ‹_›
  · exact hq ‹_›

protected theorem Triple.zoom {τ : Type} {get : σ → τ} {set : τ → σ → σ} {p : Program τ ε α}
    (h : ∀ s, P s → Triple (· = get s) p fun r t => Q r (set t s)) : Triple P (zoom get set p) Q :=
  fun w hw => h w.state hw { state := get w.state, outcomes := w.outcomes } rfl

protected theorem Preserves.pure (a : α) : Preserves I (pure a : Program σ ε α) :=
  Triple.pure a fun _ hs => hs

protected theorem Preserves.fail : Preserves I (fail error : Program σ ε α) := Triple.fail fun _ hs => hs

theorem Preserves.bind (hp : Preserves I p) (hf : ∀ a, Preserves I (f a)) : Preserves I (p >>= f) :=
  Triple.bind hp hf fun _ _ hs => hs

protected theorem Preserves.call {f : σ → Option σ} (hf : ∀ s t, I s → f s = some t → I t) :
    Preserves I (call error f) :=
  Triple.call hf (fun _ hs => hs) hf fun _ hs => hs

protected theorem Preserves.call_some {f : σ → σ} (hf : ∀ s, I s → I (f s)) :
    Preserves I (call error fun s => some (f s)) :=
  Preserves.call fun s _ hs hsome => Option.some.inj hsome ▸ hf s hs

protected theorem Preserves.query {f : σ → α} : Preserves I (query error f) :=
  Triple.query (fun _ hs => hs) (fun _ hs => hs) fun _ hs => hs

theorem Preserves.attempt (h : Preserves I p) : Preserves I (attempt p) :=
  Triple.attempt h (fun _ _ hs => hs) (fun _ _ hs => hs) fun _ hs => hs

theorem Preserves.ignore (h : Preserves I p) : Preserves I (ignore p) :=
  h.attempt.bind fun _ => Preserves.pure ()

protected theorem Preserves.ite [Decidable c] (hp : Preserves I p)
    (hq : Preserves I q) : Preserves I (if c then p else q) :=
  Triple.ite (fun _ => hp) fun _ => hq

theorem Preserves.when [Decidable c] {p : Program σ ε Unit} (h : Preserves I p) :
    Preserves I (Program.when c p) :=
  Preserves.ite h (Preserves.pure ())

protected theorem Preserves.forEach {f : α → Program σ ε Unit}
    (hf : ∀ a ∈ items, Preserves I (f a)) : Preserves I (forEach f items) := by
  induction items with
  | nil => exact Preserves.pure ()
  | cons a rest ih =>
    exact (hf a (by simp)).bind fun _ => ih fun b hb => hf b (.tail a hb)

protected theorem Preserves.mapEach
    (hf : ∀ a ∈ items, Preserves I (f a)) : Preserves I (mapEach f items) := by
  induction items with
  | nil => exact Preserves.pure _
  | cons a rest ih =>
    exact (hf a (by simp)).bind fun _ =>
      (ih fun b hb => hf b (.tail a hb)).bind fun _ => Preserves.pure _

theorem Preserves.after (h : Preserves I p) (hs : I s)
    (outcomes : List Outcome) : I (p.after outcomes s) :=
  h { state := s, outcomes := outcomes } hs

section Returns

variable {p : Program σ ε α} {f : α → Program σ ε β} {Q : α → σ → Prop} {Q' : α → σ → Prop}
  {J : σ → Prop}

theorem Yields.bind {R : β → σ → Prop} (hp : Yields P p Q I) (hf : ∀ a, Yields (Q a) (f a) R I) :
    Yields P (p >>= f) R I :=
  Triple.bind hp hf fun _ _ hs => hs

theorem Preserves.andThen {R : β → σ → Prop} (hp : Preserves P p) (hI : ∀ s, P s → I s)
    (hf : ∀ a, Yields P (f a) R I) : Yields P (p >>= f) R I :=
  Triple.bind hp hf fun _ s hs => hI s hs

theorem Preserves.seq {R : β → σ → Prop} (hp : Preserves I p) (hf : ∀ a, Yields I (f a) R I) :
    Yields I (p >>= f) R I :=
  hp.andThen (fun _ hs => hs) hf

protected theorem Yields.pure (a : α) (h : ∀ s, P s → Q a s) : Yields P (pure a : Program σ ε α) Q I :=
  Triple.pure a h

protected theorem Yields.fail (h : ∀ s, P s → I s) : Yields P (fail error : Program σ ε α) Q I :=
  Triple.fail h

protected theorem Yields.error : Yields I (fail error : Program σ ε α) Q I := Yields.fail fun _ hs => hs

protected theorem Yields.query {f : σ → α} (h : ∀ s, P s → Q (f s) s) (hI : ∀ s, P s → I s) :
    Yields P (query error f) Q I :=
  Triple.query h hI hI

theorem Yields.mono {I' : σ → Prop} (h : Yields P p Q I)
    (hP : ∀ s, P' s → P s) (hQ : ∀ a s, Q a s → Q' a s) (hI : ∀ s, I s → I' s) : Yields P' p Q' I' :=
  Triple.weaken h hP fun r _ hs =>
    match r with
    | .ok a => hQ a _ hs
    | .error _ => hI _ hs

theorem Yields.weaken (h : Yields P p Q I)
    (hP : ∀ s, P' s → P s) (hQ : ∀ a s, Q a s → Q' a s) : Yields P' p Q' I :=
  h.mono hP hQ fun _ hs => hs

theorem Yields.pre (h : Yields P p Q I) (hP : ∀ s, P' s → P s) : Yields P' p Q I := Triple.pre h hP

theorem Yields.post (h : Yields P p Q I) (hQ : ∀ a s, Q a s → Q' a s) : Yields P p Q' I :=
  h.weaken (fun _ hs => hs) hQ

theorem Yields.stops {I' : σ → Prop} (h : Yields P p Q I) (hI : ∀ s, I s → I' s) :
    Yields P p Q I' :=
  h.mono (fun _ hs => hs) (fun _ _ hs => hs) hI

theorem Yields.always (h : Yields P p Q I) (hQ : ∀ a s, Q a s → I s) : Triple P p fun _ => I :=
  Triple.weaken h (fun _ hs => hs) fun r _ hs =>
    match r with
    | .ok a => hQ a _ hs
    | .error _ => hs

theorem Yields.assuming (h : φ → Yields P p Q I) : Yields (fun s => P s ∧ φ) p Q I :=
  Triple.assuming h

theorem Triple.returns (h : Triple P p fun _ => J) (hI : ∀ s, J s → I s) :
    Yields P p (fun _ => J) I :=
  Triple.weaken h (fun _ hs => hs) fun r s hs =>
    match r with
    | .ok _ => hs
    | .error _ => hI s hs

theorem Yields.ensures (h : Yields P p (fun a s => I s ∧ Q a s) I) :
    Triple P p fun r s => I s ∧ ∀ a, r = .ok a → Q a s :=
  Triple.weaken h (fun _ hs => hs) fun r _ hs =>
    match r with
    | .ok _ => ⟨hs.1, fun _ ha => Except.ok.inj ha ▸ hs.2⟩
    | .error _ => ⟨hs, nofun⟩

theorem Triple.yields (h : Triple P p fun r s => I s ∧ ∀ a, r = .ok a → Q a s) :
    Yields P p (fun a s => I s ∧ Q a s) I :=
  Triple.weaken h (fun _ hs => hs) fun r _ hs =>
    match r with
    | .ok a => ⟨hs.1, hs.2 a rfl⟩
    | .error _ => hs.1

theorem Triple.and_yields (hR : Triple P p R)
    (h : Yields P p Q I) : Yields P p (fun a s => Q a s ∧ R (.ok a) s) I := by
  intro w hw
  have hfirst := hR w hw
  have hsecond := h w hw
  revert hfirst hsecond
  cases (p w).1 with
  | ok a => exact fun hfirst hsecond => ⟨hsecond, hfirst⟩
  | error _ => exact fun _ hsecond => hsecond

theorem Yields.pointwise (h : ∀ s₀, P s₀ → Yields (fun s => s = s₀) p Q I) : Yields P p Q I :=
  fun w hw => h w.state hw w rfl

theorem Triple.and_always (hJ : Triple P p fun _ => J) (h : Yields P p Q I) :
    Yields P p (fun a s => J s ∧ Q a s) (fun s => J s ∧ I s) :=
  Triple.weaken (Q := fun r s => J s ∧ match r with | .ok a => Q a s | .error _ => I s)
    (fun w hw => ⟨hJ w hw, h w hw⟩) (fun _ hs => hs) fun r _ hs =>
    match r with
    | .ok _ => hs
    | .error _ => hs

theorem Yields.attempt {Q' : Except ε α → σ → Prop} (h : Yields P p Q I)
    (hok : ∀ a s, Q a s → Q' (.ok a) s) (hfailed : ∀ error s, I s → Q' (.error error) s) :
    Yields P (attempt p) Q' I :=
  Triple.attempt h hok hfailed fun _ hs => hs

theorem Yields.of_result (h : Yields P p Q I) (hs : P s) {outcomes : List Outcome} {a : α}
    (ha : p.result outcomes s = .ok a) : Q a (p.after outcomes s) := by
  have hend := h { state := s, outcomes := outcomes } hs
  rw [show (p { state := s, outcomes := outcomes }).1 = .ok a from ha] at hend
  exact hend

/-- A loop: what each item's turn establishes holds at the end, if no other
turn takes it back. -/
protected theorem Yields.forEach {f : α → Program σ ε Unit} {D : α → σ → Prop}
    (hturn : ∀ a ∈ items, Yields P (f a) (fun _ s => P s ∧ D a s) P)
    (hkeep : ∀ a, ∀ b ∈ items, Triple (fun s => P s ∧ D a s) (f b) fun _ s => D a s) :
    Yields P (forEach f items) (fun _ s => P s ∧ ∀ a ∈ items, D a s) P := by
  induction items with
  | nil => exact Yields.pure _ fun s hs => ⟨hs, by simp⟩
  | cons a rest ih =>
    have hrest := ih (fun b hb => hturn b (.tail a hb))
      fun c b hb => hkeep c b (.tail a hb)
    -- the first item's fact is kept by the rest of the loop
    have hfirst : Preserves (fun s => P s ∧ D a s) (forEach f rest) := by
      refine Preserves.forEach fun b hb w hw => ?_
      have hb := List.mem_cons_of_mem a hb
      exact ⟨(hturn b hb).always (fun _ _ hs => hs.1) w hw.1, hkeep a b hb w hw⟩
    refine (hturn a (by simp)).bind fun _ => ?_
    refine (hfirst.and_yields (hrest.weaken (fun _ hs => hs.1) fun _ _ hs => hs)).weaken
      (fun _ hs => hs) fun _ s hs => ⟨hs.1.1, ?_⟩
    exact List.forall_mem_cons.mpr ⟨hs.2.2, hs.1.2⟩

/-- A loop that returns a result for every item, with an invariant that knows
which items are still to come. -/
protected theorem Yields.mapEach {P : List α → σ → Prop}
    {D : α → β → Prop} (hI : ∀ rest s, P rest s → I s) (hturn : ∀ a rest, a :: rest <:+ items →
      Yields (P (a :: rest)) (f a) (fun b s => P rest s ∧ D a b) I) :
    Yields (P items) (mapEach f items) (fun bs s => I s ∧ ∀ e ∈ items.zip bs, D e.1 e.2) I := by
  induction items with
  | nil => exact Yields.pure _ fun s hs => ⟨hI _ s hs, by simp⟩
  | cons a rest ih =>
    have hrest := ih fun b more hmore => hturn b more (hmore.trans (List.suffix_cons a rest))
    refine (hturn a rest (List.suffix_refl _)).bind fun b => Yields.assuming fun hb => ?_
    refine hrest.bind fun bs => Yields.pure _ fun s hs => ⟨hs.1, ?_⟩
    exact List.forall_mem_cons.mpr ⟨hb, hs.2⟩

end Returns

end Rules

section Runs

variable {w w' w'' : World σ}

def Runs (p : Program σ ε α) (w : World σ) (r : Except (Stop ε) α) (w' : World σ) : Prop :=
  p w = (r, w')

theorem Runs.bind {a : α} {r : Except (Stop ε) β} (hp : Runs p w (.ok a) w')
    (hf : Runs (f a) w' r w'') : Runs (p >>= f) w r w'' := by
  change Program.bind p f w = _
  rw [Program.bind, show p w = _ from hp]
  exact hf

theorem Runs.stop {stop : Stop ε} (hp : Runs p w (.error stop) w') :
    Runs (p >>= f) w (.error stop) w' := by
  change Program.bind p f w = _
  rw [Program.bind, show p w = _ from hp]

theorem Runs.zoom {τ : Type} {get : σ → τ} {set : τ → σ → σ} {p : Program τ ε α} {s : σ} {v : τ}
    {outcomes rest : List Outcome} {r : Except (Stop ε) α}
    (h : Runs p ⟨get s, outcomes⟩ r ⟨v, rest⟩) :
    Runs (zoom get set p) ⟨s, outcomes⟩ r ⟨set v s, rest⟩ := by
  change Program.zoom get set p _ = _
  rw [Program.zoom, show p _ = _ from h]

theorem Runs.after {s : σ} {outcomes : List Outcome} {r : Except (Stop ε) α}
    (h : Runs p ⟨s, outcomes⟩ r w) : p.after outcomes s = w.state := by
  rw [Program.after, show p _ = _ from h]

/-- The call after `n` others of a run. -/
theorem next_drop (s : σ) (outcomes : List Outcome) (n : Nat) :
    next ⟨s, outcomes.drop n⟩ = (outcomes.getD n .done, ⟨s, outcomes.drop (n + 1)⟩) := by
  rw [← List.tail_drop, List.getD_eq_getElem?_getD, ← List.head?_drop]
  cases outcomes.drop n <;> rfl

/-- One run that does not return, and what it leaves. -/
def Stops (p : Program σ ε α) (w : World σ) (φ : σ → Prop) : Prop :=
  ∃ stop w', Runs p w (.error stop) w' ∧ φ w'.state

variable {φ : σ → Prop}

theorem Stops.bind (h : Stops p w φ) : Stops (p >>= f) w φ := by
  obtain ⟨stop, w', hrun, hφ⟩ := h
  exact ⟨stop, w', hrun.stop, hφ⟩

theorem Runs.then_stops {a : α} (hp : Runs p w (.ok a) w') (hf : Stops (f a) w' φ) :
    Stops (p >>= f) w φ := by
  obtain ⟨stop, w'', hrun, hφ⟩ := hf
  exact ⟨stop, w'', hp.bind hrun, hφ⟩

theorem Stops.after {s : σ} {outcomes : List Outcome} (h : Stops p ⟨s, outcomes⟩ φ) :
    φ (p.after outcomes s) := by
  obtain ⟨stop, w', hrun, hφ⟩ := h
  rw [hrun.after]
  exact hφ

end Runs

end PillarCsi.FalliblePrograms
