import PillarCsi.FalliblePrograms

/-!
Programs whose calls have effects: an event, and what the event does to the
state.

A contract of a program says which events it may perform in which states.
Whatever every permitted event keeps, the program keeps, however its calls fail
and wherever it is cut off.
-/

namespace PillarCsi.EffectPrograms

open FalliblePrograms FalliblePrograms.Program

/-- What an event does to the state. -/
class Effects (η σ : Type) where
  apply : η → σ → σ

export Effects (apply)

variable {σ ε α β η : Type} [Effects η σ] {p q : Program σ ε α} {f : σ → α} {c : Prop}
  {Q : Except (Stop ε) α → σ → Prop}

def perform (error : ε) (event : η) : Program σ ε Unit :=
  call error fun s => some (apply event s)

/-- Reads the state without a call. -/
def look (f : σ → α) : Program σ ε α := fun w => (.ok (f w.state), w)

variable (allow : η → σ → Prop)

def Closed (I : σ → Prop) : Prop :=
  ∀ event s, allow event s → I s → I (apply event s)

variable (P : σ → Prop)

/-- From a state of `P`, the program performs permitted events only and ends
with a result and a state of `Q`. -/
def Emits (p : Program σ ε α) (Q : Except (Stop ε) α → σ → Prop) : Prop :=
  ∀ I, Closed allow I → Triple (fun s => I s ∧ P s) p fun r s => I s ∧ Q r s

/-- A postcondition on what a program returns, with none on its failure. -/
def Returning (R : α → σ → Prop) : Except (Stop ε) α → σ → Prop
  | .ok a, s => R a s
  | .error _, _ => True

section Rules

variable {allow : η → σ → Prop} {P : σ → Prop} {error : ε} {event : η}
  {R : Except (Stop ε) α → σ → Prop} {narrow : η → σ → Prop}

theorem Emits.weaken {P' : σ → Prop} {Q' : Except (Stop ε) α → σ → Prop}
    (h : Emits allow P p Q) (hP : ∀ s, P' s → P s) (hQ : ∀ r s, Q r s → Q' r s) :
    Emits allow P' p Q' :=
  fun I hI => (h I hI).weaken (fun s hs => ⟨hs.1, hP s hs.2⟩) fun r s hs => ⟨hs.1, hQ r s hs.2⟩

theorem Emits.of_fact {φ : Prop}
    (hfact : ∀ s, P s → φ) (h : φ → Emits allow P p Q) : Emits allow P p Q :=
  fun I hI w hw => h (hfact w.state hw.2) I hI w hw

protected theorem Emits.pure (a : α) (h : ∀ s, P s → Q (.ok a) s) :
    Emits allow P (pure a : Program σ ε α) Q :=
  fun _ _ => Triple.pure a fun s hs => ⟨hs.1, h s hs.2⟩

protected theorem Emits.fail (h : ∀ s, P s → Q (.error (.failed error)) s) :
    Emits allow P (fail error : Program σ ε α) Q :=
  fun _ _ => Triple.fail fun s hs => ⟨hs.1, h s hs.2⟩

protected theorem Emits.look (h : ∀ s, P s → Q (.ok (f s)) s) : Emits allow P (look f) Q :=
  fun _ _ w hw => ⟨hw.1, h w.state hw.2⟩

theorem triple_look (h : ∀ s, P s → Q (.ok (f s)) s) : Triple P (look f) Q :=
  fun w hw => h w.state hw

theorem triple_returning_bind {f : α → Program σ ε β} {R : β → σ → Prop}
    (hf : ∀ a, Triple (fun _ => True) (f a) (Returning R)) :
    Triple (fun _ => True) (p >>= f) (Returning R) :=
  Triple.bind (R := fun _ _ => True) (fun _ _ => trivial) hf fun _ _ _ => trivial

protected theorem Emits.query
    (hdone : ∀ s, P s → Q (.ok (f s)) s) (hfailed : ∀ s, P s → Q (.error (.failed error)) s)
    (hdied : ∀ s, P s → Q (.error .died) s) : Emits allow P (query error f) Q :=
  fun _ _ => Triple.query (fun s hs => ⟨hs.1, hdone s hs.2⟩) (fun s hs => ⟨hs.1, hfailed s hs.2⟩)
    fun s hs => ⟨hs.1, hdied s hs.2⟩

protected theorem Emits.perform {Q : Except (Stop ε) Unit → σ → Prop} (hallow : ∀ s, P s → allow event s)
    (hdone : ∀ s, P s → Q (.ok ()) (apply event s))
    (hfailed : ∀ s, P s → Q (.error (.failed error)) s)
    (hlost : ∀ s, P s → Q (.error (.failed error)) (apply event s))
    (hdied : ∀ s, P s → Q (.error .died) s) :
    Emits allow P (perform error event) Q := by
  intro I hI
  refine Triple.call ?_ (fun s hs => ⟨hs.1, hfailed s hs.2⟩) ?_ fun s hs => ⟨hs.1, hdied s hs.2⟩
  · rintro s t ⟨hs, hP⟩ ⟨⟩
    exact ⟨hI event s (hallow s hP) hs, hdone s hP⟩
  · rintro s t ⟨hs, hP⟩ ⟨⟩
    exact ⟨hI event s (hallow s hP) hs, hlost s hP⟩

theorem Emits.bind {f : α → Program σ ε β} {Q : Except (Stop ε) β → σ → Prop}
    (hp : Emits allow P p R) (hf : ∀ a, Emits allow (R (.ok a)) (f a) Q)
    (hstop : ∀ stop s, R (.error stop) s → Q (.error stop) s) : Emits allow P (p >>= f) Q :=
  fun I hI => (hp I hI).bind (fun a => hf a I hI) fun stop s hs => ⟨hs.1, hstop stop s hs.2⟩

theorem Emits.attempt {Q : Except (Stop ε) (Except ε α) → σ → Prop} (h : Emits allow P p R)
    (hok : ∀ a s, R (.ok a) s → Q (.ok (.ok a)) s)
    (hfailed : ∀ error s, R (.error (.failed error)) s → Q (.ok (.error error)) s)
    (hdied : ∀ s, R (.error .died) s → Q (.error .died) s) : Emits allow P (attempt p) Q :=
  fun I hI => (h I hI).attempt (fun a s hs => ⟨hs.1, hok a s hs.2⟩)
    (fun error s hs => ⟨hs.1, hfailed error s hs.2⟩) fun s hs => ⟨hs.1, hdied s hs.2⟩

protected theorem Emits.ite [Decidable c] (hp : c → Emits allow P p Q)
    (hq : ¬c → Emits allow P q Q) : Emits allow P (if c then p else q) Q := by
  split
  · exact hp ‹_›
  · exact hq ‹_›

theorem Emits.keeping {J : σ → Prop} (h : Emits narrow P p Q)
    (hwider : ∀ event s, narrow event s → allow event s) (hJ : Closed narrow J) :
    Emits allow (fun s => P s ∧ J s) p fun r s => Q r s ∧ J s := by
  intro I hI
  have hboth : Closed narrow fun s => I s ∧ J s := fun event s hevent hs =>
    ⟨hI event s (hwider event s hevent) hs.1, hJ event s hevent hs.2⟩
  exact (h _ hboth).weaken (fun s hs => ⟨⟨hs.1, hs.2.2⟩, hs.2.1⟩)
    fun r s hs => ⟨hs.1.1, hs.2, hs.1.2⟩

theorem Emits.mono (h : Emits narrow P p Q)
    (hwider : ∀ event s, narrow event s → allow event s) : Emits allow P p Q :=
  fun I hI => h I fun event s hevent => hI event s (hwider event s hevent)

end Rules

/-- The program performs permitted events only and keeps `P`, whatever it
returns. -/
abbrev Keeps (p : Program σ ε α) : Prop :=
  Emits allow P p fun _ => P

section Keeping

variable {allow : η → σ → Prop} {P : σ → Prop} {error : ε} {event : η}

protected theorem Keeps.pure (a : α) : Keeps allow P (pure a : Program σ ε α) :=
  Emits.pure a fun _ hs => hs

protected theorem Keeps.fail : Keeps allow P (fail error : Program σ ε α) := Emits.fail fun _ hs => hs

protected theorem Keeps.look : Keeps allow P (look f : Program σ ε α) :=
  Emits.look fun _ hs => hs

protected theorem Keeps.query : Keeps allow P (query error f) :=
  Emits.query (fun _ hs => hs) (fun _ hs => hs) fun _ hs => hs

def Accepts (allow : η → σ → Prop) (P : σ → Prop) (event : η) : Prop :=
  ∀ s, P s → allow event s ∧ P (apply event s)

protected theorem Keeps.perform (h : Accepts allow P event) :
    Keeps allow P (perform error event) :=
  Emits.perform (fun s hs => (h s hs).1) (fun s hs => (h s hs).2) (fun _ hs => hs)
    (fun s hs => (h s hs).2) fun _ hs => hs

theorem Keeps.bind {f : α → Program σ ε β} (hp : Keeps allow P p)
    (hf : ∀ a, Keeps allow P (f a)) : Keeps allow P (p >>= f) :=
  Emits.bind hp hf fun _ _ hs => hs

theorem Keeps.attempt (h : Keeps allow P p) : Keeps allow P (attempt p) :=
  Emits.attempt h (fun _ _ hs => hs) (fun _ _ hs => hs) fun _ hs => hs

theorem Keeps.ignore (h : Keeps allow P p) : Keeps allow P (ignore p) :=
  h.attempt.bind fun _ => Keeps.pure ()

protected theorem Keeps.ite [Decidable c] (hp : c → Keeps allow P p)
    (hq : ¬c → Keeps allow P q) : Keeps allow P (if c then p else q) :=
  Emits.ite hp hq

theorem Keeps.when [Decidable c] {p : Program σ ε Unit} (h : Keeps allow P p) :
    Keeps allow P (Program.when c p) :=
  Keeps.ite (fun _ => h) fun _ => Keeps.pure ()

end Keeping

/-- The program performs permitted events only and ends in `R` if it returns. -/
abbrev Returns (p : Program σ ε α) (R : α → σ → Prop) : Prop :=
  Emits allow P p (Returning R)

/-- The program performs permitted events only and keeps `P` if it returns. -/
abbrev Proceeds (p : Program σ ε α) : Prop :=
  Returns allow P p fun _ => P

section Returning

variable {allow : η → σ → Prop} {P : σ → Prop} {error : ε} {event : η}
  {R : α → σ → Prop}

theorem Returns.weaken {P' : σ → Prop} {R' : α → σ → Prop} (h : Returns allow P p R)
    (hP : ∀ s, P' s → P s) (hR : ∀ a s, R a s → R' a s) : Returns allow P' p R' := by
  refine Emits.weaken h hP ?_
  rintro (stop | a) s hs
  · trivial
  · exact hR a s hs

theorem Keeps.proceeds (h : Keeps allow P p) : Proceeds allow P p := by
  refine Emits.weaken h (fun _ hs => hs) ?_
  rintro (stop | a) s hs
  · trivial
  · exact hs

protected theorem Returns.fail : Returns allow P (fail error : Program σ ε α) R :=
  Emits.fail fun _ _ => trivial

protected theorem Returns.query (h : ∀ s, P s → R (f s) s) : Returns allow P (query error f) R :=
  Emits.query h (fun _ _ => trivial) fun _ _ => trivial

protected theorem Returns.perform {R : Unit → σ → Prop} (hallow : ∀ s, P s → allow event s)
    (hdone : ∀ s, P s → R () (apply event s)) :
    Returns allow P (perform error event) R :=
  Emits.perform hallow hdone (fun _ _ => trivial) (fun _ _ => trivial) fun _ _ => trivial

theorem Returns.bind {f : α → Program σ ε β} {R' : β → σ → Prop} (hp : Returns allow P p R)
    (hf : ∀ a, Returns allow (R a) (f a) R') : Returns allow P (p >>= f) R' :=
  Emits.bind hp hf fun _ _ _ => trivial

theorem Proceeds.when [Decidable c] {p : Program σ ε Unit}
    (h : Proceeds allow P p) : Proceeds allow P (Program.when c p) :=
  Emits.ite (fun _ => h) fun _ => Emits.pure _ fun _ hs => hs

end Returning

theorem Emits.after {allow : η → σ → Prop} {P I : σ → Prop}
    (h : Emits allow P p Q)
    (hI : Closed allow I) {s : σ} (hs : I s) (hP : P s) (outcomes : List Outcome) :
    I (p.after outcomes s) ∧ Q (p.result outcomes s) (p.after outcomes s) :=
  h I hI { state := s, outcomes := outcomes } ⟨hs, hP⟩

end PillarCsi.EffectPrograms
