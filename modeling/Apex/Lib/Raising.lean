import Mathlib

/-!
Computations over a state that may raise, where a raise keeps the updates made
before it.

That is how mutation and exceptions meet in Python: an object changed before an
exception stays changed. `Meets P m Q E` is the triple of such a computation:
started in a state of `P` it ends in a state of `Q` with its answer, or raises
in a state of `E`. The rules take a triple apart along the computation; the one
for loops (`Meets.forEach`) asks for an invariant of the body.
-/

namespace Apex

/-- A computation over the state `σ` that answers with `α` or raises `ε`. -/
def Raising (σ ε α : Type) : Type :=
  σ → σ × Except ε α

namespace Raising

variable {σ ε α β : Type}

instance : Monad (Raising σ ε) where
  pure a := fun s => (s, .ok a)
  bind m next := fun s =>
    match m s with
    | (s', .ok a) => next a s'
    | (s', .error e) => (s', .error e)

/-- The state as it stands. -/
def read : Raising σ ε σ :=
  fun s => (s, .ok s)

def modify (f : σ → σ) : Raising σ ε Unit :=
  fun s => (f s, .ok ())

def raise (e : ε) : Raising σ ε α :=
  fun s => (s, .error e)

/-- The answer of a pure computation, or its error raised. -/
def ofExcept (x : Except ε α) : Raising σ ε α :=
  fun s => (s, x)

/-- `try … except`: the handler starts in the state the raise left behind. -/
def attempt (m : Raising σ ε α) (handler : ε → Raising σ ε α) : Raising σ ε α :=
  fun s =>
    match m s with
    | (s', .ok a) => (s', .ok a)
    | (s', .error e) => handler e s'

/-- `for a in xs: body a`. -/
def forEach (body : α → Raising σ ε Unit) : List α → Raising σ ε Unit
  | [] => pure ()
  | a :: rest => do
      body a
      forEach body rest

/-- `[b for b in (f a for a in xs) if b is not None]`. -/
def collect (f : α → Raising σ ε (Option β)) : List α → Raising σ ε (List β)
  | [] => pure []
  | a :: rest => do
      let first ← f a
      let later ← collect f rest
      pure (first.toList ++ later)

/-! ### Running a computation -/

@[simp] theorem pure_run (a : α) (s : σ) : (pure a : Raising σ ε α) s = (s, .ok a) := rfl

@[simp] theorem ofExcept_run (x : Except ε α) (s : σ) : ofExcept x s = (s, x) := rfl

@[simp] theorem modify_run (f : σ → σ) (s : σ) : (modify f : Raising σ ε Unit) s = (f s, .ok ()) :=
  rfl

@[simp] theorem read_bind_run (next : σ → Raising σ ε β) (s : σ) :
    (read >>= next) s = next s s := rfl

@[simp] theorem modify_bind_run (f : σ → σ) (next : Unit → Raising σ ε β) (s : σ) :
    (modify f >>= next) s = next () (f s) := rfl

@[simp] theorem ok_bind_run (a : α) (next : α → Raising σ ε β) (s : σ) :
    (ofExcept (.ok a) >>= next) s = next a s := rfl

@[simp] theorem error_bind_run (e : ε) (next : α → Raising σ ε β) (s : σ) :
    (ofExcept (.error e) >>= next) s = (s, .error e) := rfl

/-! ### Triples -/

/-- Started in a state of `P`, the computation ends in a state of `Q` with its
answer or raises in a state of `E`. -/
def Meets (P : σ → Prop) (m : Raising σ ε α) (Q : α → σ → Prop) (E : σ → Prop) : Prop :=
  ∀ s, P s → (∀ s' a, m s = (s', .ok a) → Q a s') ∧ (∀ s' e, m s = (s', .error e) → E s')

variable {P P' E E' : σ → Prop} {Q Q' : α → σ → Prop} {m : Raising σ ε α}

/-- A triple speaks of the one way a run ends. -/
theorem meets_iff :
    Meets P m Q E ↔ ∀ s, P s →
      match m s with
      | (s', .ok a) => Q a s'
      | (s', .error _) => E s' := by
  refine forall₂_congr fun s _ => ?_
  rcases m s with ⟨s', e | a⟩ <;> simp [Prod.ext_iff]

theorem Meets.mono (meets : Meets P m Q E) (stronger : ∀ s, P' s → P s)
    (weaker : ∀ a s, Q a s → Q' a s) (raises : ∀ s, E s → E' s) : Meets P' m Q' E' := by
  intro s start
  obtain ⟨answers, faults⟩ := meets s (stronger s start)
  exact ⟨fun s' a ran => weaker a s' (answers s' a ran),
    fun s' e ran => raises s' (faults s' e ran)⟩

theorem Meets.pre (meets : Meets P m Q E) (stronger : ∀ s, P' s → P s) : Meets P' m Q E :=
  meets.mono stronger (fun _ _ holds => holds) fun _ holds => holds

theorem Meets.post (meets : Meets P m Q E) (weaker : ∀ a s, Q a s → Q' a s) : Meets P m Q' E :=
  meets.mono (fun _ holds => holds) weaker fun _ holds => holds

theorem Meets.raises (meets : Meets P m Q E) (raises : ∀ s, E s → E' s) : Meets P m Q E' :=
  meets.mono (fun _ holds => holds) (fun _ _ holds => holds) raises

/-- A fact about the state before that the triple is stated under. -/
theorem Meets.assume {fact : Prop} (known : ∀ s, P s → fact) (meets : fact → Meets P m Q E) :
    Meets P m Q E :=
  fun s start => meets (known s start) s start

theorem Meets.pure {a : α} (holds : ∀ s, P s → Q a s) :
    Meets P (Pure.pure a : Raising σ ε α) Q E :=
  meets_iff.mpr holds

theorem Meets.raise {e : ε} (holds : ∀ s, P s → E s) :
    Meets P (Raising.raise e : Raising σ ε α) Q E :=
  meets_iff.mpr holds

theorem Meets.read {Q : σ → σ → Prop} (holds : ∀ s, P s → Q s s) :
    Meets P (Raising.read : Raising σ ε σ) Q E :=
  meets_iff.mpr holds

theorem Meets.modify {f : σ → σ} {Q : Unit → σ → Prop} (holds : ∀ s, P s → Q () (f s)) :
    Meets P (Raising.modify f : Raising σ ε Unit) Q E :=
  meets_iff.mpr holds

theorem Meets.ofExcept {x : Except ε α} (answers : ∀ a s, x = .ok a → P s → Q a s)
    (faults : ∀ e s, x = .error e → P s → E s) : Meets P (Raising.ofExcept x) Q E := by
  refine meets_iff.mpr fun s start => ?_
  cases x with
  | ok a => exact answers a s rfl start
  | error e => exact faults e s rfl start

theorem Meets.bind {R : β → σ → Prop} {next : α → Raising σ ε β} (first : Meets P m Q E)
    (later : ∀ a, Meets (Q a) (next a) R E) : Meets P (m >>= next) R E := by
  refine meets_iff.mpr fun s start => ?_
  have ended := meets_iff.mp first s start
  simp only [Bind.bind]
  rcases ran : m s with ⟨s₁, e | a⟩ <;> rw [ran] at ended
  · exact ended
  · exact meets_iff.mp (later a) s₁ ended

/-- A read whose answer is known by what holds before it. -/
theorem Meets.readBind {known : σ → Prop} {next : σ → Raising σ ε α} (holds : ∀ s, P s → known s)
    (later : ∀ seen, known seen → Meets P (next seen) Q E) :
    Meets P (Raising.read >>= next) Q E :=
  fun s start => later s (holds s start) s start

/-- The state a computation leaves behind, answer or raise. -/
theorem Meets.ends (meets : Meets P m (fun _ => E) E) {s : σ} (start : P s) : E (m s).1 := by
  have ended := meets_iff.mp meets s start
  rcases ran : m s with ⟨s₁, e | a⟩ <;> rw [ran] at ended <;> exact ended

theorem Meets.ite {c : Prop} [Decidable c] {m' : Raising σ ε α}
    (yes : c → Meets P m Q E) (no : ¬ c → Meets P m' Q E) :
    Meets P (if c then m else m') Q E := by
  split
  · exact yes ‹_›
  · exact no ‹_›

theorem Meets.attempt {F : σ → Prop} {handler : ε → Raising σ ε α} (body : Meets P m Q F)
    (handled : ∀ e, Meets F (handler e) Q E) : Meets P (Raising.attempt m handler) Q E := by
  refine meets_iff.mpr fun s start => ?_
  have ended := meets_iff.mp body s start
  simp only [Raising.attempt]
  rcases ran : m s with ⟨s₁, e | a⟩ <;> rw [ran] at ended
  · exact meets_iff.mp (handled e) s₁ ended
  · exact ended

theorem Meets.forEach {body : α → Raising σ ε Unit} {xs : List α}
    (each : ∀ a ∈ xs, Meets P (body a) (fun _ => P) E) :
    Meets P (Raising.forEach body xs) (fun _ => P) E := by
  induction xs with
  | nil => exact .pure fun _ start => start
  | cons a rest ih =>
    obtain ⟨first, later⟩ := List.forall_mem_cons.mp each
    exact .bind first fun _ => ih later

theorem Meets.collect {f : α → Raising σ ε (Option β)} {xs : List α}
    (each : ∀ a ∈ xs, Meets P (f a) (fun _ => P) E) :
    Meets P (Raising.collect f xs) (fun _ => P) E := by
  induction xs with
  | nil => exact .pure fun _ start => start
  | cons a rest ih =>
    obtain ⟨first, later⟩ := List.forall_mem_cons.mp each
    refine .bind first fun _ => .bind (ih later) fun _ => .pure fun _ start => start

/-- What a body keeps, whether it answers or raises, its loop keeps. -/
theorem forEach_keeps {body : α → Raising σ ε Unit} (each : ∀ a s, P s → P (body a s).1)
    (xs : List α) {s : σ} (start : P s) : P (forEach body xs s).1 := by
  have meets (a : α) : Meets P (body a) (fun _ => P) P := by
    intro s start
    have first := each a s start
    constructor
    · rintro _ _ ran
      rwa [ran] at first
    · rintro _ _ ran
      rwa [ran] at first
  exact (Meets.forEach fun a _ => meets a).ends start

end Raising

end Apex
