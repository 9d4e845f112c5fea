import Mathlib

/-!
Runs of a deterministic step function over a list of actions.

Everything a run could choose (a clock reading, the outcome of a write, the
order in which a table is scanned) is part of the action, so one list of
actions fixes one run. The rules below carry a fact from one step to every
state of a run: an invariant under a condition on the steps
(`always_of_allSteps`), a fact about the steps themselves
(`allSteps_of_allSteps`), the exact form where a step outside the condition
breaks the fact at once (`always_iff_allSteps`), and facts that must stay true
once they hold (`stable_iff_allSteps`).
-/

namespace Apex.Runs

open List

variable {σ α : Type*} {step : σ → α → σ} {ok : σ → α → Prop} {P Inv : σ → Prop}

/-- The state a run ends in. -/
def run (step : σ → α → σ) (s : σ) (actions : List α) : σ :=
  actions.foldl step s

@[simp] theorem run_nil (s : σ) : run step s [] = s := rfl

@[simp] theorem run_cons (s : σ) (a : α) (rest : List α) :
    run step s (a :: rest) = run step (step s a) rest := rfl

@[simp] theorem run_append (s : σ) (before after : List α) :
    run step s (before ++ after) = run step (run step s before) after :=
  foldl_append

/-- Every action of the run meets `ok` in the state it is taken from. -/
def AllSteps (step : σ → α → σ) (ok : σ → α → Prop) : σ → List α → Prop
  | _, [] => True
  | s, a :: rest => ok s a ∧ AllSteps step ok (step s a) rest

instance instDecidableAllSteps [∀ s a, Decidable (ok s a)] : ∀ (s : σ) (actions : List α),
    Decidable (AllSteps step ok s actions)
  | _, [] => .isTrue trivial
  | s, a :: rest =>
    have := instDecidableAllSteps (step s a) rest
    inferInstanceAs (Decidable (_ ∧ _))

theorem allSteps_append {s : σ} {before after} :
    AllSteps step ok s (before ++ after) ↔
      AllSteps step ok s before ∧ AllSteps step ok (run step s before) after := by
  induction before generalizing s with
  | nil => simp [AllSteps]
  | cons a rest ih => simp only [cons_append, AllSteps, ih, run_cons, and_assoc]

/-- A condition that does not look at the state. -/
theorem allSteps_of_forall {P : α → Prop} {s : σ} {actions} (all : ∀ a ∈ actions, P a) :
    AllSteps step (fun _ a => P a) s actions := by
  induction actions generalizing s with
  | nil => trivial
  | cons a rest ih =>
    obtain ⟨first, later⟩ := forall_mem_cons.mp all
    exact ⟨first, ih later⟩

theorem AllSteps.mono {ok' : σ → α → Prop} {s : σ} {actions} (weaken : ∀ s a, ok s a → ok' s a)
    (steps : AllSteps step ok s actions) :
    AllSteps step ok' s actions := by
  induction actions generalizing s with
  | nil => trivial
  | cons a rest ih => exact ⟨weaken s a steps.1, ih steps.2⟩

theorem AllSteps.and {ok' : σ → α → Prop} {s : σ} {actions} (steps : AllSteps step ok s actions)
    (steps' : AllSteps step ok' s actions) :
    AllSteps step (fun s a => ok s a ∧ ok' s a) s actions := by
  induction actions generalizing s with
  | nil => trivial
  | cons a rest ih => exact ⟨⟨steps.1, steps'.1⟩, ih steps.2 steps'.2⟩

theorem AllSteps.last {s : σ} {before} {a : α} (steps : AllSteps step ok s (before ++ [a])) :
    ok (run step s before) a :=
  (allSteps_append.mp steps).2.1

/-- `P` holds in every state the run passes through, the first and the last
included. -/
def Always (step : σ → α → σ) (P : σ → Prop) (s : σ) (actions : List α) : Prop :=
  ∀ before after, actions = before ++ after → P (run step s before)

theorem always_cons {s : σ} {a : α} {rest} :
    Always step P s (a :: rest) ↔ P s ∧ Always step P (step s a) rest := by
  constructor
  · intro always
    refine ⟨always [] _ rfl, fun before after split => ?_⟩
    exact always (a :: before) after (by rw [split, cons_append])
  · rintro ⟨here, later⟩ before after split
    cases before with
    | nil => exact here
    | cons b before =>
      obtain ⟨rfl, rest_eq⟩ := List.cons.inj split
      exact later before after rest_eq

theorem always_nil {s : σ} : Always step P s [] ↔ P s := by
  constructor
  · intro always
    exact always [] [] rfl
  · intro here before after split
    obtain ⟨rfl, -⟩ := append_eq_nil_iff.mp split.symm
    exact here

instance instDecidableAlways [DecidablePred P] : ∀ (s : σ) (actions : List α),
    Decidable (Always step P s actions)
  | _, [] => decidable_of_iff _ always_nil.symm
  | s, a :: rest =>
    have := instDecidableAlways (step s a) rest
    decidable_of_iff _ always_cons.symm

theorem Always.mono {Q : σ → Prop} {s : σ} {actions} (weaken : ∀ s, P s → Q s)
    (always : Always step P s actions) : Always step Q s actions :=
  fun before after split => weaken _ (always before after split)

theorem Always.last {s : σ} {actions} (always : Always step P s actions) :
    P (run step s actions) :=
  always actions [] (append_nil _).symm

/-- A fact that holds at the start and that every step meeting `ok` keeps holds
in every state of a run whose steps all meet `ok`. -/
theorem always_of_allSteps (keep : ∀ s a, Inv s → ok s a → Inv (step s a)) {s : σ} {actions}
    (start : Inv s) (steps : AllSteps step ok s actions) :
    Always step Inv s actions := by
  induction actions generalizing s with
  | nil => exact always_nil.mpr start
  | cons a rest ih => exact always_cons.mpr ⟨start, ih (keep s a start steps.1) steps.2⟩

theorem run_of_allSteps (keep : ∀ s a, Inv s → ok s a → Inv (step s a)) {s : σ} {actions}
    (start : Inv s) (steps : AllSteps step ok s actions) : Inv (run step s actions) :=
  (always_of_allSteps keep start steps).last

/-- A fact about single steps, carried by an invariant along a run whose steps
all meet `ok`. -/
theorem allSteps_of_allSteps {Q : σ → α → Prop} (keep : ∀ s a, Inv s → ok s a → Inv (step s a))
    (conclude : ∀ s a, Inv s → ok s a → Q s a) {s : σ} {actions} (start : Inv s)
    (steps : AllSteps step ok s actions) : AllSteps step Q s actions := by
  induction actions generalizing s with
  | nil => trivial
  | cons a rest ih =>
    exact ⟨conclude s a start steps.1, ih (keep s a start steps.1) steps.2⟩

/-- The two rules for an invariant that every step keeps. -/
theorem always_of_step (keep : ∀ s a, Inv s → Inv (step s a)) {s : σ} (start : Inv s)
    (actions : List α) : Always step Inv s actions :=
  always_of_allSteps (fun s a inv _ => keep s a inv) start
    (allSteps_of_forall fun _ _ => trivial)

theorem allSteps_of_step {Q : σ → α → Prop} (keep : ∀ s a, Inv s → Inv (step s a))
    (conclude : ∀ s a, Inv s → Q s a) {s : σ} (start : Inv s) (actions : List α) :
    AllSteps step Q s actions :=
  allSteps_of_allSteps (fun s a inv _ => keep s a inv) (fun s a inv _ => conclude s a inv) start
    (allSteps_of_forall fun _ _ => trivial)

/-- Two facts about single steps that are one fact while an invariant lasts. -/
theorem allSteps_iff_allSteps {Q R : σ → α → Prop}
    (keep : ∀ s a, Inv s → ok s a → Q s a → Inv (step s a))
    (same : ∀ s a, Inv s → ok s a → (Q s a ↔ R s a)) {s : σ} {actions} (start : Inv s)
    (steps : AllSteps step ok s actions) :
    AllSteps step Q s actions ↔ AllSteps step R s actions := by
  induction actions generalizing s with
  | nil => exact Iff.rfl
  | cons a rest ih =>
    simp only [AllSteps]
    rw [same s a start steps.1]
    refine and_congr_right fun here => ih ?_ steps.2
    exact keep s a start steps.1 ((same s a start steps.1).mpr here)

/-- The exact form: where every step outside `ok` breaks `P` at once, `P` holds
along a run of `given` steps exactly when all of them meet `ok`. -/
theorem always_iff_allSteps {given : σ → α → Prop}
    (keep : ∀ s a, Inv s → given s a → ok s a → Inv (step s a)) (sound : ∀ s, Inv s → P s)
    (breaks : ∀ s a, Inv s → given s a → P (step s a) → ok s a) {s : σ} {actions} (start : Inv s)
    (steps : AllSteps step given s actions) :
    Always step P s actions ↔ AllSteps step ok s actions := by
  constructor
  · intro always
    induction actions generalizing s with
    | nil => trivial
    | cons a rest ih =>
      obtain ⟨-, later⟩ := always_cons.mp always
      have met : ok s a := breaks s a start steps.1 (later [] rest rfl)
      exact ⟨met, ih (keep s a start steps.1 met) steps.2 later⟩
  · intro met
    have both := always_of_allSteps (fun s a inv step => keep s a inv step.1 step.2) start
      (steps.and met)
    exact both.mono sound

/-- Once `P` holds in a state of the run, it holds in every later state of it. -/
def Stable (step : σ → α → σ) (P : σ → Prop) (s : σ) (actions : List α) : Prop :=
  ∀ before later rest, actions = before ++ later ++ rest →
    P (run step s before) → P (run step s (before ++ later))

/-- Stability is a matter of single steps. -/
theorem stable_iff_allSteps {s : σ} {actions} :
    Stable step P s actions ↔ AllSteps step (fun s a => P s → P (step s a)) s actions := by
  constructor
  · intro stable
    induction actions generalizing s with
    | nil => trivial
    | cons a rest ih =>
      refine ⟨stable [] [a] rest rfl, ih fun before later tail split holds => ?_⟩
      exact stable (a :: before) later tail (by simp [split]) holds
  · rintro steps before later rest rfl holds
    rw [append_assoc, allSteps_append, allSteps_append] at steps
    rw [run_append]
    exact run_of_allSteps (fun _ _ now step => step now) holds steps.2.1

end Apex.Runs
