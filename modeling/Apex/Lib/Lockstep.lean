import Mathlib

/-!
Machines that answer requests, and when two of them cannot be told apart.

A machine takes a request and gives an answer and its next state. Two machines
whose states are related by a bisimulation give the same answers to every list
of requests (`answers_eq`).
-/

namespace Apex.Lockstep

variable {σ τ ρ ω : Type*}

/-- The answers to a list of requests. -/
def answers (serve : σ → ρ → ω × σ) : σ → List ρ → List ω
  | _, [] => []
  | s, request :: later => (serve s request).1 :: answers serve (serve s request).2 later

/-- A relation between the states of two machines that every request keeps, with
the same answer on both sides. -/
def IsBisimulation (serve : σ → ρ → ω × σ) (serve' : τ → ρ → ω × τ) (R : σ → τ → Prop) : Prop :=
  ∀ s t request, R s t →
    (serve s request).1 = (serve' t request).1 ∧ R (serve s request).2 (serve' t request).2

/-- Related states give the same answers. -/
theorem IsBisimulation.answers_eq {serve : σ → ρ → ω × σ} {serve' : τ → ρ → ω × τ}
    {R : σ → τ → Prop} (bisimulation : IsBisimulation serve serve' R) {s : σ} {t : τ}
    (related : R s t) (requests : List ρ) :
    answers serve s requests = answers serve' t requests := by
  induction requests generalizing s t with
  | nil => rfl
  | cons request later ih =>
    obtain ⟨same, next⟩ := bisimulation s t request related
    rw [answers, answers, same, ih next]

end Apex.Lockstep
