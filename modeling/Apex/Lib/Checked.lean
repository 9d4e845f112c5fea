import Mathlib

/-!
Fallible computations and the check lists validators are made of.

A validator is a chain of checks in `Except`, each of which either passes or
stops the chain with its own error. The lemmas turn "the chain succeeded" into
the conjunction of what its checks say, one check at a time, so that no later
proof unfolds a validator.
-/

namespace Apex.Checked

open List

variable {ε κ : Type*} {α β : Type} {x : Except ε α} {f : α → Except ε β}
  {xs : List α} {a : α} {e : ε}

/-- Passes when `passed` holds and stops with `e` otherwise. -/
def ensure (passed : Bool) (e : ε) : Except ε Unit :=
  if passed then .ok () else .error e

/-- The value that was found, or the error `e`. -/
def require (found : Option α) (e : ε) : Except ε α :=
  match found with
  | some a => .ok a
  | none => .error e

@[simp] theorem ensure_eq_ok {passed u} :
    ensure passed e = .ok u ↔ passed = true := by
  cases passed <;> simp [ensure]

@[simp] theorem require_eq_ok {found} :
    require found e = .ok a ↔ found = some a := by
  cases found <;> simp [require]

theorem ensure_eq_error {passed e'} :
    ensure passed e = .error e' ↔ passed = false ∧ e = e' := by
  cases passed <;> simp [ensure]

theorem require_eq_error {found : Option α} {e'} :
    require found e = .error e' ↔ found = none ∧ e = e' := by
  cases found <;> simp [require]

@[simp] theorem ensure_true : ensure true e = .ok () := rfl

@[simp] theorem require_some : require (some a) e = .ok a := rfl

@[simp] theorem ok_bind : (Except.ok a >>= f) = f a := rfl

/-- A chain succeeds exactly when its first part does and the rest succeeds on
what that part returned. -/
theorem bind_eq_ok {b : β} :
    (x >>= f) = .ok b ↔ ∃ a, x = .ok a ∧ f a = .ok b := by
  cases x with
  | error | ok => simp [bind, Except.bind]

/-- A chain fails with the error of its first part, or of the rest. -/
theorem bind_eq_error :
    (x >>= f) = .error e ↔ x = .error e ∨ ∃ a, x = .ok a ∧ f a = .error e := by
  cases x with
  | error | ok => simp [bind, Except.bind]

theorem pure_eq_ok {b : α} : (pure a : Except ε α) = .ok b ↔ a = b := by
  simp [pure, Except.pure]

theorem map_eq_ok {f : α → β} {b : β} :
    x.map f = .ok b ↔ ∃ a, x = .ok a ∧ f a = b := by
  cases x <;> simp [Except.map]

theorem mapError_eq_ok {ε' : Type*} {f : ε → ε'} :
    x.mapError f = .ok a ↔ x = .ok a := by
  cases x <;> simp [Except.mapError]

theorem mapError_eq_error {ε' : Type*} {f : ε → ε'} {e} :
    x.mapError f = .error e ↔ ∃ e', x = .error e' ∧ f e' = e := by
  cases x <;> simp [Except.mapError]

/-- What is written item by item is read back. -/
theorem mapM_map_some {write : α → β} {read : β → Option α}
    (readBack : ∀ a, read (write a) = some a) (xs : List α) :
    (xs.map write).mapM read = some xs := by
  induction xs with
  | nil => rfl
  | cons a rest ih => simp [readBack, ih]

/-- A check run over every element of a list. -/
theorem forM_eq_ok {check : α → Except ε Unit} {u : Unit} :
    forM xs check = .ok u ↔ ∀ a ∈ xs, check a = .ok () := by
  induction xs with
  | nil => simp [pure, Except.pure]
  | cons a rest ih =>
    rw [forM_cons, bind_eq_ok]
    simp only [ih, forall_mem_cons]
    exact ⟨fun ⟨_, first, others⟩ => ⟨first, others⟩, fun ⟨first, others⟩ => ⟨(), first, others⟩⟩

/-- A check run over every element fails as one of its elements does. -/
theorem forM_eq_error {check : α → Except ε Unit} (failed : forM xs check = .error e) :
    ∃ a ∈ xs, check a = .error e := by
  induction xs with
  | nil => cases failed
  | cons a rest ih =>
    rw [forM_cons, bind_eq_error] at failed
    rcases failed with here | ⟨_, -, later⟩
    · exact ⟨a, mem_cons_self, here⟩
    · obtain ⟨b, mem, fails⟩ := ih later
      exact ⟨b, mem_cons_of_mem a mem, fails⟩

/-- A check run over every element that also stops, with `e`, at the first
element whose key was seen before. -/
def distinctEach [DecidableEq κ] (key : α → κ) (check : α → Except ε Unit) (e : ε) :
    List κ → List α → Except ε Unit
  | _, [] => .ok ()
  | seen, a :: rest => do
      check a
      ensure (decide (key a ∉ seen)) e
      distinctEach key check e (key a :: seen) rest

section DistinctEach

variable [DecidableEq κ] {key : α → κ} {check : α → Except ε Unit} {e : ε}

theorem check_of_distinctEach {seen u} (passed : distinctEach key check e seen xs = .ok u) :
    ∀ a ∈ xs, check a = .ok () := by
  induction xs generalizing seen with
  | nil => simp
  | cons a rest ih =>
    simp only [distinctEach, bind_eq_ok] at passed
    obtain ⟨_, here, _, -, later⟩ := passed
    exact forall_mem_cons.mpr ⟨here, ih later⟩

theorem distinctEach_eq_error {seen e'} (failed : distinctEach key check e seen xs = .error e') :
    e = e' ∨ ∃ a ∈ xs, check a = .error e' := by
  induction xs generalizing seen with
  | nil => cases failed
  | cons a rest ih =>
    simp only [distinctEach, bind_eq_error, ensure_eq_error] at failed
    rcases failed with here | ⟨_, -, ⟨-, repeated⟩ | ⟨_, -, later⟩⟩
    · exact .inr ⟨a, mem_cons_self, here⟩
    · exact .inl repeated
    · rcases ih later with repeated | ⟨b, mem, fails⟩
      · exact .inl repeated
      · exact .inr ⟨b, mem_cons_of_mem a mem, fails⟩

end DistinctEach

end Apex.Checked
