import Apex.Lib.KeyMap
import Apex.Lib.Checked
import Apex.Lib.Raising

/-!
Tables and transactions of a database.

A table is a map from its primary key to its rows; `KeyMap.update` changes the
rows a condition selects. Statements outside a transaction take effect one by
one, so a computation of several is a `Raising` one, and `Raising.transaction`
makes its updates those of all or none.

Where the commit itself matters, a transaction reads the state
and either stops with an error, which leaves the state alone, or answers and
gives the state it commits. The commit itself can fail, before or after it took
effect; the caller sees an error in both cases.
-/

namespace Apex

open List

namespace KeyMap

variable {κ ν : Type}

/-- The first row that meets a condition, with its key: a query by columns that
are not the primary key. -/
def search (m : KeyMap κ ν) (p : κ → ν → Bool) : Option (κ × ν) :=
  m.toPairs.find? fun (key, row) => p key row

/-- The rows that meet a condition, changed: `UPDATE … SET … WHERE …`. -/
def update (m : KeyMap κ ν) (p : κ → ν → Bool) (f : ν → ν) : KeyMap κ ν :=
  ⟨m.entries.map fun entry => ⟨entry.1, if p entry.1 entry.2 then f entry.2 else entry.2⟩, by
    have same : (m.entries.map fun entry : Sigma fun _ : κ => ν =>
        (⟨entry.1, if p entry.1 entry.2 then f entry.2 else entry.2⟩ : Sigma fun _ : κ => ν)).keys =
          m.entries.keys := by
      simp [List.keys, Function.comp_def]
    rw [List.NodupKeys, same]
    exact m.nodupKeys⟩

/-- How many rows meet a condition. -/
def countRows (m : KeyMap κ ν) (p : κ → ν → Bool) : Nat :=
  m.toPairs.countP fun (key, row) => p key row

/-- An update that selects no row. -/
theorem update_eq_self {m : KeyMap κ ν} {p : κ → ν → Bool} {f : ν → ν}
    (none : ∀ entry ∈ m.entries, p entry.1 entry.2 = false) : m.update p f = m := by
  refine AList.ext ?_
  refine (map_congr_left fun entry mem => ?_).trans (map_id _)
  rw [none entry mem]
  rfl

variable [DecidableEq κ] {m : KeyMap κ ν} {p : κ → ν → Bool}

/-- Looking a key up after an update. -/
theorem lookup_update (f : ν → ν) (key : κ) :
    (m.update p f).lookup key = (m.lookup key).map fun row => if p key row then f row else row := by
  refine Option.ext fun row => ?_
  rw [mem_lookup_iff, Option.map_eq_some_iff]
  simp only [update, mem_map, Sigma.mk.injEq, mem_lookup_iff]
  constructor
  · rintro ⟨⟨k, v⟩, mem, rfl, eq⟩
    exact ⟨v, mem, eq_of_heq eq⟩
  · rintro ⟨v, mem, rfl⟩
    exact ⟨⟨key, v⟩, mem, rfl, HEq.rfl⟩

theorem mem_toPairs {key : κ} {row : ν} : (key, row) ∈ m.toPairs ↔ m.lookup key = some row :=
  (Scan.stored κ ν).mem_order m

theorem search_eq_some {key : κ} {row : ν} (found : m.search p = some (key, row)) :
    m.lookup key = some row ∧ p key row = true := by
  rw [search] at found
  have meets := List.find?_some found
  exact ⟨mem_toPairs.mp (mem_of_find?_eq_some found), meets⟩

theorem search_eq_none (none : m.search p = none) {key : κ} {row : ν}
    (found : m.lookup key = some row) : p key row = false := by
  have missed := List.find?_eq_none.mp none (key, row) (mem_toPairs.mpr found)
  simpa using missed

/-- A search whose condition meets one row only finds that row. -/
theorem search_of_unique {key : κ} {row : ν} (found : m.lookup key = some row)
    (meets : p key row = true)
    (unique : ∀ other row', m.lookup other = some row' → p other row' = true → other = key) :
    m.search p = some (key, row) := by
  cases result : m.search p with
  | none =>
    have missed := search_eq_none result found
    rw [meets] at missed
    cases missed
  | some entry =>
    obtain ⟨other, row'⟩ := entry
    obtain ⟨found', meets'⟩ := search_eq_some result
    obtain rfl := unique other row' found' meets'
    rw [Option.some.inj (found'.symm.trans found)]

theorem countRows_eq_zero :
    m.countRows p = 0 ↔ ∀ key row, m.lookup key = some row → p key row = false := by
  rw [countRows, countP_eq_zero]
  constructor
  · intro missed key row found
    simpa using missed (key, row) (mem_toPairs.mpr found)
  · rintro missed ⟨key, row⟩ mem
    simpa using missed key row (mem_toPairs.mp mem)

end KeyMap

/-- A transaction: an error undoes the updates made before it. -/
def Raising.transaction {σ ε α : Type} (m : Raising σ ε α) : Raising σ ε α :=
  fun s =>
    match m s with
    | (s', .ok a) => (s', .ok a)
    | (_, .error e) => (s, .error e)

namespace Transactions

variable {σ ε α : Type}

/-- How a commit fails. -/
inductive CommitFault where
  /-- The transaction is rolled back. -/
  | aborted
  /-- The transaction is committed, and the answer is lost. -/
  | lost
  deriving DecidableEq, Repr

/-- A transaction carried out: the answer the caller sees and the state after
it. -/
def transact (fault : Option CommitFault) (failure : ε) (body : Except ε (α × σ)) (state : σ) :
    Except ε α × σ :=
  match body, fault with
  | .error e, _ => (.error e, state)
  | .ok (answer, after), none => (.ok answer, after)
  | .ok _, some .aborted => (.error failure, state)
  | .ok (_, after), some .lost => (.error failure, after)

/-- What a transaction commits, whether or not its caller is told. -/
def committed (fault : Option CommitFault) (body : Except ε (α × σ)) : Option (α × σ) :=
  match body, fault with
  | .ok result, none | .ok result, some .lost => some result
  | _, _ => none

variable {fault : Option CommitFault} {failure : ε} {body : Except ε (α × σ)} {state : σ}

theorem committed_eq_some {result : α × σ} (is : committed fault body = some result) :
    body = .ok result := by
  unfold committed at is
  split at is
  · cases is
    rfl
  · cases is
    rfl
  · cases is

/-- The state after a transaction is the one it committed, or the one before. -/
theorem transact_state : (transact fault failure body state).2 =
    ((committed fault body).map Prod.snd).getD state := by
  unfold transact committed
  cases body with
  | error e => rfl
  | ok result =>
    cases fault with
    | none => rfl
    | some fault => cases fault <;> rfl

/-- An answer tells that the transaction was committed. -/
theorem transact_answer {answer : α} (ok : (transact fault failure body state).1 = .ok answer) :
    ∃ after, committed fault body = some (answer, after) := by
  unfold transact committed at *
  cases body with
  | error e => cases ok
  | ok result =>
    cases fault with
    | none =>
      cases ok
      exact ⟨_, rfl⟩
    | some fault => cases fault <;> cases ok

end Transactions

end Apex
