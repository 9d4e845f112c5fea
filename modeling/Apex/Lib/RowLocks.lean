import Apex.Lib.KeyMap

/-!
A table whose rows are changed under row locks.

A transaction acquires the lock of one row, runs its statement on the row as it
is committed, and commits what the statement came to, or rolls it back. Readers
take no lock and see committed rows. Between the statement and the commit the
clock moves on and other rows change, but the row itself does not: what a
statement came to is still what it comes to on the committed row (`Current`). So
an argument about a commit needs nothing but the statement.
-/

namespace Apex.RowLocks

open KeyMap

/-- A transaction that holds the lock of a row. -/
structure Hold (ω χ : Type) where
  request : ω
  /-- What the statement came to, once it has run. -/
  change : Option χ
  deriving DecidableEq

structure LockedTable (κ ρ ω χ : Type) where
  rows : KeyMap κ ρ
  held : KeyMap κ (Hold ω χ)

namespace LockedTable

variable {κ ρ ω χ : Type}

def empty : LockedTable κ ρ ω χ := ⟨∅, ∅⟩

variable [DecidableEq κ] (table : LockedTable κ ρ ω χ) (key : κ)

/-- The lock of a row, where it is free. -/
def acquire (request : ω) : LockedTable κ ρ ω χ :=
  if key ∈ table.held then table
  else { table with held := AList.insert key ⟨request, none⟩ table.held }

/-- The transaction ends without a change. -/
def release : LockedTable κ ρ ω χ :=
  { table with held := AList.erase key table.held }

/-- The statement of the transaction that holds the lock; one that fails ends the
transaction. -/
def execute (statement : ω → Option ρ → Option χ) : LockedTable κ ρ ω χ :=
  match table.held.lookup key with
  | some ⟨request, none⟩ =>
      match statement request (table.rows.lookup key) with
      | some change => { table with held := AList.insert key ⟨request, some change⟩ table.held }
      | none => table.release key
  | _ => table

/-- What the transaction that holds the lock is to commit. -/
def pending : Option (ω × χ) :=
  (table.held.lookup key).bind fun hold => hold.change.map fun change => (hold.request, change)

/-- The row becomes visible, and its lock is free again. -/
def publish (row : Option ρ) : LockedTable κ ρ ω χ where
  rows := row.elim (AList.erase key table.rows) fun row => AList.insert key row table.rows
  held := AList.erase key table.held

@[simp] theorem rows_acquire (request : ω) : (table.acquire key request).rows = table.rows := by
  unfold acquire
  split <;> rfl

@[simp] theorem rows_release : (table.release key).rows = table.rows := rfl

@[simp] theorem rows_execute (statement : ω → Option ρ → Option χ) :
    (table.execute key statement).rows = table.rows := by
  unfold execute
  split
  · split <;> rfl
  · rfl

theorem lookup_publish (row : Option ρ) (other : κ) :
    (table.publish key row).rows.lookup other =
      if other = key then row else table.rows.lookup other := by
  cases row with
  | none => exact lookup_erase_eq table.rows key other
  | some row => exact lookup_insert_eq table.rows key other row

theorem pending_release (other : κ) :
    (table.release key).pending other = if other = key then none else table.pending other := by
  rw [pending, release, lookup_erase_eq]
  split
  · rfl
  · rfl

theorem pending_publish (row : Option ρ) (other : κ) :
    (table.publish key row).pending other = if other = key then none else table.pending other :=
  table.pending_release key other

theorem pending_acquire (request : ω) (other : κ) :
    (table.acquire key request).pending other = table.pending other := by
  unfold acquire
  split
  · rfl
  · next free =>
      rw [pending, lookup_insert_eq, pending]
      split
      · next same =>
          rw [same, AList.lookup_eq_none.mpr free]
          rfl
      · rfl

/-- A statement leaves what was pending, and adds what it comes to. -/
theorem pending_execute {statement : ω → Option ρ → Option χ} {other : κ} {request : ω}
    {change : χ}
    (found : (table.execute key statement).pending other = some (request, change)) :
    table.pending other = some (request, change) ∨
      other = key ∧ statement request (table.rows.lookup key) = some change := by
  unfold execute at found
  split at found
  · next asked held =>
      split at found
      · next changed ran =>
          rw [pending, lookup_insert_eq] at found
          split_ifs at found with same
          · cases found
            exact .inr ⟨same, ran⟩
          · exact .inl found
      · rw [pending_release] at found
        split_ifs at found
        exact .inl found
  · exact .inl found

/-- Everything pending is what its statement comes to on the committed row. -/
def Current (comes : ω → Option ρ → χ → Prop) : Prop :=
  ∀ key request change, table.pending key = some (request, change) →
    comes request (table.rows.lookup key) change

variable {table key} {comes : ω → Option ρ → χ → Prop}

theorem current_empty : (empty : LockedTable κ ρ ω χ).Current comes := by
  intro key request change found
  rw [pending, empty, AList.lookup_empty] at found
  cases found

theorem Current.acquire (current : table.Current comes) (request : ω) :
    (table.acquire key request).Current comes := by
  intro other asked change found
  rw [pending_acquire] at found
  rw [rows_acquire]
  exact current other asked change found

theorem Current.release (current : table.Current comes) : (table.release key).Current comes := by
  intro other asked change found
  rw [pending_release] at found
  split_ifs at found
  exact current other asked change found

theorem Current.execute (current : table.Current comes) {statement : ω → Option ρ → Option χ}
    (sound : ∀ request row change, statement request row = some change → comes request row change) :
    (table.execute key statement).Current comes := by
  intro other asked change found
  rw [rows_execute]
  rcases table.pending_execute key found with before | ⟨rfl, ran⟩
  · exact current other asked change before
  · exact sound asked _ change ran

theorem Current.publish (current : table.Current comes) (row : Option ρ) :
    (table.publish key row).Current comes := by
  intro other asked change found
  rw [pending_publish] at found
  split_ifs at found with same
  rw [lookup_publish, if_neg same]
  exact current other asked change found

end LockedTable

end Apex.RowLocks
