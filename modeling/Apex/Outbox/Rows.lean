import Apex.Outbox.Ledger

/-!
The state row by row.

The eight maps of a state hold one row for each key, and both a live step and a
replayed record change the row of one key only. So a state can be compared with
what its journal replays to row by row. `RowView.enter` is what a replayed record
does to a row; the live steps have a function each. They differ in one point: a
replayed record leaves the retry data of a row that it settles behind, and a live
step removes it (`RowView.tidy`). The entries of a row in the maps of events are its
holding.
-/

namespace Apex.Outbox

open Checked Domain KeyMap

/-- What a state holds under one key. -/
@[ext] structure RowView where
  pending : Option IngestRequest
  complete : Option (Option Fingerprint)
  completeEvents : Option IngestRequest
  completedAtMillis : Option UInt64
  nextAttemptAtMillis : Option UInt64
  attempts : Option UInt32
  quarantined : Option IngestRequest
  pendingSinceMillis : Option UInt64

/-- The row of a key nothing is known of. -/
def RowView.blank : RowView :=
  ⟨none, none, none, none, none, none, none, none⟩

def RowView.holding (row : RowView) : Holding :=
  ⟨row.pending, row.complete, row.completeEvents, row.quarantined⟩

def OutboxState.row (state : OutboxState) (key : OutboxKey) : RowView where
  pending := state.pending.lookup key
  complete := state.complete.lookup key
  completeEvents := state.completeEvents.lookup key
  completedAtMillis := state.completedAtMillis.lookup key
  nextAttemptAtMillis := state.nextAttemptAtMillis.lookup key
  attempts := state.attempts.lookup key
  quarantined := state.quarantined.lookup key
  pendingSinceMillis := state.pendingSinceMillis.lookup key

/-- The two states hold the same rows. -/
structure SameRowViews (a b : OutboxState) : Prop where
  capacity : a.capacity = b.capacity
  row : ∀ key, a.row key = b.row key

/-- The step changes one row, by a function of it. -/
structure ChangesRow (before after : OutboxState) (key : OutboxKey) (change : RowView → RowView) :
    Prop where
  capacity : after.capacity = before.capacity
  row : ∀ other, after.row other =
    if other = key then change (before.row key) else before.row other

/-! ### Replayed records -/

namespace RowView

/-- The fingerprint a completed record leaves in a row. -/
def fingerprintOf (codec : EnvelopeCodec) (pending : Option IngestRequest) :
    Option String → Option Fingerprint
  | some hex => parseFingerprint hex
  | none => pending.map fun event => codec.fingerprint event.envelope

/-- What a replayed record does to the row of its key. -/
def enter (codec : EnvelopeCodec) (now : UInt64) (row : RowView) : FileOutboxRecord → RowView
  | .pending _ envelope nextAttemptAtMillis attempts createdAtMillis =>
      { row with
        pending := row.pending.or (codec.rebuild envelope)
        quarantined := if row.pending.isSome then row.quarantined else none
        nextAttemptAtMillis := nextAttemptAtMillis
        attempts := attempts
        pendingSinceMillis := some (createdAtMillis.getD (row.pendingSinceMillis.getD now)) }
  | .complete _ envelopeSha256 completedAtMillis envelope =>
      { row with
        pending := none
        pendingSinceMillis := none
        complete := some (fingerprintOf codec row.pending envelopeSha256)
        completeEvents := ((envelope.bind codec.rebuild).or row.pending).or row.completeEvents
        completedAtMillis := completedAtMillis.or row.completedAtMillis }
  | .quarantined _ envelope _ _ =>
      { row with
        pending := none
        pendingSinceMillis := none
        quarantined := codec.rebuild envelope }

/-- The row without retry data, unless it is pending. -/
def tidy (row : RowView) : RowView :=
  if row.pending.isSome then row else { row with nextAttemptAtMillis := none, attempts := none }

/-- A record entered in the row of a key. -/
def enterAt (codec : EnvelopeCodec) (now : UInt64) (key : OutboxKey) (row : RowView)
    (record : FileOutboxRecord) : RowView :=
  if record.key = key then row.enter codec now record else row

end RowView

open RowView

namespace OutboxState

variable {codec : EnvelopeCodec} {state after : OutboxState} {now : UInt64}

theorem row_setOrRemove {ν : Type} (m : KeyMap OutboxKey ν) (key other : OutboxKey)
    (value : Option ν) :
    (setOrRemove m key value).lookup other = if other = key then value else m.lookup other := by
  cases value with
  | none => exact lookup_erase_eq m key other
  | some value => exact lookup_insert_eq m key other value

variable {key : OutboxKey}

theorem applyPending_row {envelope next attempts created}
    (applied : state.applyPending codec now key envelope next attempts created = .ok after) :
    ChangesRow state after key fun row =>
      row.enter codec now (.pending key envelope next attempts created) := by
  obtain ⟨-, -, rest⟩ := bind_eq_ok.mp applied
  obtain ⟨event, rebuilt, rest⟩ := bind_eq_ok.mp rest
  obtain ⟨-, -, rest⟩ := bind_eq_ok.mp rest
  have rebuilt := require_eq_ok.mp rebuilt
  dsimp only at rest
  cases pending : state.pending.lookup key with
  | some existing =>
    simp only [pending] at rest
    obtain ⟨-, -, rest⟩ := bind_eq_ok.mp rest
    cases rest
    refine ⟨rfl, fun other => ?_⟩
    split_ifs with same
    · subst same
      simp [row, enter, pending, row_setOrRemove]
    · simp [row, row_setOrRemove, same]
  | none =>
    simp only [pending] at rest
    cases rest
    refine ⟨rfl, fun other => ?_⟩
    split_ifs with same
    · subst same
      simp [row, enter, pending, rebuilt, row_setOrRemove]
    · simp [row, row_setOrRemove, same]

theorem reconstruct_eq_ok {envelope event} (ok : reconstruct codec key envelope = .ok event) :
    event = envelope.bind codec.rebuild := by
  cases envelope with
  | none =>
    cases ok
    rfl
  | some content =>
    obtain ⟨rebuilt, found, rest⟩ := bind_eq_ok.mp ok
    obtain ⟨-, -, rest⟩ := bind_eq_ok.mp rest
    obtain rfl := pure_eq_ok.mp rest
    exact (require_eq_ok.mp found).symm

theorem completeFingerprint_eq_ok {pending envelopeSha256 fingerprint}
    (ok : completeFingerprint codec pending envelopeSha256 = .ok fingerprint) :
    fingerprint = RowView.fingerprintOf codec pending envelopeSha256 := by
  cases envelopeSha256 with
  | none => exact (Except.ok.inj ok).symm
  | some hex =>
    obtain ⟨bytes, parses, rest⟩ := bind_eq_ok.mp ok
    obtain rfl := pure_eq_ok.mp rest
    exact (require_eq_ok.mp parses).symm

theorem lookup_elim_insert {ν : Type} (m : KeyMap OutboxKey ν) (key other : OutboxKey)
    (value : Option ν) :
    (value.elim m fun value => AList.insert key value m).lookup other =
      if other = key then value.or (m.lookup other) else m.lookup other := by
  cases value with
  | none => simp
  | some value => simp [lookup_insert_eq]

theorem applyComplete_row {envelopeSha256 completedAt envelope}
    (applied : state.applyComplete codec key envelopeSha256 completedAt envelope = .ok after) :
    ChangesRow state after key fun row =>
      row.enter codec now (.complete key envelopeSha256 completedAt envelope) := by
  obtain ⟨reconstructed, found, rest⟩ := bind_eq_ok.mp applied
  obtain ⟨fingerprint, parsed, rest⟩ := bind_eq_ok.mp rest
  obtain rfl := pure_eq_ok.mp rest
  obtain rfl := reconstruct_eq_ok found
  obtain rfl := completeFingerprint_eq_ok parsed
  refine ⟨rfl, fun other => ?_⟩
  split_ifs with same
  · subst same
    simp only [row, enter, lookup_erase_eq, lookup_insert_eq, if_true, lookup_elim_insert]
  · simp only [row, lookup_erase_eq, lookup_insert_eq, lookup_elim_insert, same,
      if_false]

theorem applyQuarantined_row {envelope reason at_}
    (applied : state.applyQuarantined codec key envelope = .ok after) :
    ChangesRow state after key fun row =>
      row.enter codec now (.quarantined key envelope reason at_) := by
  obtain ⟨event, rebuilt, rest⟩ := bind_eq_ok.mp applied
  obtain ⟨-, -, rest⟩ := bind_eq_ok.mp rest
  obtain rfl := pure_eq_ok.mp rest
  have rebuilt := require_eq_ok.mp rebuilt
  refine ⟨rfl, fun other => ?_⟩
  split_ifs with same
  · subst same
    simp [row, enter, rebuilt]
  · simp [row, same]

theorem applyChange_row {record} (applied : state.applyChange codec now record = .ok after) :
    ChangesRow state after record.key fun row => row.enter codec now record := by
  cases record with
  | pending => exact applyPending_row applied
  | complete => exact applyComplete_row applied
  | quarantined => exact applyQuarantined_row applied

/-- A replayed record changes the row of its key. -/
theorem applyRecord_row {record} (applied : state.applyRecord codec now record = .ok after) :
    ChangesRow state after record.key fun row => row.enter codec now record := by
  obtain ⟨next, changed, kept⟩ := bind_eq_ok.mp applied
  obtain ⟨-, -, kept⟩ := bind_eq_ok.mp kept
  obtain rfl := pure_eq_ok.mp kept
  exact applyChange_row changed

end OutboxState

/-! ### Live steps -/

namespace RowView

/-- A fresh event. -/
def arrive (event : IngestRequest) (now : UInt64) (row : RowView) : RowView :=
  { row with pending := some event, pendingSinceMillis := some now }

def settle (codec : EnvelopeCodec) (event : IngestRequest) (completedAt : UInt64) (row : RowView) :
    RowView :=
  { row with
    pending := none
    pendingSinceMillis := none
    complete := some (some (codec.fingerprint event.envelope))
    completeEvents := some event
    completedAtMillis := some completedAt
    nextAttemptAtMillis := none
    attempts := none }

def isolate (row : RowView) : RowView :=
  row.pending.elim row fun event =>
    { row with
      pending := none
      nextAttemptAtMillis := none
      attempts := none
      pendingSinceMillis := none
      quarantined := some event }

def release (now : UInt64) (row : RowView) : RowView :=
  row.quarantined.elim row fun event =>
    { row with quarantined := none, pendingSinceMillis := some now, pending := some event }

def retry (next : UInt64) (attempts : UInt32) (row : RowView) : RowView :=
  { row with nextAttemptAtMillis := some next, attempts := some attempts }

def forget (row : RowView) : RowView :=
  { row with complete := none, completeEvents := none, completedAtMillis := none }

/-- What holds of every row between live operations: only pending rows have retry
data and an arrival time, and all of them have one; only completed rows have the
data of a completion. -/
structure Orderly (row : RowView) : Prop where
  settled : row.pending = none →
    row.nextAttemptAtMillis = none ∧ row.attempts = none ∧ row.pendingSinceMillis = none
  dated : row.pending.isSome → row.pendingSinceMillis.isSome
  kept : row.complete = none → row.completeEvents = none ∧ row.completedAtMillis = none

theorem orderly_blank : Orderly blank :=
  ⟨fun _ => ⟨rfl, rfl, rfl⟩, nofun, fun _ => ⟨rfl, rfl⟩⟩

variable {row : RowView}

theorem Orderly.tidy_eq (orderly : row.Orderly) : row.tidy = row := by
  unfold tidy
  split
  next => rfl
  next settled =>
    obtain ⟨next, attempts, -⟩ := orderly.settled (by simpa using settled)
    rw [← next, ← attempts]

theorem Orderly.arrive (orderly : row.Orderly) (event : IngestRequest) (now : UInt64) :
    (row.arrive event now).Orderly :=
  ⟨nofun, fun _ => rfl, orderly.kept⟩

theorem Orderly.settle (codec : EnvelopeCodec) (event : IngestRequest) (completedAt : UInt64) :
    (row.settle codec event completedAt).Orderly :=
  ⟨fun _ => ⟨rfl, rfl, rfl⟩, nofun, nofun⟩

theorem Orderly.isolate (orderly : row.Orderly) : row.isolate.Orderly := by
  unfold RowView.isolate
  cases pending : row.pending with
  | none => exact orderly
  | some event => exact ⟨fun _ => ⟨rfl, rfl, rfl⟩, nofun, orderly.kept⟩

theorem Orderly.release (orderly : row.Orderly) (now : UInt64) : (row.release now).Orderly := by
  unfold RowView.release
  cases quarantined : row.quarantined with
  | none => exact orderly
  | some event => exact ⟨nofun, fun _ => rfl, orderly.kept⟩

theorem Orderly.retry (orderly : row.Orderly) (pending : row.pending.isSome) (next : UInt64)
    (attempts : UInt32) : (row.retry next attempts).Orderly := by
  refine ⟨fun none => ?_, orderly.dated, orderly.kept⟩
  rw [RowView.retry] at none
  rw [none] at pending
  cases pending

theorem Orderly.forget (orderly : row.Orderly) : row.forget.Orderly :=
  ⟨orderly.settled, orderly.dated, fun _ => ⟨rfl, rfl⟩⟩

end RowView

/-- Every row of the state is orderly. -/
def OutboxState.Orderly (state : OutboxState) : Prop :=
  ∀ key, (state.row key).Orderly

namespace OutboxState

variable {codec : EnvelopeCodec} (state : OutboxState)

theorem orderly_empty (capacity : Nat) : (empty capacity).Orderly :=
  fun _ => orderly_blank

theorem insertPending_row (event : IngestRequest) (now : UInt64) :
    ChangesRow state (state.insertPending event now) event.key (RowView.arrive event now) := by
  refine ⟨rfl, fun other => ?_⟩
  split_ifs with same
  · subst same
    simp [row, insertPending, arrive]
  · simp [row, insertPending, same]

theorem insertComplete_row (completion : Completion) :
    ChangesRow state (state.insertComplete codec completion) completion.key
      (RowView.settle codec completion.event completion.completedAtMillis) := by
  refine ⟨rfl, fun other => ?_⟩
  split_ifs with same
  · subst same
    simp [row, insertComplete, settle]
  · simp [row, insertComplete, same]

theorem insertQuarantined_row (key : OutboxKey) :
    ChangesRow state (state.insertQuarantined key) key RowView.isolate := by
  unfold insertQuarantined
  split
  next pending =>
    refine ⟨rfl, fun other => ?_⟩
    split_ifs with same
    · subst same
      simp [row, isolate, pending]
    · rfl
  next event pending =>
    refine ⟨rfl, fun other => ?_⟩
    split_ifs with same
    · subst same
      simp [row, isolate, pending]
    · simp [row, same]

theorem insertRequeued_row (now : UInt64) (key : OutboxKey) :
    ChangesRow state (insertRequeued now state key) key (RowView.release now) := by
  unfold insertRequeued
  split
  next quarantined =>
    refine ⟨rfl, fun other => ?_⟩
    split_ifs with same
    · subst same
      simp [row, release, quarantined]
    · rfl
  next event quarantined =>
    refine ⟨rfl, fun other => ?_⟩
    split_ifs with same
    · subst same
      simp [row, release, quarantined]
    · simp [row, same]

theorem removeCompleted_row (key : OutboxKey) :
    ChangesRow state (removeCompleted state key) key RowView.forget := by
  refine ⟨rfl, fun other => ?_⟩
  split_ifs with same
  · subst same
    simp [row, removeCompleted, forget]
  · simp [row, removeCompleted, same]

end OutboxState

namespace ChangesRow

variable {before after : OutboxState} {key : OutboxKey} {change : RowView → RowView}

theorem here (changes : ChangesRow before after key change) :
    after.row key = change (before.row key) := by
  rw [changes.row, if_pos rfl]

theorem elsewhere (changes : ChangesRow before after key change) {other} (apart : other ≠ key) :
    after.row other = before.row other := by
  rw [changes.row, if_neg apart]

/-- What holds of every row holds after the step, where it holds of the changed
row. -/
theorem each (P : RowView → Prop) (changes : ChangesRow before after key change)
    (all : ∀ other, P (before.row other)) (keeps : P (change (before.row key))) :
    ∀ other, P (after.row other) := by
  intro other
  by_cases same : other = key
  · rw [same, changes.here]
    exact keeps
  · rw [changes.elsewhere same]
    exact all other

theorem orderly (changes : ChangesRow before after key change) (orderly : before.Orderly)
    (keeps : (change (before.row key)).Orderly) : after.Orderly :=
  changes.each RowView.Orderly orderly keeps

theorem overwrites (changes : ChangesRow before after key change) :
    Overwrites before after key (change (before.row key)).holding := by
  refine ⟨changes.capacity, fun other => ?_⟩
  have row := congrArg holding (changes.row other)
  rwa [apply_ite holding] at row

/-- The same change made to states with the same rows. -/
theorem congr {before' after'} (changes : ChangesRow before after key change)
    (changes' : ChangesRow before' after' key change) (same : SameRowViews before before') :
    SameRowViews after after' := by
  refine ⟨?_, fun other => ?_⟩
  · rw [changes.capacity, changes'.capacity, same.capacity]
  · rw [changes.row, changes'.row, same.row, same.row]

end ChangesRow

/-! ### Walks that move events -/

/-- A step that moves the event of a row, if it has one to move. -/
structure RowMoves (source : RowView → Option IngestRequest) (change : RowView → RowView)
    (next : OutboxState → OutboxKey → OutboxState) : Prop where
  changes : ∀ state key, ChangesRow state (next state key) key change
  skips : ∀ state key, source (state.row key) = none → next state key = state
  rests : ∀ row, source row = none → change row = row
  moved : ∀ row, source (change row) = none

variable {change : RowView → RowView} {next : OutboxState → OutboxKey → OutboxState}

/-- A walk whose step has no further effect on a row changes each row it is given
once. -/
theorem row_foldl (changes : ∀ state key, ChangesRow state (next state key) key change)
    (again : ∀ row, change (change row) = change row) (keys : List OutboxKey) (state : OutboxState)
    (key : OutboxKey) :
    (keys.foldl next state).row key =
      if key ∈ keys then change (state.row key) else state.row key := by
  induction keys generalizing state with
  | nil => rfl
  | cons first rest ih =>
    rw [List.foldl_cons, ih]
    by_cases same : key = first
    · rw [same, (changes state first).here, if_pos List.mem_cons_self, again, ite_self]
    · simp only [(changes state first).elsewhere same, List.mem_cons, same, false_or]

theorem RowMoves.again {source} (moves : RowMoves source change next) (row : RowView) :
    change (change row) = change row :=
  moves.rests _ (moves.moved row)

theorem RowMoves.ledger_foldl {source} (moves : RowMoves source change next) (keys : List OutboxKey)
    (state : OutboxState) (key : OutboxKey) :
    (keys.foldl next state).ledger key =
      if key ∈ keys then (change (state.row key)).holding.standing else state.ledger key := by
  change ((keys.foldl next state).row key).holding.standing = _
  rw [row_foldl moves.changes moves.again]
  split_ifs <;> rfl

/-- A pending event is quarantined. -/
def Standing.isolated : Option Standing → Option Standing
  | some (.pending event) => some (.quarantined event)
  | standing => standing

/-- A quarantined event is pending again. -/
def Standing.released : Option Standing → Option Standing
  | some (.quarantined event) => some (.pending event)
  | standing => standing

namespace RowView

variable {codec : EnvelopeCodec} {key : OutboxKey} {row : RowView}

theorem standing_isolate (admits : row.holding.Admits codec key) :
    row.isolate.holding.standing = Standing.isolated row.holding.standing := by
  have only := admits.pendingOnly
  cases complete : row.complete <;> cases pending : row.pending <;>
    cases quarantined : row.quarantined <;>
    simp_all [isolate, holding, Holding.standing, Standing.isolated]

theorem standing_release {now} (admits : row.holding.Admits codec key) :
    (row.release now).holding.standing = Standing.released row.holding.standing := by
  have pendingOnly := admits.pendingOnly
  have completeOnly := admits.completeOnly
  cases complete : row.complete <;> cases pending : row.pending <;>
    cases quarantined : row.quarantined <;>
    simp_all [release, holding, Holding.standing, Standing.released]

end RowView

namespace OutboxState

theorem insertQuarantined_moves : RowMoves RowView.pending RowView.isolate insertQuarantined where
  changes state key := state.insertQuarantined_row key
  skips state key nothing := by
    rw [insertQuarantined, show state.pending.lookup key = none from nothing]
  rests row nothing := by
    rw [isolate, nothing]
    rfl
  moved row := by
    unfold isolate
    cases pending : row.pending with
    | none => exact pending
    | some event => rfl

theorem insertRequeued_moves (now : UInt64) :
    RowMoves RowView.quarantined (RowView.release now) (insertRequeued now) where
  changes state key := state.insertRequeued_row now key
  skips state key nothing := by
    rw [insertRequeued, show state.quarantined.lookup key = none from nothing]
  rests row nothing := by
    rw [release, nothing]
    rfl
  moved row := by
    unfold release
    cases quarantined : row.quarantined with
    | none => exact quarantined
    | some event => rfl

end OutboxState

end Apex.Outbox
