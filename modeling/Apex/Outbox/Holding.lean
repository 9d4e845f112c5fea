import Apex.Outbox.Rows

/-!
What an outbox holds under one key.

The in-memory outbox and the file-backed one keep the same four maps of events:
pending, complete, completed events and quarantined. A holding is one key's entries
in the four. Between calls it is exclusive: an event stands in one of the three
places only, and a completed one has the fingerprint of its bytes.
-/

namespace Apex.Outbox

open Domain RowView

namespace Holding

def blank : Holding :=
  ⟨none, none, none, none⟩

/-! ### Steps -/

def arrive (event : IngestRequest) (holding : Holding) : Holding :=
  { holding with pending := some event }

def settle (codec : EnvelopeCodec) (event : IngestRequest) (holding : Holding) : Holding :=
  { holding with
    pending := none
    complete := some (some (codec.fingerprint event.envelope))
    completeEvents := some event }

def isolate (holding : Holding) : Holding :=
  holding.pending.elim holding fun event =>
    { holding with pending := none, quarantined := some event }

def release (holding : Holding) : Holding :=
  holding.quarantined.elim holding fun event =>
    { holding with quarantined := none, pending := some event }

def forget (holding : Holding) : Holding :=
  { holding with complete := none, completeEvents := none }

/-! ### What holds between calls -/

/-- An event stands in one place, and a completed one has its fingerprint. -/
structure Exclusive (codec : EnvelopeCodec) (holding : Holding) : Prop where
  pendingOnly : holding.pending.isSome → holding.complete = none ∧ holding.quarantined = none
  completeOnly : holding.complete.isSome → holding.quarantined = none
  fingerprint : ∀ stored, holding.complete = some stored →
    ∃ event, holding.completeEvents = some event ∧
      stored = some (codec.fingerprint event.envelope)

variable {codec : EnvelopeCodec} {holding : Holding}

theorem exclusive_blank : blank.Exclusive codec :=
  ⟨nofun, nofun, nofun⟩

theorem Exclusive.arrive (event : IngestRequest) (complete : holding.complete = none)
    (quarantined : holding.quarantined = none) : (holding.arrive event).Exclusive codec := by
  refine ⟨fun _ => ⟨complete, quarantined⟩, fun _ => quarantined, ?_⟩
  intro stored is
  rw [Holding.arrive, complete] at is
  cases is

theorem Exclusive.settle (event : IngestRequest) (quarantined : holding.quarantined = none) :
    (holding.settle codec event).Exclusive codec := by
  refine ⟨nofun, fun _ => quarantined, ?_⟩
  intro stored is
  cases is
  exact ⟨event, rfl, rfl⟩

theorem Exclusive.isolate (exclusive : holding.Exclusive codec) :
    holding.isolate.Exclusive codec := by
  unfold Holding.isolate
  cases pending : holding.pending with
  | none => exact exclusive
  | some event =>
    have complete := (exclusive.pendingOnly (by rw [pending]; rfl)).1
    refine ⟨nofun, ?_, exclusive.fingerprint⟩
    intro some
    rw [Option.elim_some, complete] at some
    cases some

theorem Exclusive.notComplete (exclusive : holding.Exclusive codec) {event}
    (quarantined : holding.quarantined = some event) : holding.complete = none := by
  by_contra some
  have none := exclusive.completeOnly (Option.isSome_iff_ne_none.mpr some)
  cases quarantined.symm.trans none

theorem Exclusive.release (exclusive : holding.Exclusive codec) :
    holding.release.Exclusive codec := by
  unfold Holding.release
  cases quarantined : holding.quarantined with
  | none => exact exclusive
  | some event =>
    have complete := exclusive.notComplete quarantined
    exact ⟨fun _ => ⟨complete, rfl⟩, fun _ => rfl, exclusive.fingerprint⟩

theorem Exclusive.forget (exclusive : holding.Exclusive codec) :
    holding.forget.Exclusive codec :=
  ⟨fun some => ⟨rfl, (exclusive.pendingOnly some).2⟩, nofun, nofun⟩

/-! ### Bytes -/

/-- The bytes are held: of a pending or quarantined event, or of a completed one that
has a fingerprint. -/
def Holds (holding : Holding) (bytes : List UInt8) : Prop :=
  (∃ event, holding.pending = some event ∧ event.envelope = bytes) ∨
    (∃ event, holding.quarantined = some event ∧ event.envelope = bytes) ∨
    ∃ fingerprint event, holding.complete = some (some fingerprint) ∧
      holding.completeEvents = some event ∧ event.envelope = bytes

theorem Exclusive.holds_cases (exclusive : holding.Exclusive codec) {bytes}
    (holds : holding.Holds bytes) :
    (∃ event, holding.pending = some event ∧ holding.complete = none ∧
        holding.quarantined = none ∧ event.envelope = bytes) ∨
      (∃ event, holding.quarantined = some event ∧ holding.complete = none ∧
        event.envelope = bytes) ∨
      holding.complete = some (some (codec.fingerprint bytes)) := by
  rcases holds with ⟨held, pending, is⟩ | ⟨held, quarantined, is⟩ |
    ⟨fingerprint, held, complete, completed, rfl⟩
  · obtain ⟨complete, quarantined⟩ := exclusive.pendingOnly (by rw [pending]; rfl)
    exact .inl ⟨held, pending, complete, quarantined, is⟩
  · exact .inr (.inl ⟨held, quarantined, exclusive.notComplete quarantined, is⟩)
  · obtain ⟨held', completed', is⟩ := exclusive.fingerprint _ complete
    cases completed.symm.trans completed'
    exact .inr (.inr (complete.trans (congrArg some is)))

end Holding

/-! ### The file-backed outbox -/

theorem RowView.holding_isolate (row : RowView) : row.isolate.holding = row.holding.isolate := by
  cases pending : row.pending <;>
    simp [isolate, Holding.isolate, holding, pending]

theorem RowView.holding_release (now : UInt64) (row : RowView) :
    (row.release now).holding = row.holding.release := by
  cases quarantined : row.quarantined <;>
    simp [release, Holding.release, holding, quarantined]

namespace OutboxState

/-- Every key is held in one place. -/
def Exclusive (codec : EnvelopeCodec) (state : OutboxState) : Prop :=
  ∀ key, (state.holding key).Exclusive codec

variable {codec : EnvelopeCodec} {before after : OutboxState} {key : OutboxKey}

theorem exclusive_empty (capacity : Nat) : (empty capacity).Exclusive codec :=
  fun _ => Holding.exclusive_blank

/-- A step that changes one row keeps the state exclusive where it keeps that row. -/
theorem Exclusive.changesRow {change} (exclusive : before.Exclusive codec)
    (changes : ChangesRow before after key change)
    (keeps : (change (before.row key)).holding.Exclusive codec) : after.Exclusive codec :=
  changes.each (fun row => row.holding.Exclusive codec) exclusive keeps

theorem Exclusive.insertPending (exclusive : before.Exclusive codec) {event : IngestRequest}
    (fresh : before.ledger event.key = none) (now : UInt64) :
    (before.insertPending event now).Exclusive codec := by
  apply exclusive.changesRow (before.insertPending_row event now)
  obtain ⟨-, complete, quarantined⟩ := ledger_eq_none.mp fresh
  have keeps : ((before.holding event.key).arrive event).Exclusive codec :=
    .arrive event (AList.lookup_eq_none.mpr complete) (AList.lookup_eq_none.mpr quarantined)
  exact keeps

theorem Exclusive.insertComplete (exclusive : before.Exclusive codec) {completion : Completion}
    (quarantined : before.quarantined.lookup completion.key = none) :
    (before.insertComplete codec completion).Exclusive codec := by
  apply exclusive.changesRow (before.insertComplete_row completion)
  have keeps : ((before.holding completion.key).settle codec completion.event).Exclusive codec :=
    .settle completion.event quarantined
  exact keeps

theorem Exclusive.insertQuarantined (exclusive : before.Exclusive codec) (key : OutboxKey) :
    (before.insertQuarantined key).Exclusive codec := by
  apply exclusive.changesRow (before.insertQuarantined_row key)
  rw [holding_isolate]
  exact (exclusive key).isolate

theorem Exclusive.insertRequeued (exclusive : before.Exclusive codec) (now : UInt64)
    (key : OutboxKey) : (OutboxState.insertRequeued now before key).Exclusive codec := by
  apply exclusive.changesRow (before.insertRequeued_row now key)
  rw [holding_release]
  exact (exclusive key).release

theorem Exclusive.removeCompleted (exclusive : before.Exclusive codec) (key : OutboxKey) :
    (OutboxState.removeCompleted before key).Exclusive codec := by
  apply exclusive.changesRow (before.removeCompleted_row key)
  exact (exclusive key).forget

end OutboxState

end Apex.Outbox
