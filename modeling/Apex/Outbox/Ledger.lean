import Apex.Outbox.Operations

/-!
What the outbox is for: each event it has accepted is pending, complete or
quarantined, and stays known until retention drops it.

The ledger of a state is that view, as a function of the key. A journal record
has an effect on ledgers (`effect`), and a replayed record has that effect on
the ledger of the replayed state wherever it fits the ledger
(`applyRecord_ledger`). Everything else the state keeps, the retry data and the
times, is outside the ledger.
-/

namespace Apex.Outbox

open Checked Domain AList KeyMap

/-- What the outbox knows of one event. -/
inductive Standing where
  | pending (event : IngestRequest)
  | complete (fingerprint : Option Fingerprint)
  | quarantined (event : IngestRequest)

abbrev Ledger : Type := OutboxKey → Option Standing

/-- One key's entries in the maps of events. -/
@[ext] structure Holding where
  pending : Option IngestRequest
  complete : Option (Option Fingerprint)
  completeEvents : Option IngestRequest
  quarantined : Option IngestRequest

namespace OutboxState

def holding (state : OutboxState) (key : OutboxKey) : Holding where
  pending := state.pending.lookup key
  complete := state.complete.lookup key
  completeEvents := state.completeEvents.lookup key
  quarantined := state.quarantined.lookup key

/-- The ledger of a state. -/
def ledger (state : OutboxState) : Ledger := fun key =>
  match state.complete.lookup key with
  | some fingerprint => some (.complete fingerprint)
  | none =>
      match state.pending.lookup key with
      | some event => some (.pending event)
      | none => (state.quarantined.lookup key).map .quarantined

/-- What holds of a state between operations: an event stands in one of the
three maps only, the stored events passed admission under their own keys, and
the capacity is respected. -/
structure Valid (codec : EnvelopeCodec) (state : OutboxState) : Prop where
  pendingOnly : ∀ key, key ∈ state.pending → key ∉ state.complete ∧ key ∉ state.quarantined
  completeOnly : ∀ key, key ∈ state.complete → key ∉ state.quarantined
  pendingEvent : ∀ key event, state.pending.lookup key = some event →
    Admitted codec event ∧ event.key = key
  completeEvent : ∀ key event, state.completeEvents.lookup key = some event →
    Admitted codec event ∧ event.key = key
  quarantinedEvent : ∀ key event, state.quarantined.lookup key = some event →
    Admitted codec event ∧ event.key = key
  withinCapacity : state.size ≤ state.capacity

end OutboxState

/-! ### One key -/

/-- The event a standing puts into the pending map. -/
def Standing.pendingPart : Option Standing → Option IngestRequest
  | some (.pending event) => some event
  | _ => none

namespace Holding

/-- What the entries say of the event. -/
def standing (holding : Holding) : Option Standing :=
  match holding.complete with
  | some fingerprint => some (.complete fingerprint)
  | none =>
      match holding.pending with
      | some event => some (.pending event)
      | none => holding.quarantined.map .quarantined

/-- The event stands in one place, and passed admission under the key. -/
structure Admits (codec : EnvelopeCodec) (key : OutboxKey) (holding : Holding) : Prop where
  pendingOnly : ∀ event, holding.pending = some event →
    holding.complete = none ∧ holding.quarantined = none
  completeOnly : ∀ fingerprint, holding.complete = some fingerprint → holding.quarantined = none
  pendingEvent : ∀ event, holding.pending = some event → Admitted codec event ∧ event.key = key
  completeEvent : ∀ event, holding.completeEvents = some event →
    Admitted codec event ∧ event.key = key
  quarantinedEvent : ∀ event, holding.quarantined = some event →
    Admitted codec event ∧ event.key = key

variable {codec : EnvelopeCodec} {key : OutboxKey} {holding : Holding}

/-! The three places can be read off the standing. -/

theorem Admits.standing_pending (admits : holding.Admits codec key) {event} :
    holding.standing = some (.pending event) ↔ holding.pending = some event := by
  have only := admits.pendingOnly
  obtain ⟨pending, complete, events, quarantined⟩ := holding
  cases complete <;> cases pending <;> simp_all [standing]

theorem standing_complete {fingerprint} :
    holding.standing = some (.complete fingerprint) ↔ holding.complete = some fingerprint := by
  obtain ⟨pending, complete, events, quarantined⟩ := holding
  cases complete <;> cases pending <;> simp [standing]

theorem Admits.standing_quarantined (admits : holding.Admits codec key) {event} :
    holding.standing = some (.quarantined event) ↔ holding.quarantined = some event := by
  have pendingOnly := admits.pendingOnly
  have completeOnly := admits.completeOnly
  obtain ⟨pending, complete, events, quarantined⟩ := holding
  cases complete <;> cases pending <;> simp_all [standing]

theorem standing_eq_none : holding.standing = none ↔
    holding.pending = none ∧ holding.complete = none ∧ holding.quarantined = none := by
  obtain ⟨pending, complete, events, quarantined⟩ := holding
  cases complete <;> cases pending <;> simp [standing]

theorem Admits.pendingPart (admits : holding.Admits codec key) :
    Standing.pendingPart holding.standing = holding.pending := by
  have only := admits.pendingOnly
  obtain ⟨pending, complete, events, quarantined⟩ := holding
  cases complete <;> cases pending <;> cases quarantined <;>
    simp_all [standing, Standing.pendingPart]

/-- An event that is known takes one place. -/
theorem Admits.places (admits : holding.Admits codec key) :
    (if holding.standing = none then 0 else 1) =
      (if holding.pending.isSome then 1 else 0) + (if holding.complete.isSome then 1 else 0) +
        (if holding.quarantined.isSome then 1 else 0) := by
  have pendingOnly := admits.pendingOnly
  have completeOnly := admits.completeOnly
  obtain ⟨pending, complete, events, quarantined⟩ := holding
  cases complete <;> cases pending <;> cases quarantined <;> simp_all [standing]

end Holding

namespace OutboxState

variable {codec : EnvelopeCodec} {state : OutboxState} {key : OutboxKey} {event : IngestRequest}

theorem ledger_eq : state.ledger key = (state.holding key).standing := rfl

theorem ledger_empty (capacity : Nat) : (empty capacity).ledger = fun _ => none := by
  funext key
  simp [ledger, empty]

theorem Valid.admits (valid : state.Valid codec) (key : OutboxKey) :
    (state.holding key).Admits codec key where
  pendingOnly _ found :=
    have alone := valid.pendingOnly key (mem_of_lookup found)
    ⟨lookup_eq_none.mpr alone.1, lookup_eq_none.mpr alone.2⟩
  completeOnly _ found := lookup_eq_none.mpr (valid.completeOnly key (mem_of_lookup found))
  pendingEvent := valid.pendingEvent key
  completeEvent := valid.completeEvent key
  quarantinedEvent := valid.quarantinedEvent key

theorem valid_of_admits (admits : ∀ key, (state.holding key).Admits codec key)
    (withinCapacity : state.size ≤ state.capacity) : state.Valid codec where
  pendingOnly key mem := by
    obtain ⟨event, found⟩ := Option.isSome_iff_exists.mp (mem_iff_isSome.mp mem)
    obtain ⟨complete, quarantined⟩ := (admits key).pendingOnly event found
    exact ⟨lookup_eq_none.mp complete, lookup_eq_none.mp quarantined⟩
  completeOnly key mem := by
    obtain ⟨fingerprint, found⟩ := Option.isSome_iff_exists.mp (mem_iff_isSome.mp mem)
    exact lookup_eq_none.mp ((admits key).completeOnly fingerprint found)
  pendingEvent key := (admits key).pendingEvent
  completeEvent key := (admits key).completeEvent
  quarantinedEvent key := (admits key).quarantinedEvent
  withinCapacity := withinCapacity

theorem valid_empty (capacity : Nat) : (empty capacity).Valid codec :=
  valid_of_admits (fun _ => ⟨nofun, nofun, nofun, nofun, nofun⟩) (Nat.zero_le _)

theorem Valid.ledger_pending (valid : state.Valid codec) :
    state.ledger key = some (.pending event) ↔ state.pending.lookup key = some event :=
  (valid.admits key).standing_pending

theorem Valid.ledger_complete {fingerprint} :
    state.ledger key = some (.complete fingerprint) ↔
      state.complete.lookup key = some fingerprint := by
  rw [ledger_eq]
  exact Holding.standing_complete

theorem Valid.ledger_quarantined (valid : state.Valid codec) :
    state.ledger key = some (.quarantined event) ↔ state.quarantined.lookup key = some event :=
  (valid.admits key).standing_quarantined

theorem ledger_eq_none : state.ledger key = none ↔
    key ∉ state.pending ∧ key ∉ state.complete ∧ key ∉ state.quarantined := by
  rw [← lookup_eq_none, ← lookup_eq_none, ← lookup_eq_none, ledger_eq]
  exact Holding.standing_eq_none

end OutboxState

/-! ### Overwriting one key -/

/-- The maps of events differ at one key at most, where they now hold the given
entries. -/
structure Overwrites (before after : OutboxState) (key : OutboxKey) (holding : Holding) :
    Prop where
  capacity : after.capacity = before.capacity
  holding : ∀ other, after.holding other = if other = key then holding else before.holding other

namespace Overwrites

variable {codec : EnvelopeCodec} {before after : OutboxState} {key : OutboxKey}
  {holding : Holding}

theorem ledger_eq (overwritten : Overwrites before after key holding) :
    after.ledger = Function.update before.ledger key holding.standing := by
  funext other
  rw [OutboxState.ledger_eq, overwritten.holding, Function.update_apply, OutboxState.ledger_eq,
    apply_ite Holding.standing]

/-- The number of rows changes by what stood there and what stands there now. -/
theorem size_eq (overwritten : Overwrites before after key holding) (valid : before.Valid codec)
    (admits : holding.Admits codec key) :
    after.size + (if before.ledger key = none then 0 else 1) =
      before.size + (if holding.standing = none then 0 else 1) := by
  have project {α : Type} (part : Holding → α) (other : OutboxKey) :
      part (after.holding other) =
        if other = key then part holding else part (before.holding other) := by
    rw [overwritten.holding, apply_ite part]
  have counted {ν : Type} (m : KeyMap OutboxKey ν) :
      (if key ∈ m then 1 else 0) = if (m.lookup key).isSome then 1 else 0 :=
    if_congr mem_iff_isSome rfl rfl
  have pending := length_keys_overwrite (project Holding.pending)
  have complete := length_keys_overwrite (project Holding.complete)
  have quarantined := length_keys_overwrite (project Holding.quarantined)
  simp only [counted] at pending complete quarantined
  have held : (if before.ledger key = none then 0 else 1) =
      (if (before.pending.lookup key).isSome then 1 else 0) +
        (if (before.complete.lookup key).isSome then 1 else 0) +
        (if (before.quarantined.lookup key).isSome then 1 else 0) := (valid.admits key).places
  rw [OutboxState.size, OutboxState.size, held, admits.places]
  omega

/-- Overwriting one key keeps a state valid, where the new entries are admitted
under that key and there is room for them. -/
theorem valid (overwritten : Overwrites before after key holding) (valid : before.Valid codec)
    (admits : holding.Admits codec key)
    (room : before.ledger key = none → holding.standing ≠ none → before.size < before.capacity) :
    after.Valid codec := by
  have each : ∀ other, (after.holding other).Admits codec other := by
    intro other
    rw [overwritten.holding]
    split_ifs with same
    · rw [same]
      exact admits
    · exact valid.admits other
  refine OutboxState.valid_of_admits each ?_
  have size := overwritten.size_eq valid admits
  have within := valid.withinCapacity
  rw [overwritten.capacity]
  by_cases fresh : before.ledger key = none
  · have room := room fresh
    rw [if_pos fresh] at size
    split_ifs at size with none
    · omega
    · have := room none
      omega
  · rw [if_neg fresh] at size
    split_ifs at size <;> omega

end Overwrites

end Apex.Outbox
