import Apex.Outbox.Holding
import Apex.Outbox.Postgres

/-!
The in-memory outbox.

It keeps no attempts and no retry times, so a rescheduling does nothing, and it is
never swept. A quarantined key answers `enqueue` before the bytes are compared.
-/

namespace Apex.Outbox

open Checked Domain Saturating

structure InMemoryOutbox where
  capacity : Nat
  pending : KeyMap OutboxKey IngestRequest
  complete : KeyMap OutboxKey Fingerprint
  completeEvents : KeyMap OutboxKey IngestRequest
  completedAtMillis : KeyMap OutboxKey UInt64
  nextAttemptAtMillis : KeyMap OutboxKey UInt64
  quarantined : KeyMap OutboxKey IngestRequest
  pendingSinceMillis : KeyMap OutboxKey UInt64

/-- What a call on the in-memory outbox finds beside it: the clock, and the orders in
which its maps are scanned. -/
structure MemoryCall where
  now : UInt64
  /-- The readings of a loop. -/
  clock : Nat → UInt64
  events : Scan OutboxKey IngestRequest
  times : Scan OutboxKey UInt64

namespace InMemoryOutbox

/-- The outbox the constructor makes. -/
def empty (capacity : Nat) : InMemoryOutbox where
  capacity := capacity
  pending := ∅
  complete := ∅
  completeEvents := ∅
  completedAtMillis := ∅
  nextAttemptAtMillis := ∅
  quarantined := ∅
  pendingSinceMillis := ∅

def new (capacity : Nat) : Except GatewayError InMemoryOutbox := do
  ensure (0 < capacity && capacity ≤ 1000000) GatewayError.idempotencyCapacity
  return empty capacity

variable (codec : EnvelopeCodec) (call : MemoryCall)

/-- The row of a fresh event. -/
def insertPending (event : IngestRequest) (outbox : InMemoryOutbox) : InMemoryOutbox :=
  { outbox with
    pendingSinceMillis := AList.insert event.key call.now outbox.pendingSinceMillis
    pending := AList.insert event.key event outbox.pending }

def enqueue (event : IngestRequest) : Raising InMemoryOutbox GatewayError EnqueueResult :=
  fun outbox =>
    match outbox.complete.lookup event.key with
    | some fingerprint =>
        if fingerprint = codec.fingerprint event.envelope then (outbox, .ok .alreadyComplete)
        else (outbox, .error .idempotencyConflict)
    | none =>
        if (outbox.quarantined.lookup event.key).isSome then (outbox, .ok .alreadyPending)
        else
          match outbox.pending.lookup event.key with
          | some existing =>
              if existing.envelope = event.envelope then (outbox, .ok .alreadyPending)
              else (outbox, .error .idempotencyConflict)
          | none =>
              -- Quarantined events do not count.
              if outbox.capacity ≤ outbox.pending.keys.length + outbox.complete.keys.length then
                (outbox, .error .idempotencyCapacity)
              else (outbox.insertPending call event, .ok .enqueued)

def insertComplete (key : OutboxKey) (event : IngestRequest) (outbox : InMemoryOutbox) :
    InMemoryOutbox :=
  { outbox with
    pending := AList.erase key outbox.pending
    complete := AList.insert key (codec.fingerprint event.envelope) outbox.complete
    completeEvents := AList.insert key event outbox.completeEvents
    completedAtMillis := AList.insert key call.now outbox.completedAtMillis
    nextAttemptAtMillis := AList.erase key outbox.nextAttemptAtMillis
    pendingSinceMillis := AList.erase key outbox.pendingSinceMillis }

def markComplete (key : OutboxKey) : Raising InMemoryOutbox GatewayError Unit := fun outbox =>
  match outbox.pending.lookup key with
  | some event => (outbox.insertComplete codec call key event, .ok ())
  | none =>
      if (outbox.complete.lookup key).isSome then (outbox, .ok ()) else (outbox, .error .internal)

/-- One key quarantined. -/
def isolate (outbox : InMemoryOutbox) (key : OutboxKey) : InMemoryOutbox :=
  let cleared := { outbox with
    nextAttemptAtMillis := AList.erase key outbox.nextAttemptAtMillis
    pendingSinceMillis := AList.erase key outbox.pendingSinceMillis }
  match outbox.pending.lookup key with
  | none => cleared
  | some event =>
      { cleared with
        pending := AList.erase key outbox.pending
        quarantined := AList.insert key event outbox.quarantined }

/-- One key requeued, at its own clock reading. -/
def release (outbox : InMemoryOutbox) (requeued : OutboxKey × UInt64) : InMemoryOutbox :=
  match outbox.quarantined.lookup requeued.1 with
  | none => outbox
  | some event =>
      { outbox with
        quarantined := AList.erase requeued.1 outbox.quarantined
        pendingSinceMillis := AList.insert requeued.1 requeued.2 outbox.pendingSinceMillis
        pending := AList.insert requeued.1 event outbox.pending }

/-- `InMemoryOutbox` as an outbox. -/
def eventOutbox : EventOutbox InMemoryOutbox where
  enqueue := enqueue codec call
  markComplete := markComplete codec call
  pending outbox := (outbox, (call.events.order outbox.pending).map Prod.snd)
  pendingBatch limit outbox :=
    (outbox, .ok ((((call.events.order outbox.pending).filter fun (key, _) =>
      (outbox.nextAttemptAtMillis.lookup key).getD 0 ≤ call.now).take limit).map Prod.snd))
  pendingCount outbox := (outbox, .ok outbox.pending.keys.length)
  recentCompletedBatch sinceMillis limit outbox :=
    (outbox, .ok ((((call.times.order outbox.completedAtMillis).filter fun (_, completedAt) =>
      sinceMillis ≤ completedAt).filterMap fun (key, _) =>
        outbox.completeEvents.lookup key).take limit))
  pendingReconciliationBatch limit outbox :=
    (outbox, .ok (((call.events.order outbox.pending).map Prod.snd).take limit))
  reschedule _ _ := pure ()
  quarantine keys _ outbox := (keys.foldl isolate outbox, .ok ())
  quarantinedBatch limit outbox :=
    (outbox, .ok (((call.events.order outbox.quarantined).map Prod.fst).take limit))
  quarantinedCount outbox := (outbox, .ok outbox.quarantined.keys.length)
  requeueQuarantined keys outbox :=
    ((keys.zipIdx.map fun (key, index) => (key, call.clock index)).foldl release outbox, .ok ())
  oldestPendingMillis outbox :=
    (outbox, .ok (((call.times.order outbox.pendingSinceMillis).map Prod.snd).min?.map
      (sub64 call.now)))

/-! ### What holds between calls -/

def holding (outbox : InMemoryOutbox) (key : OutboxKey) : Holding where
  pending := outbox.pending.lookup key
  complete := (outbox.complete.lookup key).map some
  completeEvents := outbox.completeEvents.lookup key
  quarantined := outbox.quarantined.lookup key

/-- Every key is held in one place. -/
def Exclusive (outbox : InMemoryOutbox) : Prop :=
  ∀ key, (outbox.holding key).Exclusive codec

variable {codec call} {outbox : InMemoryOutbox}

theorem exclusive_empty (capacity : Nat) : (empty capacity).Exclusive codec :=
  fun _ => Holding.exclusive_blank

theorem insertPending_holding (event : IngestRequest) (key : OutboxKey) :
    (outbox.insertPending call event).holding key =
      if key = event.key then (outbox.holding key).arrive event else outbox.holding key := by
  by_cases same : key = event.key
  · subst same
    simp [holding, insertPending, Holding.arrive]
  · simp [holding, insertPending, same]

theorem insertComplete_holding (key : OutboxKey) (event : IngestRequest) (other : OutboxKey) :
    (outbox.insertComplete codec call key event).holding other =
      if other = key then (outbox.holding other).settle codec event else outbox.holding other := by
  by_cases same : other = key
  · subst same
    simp [holding, insertComplete, Holding.settle]
  · simp [holding, insertComplete, same]

theorem isolate_holding (key other : OutboxKey) :
    (outbox.isolate key).holding other =
      if other = key then (outbox.holding other).isolate else outbox.holding other := by
  unfold isolate
  by_cases same : other = key
  · subst same
    cases pending : outbox.pending.lookup other with
    | none | some => simp [holding, Holding.isolate, pending]
  · cases pending : outbox.pending.lookup key with
    | none | some => simp [holding, same]

theorem release_holding (requeued : OutboxKey × UInt64) (other : OutboxKey) :
    (outbox.release requeued).holding other =
      if other = requeued.1 then (outbox.holding other).release else outbox.holding other := by
  obtain ⟨key, at_⟩ := requeued
  unfold release
  by_cases same : other = key
  · subst same
    cases quarantined : outbox.quarantined.lookup other with
    | none | some => simp [holding, Holding.release, quarantined]
  · cases quarantined : outbox.quarantined.lookup key with
    | none | some => simp [holding, same]

/-- A change of one key's holding that keeps it exclusive. -/
theorem Exclusive.change {after : InMemoryOutbox} {key} {change : Holding → Holding}
    (exclusive : outbox.Exclusive codec) (changed : ∀ other, after.holding other =
      if other = key then change (outbox.holding other) else outbox.holding other)
    (keeps : (change (outbox.holding key)).Exclusive codec) : after.Exclusive codec := by
  intro other
  rw [changed]
  split
  next same =>
    rw [same]
    exact keeps
  next => exact exclusive other

theorem Exclusive.enqueue (exclusive : outbox.Exclusive codec) (event : IngestRequest) :
    (InMemoryOutbox.enqueue codec call event outbox).1.Exclusive codec := by
  unfold InMemoryOutbox.enqueue
  split
  · split <;> exact exclusive
  next complete =>
    split
    · exact exclusive
    next quarantined =>
      split
      · split <;> exact exclusive
      · split
        · exact exclusive
        · apply exclusive.change (insertPending_holding event)
          apply Holding.Exclusive.arrive event
          · simp [holding, complete]
          · simpa [holding] using quarantined

theorem Exclusive.markComplete (exclusive : outbox.Exclusive codec) (key : OutboxKey) :
    (InMemoryOutbox.markComplete codec call key outbox).1.Exclusive codec := by
  unfold InMemoryOutbox.markComplete
  split
  next event pending =>
    apply exclusive.change (insertComplete_holding key event)
    apply Holding.Exclusive.settle event
    exact ((exclusive key).pendingOnly (by simp [holding, pending])).2
  next => split <;> exact exclusive

theorem Exclusive.isolate (exclusive : outbox.Exclusive codec) (key : OutboxKey) :
    (outbox.isolate key).Exclusive codec :=
  exclusive.change (isolate_holding key) (exclusive key).isolate

theorem Exclusive.release (exclusive : outbox.Exclusive codec) (requeued : OutboxKey × UInt64) :
    (outbox.release requeued).Exclusive codec :=
  exclusive.change (release_holding requeued) (exclusive requeued.1).release

/-- Every call keeps an event in one place. -/
theorem Exclusive.after (exclusive : outbox.Exclusive codec) (method : Method) :
    ((eventOutbox codec call).call method outbox).1.Exclusive codec := by
  cases method with
  | enqueue event => exact exclusive.enqueue event
  | markComplete key => exact exclusive.markComplete key
  | markCompleteMany keys =>
    have each (key : OutboxKey) (before : InMemoryOutbox) (kept : before.Exclusive codec) :
        (InMemoryOutbox.markComplete codec call key before).1.Exclusive codec :=
      kept.markComplete key
    exact Raising.forEach_keeps each keys exclusive
  | quarantine keys reason =>
    exact List.foldlRecOn keys _ exclusive fun _ kept key _ => kept.isolate key
  | requeueQuarantined keys =>
    exact List.foldlRecOn _ _ exclusive fun _ kept requeued _ => kept.release requeued
  | _ => exact exclusive

end InMemoryOutbox

end Apex.Outbox
