import Apex.Fanout.Settlement
import Apex.Outbox.Failures
import Apex.Outbox.Restart

/-!
The replay cycle of the event ingest.

A cycle reads a batch of pending events, publishes each of them, settles the
published ones in one write, and hands the others back for a later attempt, one
write for each delay among them. A refused settlement makes the published events
failed ones. The delays follow a count of failures that is in memory only; the
durable count, which decides when an event is quarantined, is the outbox's own.

A publisher that panics ends the cycle: the worker catches the panic around the
whole cycle, where nothing has been settled yet.
-/

namespace Apex.Outbox

open Checked Domain Lines Saturating List
open Fanout (PublishResult pendingBatch publishedKeys failedKeys)

def maxReplayAttempts : UInt32 := 8

def replayBatchSize : Nat := 256

/-- `retry_delay` in milliseconds. The two workers have the same delays. -/
def retryDelay (sha256 : List UInt8 → Fingerprint) (key : OutboxKey) (attempts : UInt32) : Nat :=
  Fanout.retryDelay sha256 key attempts

/-- A replaying process: its outbox, and the failures it has counted itself. -/
structure OutboxedPublisher where
  outbox : FileOutbox
  retryAttempts : KeyMap OutboxKey UInt32

/-- What a cycle meets: the time and the order in which the pending events are
read, what the publisher does with each event, and for every write its clock
readings and what goes wrong with it. The delays are scanned in some order, and
their writes are numbered by it. -/
structure Cycle where
  now : UInt64
  scan : Scan OutboxKey IngestRequest
  publish : IngestRequest → PublishResult
  settleFault : Option AppendFault
  settleClock : Nat → UInt64
  order : Scan Nat (List OutboxKey)
  retryFault : Nat → Option AppendFault
  retryClock : Nat → UInt64

namespace OutboxedPublisher

variable (publisher : OutboxedPublisher)

/-- The events a cycle reads. -/
def batch (cycle : Cycle) : List IngestRequest :=
  pendingBatch publisher.outbox.state cycle.scan replayBatchSize cycle.now

/-- The counts without some keys. -/
def forget (keys : List OutboxKey) : KeyMap OutboxKey UInt32 :=
  publisher.retryAttempts.retain fun key _ => !keys.contains key

/-- What is known once the published events were to be settled. -/
structure Settled where
  publisher : OutboxedPublisher
  failed : List OutboxKey
  firstDurableError : Option GatewayError
  settledAny : Bool

/-- The published events settled in one batch; a batch that is refused joins the
failed ones. -/
def settle (codec : EnvelopeCodec) (cycle : Cycle) (completed failed : List OutboxKey) : Settled :=
  if completed.isEmpty then ⟨publisher, failed, none, false⟩
  else
    match publisher.outbox.commitWith cycle.settleFault
      (publisher.outbox.state.markCompleteMany codec completed cycle.settleClock) with
    | (.ok _, outbox) => ⟨⟨outbox, publisher.forget completed⟩, failed, none, true⟩
    | (.error e, outbox) => ⟨{ publisher with outbox }, failed ++ completed, some e, false⟩

/-- The failures counted in memory, and the keys by their delay. -/
structure Retries where
  attempts : KeyMap OutboxKey UInt32
  groups : KeyMap Nat (List OutboxKey)

/-- One failed key. A count that has reached the limit is dropped. -/
def noteAttempt (sha256 : List UInt8 → Fingerprint) (retries : Retries) (key : OutboxKey) :
    Retries :=
  let attempts := next32 ((retries.attempts.lookup key).getD 0)
  { attempts :=
      if maxReplayAttempts ≤ attempts then AList.erase key retries.attempts
      else AList.insert key attempts retries.attempts
    groups := retries.groups.push (retryDelay sha256 key attempts) key }

/-- The keys with one delay put back. The cycle goes on after an error and
remembers the first. -/
def rescheduleGroup (cycle : Cycle) (outcome : FileOutbox × Option GatewayError)
    (group : (Nat × List OutboxKey) × Nat) : FileOutbox × Option GatewayError :=
  let ((delay, keys), index) := group
  match outcome.1.commitWith (cycle.retryFault index)
    (.ok (outcome.1.state.reschedule keys (UInt64.ofNat delay) (cycle.retryClock index))) with
  | (.error e, outbox) => (outbox, outcome.2.or (some e))
  | (.ok _, outbox) => (outbox, outcome.2)

/-- One cycle; there is no answer where the publisher panics. -/
def replayPendingInner (codec : EnvelopeCodec) (sha256 : List UInt8 → Fingerprint)
    (cycle : Cycle) : Option (Except GatewayError Bool) × OutboxedPublisher :=
  let pending := publisher.batch cycle
  if pending.any (cycle.publish · = .panicked) then (none, publisher)
  else
    let settled := publisher.settle codec cycle (publishedKeys cycle.publish pending)
      (failedKeys cycle.publish pending)
    let retries := settled.failed.foldl (noteAttempt sha256) ⟨settled.publisher.retryAttempts, ∅⟩
    let outcome := (cycle.order.order retries.groups).zipIdx.foldl (rescheduleGroup cycle)
      (settled.publisher.outbox, settled.firstDurableError)
    (some (outcome.2.elim (.ok settled.settledAny) .error), ⟨outcome.1, retries.attempts⟩)

end OutboxedPublisher

/-- The events the publisher is called with: up to the first that makes it panic. -/
def attempted (publish : IngestRequest → PublishResult) : List IngestRequest → List IngestRequest
  | [] => []
  | event :: rest =>
      if publish event = .panicked then [event] else event :: attempted publish rest

/-! ### Rescheduling, row by row -/

namespace RowView

/-- The attempt that is made now. -/
def nextAttempt (row : RowView) : UInt32 :=
  next32 (row.attempts.getD 0)

/-- The row is pending, and its attempts are used up with this one. -/
def exhausted (row : RowView) : Bool :=
  row.pending.isSome && maxPersistedAttempts ≤ row.nextAttempt

/-- The row is pending, and there is another attempt. -/
def retries (row : RowView) : Bool :=
  row.pending.isSome && row.nextAttempt < maxPersistedAttempts

/-- What rescheduling makes of a row. -/
def reschedule (next : UInt64) (row : RowView) : RowView :=
  if row.retries then row.retry next row.nextAttempt
  else if row.exhausted then row.isolate
  else row

/-- The record of another attempt. -/
def retryRecord (next : UInt64) (key : OutboxKey) (row : RowView) : Option FileOutboxRecord :=
  if row.retries then
    row.pending.map fun event =>
      .pending key event.envelope (some next) (some row.nextAttempt) row.pendingSinceMillis
  else none

theorem not_exhausted_of_retries {row : RowView} (retries : row.retries = true) :
    row.exhausted = false := by
  simp only [RowView.retries, exhausted, Bool.and_eq_true, decide_eq_true_eq] at retries ⊢
  simp [retries.1, UInt32.not_le.mpr retries.2]

end RowView

namespace OutboxState

variable {next : UInt64} {work : Rescheduling} {state : OutboxState}

/-- One key is retried, noted as out of attempts, or passed over. -/
theorem rescheduleKey_row (next : UInt64) (work : Rescheduling) (key : OutboxKey) :
    (rescheduleKey next work key).records =
        work.records ++ ((work.state.row key).retryRecord next key).toList ∧
      (rescheduleKey next work key).quarantineKeys =
        work.quarantineKeys ++ [key].filter (fun key => (work.state.row key).exhausted) ∧
      ChangesRow work.state (rescheduleKey next work key).state key fun row =>
        if row.retries then row.retry next row.nextAttempt else row := by
  unfold rescheduleKey
  cases pending : work.state.pending.lookup key with
  | none =>
    have idle : (work.state.row key).pending = none := pending
    refine ⟨?_, ?_, rfl, fun other => ?_⟩
    · simp [RowView.retryRecord, RowView.retries, idle]
    · simp [RowView.exhausted, idle]
    · split_ifs with same retries
      · simp [RowView.retries, idle] at retries
      · rw [same]
      · rfl
  | some event =>
    have waits : (work.state.row key).pending = some event := pending
    have attempt : next32 ((work.state.attempts.lookup key).getD 0) =
        (work.state.row key).nextAttempt := rfl
    dsimp only
    rw [attempt]
    split_ifs with out
    · have no : (work.state.row key).retries = false := by
        simp [RowView.retries, UInt32.not_lt.mpr out]
      refine ⟨?_, ?_, rfl, fun other => ?_⟩
      · simp [RowView.retryRecord, no]
      · simp [RowView.exhausted, waits, out]
      · split_ifs with same retries
        · rw [no] at retries
          cases retries
        · rw [same]
        · rfl
    · have yes : (work.state.row key).retries = true := by
        simp [RowView.retries, waits, UInt32.not_le.mp out]
      refine ⟨?_, ?_, ?_⟩
      · rw [RowView.retryRecord, if_pos yes, waits]
        rfl
      · simp [RowView.not_exhausted_of_retries yes]
      · have changes := retried_row next (work.state.row key).nextAttempt work.state key
        refine ⟨changes.capacity, fun other => (changes.row other).trans ?_⟩
        split_ifs
        · rfl
        · rfl

/-- The walk over different keys. -/
theorem rescheduleKeys_row {keys : List OutboxKey} (distinct : keys.Nodup) (next : UInt64)
    (work : Rescheduling) :
    (keys.foldl (rescheduleKey next) work).records =
        work.records ++ keys.filterMap (fun key => (work.state.row key).retryRecord next key) ∧
      (keys.foldl (rescheduleKey next) work).quarantineKeys =
        work.quarantineKeys ++ keys.filter (fun key => (work.state.row key).exhausted) ∧
      ∀ key, (keys.foldl (rescheduleKey next) work).state.row key =
        if key ∈ keys ∧ (work.state.row key).retries then
          (work.state.row key).retry next (work.state.row key).nextAttempt
        else work.state.row key := by
  induction keys generalizing work with
  | nil => simp
  | cons first rest ih =>
    obtain ⟨apart, distinct⟩ := nodup_cons.mp distinct
    obtain ⟨records, quarantined, changes⟩ := rescheduleKey_row next work first
    obtain ⟨records', quarantined', rows⟩ := ih distinct (rescheduleKey next work first)
    -- The later keys find their rows as they were.
    have same : ∀ key ∈ rest, (rescheduleKey next work first).state.row key =
        work.state.row key := by
      intro key mem
      refine changes.elsewhere ?_
      rintro rfl
      exact apart mem
    refine ⟨?_, ?_, fun key => ?_⟩
    · rw [foldl_cons, records', records, append_assoc, filterMap_cons,
        filterMap_congr fun key mem => by rw [same key mem]]
      cases (work.state.row first).retryRecord next first <;> rfl
    · have later : rest.filter (fun key =>
          ((rescheduleKey next work first).state.row key).exhausted) =
          rest.filter fun key => (work.state.row key).exhausted :=
        filter_congr fun key mem => by rw [same key mem]
      rw [foldl_cons, quarantined', quarantined, append_assoc, later,
        ← filter_append, singleton_append]
    · rw [foldl_cons, rows]
      by_cases here : key = first
      · subst here
        simp only [apart, false_and, if_false, changes.here, mem_cons_self, true_and]
      · rw [changes.elsewhere here]
        simp [here]

theorem insertQuarantineds_row (keys : List OutboxKey) (state : OutboxState) (key : OutboxKey) :
    (keys.foldl insertQuarantined state).row key =
      if key ∈ keys then (state.row key).isolate else state.row key :=
  row_foldl insertQuarantined_moves.changes insertQuarantined_moves.again keys state key

/-- A reschedule of different keys changes each of their rows. -/
theorem reschedule_row {keys : List OutboxKey} (distinct : keys.Nodup) (afterMillis now : UInt64)
    (key : OutboxKey) :
    (state.reschedule keys afterMillis now).success.row key =
      if key ∈ keys then (state.row key).reschedule (add64 now afterMillis)
      else state.row key := by
  obtain ⟨-, quarantined, rows⟩ :=
    rescheduleKeys_row distinct (add64 now afterMillis) ⟨state, [], []⟩
  simp only [reschedule, insertQuarantineds_row, quarantined, rows, nil_append, mem_filter]
  by_cases mem : key ∈ keys
  · simp only [mem, true_and, if_true, RowView.reschedule]
    cases retries : (state.row key).retries with
    | true => simp [RowView.not_exhausted_of_retries retries]
    | false => simp
  · simp [mem]

/-- The records of a reschedule depend on the rows of its keys. -/
theorem reschedule_records_congr {other : OutboxState} {keys : List OutboxKey}
    (distinct : keys.Nodup) (afterMillis now : UInt64)
    (same : ∀ key ∈ keys, state.row key = other.row key) :
    (state.reschedule keys afterMillis now).records =
      (other.reschedule keys afterMillis now).records := by
  obtain ⟨records, quarantined, rows⟩ :=
    rescheduleKeys_row distinct (add64 now afterMillis) ⟨state, [], []⟩
  obtain ⟨records', quarantined', rows'⟩ :=
    rescheduleKeys_row distinct (add64 now afterMillis) ⟨other, [], []⟩
  have exhausted : keys.filter (fun key => (state.row key).exhausted) =
      keys.filter fun key => (other.row key).exhausted :=
    filter_congr fun key mem => by rw [same key mem]
  have retried : (keys.filterMap fun key =>
      (state.row key).retryRecord (add64 now afterMillis) key) =
      keys.filterMap fun key => (other.row key).retryRecord (add64 now afterMillis) key :=
    filterMap_congr fun key mem => by rw [same key mem]
  simp only [reschedule, records, records', quarantined, quarantined', nil_append, exhausted,
    retried, quarantineRecords]
  congr 1
  refine filterMap_congr fun key mem => ?_
  have listed := (mem_filter.mp mem).1
  have here := rows key
  rw [same key listed] at here
  exact congrArg (fun row : RowView => row.pending.map _) (here.trans (rows' key).symm)

end OutboxState

end Apex.Outbox
