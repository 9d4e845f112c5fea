import Apex.Outbox.File

/-!
The operations of the file-backed outbox.
-/

namespace Apex.Outbox

open Checked Domain Lines Saturating

/-- An operation that appends a batch: what it answers, and the state it leaves
in memory once the batch is durable or where it is refused. -/
structure Plan (α : Type) where
  records : List FileOutboxRecord
  answer : α
  success : OutboxState
  failure : OutboxState

namespace OutboxState

variable (codec : EnvelopeCodec) (state : OutboxState)

/-- An answer that needs no append. -/
def nothing {α : Type} (answer : α) : Plan α :=
  ⟨[], answer, state, state⟩

/-! ### enqueue -/

/-- The row a fresh event gets. -/
def insertPending (event : IngestRequest) (now : UInt64) : OutboxState :=
  { state with
    pendingSinceMillis := AList.insert event.key now state.pendingSinceMillis
    pending := AList.insert event.key event state.pending }

def enqueue (event : IngestRequest) (now : UInt64) : Except GatewayError (Plan EnqueueResult) :=
  match state.complete.lookup event.key with
  | some (some stored) =>
      if stored = codec.fingerprint event.envelope then .ok (state.nothing .alreadyComplete)
      else .error .idempotencyConflict
  | some none => .ok (state.nothing .alreadyComplete)
  | none =>
      match state.quarantined.lookup event.key with
      | some existing =>
          if existing.envelope = event.envelope then .ok (state.nothing .alreadyPending)
          else .error .idempotencyConflict
      | none =>
          match state.pending.lookup event.key with
          | some existing =>
              if existing.envelope = event.envelope then .ok (state.nothing .alreadyPending)
              else .error .idempotencyConflict
          | none =>
              if state.capacity ≤ state.size then .error .idempotencyCapacity
              else .ok {
                records := [.pending event.key event.envelope none none (some now)]
                answer := .enqueued
                success := state.insertPending event now
                failure := state }

/-! ### Completion -/

/-- An event whose fan-out is done, and when. -/
structure Completion where
  key : OutboxKey
  event : IngestRequest
  completedAtMillis : UInt64

def completeRecord (completion : Completion) : FileOutboxRecord :=
  .complete completion.key (some (hexFingerprint (codec.fingerprint completion.event.envelope)))
    (some completion.completedAtMillis) (some completion.event.envelope)

def insertComplete (completion : Completion) : OutboxState :=
  { state with
    pending := AList.erase completion.key state.pending
    pendingSinceMillis := AList.erase completion.key state.pendingSinceMillis
    complete := AList.insert completion.key
      (some (codec.fingerprint completion.event.envelope)) state.complete
    completeEvents := AList.insert completion.key completion.event state.completeEvents
    completedAtMillis :=
      AList.insert completion.key completion.completedAtMillis state.completedAtMillis
    nextAttemptAtMillis := AList.erase completion.key state.nextAttemptAtMillis
    attempts := AList.erase completion.key state.attempts }

def markComplete (key : OutboxKey) (now : UInt64) : Except GatewayError (Plan Unit) :=
  match state.complete.lookup key, state.pending.lookup key with
  | some _, _ => .ok (state.nothing ())
  | none, none => .error .internal
  | none, some event =>
      .ok {
        records := [completeRecord codec ⟨key, event, now⟩]
        answer := ()
        success := state.insertComplete codec ⟨key, event, now⟩
        failure := state }

/-- The completions of a list of keys; `clock` gives the time at each of its
positions. A key that is neither complete nor pending stops it. -/
def completions (clock : Nat → UInt64) : List OutboxKey → Except GatewayError (List Completion)
  | [] => .ok []
  | key :: rest => do
      let later ← completions (fun n => clock (n + 1)) rest
      match state.complete.lookup key with
      | some _ => return later
      | none =>
          let event ← require (state.pending.lookup key) GatewayError.internal
          return ⟨key, event, clock 0⟩ :: later

def markCompleteMany (keys : List OutboxKey) (clock : Nat → UInt64) :
    Except GatewayError (Plan Unit) := do
  let completions ← state.completions clock keys
  return {
    records := completions.map (completeRecord codec)
    answer := ()
    success :=
      completions.foldl (fun state completion => state.insertComplete codec completion) state
    failure := state }

/-! ### Quarantine -/

/-- The row leaves the replay work set. -/
def insertQuarantined (key : OutboxKey) : OutboxState :=
  match state.pending.lookup key with
  | none => state
  | some event =>
      { state with
        pending := AList.erase key state.pending
        nextAttemptAtMillis := AList.erase key state.nextAttemptAtMillis
        attempts := AList.erase key state.attempts
        pendingSinceMillis := AList.erase key state.pendingSinceMillis
        quarantined := AList.insert key event state.quarantined }

/-- The records of the keys that are pending. -/
def quarantineRecords (keys : List OutboxKey) (reason : String) (now : UInt64) :
    List FileOutboxRecord :=
  keys.filterMap fun key =>
    (state.pending.lookup key).map fun event => .quarantined key event.envelope reason now

def quarantine (keys : List OutboxKey) (reason : String) (now : UInt64) : Plan Unit where
  records := state.quarantineRecords keys reason now
  answer := ()
  success := keys.foldl insertQuarantined state
  failure := state

/-! ### Rescheduling -/

/-- What rescheduling has collected: the state with the new retry data, the
records of the retried rows, and the keys that are out of attempts. -/
structure Rescheduling where
  state : OutboxState
  records : List FileOutboxRecord
  quarantineKeys : List OutboxKey

/-- One key rescheduled. The retry data is changed before anything is
written. -/
def rescheduleKey (next : UInt64) (work : Rescheduling) (key : OutboxKey) : Rescheduling :=
  match work.state.pending.lookup key with
  | none => work
  | some event =>
      let attempts := next32 ((work.state.attempts.lookup key).getD 0)
      if maxPersistedAttempts ≤ attempts then
        { work with quarantineKeys := work.quarantineKeys ++ [key] }
      else
        { work with
          state := { work.state with
            nextAttemptAtMillis := AList.insert key next work.state.nextAttemptAtMillis
            attempts := AList.insert key attempts work.state.attempts }
          records := work.records ++ [.pending key event.envelope (some next) (some attempts)
            (work.state.pendingSinceMillis.lookup key)] }

def replayAttemptsExhausted : String := "replay_attempts_exhausted"

def reschedule (keys : List OutboxKey) (afterMillis now : UInt64) : Plan Unit :=
  let work := keys.foldl (rescheduleKey (add64 now afterMillis)) ⟨state, [], []⟩
  { records := work.records ++
      work.state.quarantineRecords work.quarantineKeys replayAttemptsExhausted now
    answer := ()
    success := work.quarantineKeys.foldl insertQuarantined work.state
    failure := work.state }

/-! ### Requeueing -/

/-- The row is replay work again. -/
def insertRequeued (now : UInt64) (state : OutboxState) (key : OutboxKey) : OutboxState :=
  match state.quarantined.lookup key with
  | none => state
  | some event =>
      { state with
        quarantined := AList.erase key state.quarantined
        pendingSinceMillis := AList.insert key now state.pendingSinceMillis
        pending := AList.insert key event state.pending }

def requeueQuarantined (keys : List OutboxKey) (now : UInt64) : Plan Unit where
  records := keys.filterMap fun key =>
    (state.quarantined.lookup key).map fun event =>
      .pending key event.envelope none none (some now)
  answer := ()
  success := keys.foldl (insertRequeued now) state
  failure := state

/-! ### Retention -/

/-- The orders in which compaction scans the hash maps. -/
structure OutboxScan where
  pending : Scan OutboxKey IngestRequest
  complete : Scan OutboxKey (Option Fingerprint)
  quarantined : Scan OutboxKey IngestRequest

def OutboxScan.stored : OutboxScan :=
  ⟨Scan.stored _ _, Scan.stored _ _, Scan.stored _ _⟩

/-- The records the journal is rewritten to; `clock` gives the time at each
quarantined row. -/
def snapshotRecords (scan : OutboxScan) (clock : Nat → UInt64) : List FileOutboxRecord :=
  (scan.pending.order state.pending).map (fun (key, event) =>
      .pending key event.envelope (state.nextAttemptAtMillis.lookup key)
        (state.attempts.lookup key) (state.pendingSinceMillis.lookup key)) ++
    (scan.complete.order state.complete).map (fun (key, fingerprint) =>
      .complete key (fingerprint.map hexFingerprint) (state.completedAtMillis.lookup key)
        ((state.completeEvents.lookup key).map IngestRequest.envelope)) ++
    (scan.quarantined.order state.quarantined).zipIdx.map fun ((key, event), index) =>
      .quarantined key event.envelope replayAttemptsExhausted (clock index)

/-- The completed keys that are past retention. -/
def expired (cutoff : UInt64) : List OutboxKey :=
  (state.completedAtMillis.toPairs.filter fun (_, completedAt) => completedAt ≤ cutoff).map Prod.fst

def removeCompleted (state : OutboxState) (key : OutboxKey) : OutboxState :=
  { state with
    complete := AList.erase key state.complete
    completeEvents := AList.erase key state.completeEvents
    completedAtMillis := AList.erase key state.completedAtMillis }

end OutboxState

namespace FileOutbox

/-- Carries out a planned operation. -/
def commit {α : Type} (outbox : FileOutbox) (plan : Except GatewayError (Plan α)) :
    Except GatewayError α × FileOutbox :=
  match plan with
  | .error e => (.error e, outbox)
  | .ok plan =>
      match outbox.appendBatch plan.records with
      | .error e => (.error e, { outbox with state := plan.failure })
      | .ok appended => (.ok plan.answer, { appended with state := plan.success })

/-- Rewrites the journal; the records are not checked against the record limit. -/
def compactJournal (outbox : FileOutbox) (scan : OutboxState.OutboxScan) (clock : Nat → UInt64) :
    Except GatewayError FileOutbox := do
  let encoded := encodeBatch (outbox.state.snapshotRecords scan clock)
  ensure (byteLength encoded ≤ maxOutboxFileBytes) GatewayError.idempotencyCapacity
  return { outbox with journal := encoded }

/-- Drops the completed rows past retention and rewrites the journal. -/
def maintain (outbox : FileOutbox) (now retention : UInt64) (scan : OutboxState.OutboxScan)
    (clock : Nat → UInt64) : Except GatewayError Unit × FileOutbox :=
  let expired := outbox.state.expired (sub64 now retention)
  if expired.isEmpty then (.ok (), outbox)
  else
    match compactJournal
      { outbox with state := expired.foldl OutboxState.removeCompleted outbox.state } scan
      clock with
    | .error e => (.error e, outbox)
    | .ok compacted => (.ok (), compacted)

end FileOutbox

end Apex.Outbox
