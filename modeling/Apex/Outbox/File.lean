import Apex.Lib.KeyMap
import Apex.Lib.Saturating
import Apex.Outbox.Record

/-!
The file-backed outbox: its in-memory state, the journal, and the replay that
rebuilds the one from the other.

Every operation but `maintain` has one shape: it looks at the state, appends a
batch of records, and changes the state once the batch is durable. Such an
operation is a `Plan`, so that a crash in the middle of its append can be
spoken about. `maintain` rewrites the journal instead.
-/

namespace Apex.Outbox

open Checked Domain Lines Saturating

def maxOutboxRecordBytes : Nat := maxEnvelopeBytes * 4

def maxOutboxFileBytes : Nat := 256 * 1024 * 1024

def maxPersistedAttempts : UInt32 := 8

structure OutboxState where
  capacity : Nat
  pending : KeyMap OutboxKey IngestRequest
  complete : KeyMap OutboxKey (Option Fingerprint)
  completeEvents : KeyMap OutboxKey IngestRequest
  completedAtMillis : KeyMap OutboxKey UInt64
  nextAttemptAtMillis : KeyMap OutboxKey UInt64
  attempts : KeyMap OutboxKey UInt32
  quarantined : KeyMap OutboxKey IngestRequest
  pendingSinceMillis : KeyMap OutboxKey UInt64

structure FileOutbox where
  journal : List Char
  state : OutboxState

inductive EnqueueResult where
  | enqueued
  | alreadyPending
  | alreadyComplete
  deriving DecidableEq, Repr

/-- Inserts a value that is there and removes the key otherwise. -/
def setOrRemove {ν : Type} (m : KeyMap OutboxKey ν) (key : OutboxKey) (value : Option ν) :
    KeyMap OutboxKey ν :=
  value.elim (AList.erase key m) fun value => AList.insert key value m

namespace OutboxState

def empty (capacity : Nat) : OutboxState where
  capacity := capacity
  pending := ∅
  complete := ∅
  completeEvents := ∅
  completedAtMillis := ∅
  nextAttemptAtMillis := ∅
  attempts := ∅
  quarantined := ∅
  pendingSinceMillis := ∅

/-- The rows that count against the capacity. -/
def size (state : OutboxState) : Nat :=
  state.pending.keys.length + state.complete.keys.length + state.quarantined.keys.length

/-! ### Replay -/

/-- Whether an envelope decodes to the event a record names. -/
def names (event : IngestRequest) (key : OutboxKey) : Bool :=
  event.eventId = key.eventId && event.workspaceId = key.workspaceId &&
    event.namespaceId = key.namespaceId

/-- A replayed pending record. `now` is the fallback for journals that have no
arrival time. -/
def applyPending (codec : EnvelopeCodec) (now : UInt64) (state : OutboxState) (key : OutboxKey)
    (envelope : List UInt8) (nextAttemptAtMillis : Option UInt64) (attempts : Option UInt32)
    (createdAtMillis : Option UInt64) : Except GatewayError OutboxState := do
  ensure (!envelope.isEmpty && envelope.length ≤ maxEnvelopeBytes)
    GatewayError.invalidOutboxConfiguration
  let event ← require (codec.rebuild envelope) GatewayError.invalidOutboxConfiguration
  ensure (names event key && event.envelope = envelope) GatewayError.invalidOutboxConfiguration
  let admitted ← match state.pending.lookup key with
    | some existing => do
        ensure (existing.envelope = event.envelope) GatewayError.idempotencyConflict
        pure state
    | none => pure { state with
        quarantined := AList.erase key state.quarantined
        pending := AList.insert key event state.pending }
  return { admitted with
    nextAttemptAtMillis := setOrRemove state.nextAttemptAtMillis key nextAttemptAtMillis
    attempts := setOrRemove state.attempts key attempts
    pendingSinceMillis := AList.insert key
      (createdAtMillis.getD ((state.pendingSinceMillis.lookup key).getD now))
      state.pendingSinceMillis }

/-- The event behind a completed record, where its bytes were kept. -/
def reconstruct (codec : EnvelopeCodec) (key : OutboxKey) :
    Option (List UInt8) → Except GatewayError (Option IngestRequest)
  | none => .ok none
  | some envelope => do
      let event ← require (codec.rebuild envelope) GatewayError.invalidOutboxConfiguration
      ensure (names event key && event.envelope = envelope) GatewayError.invalidOutboxConfiguration
      return some event

/-- The fingerprint of a completed record: its own, or for journals without one
that of the event it completes. -/
def completeFingerprint (codec : EnvelopeCodec) (pendingEvent : Option IngestRequest) :
    Option String → Except GatewayError (Option Fingerprint)
  | some hex => do
      let parsed ← require (parseFingerprint hex) GatewayError.invalidOutboxConfiguration
      return some parsed
  | none => .ok (pendingEvent.map fun event => codec.fingerprint event.envelope)

def applyComplete (codec : EnvelopeCodec) (state : OutboxState) (key : OutboxKey)
    (envelopeSha256 : Option String) (completedAtMillis : Option UInt64)
    (envelope : Option (List UInt8)) : Except GatewayError OutboxState := do
  let pendingEvent := state.pending.lookup key
  let reconstructed ← reconstruct codec key envelope
  let fingerprint ← completeFingerprint codec pendingEvent envelopeSha256
  return { state with
    pending := AList.erase key state.pending
    pendingSinceMillis := AList.erase key state.pendingSinceMillis
    complete := AList.insert key fingerprint state.complete
    completeEvents := (reconstructed.or pendingEvent).elim state.completeEvents fun event =>
      AList.insert key event state.completeEvents
    completedAtMillis := completedAtMillis.elim state.completedAtMillis fun at_ =>
      AList.insert key at_ state.completedAtMillis }

def applyQuarantined (codec : EnvelopeCodec) (state : OutboxState) (key : OutboxKey)
    (envelope : List UInt8) : Except GatewayError OutboxState := do
  let event ← require (codec.rebuild envelope) GatewayError.invalidOutboxConfiguration
  ensure (names event key) GatewayError.invalidOutboxConfiguration
  return { state with
    pending := AList.erase key state.pending
    pendingSinceMillis := AList.erase key state.pendingSinceMillis
    quarantined := AList.insert key event state.quarantined }

/-- The change a replayed record makes. -/
def applyChange (codec : EnvelopeCodec) (now : UInt64) (state : OutboxState) :
    FileOutboxRecord → Except GatewayError OutboxState
  | .pending key envelope nextAttemptAtMillis attempts createdAtMillis =>
      state.applyPending codec now key envelope nextAttemptAtMillis attempts createdAtMillis
  | .complete key envelopeSha256 completedAtMillis envelope =>
      state.applyComplete codec key envelopeSha256 completedAtMillis envelope
  | .quarantined key envelope _ _ => state.applyQuarantined codec key envelope

/-- One replayed record, with the capacity check that follows it. -/
def applyRecord (codec : EnvelopeCodec) (now : UInt64) (state : OutboxState)
    (record : FileOutboxRecord) : Except GatewayError OutboxState := do
  let next ← state.applyChange codec now record
  ensure (next.size ≤ next.capacity) GatewayError.idempotencyCapacity
  return next

/-- The lines of the journal replayed in order. The result says to which length
the file is cut back: a last line that is no record is dropped where a record
was read before it. -/
def loadLines (codec : EnvelopeCodec) (now : UInt64) (state : OutboxState) (goodBytes : Nat)
    (parsedAny : Bool) : List (List Char) → Except GatewayError (OutboxState × Option Nat)
  | [] => .ok (state, none)
  | line :: rest =>
      if line.isEmpty then
        if rest.isEmpty then .ok (state, none) else .error .invalidOutboxConfiguration
      else if maxOutboxRecordBytes < byteLength line then .error .invalidOutboxConfiguration
      else
        match FileOutboxRecord.decode line with
        | none =>
            if rest.isEmpty && parsedAny then .ok (state, some goodBytes)
            else .error .invalidOutboxConfiguration
        | some record => do
            let next ← state.applyRecord codec now record
            loadLines codec now next (goodBytes + byteLength line + 1) true rest

end OutboxState

namespace FileOutbox

/-- Opens the outbox over what its file holds; a torn last line is cut off. -/
def «open» (codec : EnvelopeCodec) (capacity : Nat) (now : UInt64) (journal : List Char) :
    Except GatewayError FileOutbox := do
  ensure (0 < capacity && capacity ≤ 1000000) GatewayError.idempotencyCapacity
  ensure (byteLength journal ≤ maxOutboxFileBytes) GatewayError.invalidOutboxConfiguration
  let (state, cut) ← (OutboxState.empty capacity).loadLines codec now 0 false (lines journal)
  return { journal := cut.elim journal fun length => takeBytes length journal, state }

/-- The text of a batch of records. -/
def encodeBatch (records : List FileOutboxRecord) : List Char :=
  unlines (records.map FileOutboxRecord.encode)

/-- The checks before a batch is written. -/
def checkBatch (outbox : FileOutbox) (records : List FileOutboxRecord) :
    Except GatewayError Unit := do
  forM records fun record =>
    ensure (byteLength (record.encode ++ ['\n']) ≤ maxOutboxRecordBytes)
      GatewayError.payloadTooLarge
  ensure (byteLength outbox.journal + byteLength (encodeBatch records) ≤ maxOutboxFileBytes)
    GatewayError.idempotencyCapacity

def appendBatch (outbox : FileOutbox) (records : List FileOutboxRecord) :
    Except GatewayError FileOutbox := do
  if records.isEmpty then return outbox
  outbox.checkBatch records
  return { outbox with journal := outbox.journal ++ encodeBatch records }

end FileOutbox

end Apex.Outbox
