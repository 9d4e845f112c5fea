import Apex.Control.Error
import Apex.Outbox.Failures

/-!
The fan-out worker of the control plane.

A cycle reads the events that are due, publishes each of them, settles the ones
that were published in one batch, notes the others as failed attempts,
reschedules them group by group, and quarantines those that are out of attempts.
The failure counts and deadlines are in memory only. Between the accesses of a
cycle the outbox is free, so submissions, requeues and retention sweeps come in
between; each access takes the lock, which may be poisoned, and writes, which may
fail and leave bytes in the file. When a cycle starts, and how the worker drains
on shutdown, is left to the run: a `read` may come at any time.
-/

namespace Apex.Fanout

open Control Domain Outbox Saturating

def fanoutBatchSize : Nat := 256

def minRetryDelayMillis : Nat := 5000

def maxRetryDelayMillis : Nat := 60000

def maxReplayAttempts : UInt32 := 8

/-- `retry_delay` in milliseconds: exponential in the attempts, with a jitter
that the key decides. -/
def retryDelay (sha256 : List UInt8 → Fingerprint) (key : OutboxKey) (attempts : UInt32) : Nat :=
  let base := min (minRetryDelayMillis * 2 ^ min attempts.toNat 4) maxRetryDelayMillis
  let input := key.workspaceId.toUTF8.toList ++ 0 :: key.namespaceId.toUTF8.toList ++
    0 :: key.eventId.toUTF8.toList
  let digest := (sha256 input).bytes
  base + ((digest.getD 0 0).toNat * 256 + (digest.getD 1 0).toNat) % 1000

/-- A point of the monotonic clock, in nanoseconds. -/
abbrev Instant : Type := Nat

/-- `Instant + Duration` for a duration in milliseconds. -/
def Instant.addMillis (instant : Instant) (millis : Nat) : Instant :=
  instant + millis * 1000000

/-- What can go wrong with an access of the outbox: its lock is poisoned, or the
storage fails. -/
inductive Fault where
  | lock
  | storage (fault : AppendFault)
  deriving DecidableEq, Repr

/-- `with_lock_from_async` around an operation of the outbox. -/
def withLock {α : Type} (fault : Option Fault) (outbox : HeldOutbox)
    (plan : Except GatewayError (Plan α)) :
    Except CommandError (Except GatewayError α) × HeldOutbox :=
  match fault with
  | some .lock => (.error .internal, outbox)
  | some (.storage fault) => (outbox.commit (some fault) plan).map .ok id
  | none => (outbox.commit none plan).map .ok id

/-- `??` on the nested result. -/
def flatten {α : Type} : Except CommandError (Except GatewayError α) → Except CommandError α
  | .error e => .error e
  | .ok (.error e) => .error (.fromGatewayError e)
  | .ok (.ok answer) => .ok answer

/-- What a publisher did with an event. -/
inductive PublishResult where
  | published
  | alreadyComplete
  | failed
  | panicked
  deriving DecidableEq, Repr

/-- `Ok(_)`: the event is durable at its destination. -/
def PublishResult.isOk : PublishResult → Bool
  | .published | .alreadyComplete => true
  | .failed | .panicked => false

/-- Where the worker is in its cycle. -/
inductive Phase where
  | idle
  | publishing (batch : List IngestRequest)
  | retrying (groups : List (Nat × List OutboxKey)) (quarantine : List OutboxKey)
  deriving DecidableEq, Repr

structure Worker where
  outbox : HeldOutbox
  failures : KeyMap OutboxKey UInt32
  notBefore : KeyMap OutboxKey Instant
  phase : Phase
  /-- The last point of time the worker looked at the clock for a batch. -/
  instant : Instant

/-- A worker that has just been spawned. -/
def Worker.spawn (outbox : FileOutbox) : Worker :=
  ⟨⟨outbox, true⟩, ∅, ∅, .idle, 0⟩

/-! ### Reading -/

/-- `pending_batch`: the rows whose stored retry time has come, as the hash map
is scanned. -/
def pendingBatch (state : OutboxState) (scan : Scan OutboxKey IngestRequest) (limit : Nat)
    (now : UInt64) : List IngestRequest :=
  (((scan.order state.pending).filter fun (key, _) =>
    (state.nextAttemptAtMillis.lookup key).getD 0 ≤ now).take limit).map Prod.snd

/-- The events a cycle publishes: those the worker does not hold back itself. -/
def Worker.due (worker : Worker) (instant : Instant) (now : UInt64)
    (scan : Scan OutboxKey IngestRequest) : List IngestRequest :=
  (pendingBatch worker.outbox.state scan fanoutBatchSize now).filter fun event =>
    (worker.notBefore.lookup event.key).all (· ≤ instant)

def Worker.read (worker : Worker) (fault : Option Fault) (elapsed : Nat) (now : UInt64)
    (scan : Scan OutboxKey IngestRequest) : Worker :=
  let instant := worker.instant + elapsed
  match worker.phase, fault with
  | .idle, none =>
      let batch := worker.due instant now scan
      { worker with
        instant := instant
        phase := if batch.isEmpty then .idle else .publishing batch }
  | _, _ => { worker with instant := instant }

/-! ### Settling -/

/-- What the loop over the failed keys collects. -/
structure Noted where
  failures : KeyMap OutboxKey UInt32
  notBefore : KeyMap OutboxKey Instant
  groups : KeyMap Nat (List OutboxKey)
  quarantine : List OutboxKey

/-- One failed attempt. `instants` gives the time at which the key is looked
at. -/
def noteFailure (sha256 : List UInt8 → Fingerprint) (instants : OutboxKey → Instant)
    (noted : Noted) (key : OutboxKey) : Noted :=
  let attempts := next32 ((noted.failures.lookup key).getD 0)
  let counted := { noted with failures := AList.insert key attempts noted.failures }
  if maxReplayAttempts ≤ attempts then { counted with quarantine := noted.quarantine ++ [key] }
  else
    let delay := retryDelay sha256 key attempts
    { counted with
      notBefore := AList.insert key ((instants key).addMillis delay) noted.notBefore
      groups := AList.insert delay ((noted.groups.lookup delay).getD [] ++ [key]) noted.groups }

/-- The keys of a batch whose events were published, and those of the others. -/
def publishedKeys (publish : IngestRequest → PublishResult) (batch : List IngestRequest) :
    List OutboxKey :=
  (batch.filter fun event => (publish event).isOk).map IngestRequest.key

def failedKeys (publish : IngestRequest → PublishResult) (batch : List IngestRequest) :
    List OutboxKey :=
  (batch.filter fun event => !(publish event).isOk).map IngestRequest.key

/-- The bookkeeping without some keys. -/
def Worker.forget (worker : Worker) (keys : List OutboxKey) : Worker :=
  { worker with
    failures := worker.failures.retain fun key _ => !keys.contains key
    notBefore := worker.notBefore.retain fun key _ => !keys.contains key }

/-- The published events settled in one batch, and the keys that are to be noted
as failed. Only the outer result is looked at: an error of the storage inside it
counts as settled. -/
def Worker.settlePublished (codec : EnvelopeCodec) (worker : Worker)
    (completed failed : List OutboxKey)
    (fault : Option Fault) (clock : Nat → UInt64) : Worker × List OutboxKey :=
  if completed.isEmpty then (worker, failed)
  else
    let (result, outbox) :=
      withLock fault worker.outbox (worker.outbox.state.markCompleteMany codec completed clock)
    match result with
    | .error _ => ({ worker with outbox }, failed ++ completed)
    | .ok _ => ({ worker with outbox }.forget completed, failed)

/-- The failed keys counted, and the rest of the cycle laid out. -/
def Worker.noteFailures (sha256 : List UInt8 → Fingerprint) (worker : Worker)
    (failed : List OutboxKey) (instants : OutboxKey → Instant)
    (order : Scan Nat (List OutboxKey)) : Worker :=
  let noted := failed.foldl (noteFailure sha256 instants) ⟨worker.failures, worker.notBefore, ∅, []⟩
  { worker with
    failures := noted.failures
    notBefore := noted.notBefore
    phase :=
      if failed.isEmpty then .idle
      else .retrying (order.order noted.groups) noted.quarantine }

def Worker.settle (codec : EnvelopeCodec) (sha256 : List UInt8 → Fingerprint) (worker : Worker)
    (publish : IngestRequest → PublishResult) (fault : Option Fault) (clock : Nat → UInt64)
    (instants : OutboxKey → Instant) (order : Scan Nat (List OutboxKey)) : Worker :=
  match worker.phase with
  | .publishing batch =>
      let (settled, failed) := worker.settlePublished codec (publishedKeys publish batch)
        (failedKeys publish batch) fault clock
      settled.noteFailures sha256 failed instants order
  | _ => worker

/-! ### Rescheduling and quarantine -/

/-- The next group of failed keys; a failure is only counted in the metrics. -/
def Worker.reschedule (worker : Worker) (fault : Option Fault) (now : UInt64) : Worker :=
  match worker.phase with
  | .retrying ((delay, keys) :: groups) quarantine =>
      { worker with
        outbox := (withLock fault worker.outbox
          (.ok (worker.outbox.state.reschedule keys (UInt64.ofNat delay) now))).2
        phase := .retrying groups quarantine }
  | _ => worker

/-- The keys that are out of attempts, and the end of the cycle. -/
def Worker.quarantine (worker : Worker) (fault : Option Fault) (now : UInt64) : Worker :=
  match worker.phase with
  | .retrying [] [] => { worker with phase := .idle }
  | .retrying [] keys =>
      let (result, outbox) := withLock fault worker.outbox
        (.ok (worker.outbox.state.quarantine keys OutboxState.replayAttemptsExhausted now))
      match flatten result with
      | .ok _ => { worker with outbox, phase := .idle }.forget keys
      | .error _ => { worker with outbox, phase := .idle }
  | _ => worker

/-! ### Runs -/

/-- What others do to the outbox while the worker is running. -/
inductive Interference (codec : EnvelopeCodec) where
  | enqueue (event : IngestRequest) (admitted : Admitted codec event) (now : UInt64)
  | requeueQuarantined (keys : List OutboxKey) (now : UInt64)
  | maintain (now retention : UInt64) (scan : OutboxState.OutboxScan) (clock : Nat → UInt64)

def Interference.apply {codec : EnvelopeCodec} (faults : Faults) (outbox : HeldOutbox) :
    Interference codec → HeldOutbox
  | .enqueue event _ now => (outbox.commit faults.append (outbox.state.enqueue codec event now)).2
  | .requeueQuarantined keys now =>
      (outbox.commit faults.append (.ok (outbox.state.requeueQuarantined keys now))).2
  | .maintain now retention scan clock =>
      (outbox.maintain faults.compact now retention scan clock).2

inductive FanoutAction (codec : EnvelopeCodec) where
  | other (op : Interference codec) (faults : Faults)
  | read (fault : Option Fault) (elapsed : Nat) (now : UInt64) (scan : Scan OutboxKey IngestRequest)
  | settle (publish : IngestRequest → PublishResult) (fault : Option Fault)
      (clock : Nat → UInt64) (instants : OutboxKey → Instant) (order : Scan Nat (List OutboxKey))
  | reschedule (fault : Option Fault) (now : UInt64)
  | quarantine (fault : Option Fault) (now : UInt64)

def fanoutStep (codec : EnvelopeCodec) (sha256 : List UInt8 → Fingerprint) (worker : Worker) :
    FanoutAction codec → Worker
  | .other op faults => { worker with outbox := op.apply faults worker.outbox }
  | .read fault elapsed now scan => worker.read fault elapsed now scan
  | .settle publish fault clock instants order =>
      worker.settle codec sha256 publish fault clock instants order
  | .reschedule fault now => worker.reschedule fault now
  | .quarantine fault now => worker.quarantine fault now

end Apex.Fanout
