import Apex.Lib.Transactions
import Apex.Outbox.Operations

/-!
The outbox trait, and the outbox over a PostgreSQL table.

The trait is a structure whose fields have the default bodies of the trait's
methods; a backend overrides the ones it implements. The calls are sequential:
each finds the table as the last one left it, and no other connection holds a
row lock.
-/

namespace Apex.Outbox

open Checked Domain

/-! ### The trait -/

/-- `EventOutbox`, over the state `σ` of a backend. A duration is a number of
nanoseconds. -/
structure EventOutbox (σ : Type) where
  checkAdmissionReadiness : (workspaceId namespaceId : String) → Raising σ GatewayError Unit :=
    fun _ _ => .raise .internal
  enqueue : IngestRequest → Raising σ GatewayError EnqueueResult
  markComplete : OutboxKey → Raising σ GatewayError Unit
  markCompleteMany : List OutboxKey → Raising σ GatewayError Unit :=
    Raising.forEach markComplete
  pending : σ → σ × List IngestRequest
  pendingBatch : (limit : Nat) → Raising σ GatewayError (List IngestRequest) :=
    fun limit state => ((pending state).1, .ok ((pending state).2.take limit))
  pendingCount : Raising σ GatewayError Nat :=
    fun state => ((pending state).1, .ok (pending state).2.length)
  recentCompletedBatch : (sinceMillis : UInt64) → (limit : Nat) →
      Raising σ GatewayError (List IngestRequest) :=
    fun _ _ => pure []
  pendingReconciliationBatch : (limit : Nat) → Raising σ GatewayError (List IngestRequest) :=
    fun _ => pure []
  reschedule : List OutboxKey → (after : Nat) → Raising σ GatewayError Unit :=
    fun _ _ => pure ()
  quarantine : List OutboxKey → (reason : String) → Raising σ GatewayError Unit :=
    fun _ _ => pure ()
  quarantinedBatch : (limit : Nat) → Raising σ GatewayError (List OutboxKey) :=
    fun _ => pure []
  quarantinedCount : Raising σ GatewayError Nat :=
    pure 0
  oldestPendingMillis : Raising σ GatewayError (Option UInt64) :=
    pure none
  requeueQuarantined : List OutboxKey → Raising σ GatewayError Unit :=
    fun _ => pure ()
  maintain : (nowMillis retentionMillis : UInt64) → Raising σ GatewayError Unit :=
    fun _ _ => pure ()

/-- A method of the trait with its arguments. -/
inductive Method where
  | checkAdmissionReadiness (workspaceId namespaceId : String)
  | enqueue (event : IngestRequest)
  | markComplete (key : OutboxKey)
  | markCompleteMany (keys : List OutboxKey)
  | pendingBatch (limit : Nat)
  | pendingCount
  | recentCompletedBatch (sinceMillis : UInt64) (limit : Nat)
  | pendingReconciliationBatch (limit : Nat)
  | reschedule (keys : List OutboxKey) (after : Nat)
  | quarantine (keys : List OutboxKey) (reason : String)
  | quarantinedBatch (limit : Nat)
  | quarantinedCount
  | oldestPendingMillis
  | requeueQuarantined (keys : List OutboxKey)
  | maintain (nowMillis retentionMillis : UInt64)
  | pending

def Method.Answer : Method → Type
  | .enqueue _ => Except GatewayError EnqueueResult
  | .pendingBatch _ | .recentCompletedBatch _ _ | .pendingReconciliationBatch _ =>
      Except GatewayError (List IngestRequest)
  | .pendingCount | .quarantinedCount => Except GatewayError Nat
  | .quarantinedBatch _ => Except GatewayError (List OutboxKey)
  | .oldestPendingMillis => Except GatewayError (Option UInt64)
  | .pending => List IngestRequest
  | .checkAdmissionReadiness _ _ | .markComplete _ | .markCompleteMany _ | .reschedule _ _
  | .quarantine _ _ | .requeueQuarantined _ | .maintain _ _ => Except GatewayError Unit

def EventOutbox.call {σ : Type} (outbox : EventOutbox σ) :
    (method : Method) → σ → σ × method.Answer
  | .checkAdmissionReadiness workspaceId namespaceId =>
      outbox.checkAdmissionReadiness workspaceId namespaceId
  | .enqueue event => outbox.enqueue event
  | .markComplete key => outbox.markComplete key
  | .markCompleteMany keys => outbox.markCompleteMany keys
  | .pendingBatch limit => outbox.pendingBatch limit
  | .pendingCount => outbox.pendingCount
  | .recentCompletedBatch sinceMillis limit => outbox.recentCompletedBatch sinceMillis limit
  | .pendingReconciliationBatch limit => outbox.pendingReconciliationBatch limit
  | .reschedule keys after => outbox.reschedule keys after
  | .quarantine keys reason => outbox.quarantine keys reason
  | .quarantinedBatch limit => outbox.quarantinedBatch limit
  | .quarantinedCount => outbox.quarantinedCount
  | .oldestPendingMillis => outbox.oldestPendingMillis
  | .requeueQuarantined keys => outbox.requeueQuarantined keys
  | .maintain nowMillis retentionMillis => outbox.maintain nowMillis retentionMillis
  | .pending => outbox.pending

end Apex.Outbox

namespace Apex.Outbox.Postgres

open Checked Domain

/-! ### The table -/

/-- The 16 bytes of a UUID. -/
structure Uuid where
  bytes : List UInt8
  length_eq : bytes.length = 16
  deriving DecidableEq

/-- Text without a NUL byte, which no `TEXT` value has. -/
def isStorable (text : String) : Bool :=
  !text.toList.contains (Char.ofNat 0)

structure RowKey where
  workspaceId : String
  namespaceId : String
  eventId : Uuid
  storable : (isStorable workspaceId && isStorable namespaceId) = true
  deriving DecidableEq

/-- The two values of the `state` column; `completed_at` is set with the second. -/
inductive RowState where
  | pending
  | complete (completedAt : Int)
  deriving DecidableEq, Repr

/-- `quarantined_at` and `quarantine_reason`, which are set together. -/
structure Quarantine where
  quarantinedAt : Int
  reason : String
  deriving DecidableEq, Repr

/-- A row of `apex_event_outbox`. A time is a number of microseconds. -/
structure Row where
  envelope : List UInt8
  payloadHash : Fingerprint
  state : RowState
  attempts : Nat
  nextAttemptAt : Int
  createdAt : Int
  quarantine : Option Quarantine
  deriving DecidableEq

abbrev Table : Type := KeyMap RowKey Row

/-- `state = 'pending' AND quarantined_at IS NULL`. -/
def Row.waiting (row : Row) : Bool :=
  row.state = .pending && row.quarantine.isNone

/-- `state = 'pending' AND quarantined_at IS NOT NULL`. -/
def Row.quarantined (row : Row) : Bool :=
  row.state = .pending && row.quarantine.isSome

/-- The largest value of an `INTEGER` column. -/
def maxInteger : Nat := 2147483647

/-! ### The server -/

/-- What the UUID library and the server compute from the arguments of a call.
Times that cannot be represented fail the statement. Every column decodes: the
server is one whose `EXTRACT` is a double, as `oldest_pending_millis` reads it (a
numeric one makes that call panic). -/
structure Server where
  /-- `Uuid::from_str`. -/
  parseUuid : String → Option Uuid
  /-- `Uuid::to_string`. -/
  uuidText : Uuid → String
  parse_text : ∀ uuid, parseUuid (uuidText uuid) = some uuid
  /-- `make_interval(secs => …)` of a duration. -/
  makeInterval : Nat → Option Int
  /-- `to_timestamp(… / 1000.0)`. -/
  toTimestamp : UInt64 → Option Int
  /-- `to_timestamp(… / 1000.0) - make_interval(secs => … / 1000.0)`. -/
  cutoff : UInt64 → UInt64 → Option Int
  /-- `EXTRACT(EPOCH FROM …) * 1000.0`, cut to a non-negative integer. -/
  epochMillis : Int → UInt64

/-- What a call finds at the server beside the table. -/
structure Session where
  /-- `now()`. -/
  now : Int
  /-- `n_live_tup`, where the statistics have a row for the table. -/
  liveTuples : Option Int
  /-- The catalog query of the readiness check. -/
  usable : Bool
  /-- The order of rows that a query does not order. -/
  scan : Scan RowKey Row

/-! ### Queries -/

/-- `SELECT … WHERE … ORDER BY … LIMIT …`. -/
def select (session : Session) (table : Table) (selects : Row → Bool) (sortKey : Row → Int)
    (limit : Nat) : List (RowKey × Row) :=
  (((session.scan.order table).filter fun (_, row) => selects row).insertionSort
    fun a b => sortKey a.2 ≤ sortKey b.2).take limit

/-- The bound every batch is cut to. -/
def batchLimit (limit : Nat) : Nat :=
  min limit 10000

section Keys

variable (server : Server)

/-- The columns of a key; a text that cannot be stored fails the statement it is
passed to. -/
def rowKey (key : OutboxKey) : Option RowKey :=
  (server.parseUuid key.eventId).bind fun eventId =>
    if storable : (isStorable key.workspaceId && isStorable key.namespaceId) = true then
      some ⟨key.workspaceId, key.namespaceId, eventId, storable⟩
    else none

/-- The arrays of the columns a list of keys is passed as. -/
def rowKeys (keys : List OutboxKey) : Option (List RowKey) :=
  keys.mapM (rowKey server)

def outboxKey (key : RowKey) : OutboxKey :=
  ⟨key.workspaceId, key.namespaceId, server.uuidText key.eventId⟩

def validKey (key : OutboxKey) : Bool :=
  isScopeIdentifier key.workspaceId && isScopeIdentifier key.namespaceId &&
    isLowercaseUuidV7 key.eventId

/-- The loop over the keys of a group, each checked before it is parsed. -/
def checkedRowKeys (keys : List OutboxKey) : Except GatewayError (List RowKey) :=
  keys.mapM fun key => do
    ensure (validKey key) GatewayError.invalidOutboxConfiguration
    require (rowKey server key) GatewayError.internal

end Keys

/-! ### Admission -/

inductive CapacityDecision where
  | allow
  | deny
  | exactRecheck
  deriving DecidableEq, Repr

def capacityDecision (estimate : Int) (capacity margin : Nat) : CapacityDecision :=
  if estimate.toNat + margin < capacity then .allow
  else if capacity ≤ estimate.toNat - margin then .deny
  else .exactRecheck

def capacityMargin (capacity : Nat) : Nat :=
  min (max (capacity / 20) 64) (max capacity 1)

section Operations

variable (server : Server) (codec : EnvelopeCodec) (capacity : Nat) (session : Session)

/-- `postgres_readiness::check` for the outbox, on a worker connection. -/
def checkAdmissionReadiness (workspaceId namespaceId : String) :
    Raising Table GatewayError Unit := do
  .ofExcept (ensure (isScopeIdentifier workspaceId && isScopeIdentifier namespaceId)
    GatewayError.scopeDenied)
  .ofExcept (ensure session.usable GatewayError.internal)
  let table ← .read
  .ofExcept (ensure (table.keys.length < capacity) GatewayError.idempotencyCapacity)

/-- The answer for an event whose key has a row. -/
def existingResult (event : IngestRequest) (row : Row) : Except GatewayError EnqueueResult :=
  match row.state with
  | .complete _ =>
      if row.envelope = event.envelope then .ok .alreadyComplete else .error .idempotencyConflict
  | .pending =>
      if row.envelope = event.envelope then .ok .alreadyPending else .error .idempotencyConflict

/-- The capacity check before an insertion. -/
def admits (table : Table) : Bool :=
  match capacityDecision (session.liveTuples.getD 0) capacity (capacityMargin capacity) with
  | .allow => true
  | .deny => false
  | .exactRecheck => table.keys.length < capacity

def freshRow (event : IngestRequest) : Row where
  envelope := event.envelope
  payloadHash := codec.fingerprint event.envelope
  state := .pending
  attempts := 0
  nextAttemptAt := session.now
  createdAt := session.now
  quarantine := none

def enqueue (event : IngestRequest) : Raising Table GatewayError EnqueueResult := do
  .ofExcept (ensure (validKey event.key) GatewayError.invalidOutboxConfiguration)
  .ofExcept (ensure (!event.envelope.isEmpty && event.envelope.length ≤ maxEnvelopeBytes)
    GatewayError.invalidEnvelope)
  let key ← .ofExcept (require (rowKey server event.key) GatewayError.internal)
  .transaction do
    let table ← .read
    match table.lookup key with
    | some row => .ofExcept (existingResult event row)
    | none => do
        .ofExcept (ensure (admits capacity session table) GatewayError.idempotencyCapacity)
        -- No other connection inserts the row in between.
        .modify fun table => AList.insert key (freshRow codec session event) table
        pure .enqueued

/-! ### Completion -/

def Row.completed (row : Row) : Row :=
  { row with state := .complete session.now }

def markComplete (key : OutboxKey) : Raising Table GatewayError Unit := do
  .ofExcept (ensure (validKey key) GatewayError.invalidOutboxConfiguration)
  let key ← .ofExcept (require (rowKey server key) GatewayError.internal)
  let table ← .read
  .modify fun table =>
    table.update (fun other row => other = key && row.waiting) (Row.completed session)
  -- Already complete is a success; a missing row is not.
  .ofExcept (ensure (table.lookup key).isSome GatewayError.internal)

def markCompleteMany (keys : List OutboxKey) : Raising Table GatewayError Unit :=
  if keys.isEmpty then pure () else do
    let columns ← .ofExcept (checkedRowKeys server keys)
    .transaction do
      let table ← .read
      .modify fun table =>
        table.update (fun key row => columns.contains key && row.waiting) (Row.completed session)
      let updated := table.countRows fun key row => columns.contains key && row.waiting
      let existing := table.countRows fun key _ => columns.contains key
      .ofExcept (ensure (keys.length ≤ updated || existing = keys.length) GatewayError.internal)

/-! ### Replay -/

/-- `OUTBOX_CLAIM_LEASE_SECONDS`, in microseconds. -/
def claimLease : Int := 120000000

/-- The event of a row, validated again and of the row's scope. -/
def readRow (key : RowKey) (row : Row) : Option IngestRequest := do
  let event ← codec.rebuild row.envelope
  guard (event.scopeKey = key.workspaceId ++ "/" ++ key.namespaceId)
  return event

/-- The row left out of replay. -/
def Row.isolated (reason : String) (row : Row) : Row :=
  { row with quarantine := some ⟨session.now, reason⟩ }

def quarantine (keys : List OutboxKey) (reason : String) : Raising Table GatewayError Unit :=
  if keys.isEmpty then pure () else do
    let columns ← .ofExcept (require (rowKeys server keys) GatewayError.internal)
    .ofExcept (ensure (isStorable reason) GatewayError.internal)
    .modify fun table =>
      table.update (fun key row => columns.contains key && row.waiting)
        (Row.isolated session reason)

def maxReplayAttempts : Nat := 8

def reschedule (keys : List OutboxKey) (after : Nat) : Raising Table GatewayError Unit :=
  if keys.isEmpty then pure () else do
    let columns ← .ofExcept (require (rowKeys server keys) GatewayError.internal)
    let interval ← .ofExcept (require (server.makeInterval after) GatewayError.internal)
    .modify fun table => table.update
      (fun key row => columns.contains key && row.waiting && row.attempts < maxReplayAttempts)
      fun row => { row with nextAttemptAt := session.now + interval }
    .modify fun table => table.update
      (fun key row => columns.contains key && row.waiting && maxReplayAttempts ≤ row.attempts)
      (Row.isolated session OutboxState.replayAttemptsExhausted)

/-- The rows a claim of at most `limit` takes. -/
def claimed (limit : Nat) (table : Table) : List (RowKey × Row) :=
  select session table (fun row => row.waiting && row.nextAttemptAt ≤ session.now) Row.createdAt
    (batchLimit limit)

/-- Whether the claim can count the attempts of the rows it takes. -/
def claimFits (limit : Nat) (table : Table) : Bool :=
  (claimed session limit table).all fun (_, row) => row.attempts < maxInteger

/-- The row leased to the caller. -/
def Row.leased (row : Row) : Row :=
  { row with attempts := row.attempts + 1, nextAttemptAt := session.now + claimLease }

/-- The rows of a claim in the order the statement returns them. -/
def returned (limit : Nat) (table : Table) : List (RowKey × Row) :=
  (session.scan.order table).filter fun (key, _) =>
    ((claimed session limit table).map Prod.fst).contains key

def leaseClaimed (limit : Nat) (table : Table) : Table :=
  table.update (fun key _ => ((claimed session limit table).map Prod.fst).contains key)
    (Row.leased session)

/-- The keys of the rows that are not events of their scope. -/
def poison (rows : List (RowKey × Row)) : List RowKey :=
  (rows.filter fun (key, row) => (readRow codec key row).isNone).map Prod.fst

def pendingBatch (limit : Nat) : Raising Table GatewayError (List IngestRequest) := do
  let table ← .read
  .ofExcept (ensure (claimFits session limit table) GatewayError.internal)
  .modify (leaseClaimed session limit)
  let rows := returned session limit table
  quarantine server session ((poison codec rows).map (outboxKey server)) "malformed_durable_event"
  pure (rows.filterMap fun (key, row) => readRow codec key row)

/-- A batch whose error is taken for no events. -/
def pending : Table → Table × List IngestRequest := fun table =>
  match pendingBatch server codec session 10000 table with
  | (after, .ok events) => (after, events)
  | (after, .error _) => (after, [])

def pendingCount : Raising Table GatewayError Nat := do
  let table ← .read
  pure (table.countRows fun _ row => row.waiting)

/-- The events of rows that only read; one that is malformed fails the batch. -/
def readRows (rows : List (RowKey × Row)) : Except GatewayError (List IngestRequest) :=
  rows.mapM fun (key, row) => require (readRow codec key row) GatewayError.internal

/-- An `i64` that a `u64` fits in. -/
def fitsI64 (value : UInt64) : Bool :=
  value.toNat < 2 ^ 63

/-- `completed_at >= …` of a completed row. -/
def Row.completedSince (since : Int) (row : Row) : Bool :=
  match row.state with
  | .pending => false
  | .complete completedAt => since ≤ completedAt

def Row.completedAt (row : Row) : Int :=
  match row.state with
  | .pending => 0
  | .complete completedAt => completedAt

def recentCompletedBatch (sinceMillis : UInt64) (limit : Nat) :
    Raising Table GatewayError (List IngestRequest) := do
  .ofExcept (ensure (fitsI64 sinceMillis) GatewayError.internal)
  let since ← .ofExcept (require (server.toTimestamp sinceMillis) GatewayError.internal)
  let table ← .read
  .ofExcept (readRows codec
    (select session table (Row.completedSince since) Row.completedAt (batchLimit limit)))

def pendingReconciliationBatch (limit : Nat) :
    Raising Table GatewayError (List IngestRequest) := do
  let table ← .read
  .ofExcept (readRows codec (select session table Row.waiting Row.createdAt (batchLimit limit)))

/-! ### Remediation and retention -/

def Row.quarantinedAt (row : Row) : Int :=
  row.quarantine.elim 0 Quarantine.quarantinedAt

def quarantinedBatch (limit : Nat) : Raising Table GatewayError (List OutboxKey) := do
  let table ← .read
  pure ((select session table Row.quarantined Row.quarantinedAt (batchLimit limit)).map
    fun (key, _) => outboxKey server key)

def quarantinedCount : Raising Table GatewayError Nat := do
  let table ← .read
  pure (table.countRows fun _ row => row.quarantined)

def Row.requeued (row : Row) : Row :=
  { row with quarantine := none, attempts := 0, nextAttemptAt := session.now }

def requeueQuarantined (keys : List OutboxKey) : Raising Table GatewayError Unit :=
  if keys.isEmpty then pure () else do
    let columns ← .ofExcept (require (rowKeys server keys) GatewayError.internal)
    .modify fun table =>
      table.update (fun key row => columns.contains key && row.quarantined) (Row.requeued session)

def oldestPendingMillis : Raising Table GatewayError (Option UInt64) := do
  let table ← .read
  let created :=
    (table.toPairs.filter fun (_, row) => row.waiting).map fun (_, row) => row.createdAt
  pure (created.min?.map fun oldest => server.epochMillis (session.now - oldest))

def maintain (nowMillis retentionMillis : UInt64) : Raising Table GatewayError Unit := do
  .ofExcept (ensure (fitsI64 nowMillis && fitsI64 retentionMillis) GatewayError.internal)
  let cutoff ← .ofExcept (require (server.cutoff nowMillis retentionMillis) GatewayError.internal)
  .modify fun table => table.retain fun _ row =>
    match row.state with
    | .pending => true
    | .complete completedAt => !(completedAt ≤ cutoff)

/-- `PostgresOutbox`, over one connection. -/
def postgresOutbox : EventOutbox Table where
  checkAdmissionReadiness := checkAdmissionReadiness capacity session
  enqueue := enqueue server codec capacity session
  markComplete := markComplete server session
  markCompleteMany := markCompleteMany server session
  pending := pending server codec session
  pendingBatch := pendingBatch server codec session
  pendingCount := pendingCount
  recentCompletedBatch := recentCompletedBatch server codec session
  pendingReconciliationBatch := pendingReconciliationBatch codec session
  reschedule := reschedule server session
  quarantine := quarantine server session
  quarantinedBatch := quarantinedBatch server session
  quarantinedCount := quarantinedCount
  oldestPendingMillis := oldestPendingMillis server session
  requeueQuarantined := requeueQuarantined server session
  maintain := maintain server

end Operations

end Apex.Outbox.Postgres
