import Apex.Journal.Operation
import Apex.Lib.Transactions

/-!
The transactions of the operation journal.

Each one locks the proxy row first, so transactions on one proxy run one after
the other. The clock readings of the database, the identifier of a new operation
and the fate of the commit are inputs. Constraints and triggers of the tables are
checked where a statement could violate them; those on the form of identifiers,
hashes and timestamps hold by the checks before the transaction and are left out,
as are those on the size of stored bytes.
-/

namespace Apex.OperationJournal

open Checked Domain Proxy Transactions

/-! ### Tables -/

/-- `mcp_proxies`, keyed by `proxy_id`. -/
structure ProxyRow where
  scope : ExactScope
  activeRevisionId : Option String
  deploymentGeneration : Int
  desiredState : String
  observedStatus : Option String
  lifecycleState : String
  deriving DecidableEq, Repr

/-- `mcp_proxy_operations`, keyed by `operation_id`. -/
structure OperationRow where
  target : Target
  requestId : String
  revisionId : String
  expectedRevisionId : Option String
  generation : Int
  desiredState : String
  requestHash : String
  acceptedResult : ProxyOperation
  currentResult : ProxyOperation
  observedState : ProxyObservedState
  observedAtMicros : Int
  createdAtMicros : Int
  deriving DecidableEq, Repr

/-- `mcp_proxy_controller_leases`, keyed by the target. -/
structure LeaseRow where
  operationId : String
  generation : Int
  workerId : String
  fencingToken : Int
  expiresAtMicros : Int
  deriving DecidableEq, Repr

/-- `mcp_proxy_evidence_intents`, keyed by `event_id`. -/
structure IntentRow where
  target : Target
  operationId : String
  intent : EvidenceIntent
  operationResult : ProxyOperation
  enqueuedAtMicros : Option Int
  deriving DecidableEq, Repr

structure Journal where
  proxies : KeyMap ProxyId ProxyRow
  /-- Whether a revision is published. -/
  revisions : KeyMap (ProxyId × ProxyRevisionId) Bool
  operations : KeyMap String OperationRow
  leases : KeyMap Target LeaseRow
  intents : KeyMap String IntentRow

def Journal.empty : Journal := ⟨∅, ∅, ∅, ∅, ∅⟩

namespace Journal

variable (journal : Journal)

/-! ### Reading -/

/-- `lock_proxy`. -/
def lockProxy (target : Target) : Except ProxyError ProxyRow := do
  validateScope target.scope
  let row ← require (journal.proxies.lookup target.proxyId) ProxyError.proxyNotFound
  ensure (row.scope = target.scope) .proxyNotFound
  return row

/-- `get_operation`. -/
def getOperation (target : Target) (id : String) : Except ProxyError (Option ProxyOperation) := do
  validateScope target.scope
  let id ← requestUuid id
  return ((journal.operations.lookup id).filter fun row => row.target = target).map
    OperationRow.currentResult

/-- `exact_live_lease_expiry`. -/
def exactLiveLeaseExpiry (target : Target) (operationId : String) (generation : Int)
    (workerId : String) (fence now : Int) : Option Int :=
  ((journal.leases.lookup target).filter fun lease =>
    lease.operationId = operationId && lease.generation = generation &&
      lease.workerId = workerId && lease.fencingToken = fence &&
      now < lease.expiresAtMicros).map LeaseRow.expiresAtMicros

/-- `matches_live_target`; a part that does not match stops the comparison. -/
def matchesLiveTarget (locked : ProxyRow) (operation : ProxyOperation) :
    Except ProxyError Bool := do
  let revision ← requestUuid operation.revisionId
  if locked.activeRevisionId ≠ some revision then .ok false
  else do
    let generation ← sqlU64 operation.generation
    if locked.deploymentGeneration ≠ generation then .ok false
    else do
      let desired ← desiredText operation.desiredState
      return locked.desiredState = desired

/-! ### Writing -/

/-- `insert_intent`: the event identifier is the primary key. -/
def insertIntent (target : Target) (result : ProxyOperation) (intent : EvidenceIntent) :
    Except ProxyError Journal := do
  let operation ← requestUuid result.operationId
  ensure (journal.intents.lookup intent.eventId).isNone .idempotencyConflict
  return { journal with
    intents := AList.insert intent.eventId ⟨target, operation, intent, result, none⟩
      journal.intents }

/-- The insertion of an operation, with its checks and unique columns. -/
def insertOperation (operationId : String) (row : OperationRow) : Except ProxyError Journal := do
  ensure (isLowercaseUuidV7 operationId && operationId ≠ row.requestId && 0 < row.generation &&
    0 ≤ row.createdAtMicros) .storeUnavailable
  ensure ((journal.operations.lookup operationId).isNone &&
    (journal.operations.search fun _ other => other.requestId = row.requestId).isNone &&
    (journal.operations.search fun _ other =>
      other.target = row.target && other.generation = row.generation).isNone) .idempotencyConflict
  return { journal with operations := AList.insert operationId row journal.operations }

/-- `submit_operation` after its preparation. -/
def submitPrepared (input : SubmitOperation) (prepared : PreparedSubmission) (operationId : String)
    (now : Int) : Except ProxyError (ProxyOperation × Journal) := do
  let target := input.target
  let locked ← journal.lockProxy target
  match journal.operations.search fun _ row =>
      row.target = target && row.requestId = prepared.request with
  | some (_, row) =>
      ensure (row.requestHash = prepared.hash) ProxyError.idempotencyConflict
      return (row.acceptedResult, journal)
  | none =>
      let expected := input.expectedRevisionId.map ProxyRevisionId.text
      ensure (locked.activeRevisionId = expected &&
        locked.deploymentGeneration = prepared.generation - 1) ProxyError.revisionConflict
      let published ← require (journal.revisions.lookup (target.proxyId, input.revisionId))
        ProxyError.revisionNotFound
      ensure published ProxyError.immutableRevision
      let result : ProxyOperation := {
        operationId
        requestId := input.requestId
        scope := some ⟨target.scope.workspaceId, target.scope.namespaceId, target.proxyId.text⟩
        revisionId := input.revisionId.text
        desiredState := input.desiredState
        observedState := .pending
        generation := input.expectedGeneration + 1
        errorCode := ""
        observedAtUnixUs := 0 }
      -- The row is locked, so the conditions of the update hold as they did above.
      let updated := { journal with
        proxies := AList.insert target.proxyId { locked with
          activeRevisionId := some input.revisionId.text
          desiredState := prepared.desired
          deploymentGeneration := prepared.generation } journal.proxies }
      let inserted ← updated.insertOperation operationId {
        target
        requestId := prepared.request
        revisionId := input.revisionId.text
        expectedRevisionId := expected
        generation := prepared.generation
        desiredState := prepared.desired
        requestHash := prepared.hash
        acceptedResult := result
        currentResult := result
        observedState := .pending
        observedAtMicros := 0
        createdAtMicros := now }
      let stored ← inserted.insertIntent target result prepared.intent
      return (result, stored)

/-- `submit_operation`. -/
def submitOperation (wire : Wire) (digest : String → String) (input : SubmitOperation)
    (operationId : String) (now : Int) : Except ProxyError (ProxyOperation × Journal) := do
  let prepared ← prepare wire digest input
  journal.submitPrepared input prepared operationId now

/-- The row a lease statement leaves, if it leaves one: a new row, or the next
fence once the lease has expired or the generation has moved on. -/
def claimLease (held : Option LeaseRow) (operationId : String) (generation : Int)
    (workerId : String) (expires now : Int) : Except ProxyError (Option LeaseRow) :=
  match held with
  | none => do
      ensure (0 < generation && 0 ≤ expires) ProxyError.storeUnavailable
      return some ⟨operationId, generation, workerId, 1, expires⟩
  | some lease =>
      if lease.expiresAtMicros ≤ now || lease.generation < generation then do
        ensure (0 < generation && 0 ≤ expires && lease.fencingToken < maxBigint &&
          lease.generation ≤ generation) ProxyError.storeUnavailable
        return some ⟨operationId, generation, workerId, lease.fencingToken + 1, expires⟩
      else .ok none

/-- `lease_operation`; the duration is in nanoseconds. -/
def leaseOperation (target : Target) (worker : String) (ttlNanos : Nat) (now : Int) :
    Except ProxyError (Option LeasedOperation × Journal) := do
  let ttl := ttlNanos / 1000
  ensure (boundedIdentifier worker && ttlNanos ≠ 0 && ttlNanos ≤ 300 * 1000000000 && ttl ≠ 0)
    (ProxyError.invalidProxySpec "Invalid worker identity or lease duration.")
  let locked ← journal.lockProxy target
  let generation := locked.deploymentGeneration
  match journal.operations.search fun _ row =>
      row.target = target && row.generation = generation && row.observedState.isOpen with
  | none => return (none, journal)
  | some (operationId, row) =>
      let live ← matchesLiveTarget locked row.currentResult
      if !live then .ok (none, journal)
      else do
        ensure (now + ttl ≤ maxBigint) ProxyError.storeUnavailable
        let claimed ← claimLease (journal.leases.lookup target) operationId generation worker
          (now + ttl) now
        match claimed with
        | none => return (none, journal)
        | some lease =>
            let fencingToken ← unsigned lease.fencingToken
            let expires ← unsigned lease.expiresAtMicros
            return (some ⟨row.currentResult, worker, fencingToken, expires⟩,
              { journal with leases := AList.insert target lease journal.leases })

/-- `recheck_observation_lease`. -/
def recheckObservationLease (target : Target) (lease : LeasedOperation) (now : Int) :
    Except ProxyError Unit := do
  let operationId ← requestUuid lease.operation.operationId
  let generation ← sqlU64 lease.operation.generation
  let fence ← sqlU64 lease.fencingToken
  let _ ← require (journal.exactLiveLeaseExpiry target operationId generation lease.workerId fence
    now) staleFence
  return ()

/-- Which observed states a desired state allows. -/
def desiredObservedCheck (desired : String) (observed : ProxyObservedState) : Bool :=
  observed.isOpen || (desired = "serving" && observed = .ready) ||
    (desired = "paused" && observed = .paused) || (desired = "retired" && observed = .retired)

/-- The update of an operation's result: the row of the generation, not observed
later than now. The trigger keeps completed rows, the check the wrong states. -/
def updateResult (target : Target) (operationId : String) (generation : Int)
    (result : ProxyOperation) (now : Int) : Except ProxyError Journal := do
  let row ← require ((journal.operations.lookup operationId).filter fun row =>
    row.target = target && row.generation = generation && row.observedAtMicros ≤ now) staleFence
  ensure (!row.observedState.isComplete || (row.observedState = result.observedState &&
    row.currentResult = result && row.observedAtMicros = now)) ProxyError.storeUnavailable
  ensure (desiredObservedCheck row.desiredState result.observedState) ProxyError.storeUnavailable
  return { journal with
    operations := AList.insert operationId { row with
      currentResult := result
      observedState := result.observedState
      observedAtMicros := now } journal.operations }

/-- The projection of an observation onto the proxy row. -/
def projectObservation (target : Target) (locked : ProxyRow) (state : ProxyObservedState) :
    Journal :=
  { journal with
    proxies := AList.insert target.proxyId { locked with
      observedStatus := some state.asStrName
      lifecycleState :=
        match state with
        | .ready => "ready"
        | .paused => "paused"
        | .retired => "retired"
        | _ => if locked.desiredState = "retired" then "retiring" else "provisioning" }
      journal.proxies }

/-- `observe_operation` from the lock on. `later` is the second reading of the
clock. -/
def observeLocked (target : Target) (lease : LeasedOperation) (state : ProxyObservedState)
    (error : Option String) (intent : EvidenceIntent) (operationId : String)
    (generation fence now later : Int) : Except ProxyError (ProxyOperation × Journal) := do
  let locked ← journal.lockProxy target
  ensure (locked.deploymentGeneration = generation) staleFence
  let _ ← require (journal.exactLiveLeaseExpiry target operationId generation lease.workerId fence
    now) staleFence
  let found ← journal.getOperation target lease.operation.operationId
  let result ← require found staleFence
  ensure (result.revisionId = lease.operation.revisionId &&
    result.requestId = lease.operation.requestId) staleFence
  let live ← matchesLiveTarget locked result
  ensure live staleFence
  validateObservation result.desiredState state
  match (journal.intents.lookup intent.eventId).filter fun row =>
      row.target = target && row.operationId = operationId with
  | some row =>
      ensure (row.intent.payloadHash = intent.payloadHash &&
        row.operationResult.observedState = state &&
        row.operationResult.errorCode = error.getD "") ProxyError.idempotencyConflict
      journal.recheckObservationLease target lease later
      return (row.operationResult, journal)
  | none =>
      ensure (!result.observedState.isComplete) ProxyError.invalidLifecycleTransition
      let observedAt ← unsigned now
      let observed := { result with
        observedState := state
        errorCode := error.getD ""
        observedAtUnixUs := observedAt }
      let updated ← journal.updateResult target operationId generation observed now
      let projected := updated.projectObservation target locked state
      let stored ← projected.insertIntent target observed intent
      stored.recheckObservationLease target lease later
      return (observed, stored)

/-- `observe_operation`. -/
def observeOperation (wire : Wire) (target : Target) (lease : LeasedOperation)
    (state : ProxyObservedState) (error : Option String) (event : EventEnvelope)
    (now later : Int) : Except ProxyError (ProxyOperation × Journal) := do
  ensure (state ≠ .unspecified && state ≠ .pending && error.all boundedIdentifier)
    (ProxyError.invalidProxySpec "Invalid proxy observation.")
  let operationId ← requestUuid lease.operation.operationId
  let generation ← sqlU64 lease.operation.generation
  let fence ← sqlU64 lease.fencingToken
  let intent ← validatedIntent wire target lease.operation.requestId event
  journal.observeLocked target lease state error intent operationId generation fence now later

/-- `mark_evidence_enqueued`: whether a pending event was marked. -/
def markEvidenceEnqueued (target : Target) (operation event hash : String) (now : Int) :
    Except ProxyError (Bool × Journal) := do
  validateScope target.scope
  let operation ← requestUuid operation
  let event ← requestUuid event
  ensure (isLowercaseSha256 hash) (ProxyError.invalidProxySpec "Invalid evidence hash.")
  match (journal.intents.lookup event).filter fun row =>
      row.target = target && row.operationId = operation && row.intent.payloadHash = hash &&
        row.enqueuedAtMicros.isNone with
  | none => return (false, journal)
  | some row =>
      ensure (0 ≤ now) ProxyError.storeUnavailable
      return (true, { journal with
        intents := AList.insert event { row with enqueuedAtMicros := some now } journal.intents })

/-- `finish_runtime_attempt`: the lease ends thirty seconds from now, if it does
not end before. -/
def finishRuntimeAttempt (lease : LeasedOperation) (now : Int) :
    Except ProxyError (Unit × Journal) := do
  let operationId ← requestUuid lease.operation.operationId
  let fence ← (sqlU64 lease.fencingToken).mapError fun _ => ProxyError.storeUnavailable
  let generation ← (sqlU64 lease.operation.generation).mapError fun _ => ProxyError.storeUnavailable
  match journal.leases.search fun _ row =>
      row.operationId = operationId && row.workerId = lease.workerId &&
        row.fencingToken = fence && row.generation = generation with
  | none => return ((), journal)
  | some (target, row) =>
      let expires := min row.expiresAtMicros (now + 30000000)
      ensure (0 ≤ expires) ProxyError.storeUnavailable
      return ((), { journal with
        leases := AList.insert target { row with expiresAtMicros := expires } journal.leases })

/-! ### Other writers -/

/-- A new proxy, in generation zero. -/
def createProxy (target : Target) : Journal :=
  match journal.proxies.lookup target.proxyId with
  | some _ => journal
  | none => { journal with
      proxies := AList.insert target.proxyId ⟨target.scope, none, 0, "draft", none, "draft"⟩
        journal.proxies }

/-- A write of the lifecycle store: it may change the active revision and the
desired state, and never the generation. -/
def lifecycleWrite (proxyId : ProxyId) (activeRevisionId : Option String)
    (desiredState lifecycleState : String) : Journal :=
  match journal.proxies.lookup proxyId with
  | none => journal
  | some row => { journal with
      proxies := AList.insert proxyId { row with activeRevisionId, desiredState, lifecycleState }
        journal.proxies }

/-- A revision is stored or published. -/
def putRevision (proxyId : ProxyId) (revisionId : ProxyRevisionId) (published : Bool) : Journal :=
  { journal with revisions := AList.insert (proxyId, revisionId) published journal.revisions }

end Journal

/-! ### Runs -/

/-- One transaction on the journal, with what the database adds to it. -/
inductive JournalAction where
  | submit (input : SubmitOperation) (operationId : String) (now : Int) (fault : Option CommitFault)
  | lease (target : Target) (worker : String) (ttlNanos : Nat) (now : Int)
      (fault : Option CommitFault)
  | observe (target : Target) (lease : LeasedOperation) (state : ProxyObservedState)
      (error : Option String) (event : EventEnvelope) (now later : Int) (fault : Option CommitFault)
  | markEvidence (target : Target) (operation event hash : String) (now : Int)
      (fault : Option CommitFault)
  | finishAttempt (lease : LeasedOperation) (now : Int) (fault : Option CommitFault)
  | createProxy (target : Target)
  | lifecycleWrite (proxyId : ProxyId) (activeRevisionId : Option String)
      (desiredState lifecycleState : String)
  | putRevision (proxyId : ProxyId) (revisionId : ProxyRevisionId) (published : Bool)

section Answers

variable (wire : Wire) (digest : String → String) (journal : Journal)

/-- What a submission is answered, and the journal after it. -/
def submitAnswer (input : SubmitOperation) (operationId : String) (now : Int)
    (fault : Option CommitFault) : Except ProxyError ProxyOperation × Journal :=
  transact fault .storeUnavailable (journal.submitOperation wire digest input operationId now)
    journal

def leaseAnswer (target : Target) (worker : String) (ttlNanos : Nat) (now : Int)
    (fault : Option CommitFault) : Except ProxyError (Option LeasedOperation) × Journal :=
  transact fault .storeUnavailable (journal.leaseOperation target worker ttlNanos now) journal

def observeAnswer (target : Target) (lease : LeasedOperation) (state : ProxyObservedState)
    (error : Option String) (event : EventEnvelope) (now later : Int)
    (fault : Option CommitFault) : Except ProxyError ProxyOperation × Journal :=
  transact fault .storeUnavailable
    (journal.observeOperation wire target lease state error event now later) journal

def journalStep : JournalAction → Journal
  | .submit input operationId now fault =>
      (submitAnswer wire digest journal input operationId now fault).2
  | .lease target worker ttlNanos now fault =>
      (leaseAnswer journal target worker ttlNanos now fault).2
  | .observe target lease state error event now later fault =>
      (observeAnswer wire journal target lease state error event now later fault).2
  | .markEvidence target operation event hash now fault =>
      (transact fault ProxyError.storeUnavailable
        (journal.markEvidenceEnqueued target operation event hash now) journal).2
  | .finishAttempt lease now fault =>
      (transact fault ProxyError.storeUnavailable (journal.finishRuntimeAttempt lease now)
        journal).2
  | .createProxy target => journal.createProxy target
  | .lifecycleWrite proxyId activeRevisionId desiredState lifecycleState =>
      journal.lifecycleWrite proxyId activeRevisionId desiredState lifecycleState
  | .putRevision proxyId revisionId published => journal.putRevision proxyId revisionId published

end Answers

end Apex.OperationJournal
