import Apex.Domain.Envelope
import Apex.Proxy.StoreState

/-!
Operations of the proxy journal: what is submitted, leased and observed, and the
checks that need no database.

The stored results are kept as values; the code keeps their protobuf bytes.
-/

namespace Apex.OperationJournal

open Checked Domain Proxy

inductive ProxyDesiredState where
  | unspecified
  | serving
  | paused
  | retired
  deriving DecidableEq, Repr

inductive ProxyObservedState where
  | unspecified
  | pending
  | reconciling
  | ready
  | paused
  | retired
  | failed
  | notServing
  deriving DecidableEq, Repr

/-- The states that complete an operation. -/
def ProxyObservedState.isComplete : ProxyObservedState → Bool
  | .ready | .paused | .retired => true
  | _ => false

/-- `observed_state IN (1,2,6,7)`. -/
def ProxyObservedState.isOpen : ProxyObservedState → Bool
  | .pending | .reconciling | .failed | .notServing => true
  | _ => false

def ProxyObservedState.asStrName : ProxyObservedState → String
  | .unspecified => "PROXY_OBSERVED_STATE_UNSPECIFIED"
  | .pending => "PROXY_OBSERVED_STATE_PENDING"
  | .reconciling => "PROXY_OBSERVED_STATE_RECONCILING"
  | .ready => "PROXY_OBSERVED_STATE_READY"
  | .paused => "PROXY_OBSERVED_STATE_PAUSED"
  | .retired => "PROXY_OBSERVED_STATE_RETIRED"
  | .failed => "PROXY_OBSERVED_STATE_FAILED"
  | .notServing => "PROXY_OBSERVED_STATE_NOT_SERVING"

structure ProxyResourceScope where
  workspaceId : String
  namespaceId : String
  proxyId : String
  deriving DecidableEq, Repr

structure ProxyOperation where
  operationId : String
  requestId : String
  scope : Option ProxyResourceScope
  revisionId : String
  desiredState : ProxyDesiredState
  observedState : ProxyObservedState
  generation : UInt64
  errorCode : String
  observedAtUnixUs : UInt64
  deriving DecidableEq, Repr

@[ext]
structure Target where
  scope : ExactScope
  proxyId : ProxyId
  deriving DecidableEq, Repr

structure SubmitOperation where
  target : Target
  requestId : String
  expectedRevisionId : Option ProxyRevisionId
  revisionId : ProxyRevisionId
  expectedGeneration : UInt64
  desiredState : ProxyDesiredState
  evidence : EventEnvelope

structure LeasedOperation where
  operation : ProxyOperation
  workerId : String
  fencingToken : UInt64
  leaseExpiresAtMicros : UInt64
  deriving DecidableEq, Repr

/-- A validated envelope, and the canonical hash it carries. -/
structure EvidenceIntent where
  eventId : String
  eventTimestamp : String
  envelope : List UInt8
  payloadHash : String
  deriving DecidableEq, Repr

def staleFence : ProxyError :=
  ⟨"PROXY_STALE_FENCE", "The proxy lease or generation is no longer current."⟩

/-! ### Numbers and identifiers -/

/-- The largest value of a `BIGINT` column. -/
def maxBigint : Int := 2 ^ 63 - 1

/-- `sql_u64`. -/
def sqlU64 (value : UInt64) : Except ProxyError Int := do
  ensure ((value.toNat : Int) ≤ maxBigint) .revisionConflict
  return value.toNat

/-- `u64::try_from` of a column. -/
def unsigned (value : Int) : Except ProxyError UInt64 := do
  ensure (0 ≤ value && value ≤ maxBigint) .storeUnavailable
  return UInt64.ofNat value.toNat

/-- `request_uuid`: an identifier is kept as its text, which determines it. -/
def requestUuid (value : String) : Except ProxyError String := do
  let _ ← validateRequestId value
  let id ← (ProxyRevisionId.new value).mapError fun _ => ProxyError.invalidRequestId
  return id.text

theorem requestUuid_eq_ok {value uuid} (ok : requestUuid value = .ok uuid) :
    uuid = value := by
  obtain ⟨_, -, ok⟩ := bind_eq_ok.mp ok
  obtain ⟨id, made, is⟩ := bind_eq_ok.mp ok
  obtain rfl := pure_eq_ok.mp is
  have new := mapError_eq_ok.mp made
  unfold ProxyRevisionId.new at new
  split_ifs at new
  cases new
  rfl

theorem sqlU64_eq_ok {value column} (ok : sqlU64 value = .ok column) :
    column = value.toNat ∧ column ≤ maxBigint := by
  obtain ⟨_, fits, is⟩ := bind_eq_ok.mp ok
  obtain rfl := pure_eq_ok.mp is
  exact ⟨rfl, of_decide_eq_true (ensure_eq_ok.mp fits)⟩

theorem unsigned_eq_ok {value wire} (ok : unsigned value = .ok wire) :
    (wire.toNat : Int) = value := by
  obtain ⟨_, fits, is⟩ := bind_eq_ok.mp ok
  obtain rfl := pure_eq_ok.mp is
  rw [ensure_eq_ok, Bool.and_eq_true, decide_eq_true_eq, decide_eq_true_eq, maxBigint] at fits
  rw [UInt64.toNat_ofNat', Nat.mod_eq_of_lt (by omega)]
  omega

/-- `bounded_identifier`. -/
def boundedIdentifier (value : String) : Bool :=
  !value.isEmpty && value.utf8ByteSize ≤ 128 &&
    value.toList.all fun c => c.isAlphanum || c == '_' || c == '.' || c == ':' || c == '-'

/-! ### States -/

def desiredText : ProxyDesiredState → Except ProxyError String
  | .serving => .ok "serving"
  | .paused => .ok "paused"
  | .retired => .ok "retired"
  | .unspecified => .error (.invalidProxySpec "A desired proxy state is required.")

/-- `validate_observation`: only a matching success completes an operation. -/
def validateObservation (desired : ProxyDesiredState) (observed : ProxyObservedState) :
    Except ProxyError Unit :=
  match desired, observed with
  | .serving, .ready | .paused, .paused | .retired, .retired => .ok ()
  | .serving, .reconciling | .serving, .failed | .serving, .notServing => .ok ()
  | .paused, .reconciling | .paused, .failed | .paused, .notServing => .ok ()
  | .retired, .reconciling | .retired, .failed | .retired, .notServing => .ok ()
  | _, _ => .error .invalidLifecycleTransition

/-! ### Evidence -/

/-- `EvidenceIntent::new`. -/
def EvidenceIntent.new (wire : Wire) (target : Target) (event : EventEnvelope) :
    Except ProxyError EvidenceIntent := do
  validateScope target.scope
  let request ← (fromValidatedTransport wire event).mapError fun _ =>
    ProxyError.invalidProxySpec "Invalid proxy evidence envelope."
  let data ← require event.data ProxyError.storeUnavailable
  ensure (request.workspaceId = target.scope.workspaceId &&
    request.namespaceId = target.scope.namespaceId &&
    (data.get "proxy_id").bind Value.asText = some target.proxyId.text) .invalidProxyScope
  let integrity ← require event.integrity ProxyError.storeUnavailable
  return {
    eventId := ← requestUuid request.eventId
    eventTimestamp := event.timestamp
    envelope := request.envelope
    payloadHash := integrity.eventHash }

/-- `validated_intent`. -/
def validatedIntent (wire : Wire) (target : Target) (request : String) (event : EventEnvelope) :
    Except ProxyError EvidenceIntent := do
  ensure (event.eventId ≠ request && event.runId = request && event.type = 7)
    (.invalidProxySpec "Evidence requires a unique workflow event and request correlation.")
  EvidenceIntent.new wire target event

/-! ### Submissions -/

/-- The evidence without what a retry regenerates. -/
def semanticEvent (input : SubmitOperation) : EventEnvelope :=
  { input.evidence with eventId := input.requestId, timestamp := "" }

/-- The text whose digest identifies a request. -/
def requestText (input : SubmitOperation) (desired semanticHash : String) : String :=
  (Json.object [
    ("request", .str input.requestId),
    ("workspace", .str input.target.scope.workspaceId),
    ("namespace", .str input.target.scope.namespaceId),
    ("proxy", .str input.target.proxyId.text),
    ("expected_revision", (input.expectedRevisionId.map fun id => Json.str id.text).getD .null),
    ("revision", .str input.revisionId.text),
    ("generation", .int input.expectedGeneration.toNat),
    ("desired", .str desired),
    ("evidence", .str semanticHash)]).toText

/-- What a submission comes to before the database is asked. -/
structure PreparedSubmission where
  request : String
  generation : Int
  desired : String
  intent : EvidenceIntent
  hash : String

/-- The beginning of `submit_operation`; `digest` is `hash_hex`. -/
def prepare (wire : Wire) (digest : String → String) (input : SubmitOperation) :
    Except ProxyError PreparedSubmission := do
  let request ← requestUuid input.requestId
  let expected ← sqlU64 input.expectedGeneration
  ensure (expected < maxBigint) ProxyError.revisionConflict
  let desired ← desiredText input.desiredState
  let intent ← validatedIntent wire input.target input.requestId input.evidence
  let semanticHash ← (wire.canonicalHash (semanticEvent input)).mapError fun _ =>
    ProxyError.storeUnavailable
  return ⟨request, expected + 1, desired, intent, digest (requestText input desired semanticHash)⟩

/-- The same request, with evidence that is the same but for the identity and the
time of its event. -/
structure SameRequest (wire : Wire) (input again : SubmitOperation) : Prop where
  target : again.target = input.target
  requestId : again.requestId = input.requestId
  expectedRevisionId : again.expectedRevisionId = input.expectedRevisionId
  revisionId : again.revisionId = input.revisionId
  expectedGeneration : again.expectedGeneration = input.expectedGeneration
  desiredState : again.desiredState = input.desiredState
  evidence : wire.canonicalHash (semanticEvent again) = wire.canonicalHash (semanticEvent input)

/-- What a prepared submission says about its input. -/
theorem prepare_eq_ok {wire digest input prepared}
    (ok : prepare wire digest input = .ok prepared) :
    prepared.request = input.requestId ∧
      prepared.generation = input.expectedGeneration.toNat + 1 ∧
      prepared.generation ≤ maxBigint := by
  simp only [prepare, bind_eq_ok, ensure_eq_ok, decide_eq_true_eq, pure_eq_ok] at ok
  obtain ⟨request, isRequest, expected, isExpected, _, room, desired, -, intent, -, hash, -,
    rfl⟩ := ok
  obtain ⟨rfl, -⟩ := sqlU64_eq_ok isExpected
  exact ⟨requestUuid_eq_ok isRequest, rfl, room⟩

/-- A repeated request has the digest of the first. -/
theorem SameRequest.prepare {wire digest input again} (same : SameRequest wire input again)
    {prepared} (ok : prepare wire digest input = .ok prepared) {intent}
    (valid : validatedIntent wire again.target again.requestId again.evidence = .ok intent) :
    OperationJournal.prepare wire digest again = .ok { prepared with intent } := by
  simp only [OperationJournal.prepare, bind_eq_ok, pure_eq_ok] at ok
  obtain ⟨request, isRequest, expected, isExpected, _, room, desired, isDesired, _, -,
    semanticHash, hashed, rfl⟩ := ok
  have text : requestText again desired semanticHash = requestText input desired semanticHash := by
    rw [requestText, requestText, same.target, same.requestId, same.expectedRevisionId,
      same.revisionId, same.expectedGeneration]
  simp only [OperationJournal.prepare, same.requestId, same.expectedGeneration, same.desiredState,
    same.evidence, isRequest, isExpected, room, isDesired, hashed, ok_bind, text]
  rw [same.requestId] at valid
  rw [valid]
  rfl

end Apex.OperationJournal
