import Apex.Identifiers
import Apex.Lib.Checked

/-!
Event envelopes, and the admission rules every stored one has passed.

What the code leaves to libraries is a parameter (`Wire`): the protobuf encoding
of an envelope, the SHA-256 of its canonical JSON, and the scan of its data for
credentials, which no result here depends on.
-/

namespace Apex.Domain

open Checked

def maxEnvelopeBytes : Nat := 256 * 1024

/-- The codes of the errors of admission and of the stores. -/
inductive GatewayError where
  | unauthenticated
  | scopeDenied
  | invalidEnvelope
  | payloadTooLarge
  | invalidEventId
  | invalidTimestamp
  | invalidIntegrity
  | invalidStructure
  | secretExposure
  | idempotencyCapacity
  | idempotencyConflict
  | idempotencyInProgress
  | internal
  | invalidOutboxConfiguration
  | invalidIdempotencyConfiguration
  deriving DecidableEq, Repr

/-- A canonical, outbox-ready event. -/
structure IngestRequest where
  eventId : String
  workspaceId : String
  namespaceId : String
  scopeKey : String
  envelope : List UInt8
  deriving DecidableEq, Repr

/-! ### Data -/

/-- `google.protobuf.Value`. A number is the bits of its `f64`; the fields of a
struct are the entries of a sorted map. -/
inductive Value where
  | unset
  | null (raw : Int32)
  | number (bits : UInt64)
  | text (value : String)
  | bool (value : Bool)
  | struct (fields : List (String × Value))
  | list (values : List Value)
  deriving Repr

/-- `google.protobuf.Struct`. -/
abbrev Struct : Type := List (String × Value)

def Struct.get (fields : Struct) (name : String) : Option Value :=
  (fields.find? fun field => field.1 = name).map Prod.snd

def Value.asText : Value → Option String
  | .text value => some value
  | _ => none

def Value.asStruct : Value → Option Struct
  | .struct fields => some fields
  | _ => none

/-- Whether the bits of an `f64` denote a finite number. -/
def isFinite (bits : UInt64) : Bool :=
  (bits >>> 52) &&& 0x7ff != 0x7ff

/-- The depth of the deepest accepted level; the root is at depth zero. -/
def maxStructDepth : Nat := 64

mutual

/-- Whether a value at a depth converts to JSON. -/
def Value.converts (depth : Nat) : Value → Bool
  | .unset => false
  | .null _ | .text _ | .bool _ => depth ≤ maxStructDepth
  | .number bits => depth ≤ maxStructDepth && isFinite bits
  | .struct fields => depth + 1 ≤ maxStructDepth && fieldsConvert (depth + 2) fields
  | .list values => depth ≤ maxStructDepth && valuesConvert (depth + 1) values

def fieldsConvert (depth : Nat) : List (String × Value) → Bool
  | [] => true
  | (_, value) :: rest => value.converts depth && fieldsConvert depth rest

def valuesConvert (depth : Nat) : List Value → Bool
  | [] => true
  | value :: rest => value.converts depth && valuesConvert depth rest

end

/-- Whether `prost_struct_to_json` succeeds. -/
def Struct.converts (fields : Struct) : Bool :=
  fieldsConvert 1 fields

/-! ### Control data -/

/-- The bits of 1e15, the largest budget limit. -/
def maxControlBudgetLimit : UInt64 := 0x430c6bf526340000

/-- A finite number above zero and not above the budget limit. The bits of
non-negative numbers are ordered as the numbers are. -/
def isBudgetLimit : Value → Bool
  | .number bits => isFinite bits && 0 < bits && bits ≤ maxControlBudgetLimit
  | _ => false

def maxHoldReasonBytes : Nat := 8 * 1024

/-- The reason of a hold's resolution: null, or a text of bounded length. -/
def isHoldReason : Option Value → Bool
  | some (.null _) => true
  | some (.text reason) => !reason.isEmpty && reason.utf8ByteSize ≤ maxHoldReasonBytes
  | _ => false

/-- The parameters an action requires. -/
def parametersValid (action : String) (parameters : Struct) : Bool :=
  let text (name : String) : Option String := (parameters.get name).bind Value.asText
  if action = "inject" then
    parameters.length = 2 &&
      (text "content").any (fun content =>
        !content.isEmpty && content.utf8ByteSize ≤ 32 * 1024) &&
      text "content_classification" = some "untrusted"
  else if action = "set_budget" then
    parameters.length = 2 && (text "budget_kind").any (["tokens", "cost"].contains ·) &&
      (parameters.get "limit").any isBudgetLimit
  else if action = "resolve_hold" then
    parameters.length = 3 && (text "hold_token").any isScopeIdentifier &&
      (text "decision").any (["approved", "denied"].contains ·) &&
      isHoldReason (parameters.get "reason")
  else parameters.isEmpty

def controlActions : List String :=
  ["stop", "pause", "resume", "inject", "set_budget", "resolve_hold"]

/-- `validate_control_data`. -/
def validateControlData (data : Struct) : Except GatewayError Unit := do
  ensure data.converts GatewayError.invalidStructure
  ensure (data.length = 4 && ["action", "enforcement", "reason_code", "parameters"].all
    fun name => (data.get name).isSome) GatewayError.invalidStructure
  let action ← require ((data.get "action").bind Value.asText) GatewayError.invalidStructure
  ensure (controlActions.contains action) GatewayError.invalidStructure
  ensure ((data.get "enforcement").bind Value.asText = some "cooperative")
    GatewayError.invalidStructure
  ensure (match data.get "reason_code" with
    | none | some (.null _) => true
    | some value => value.asText.any isScopeIdentifier) GatewayError.invalidStructure
  let parameters ← require ((data.get "parameters").bind Value.asStruct)
    GatewayError.invalidStructure
  ensure (parametersValid action parameters) GatewayError.invalidStructure

/-! ### Envelopes -/

structure Scope where
  workspaceId : String
  namespaceId : String
  agentGroupIds : List String
  deriving DecidableEq, Repr

structure Actor where
  type : Int
  id : String
  deriving DecidableEq, Repr

structure Version where
  agentCode : String
  prompt : String
  model : String
  deriving DecidableEq, Repr

structure Integrity where
  prevHash : Option String
  eventHash : String
  deriving DecidableEq, Repr

structure EventEnvelope where
  eventId : String
  timestamp : String
  type : Int
  agentId : String
  runId : String
  parentRunId : Option String
  traceId : String
  scope : Option Scope
  actor : Option Actor
  version : Option Version
  data : Option Struct
  integrity : Option Integrity
  schemaVersion : Nat

/-- The event type of control commands. -/
def controlType : Int := 9

/-- The rules for the data of one event type. -/
def validateTypedData (type : Int) (data : Struct) : Except GatewayError Unit :=
  if type = controlType then validateControlData data else .ok ()

/-- What libraries and the credential scan make of an envelope. -/
structure Wire where
  /-- `Message::encode_to_vec`. -/
  encode : EventEnvelope → List UInt8
  /-- `EventEnvelope::decode`. -/
  decode : List UInt8 → Option EventEnvelope
  /-- `Message::encode_to_vec` of a struct. -/
  encodeStruct : Struct → List UInt8
  /-- `canonical_event_hash`. -/
  canonicalHash : EventEnvelope → Except GatewayError String
  /-- The credential scan, which is laxer for control text. -/
  containsSecret : Bool → Struct → Bool

/-- `is_lowercase_sha256`. -/
def isLowercaseSha256 (value : String) : Bool :=
  value.toList.length = 64 && value.toList.all Text.isLowerHex

/-- The number a run of decimal digits denotes. -/
def decimal (digits : List Char) : Nat :=
  digits.foldl (fun n c => n * 10 + (c.toNat - '0'.toNat)) 0

def isLeapYear (year : Nat) : Bool :=
  year % 4 = 0 && (year % 100 ≠ 0 || year % 400 = 0)

def daysInMonth (year month : Nat) : Nat :=
  if [1, 3, 5, 7, 8, 10, 12].contains month then 31
  else if [4, 6, 9, 11].contains month then 30
  else if month = 2 then (if isLeapYear year then 29 else 28)
  else 0

/-- The punctuation of a timestamp, by position. -/
def timestampPunctuation : List (Nat × Char) :=
  [(4, '-'), (7, '-'), (10, 'T'), (13, ':'), (16, ':'), (19, '.'), (26, 'Z')]

/-- `is_rfc3339_utc`. -/
def isRfc3339Utc (value : String) : Bool :=
  let text := value.toList
  let part (start count : Nat) : Nat := decimal ((text.drop start).take count)
  text.length = 27 && timestampPunctuation.all (fun (index, c) => text[index]? = some c) &&
    text.zipIdx.all (fun (c, index) =>
      (timestampPunctuation.map Prod.fst).contains index || c.isDigit) &&
    part 0 4 ≠ 0 && 1 ≤ part 8 2 && part 8 2 ≤ daysInMonth (part 0 4) (part 5 2) &&
    part 11 2 ≤ 23 && part 14 2 ≤ 59 && part 17 2 ≤ 59

/-- The identifiers and enumerations of an envelope in its scope. -/
def structureValid (envelope : EventEnvelope) (scope : Scope) : Bool :=
  envelope.schemaVersion = 1 && 1 ≤ envelope.type && envelope.type ≤ 12 &&
    envelope.actor.any (fun actor => 1 ≤ actor.type && actor.type ≤ 4) &&
    envelope.data.isSome &&
    isScopeIdentifier envelope.agentId && isScopeIdentifier envelope.runId &&
    isScopeIdentifier envelope.traceId && envelope.parentRunId.all isScopeIdentifier &&
    isScopeIdentifier scope.workspaceId && isScopeIdentifier scope.namespaceId &&
    scope.agentGroupIds.length ≤ 128 && scope.agentGroupIds.Nodup &&
    scope.agentGroupIds.all isScopeIdentifier &&
    envelope.actor.any (fun actor => isScopeIdentifier actor.id) &&
    envelope.version.any fun version => isScopeIdentifier version.agentCode &&
      isScopeIdentifier version.prompt && isScopeIdentifier version.model

/-- `IngestRequest::from_validated_transport`. -/
def fromValidatedTransport (wire : Wire) (envelope : EventEnvelope) :
    Except GatewayError IngestRequest := do
  ensure ((wire.encode envelope).length ≤ maxEnvelopeBytes) GatewayError.payloadTooLarge
  ensure (isLowercaseUuidV7 envelope.eventId) GatewayError.invalidEventId
  ensure (isRfc3339Utc envelope.timestamp) GatewayError.invalidTimestamp
  let integrity ← require envelope.integrity GatewayError.invalidIntegrity
  ensure (isLowercaseSha256 integrity.eventHash && integrity.prevHash.all isLowercaseSha256)
    GatewayError.invalidIntegrity
  let scope ← require envelope.scope GatewayError.invalidStructure
  ensure (structureValid envelope scope) GatewayError.invalidStructure
  let data ← require envelope.data GatewayError.invalidStructure
  ensure data.converts GatewayError.invalidStructure
  ensure (!wire.containsSecret (envelope.type = controlType) data) GatewayError.secretExposure
  validateTypedData envelope.type data
  let eventHash ← wire.canonicalHash envelope
  ensure (eventHash = integrity.eventHash) GatewayError.invalidIntegrity
  return {
    eventId := envelope.eventId
    workspaceId := scope.workspaceId
    namespaceId := scope.namespaceId
    scopeKey := scope.workspaceId ++ "/" ++ scope.namespaceId
    envelope := wire.encode envelope }

/-- What an admitted event says about its envelope. -/
theorem fromValidatedTransport_eq_ok {wire envelope event}
    (ok : fromValidatedTransport wire envelope = .ok event) :
    ∃ scope data, envelope.scope = some scope ∧ envelope.data = some data ∧
      structureValid envelope scope = true ∧
      (envelope.type = controlType → validateControlData data = .ok ()) ∧
      (wire.encode envelope).length ≤ maxEnvelopeBytes ∧
      isLowercaseUuidV7 envelope.eventId = true ∧ isRfc3339Utc envelope.timestamp = true ∧
      event = {
        eventId := envelope.eventId
        workspaceId := scope.workspaceId
        namespaceId := scope.namespaceId
        scopeKey := scope.workspaceId ++ "/" ++ scope.namespaceId
        envelope := wire.encode envelope } := by
  simp only [fromValidatedTransport, bind_eq_ok, ensure_eq_ok, require_eq_ok, decide_eq_true_eq]
    at ok
  obtain ⟨_, small, _, uuid, _, time, integrity, -, _, -, scope, inScope, _, valid, data, given,
    _, -, _, -, _, control, eventHash, -, _, -, is⟩ := ok
  refine ⟨scope, data, inScope, given, valid, fun isControl => ?_, small, uuid, time,
    (pure_eq_ok.mp is).symm⟩
  rwa [validateTypedData, if_pos isControl] at control

end Apex.Domain
