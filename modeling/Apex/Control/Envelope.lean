import Apex.Control.Time
import Apex.Inbox.Command
import Apex.Outbox.Record

/-!
The control event an accepted command becomes, and the command reconciliation
rebuilds from it.

Both are built from one request: the event goes to the outbox, the delivery to
the inbox. A `force_stop` has no place in the event's vocabulary, so its event is
a `stop` whose reason carries a marker, and rebuilding reads the marker back.
-/

namespace Apex.Control

open Checked Domain Inbox Outbox

/-- `apex.v1.ControlAction`. -/
inductive ControlAction where
  | unspecified
  | stop
  | pause
  | resume
  | inject
  | setBudget
  | resolveHold
  | forceStop
  deriving DecidableEq, Repr

/-- The number of an action on the wire. -/
def ControlAction.number : ControlAction → Nat
  | .unspecified => 0
  | .stop => 1
  | .pause => 2
  | .resume => 3
  | .inject => 4
  | .setBudget => 5
  | .resolveHold => 6
  | .forceStop => 7

def actionName : ControlAction → Option String
  | .stop => some "stop"
  | .pause => some "pause"
  | .resume => some "resume"
  | .inject => some "inject"
  | .setBudget => some "set_budget"
  | .resolveHold => some "resolve_hold"
  | .forceStop => some "force_stop"
  | .unspecified => none

inductive OperatorScopes where
  | global
  | within (scopes : List String)
  deriving DecidableEq, Repr

/-- An authenticated operator. -/
structure OperatorCaller where
  subject : String
  allowedScopes : OperatorScopes
  deriving DecidableEq, Repr

def OperatorCaller.allowsScope (operator : OperatorCaller) (workspaceId namespaceId : String) :
    Bool :=
  isScopeIdentifier workspaceId && isScopeIdentifier namespaceId &&
    match operator.allowedScopes with
    | .global => true
    | .within scopes => scopes.contains (workspaceId ++ "/" ++ namespaceId)

structure ControlCommandInput where
  commandId : Option String
  workspaceId : String
  namespaceId : String
  agentId : String
  runId : String
  parentRunId : Option String
  traceId : String
  action : ControlAction
  reasonCode : Option String
  parameters : Option Struct

/-- What an accepted command produces: the event for the outbox and the delivery
for the inbox. -/
structure AcceptedCommand where
  commandId : String
  request : IngestRequest
  delivery : PendingCommand
  deriving DecidableEq, Repr

/-- What libraries compute for the gateway. -/
structure Platform extends Wire where
  /-- `Sha256::digest`. -/
  sha256 : List UInt8 → Fingerprint
  /-- The text of the UUIDv7 built from a time and ten random bytes. -/
  uuidFromUnixMillis : Nat → List UInt8 → String

/-- What the outbox makes of stored bytes. -/
def Platform.codec (platform : Platform) : EnvelopeCodec where
  rebuild bytes := do
    let envelope ← platform.decode bytes
    (fromValidatedTransport platform.toWire envelope).toOption
  fingerprint := platform.sha256

/-! ### Identities -/

/-- The identity of a command: the one supplied, unless it is absent or empty. -/
def resolveCommandId (commandId : Option String) (generated : String) : String :=
  match commandId with
  | some id => if id.isEmpty then generated else id
  | none => generated

/-- `resolve_command_id_and_timestamp`; `generated` is what `Uuid::now_v7` would
give. -/
def resolveCommandIdAndTimestamp (commandId : Option String) (generated : String) (now : UInt64) :
    Except CommandError (String × String) := do
  let commandId := resolveCommandId commandId generated
  let commandMillis ← require (uuidv7UnixMillis commandId)
    ⟨.invalidCommand, "command_id must be a canonical lowercase UUIDv7."⟩
  ensure (commandMillisWithinAcceptanceWindow commandMillis now.toNat)
    ⟨.invalidCommand, "command_id's embedded UUIDv7 timestamp is outside the accepted clock " ++
      "window. Generate the command_id at submission time."⟩
  return (commandId, formatRfc3339Micros (commandMillis * 1000))

/-! ### The event -/

def gatewayAgentCode : String := "apex-control-gateway"

def gatewayPromptRevision : String := "control-command-v1"

def gatewayModel : String := "n-a"

/-- The reason of a `force_stop` event that was given no reason. -/
def forceStopAuditMarker : String := "apex.force_stop"

/-- What stands before the reason of a `force_stop` event. -/
def forceStopAuditPrefix : String := "apex.force_stop:"

/-- The action and the reason a command has in its event. -/
def auditAction (action : String) (reasonCode : Option String) : String × Option String :=
  if action = "force_stop" then
    ("stop", some (reasonCode.elim forceStopAuditMarker (forceStopAuditPrefix ++ ·)))
  else (action, reasonCode)

/-- `build_control_data`; the fields stand in the order of their names. -/
def buildControlData (action : String) (reasonCode : Option String)
    (parameters : Option Struct) : Struct :=
  [("action", .text action), ("enforcement", .text "cooperative"),
    ("parameters", .struct (parameters.getD [])),
    ("reason_code", reasonCode.elim (.null 0) .text)]

/-- The event of a command, before its integrity hash is filled in. -/
def unsignedEnvelope (input : ControlCommandInput) (operator : OperatorCaller)
    (action commandId timestamp : String) : EventEnvelope where
  eventId := commandId
  timestamp := timestamp
  type := controlType
  agentId := input.agentId
  runId := input.runId
  parentRunId := input.parentRunId
  traceId := input.traceId
  scope := some ⟨input.workspaceId, input.namespaceId, []⟩
  actor := some ⟨1, operator.subject⟩
  version := some ⟨gatewayAgentCode, gatewayPromptRevision, gatewayModel⟩
  data :=
    let audit := auditAction action input.reasonCode
    some (buildControlData audit.1 audit.2 input.parameters)
  integrity := none
  schemaVersion := 1

/-- The event of a command. Its hash is taken with an empty hash in its place. -/
def controlEnvelope (wire : Wire) (input : ControlCommandInput) (operator : OperatorCaller)
    (action commandId timestamp : String) : Except GatewayError EventEnvelope := do
  let envelope := unsignedEnvelope input operator action commandId timestamp
  let eventHash ← wire.canonicalHash { envelope with integrity := some ⟨none, ""⟩ }
  return { envelope with integrity := some ⟨none, eventHash⟩ }

/-- The delivery of a command. -/
def controlDelivery (wire : Wire) (input : ControlCommandInput)
    (action commandId timestamp : String) : PendingCommand where
  commandId := commandId
  workspaceId := input.workspaceId
  namespaceId := input.namespaceId
  agentId := input.agentId
  runId := input.runId
  traceId := input.traceId
  action := action
  reasonCode := input.reasonCode
  parameters := input.parameters.elim [] wire.encodeStruct
  issuedAt := timestamp
  deliveryAttempt := 0

/-- `build_control_request`. -/
def buildControlRequest (wire : Wire) (input : ControlCommandInput) (operator : OperatorCaller)
    (generated : String) (now : UInt64) : Except CommandError AcceptedCommand := do
  ensure (operator.allowsScope input.workspaceId input.namespaceId) CommandError.scopeDenied
  let action ← require (actionName input.action) ⟨.invalidCommand, "action must be one of stop, " ++
    "pause, resume, inject, set_budget, resolve_hold, force_stop."⟩
  let identity ← resolveCommandIdAndTimestamp input.commandId generated now
  let envelope ← (controlEnvelope wire input operator action identity.1 identity.2).mapError
    CommandError.fromGatewayError
  let request ← (fromValidatedTransport wire envelope).mapError CommandError.fromGatewayError
  return {
    commandId := identity.1
    request := request
    delivery := controlDelivery wire input action identity.1 identity.2 }

/-! ### Rebuilding -/

/-- The action and the reason read back from an event. -/
def recoverAction (action : String) (reasonCode : Option String) : String × Option String :=
  if action = "stop" ∧ reasonCode = some forceStopAuditMarker then ("force_stop", none)
  else
    match (reasonCode.filter fun _ => action = "stop").bind
        (Text.stripPrefix · forceStopAuditPrefix) with
    | some original => ("force_stop", some original)
    | none => (action, reasonCode)

/-- The reason in an event's data. -/
def recoverReason : Option Value → Except CommandError (Option String)
  | some (.text value) => .ok (some value)
  | some (.null _) | some .unset | none => .ok none
  | some _ => .error .internal

/-- `pending_command_from_ingest_request`. -/
def pendingCommandFromIngestRequest (wire : Wire) (request : IngestRequest) :
    Except CommandError PendingCommand := do
  let envelope ← require (wire.decode request.envelope) CommandError.internal
  ensure (envelope.type = controlType) CommandError.internal
  let data ← require envelope.data CommandError.internal
  let action ← require ((data.get "action").bind Value.asText) CommandError.internal
  let reasonCode ← recoverReason (data.get "reason_code")
  let parameters ← require ((data.get "parameters").bind Value.asStruct) CommandError.internal
  let scope ← require envelope.scope CommandError.internal
  let recovered := recoverAction action reasonCode
  return {
    commandId := envelope.eventId
    workspaceId := scope.workspaceId
    namespaceId := scope.namespaceId
    agentId := envelope.agentId
    runId := envelope.runId
    traceId := envelope.traceId
    action := recovered.1
    reasonCode := recovered.2
    parameters := wire.encodeStruct parameters
    issuedAt := envelope.timestamp
    deliveryAttempt := 0 }

/-! ### What was built -/

/-- An event the gateway may build for a request. -/
def Builds (wire : Wire) (input : ControlCommandInput) (operator : OperatorCaller)
    (generated : String) (envelope : EventEnvelope) : Prop :=
  ∃ action millis, actionName input.action = some action ∧
    uuidv7UnixMillis (resolveCommandId input.commandId generated) = some millis ∧
    controlEnvelope wire input operator action (resolveCommandId input.commandId generated)
      (formatRfc3339Micros (millis * 1000)) = .ok envelope

/-- What protobuf guarantees of its encodings, for the envelopes in question:
they are read back as they were written, an envelope is not empty, an empty
struct is, and an envelope is no shorter than the parameters in it. -/
structure FaithfulOn (wire : Wire) (envelopes : EventEnvelope → Prop) : Prop where
  roundTrip : ∀ envelope, envelopes envelope → wire.decode (wire.encode envelope) = some envelope
  nonempty : ∀ envelope, envelopes envelope → wire.encode envelope ≠ []
  emptyStruct : wire.encodeStruct [] = []
  nested : ∀ envelope data parameters, envelopes envelope → envelope.data = some data →
    (data.get "parameters").bind Value.asStruct = some parameters →
    (wire.encodeStruct parameters).length ≤ (wire.encode envelope).length

/-- Everything an accepted command was built from. -/
structure BuiltFrom (wire : Wire) (input : ControlCommandInput) (operator : OperatorCaller)
    (generated : String) (accepted : AcceptedCommand) where
  action : String
  millis : Nat
  envelope : EventEnvelope
  allowed : operator.allowsScope input.workspaceId input.namespaceId = true
  named : actionName input.action = some action
  identified : uuidv7UnixMillis (resolveCommandId input.commandId generated) = some millis
  commandId : accepted.commandId = resolveCommandId input.commandId generated
  built : controlEnvelope wire input operator action accepted.commandId
    (formatRfc3339Micros (millis * 1000)) = .ok envelope
  admitted : fromValidatedTransport wire envelope = .ok accepted.request
  delivery : accepted.delivery = controlDelivery wire input action accepted.commandId
    (formatRfc3339Micros (millis * 1000))

section

variable {wire : Wire} {input : ControlCommandInput} {operator : OperatorCaller}
  {generated : String} {now : UInt64} {accepted : AcceptedCommand}

theorem buildControlRequest_eq_ok
    (ok : buildControlRequest wire input operator generated now = .ok accepted) :
    Nonempty (BuiltFrom wire input operator generated accepted) := by
  simp only [buildControlRequest, resolveCommandIdAndTimestamp, bind_eq_ok, ensure_eq_ok,
    require_eq_ok, mapError_eq_ok, pure_eq_ok] at ok
  obtain ⟨_, allowed, action, named, _, ⟨millis, identified, _, -, rfl⟩, envelope, built, request,
    admitted, rfl⟩ := ok
  exact ⟨{
    action, millis, envelope, allowed, named, identified, built, admitted
    commandId := rfl
    delivery := rfl }⟩

theorem BuiltFrom.builds (origin : BuiltFrom wire input operator generated accepted) :
    Builds wire input operator generated origin.envelope :=
  ⟨origin.action, origin.millis, origin.named, origin.identified, origin.commandId ▸ origin.built⟩

/-- The event is the unsigned one with a hash. -/
theorem BuiltFrom.envelope_eq (origin : BuiltFrom wire input operator generated accepted) :
    ∃ eventHash, origin.envelope =
      { unsignedEnvelope input operator origin.action accepted.commandId
          (formatRfc3339Micros (origin.millis * 1000)) with
        integrity := some ⟨none, eventHash⟩ } := by
  obtain ⟨eventHash, -, is⟩ := bind_eq_ok.mp origin.built
  exact ⟨eventHash, (pure_eq_ok.mp is).symm⟩

theorem Builds.unique {first second} (one : Builds wire input operator generated first)
    (two : Builds wire input operator generated second) : first = second := by
  obtain ⟨action, millis, named, identified, built⟩ := one
  obtain ⟨action', millis', named', identified', built'⟩ := two
  obtain rfl := Option.some.inj (named.symm.trans named')
  obtain rfl := Option.some.inj (identified.symm.trans identified')
  exact Except.ok.inj (built.symm.trans built')

end

/-! ### A sample -/

def sampleCommandId : String := "01890a5d-ac96-774b-bcce-b302099a8057"

/-- The time in the sample identity. -/
def sampleNow : UInt64 := 1688096058518

def sampleOperator (subject : String) : OperatorCaller := ⟨subject, .within ["acme/prod"]⟩

def sampleInput (action : ControlAction) (reasonCode : Option String) : ControlCommandInput where
  commandId := some sampleCommandId
  workspaceId := "acme"
  namespaceId := "prod"
  agentId := "agent-1"
  runId := "run-1"
  parentRunId := none
  traceId := "trace-1"
  action := action
  reasonCode := reasonCode
  parameters := none

def asciiBytes (text : String) : List UInt8 :=
  text.toList.map fun c => UInt8.ofNat c.toNat

/-- The reason in the data of an event. -/
def reasonBytes (envelope : EventEnvelope) : List UInt8 :=
  ((envelope.data.bind (Struct.get · "reason_code")).bind Value.asText).elim [] asciiBytes

/-- The event of the sample request, with this reason in its data. -/
def sampleEnvelope (reason : String) : EventEnvelope :=
  { unsignedEnvelope (sampleInput .stop (some reason)) (sampleOperator "ops-1") "stop"
      sampleCommandId (formatRfc3339Micros (uuidUnixMillis sampleCommandId * 1000)) with
    integrity := some ⟨none, Text.checksum ((asciiBytes reason).map UInt8.toNat)⟩ }

/-- A wire for the sample events, which differ in their reasons. -/
def sampleWire : Wire where
  encode envelope := 0 :: reasonBytes envelope
  decode
    | 0 :: bytes =>
        some (sampleEnvelope (String.ofList (bytes.map fun byte => Char.ofNat byte.toNat)))
    | _ => none
  encodeStruct fields := fields.flatMap fun field => asciiBytes field.1
  canonicalHash envelope := .ok (Text.checksum ((reasonBytes envelope).map UInt8.toNat))
  containsSecret _ _ := false

theorem sampleWire_faithfulOn {reason input operator generated}
    (built : Builds sampleWire input operator generated (sampleEnvelope reason))
    (ascii : String.ofList ((asciiBytes reason).map fun byte => Char.ofNat byte.toNat) = reason) :
    FaithfulOn sampleWire (Builds sampleWire input operator generated) where
  roundTrip _ built' := by
    obtain rfl := built.unique built'
    exact congrArg (fun text => some (sampleEnvelope text)) ascii
  nonempty _ _ := List.cons_ne_nil _ _
  emptyStruct := rfl
  nested _ _ _ built' given found := by
    obtain rfl := built.unique built'
    cases given
    cases found
    exact Nat.zero_le _

end Apex.Control
