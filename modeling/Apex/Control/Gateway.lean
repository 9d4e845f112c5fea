import Apex.Control.Approval
import Apex.Control.Fingerprint
import Apex.Inbox.Recovery
import Apex.Outbox.Failures

/-!
The write path of the control gateway: one command, and one command for many
targets.

Both end in the same two writes, the event to the outbox and the delivery to the
inbox. A single `force_stop` passes the approval gate first. A bulk call works in
two phases: it admits and checks every target, leaving a slot open for each that
passed, and then writes those and fills their slots.
-/

namespace Apex.Control

open Checked Domain Framing Inbox Outbox

/-- The stores behind the gateway, and the approvals that wait. -/
structure Gateway where
  outbox : FileOutbox
  inbox : FileCommandInbox
  dualApproval : DualApprovalGate

/-- What a submission meets: the answer of the admission ceiling, whether there is
a storage permit, the clocks it reads, and where its two writes fail. -/
structure Circumstances where
  admission : Except CommandError Unit
  storagePermit : Bool
  /-- What `Uuid::now_v7` would give. -/
  generated : String
  now : UInt64
  /-- The monotone clock of the approval gate. -/
  instant : Nat
  outboxNow : UInt64
  outboxFault : Option AppendFault
  /-- The bytes an append of the inbox reaches before it fails. -/
  inboxFault : Option Nat

structure SubmitOutcome where
  duplicate : Bool
  delivered : Bool
  deriving DecidableEq, Repr

def submitOutcome : EnqueueResult → SubmitOutcome
  | .enqueued => ⟨false, false⟩
  | .alreadyPending => ⟨true, false⟩
  | .alreadyComplete => ⟨true, true⟩

/-- `record` over a file that may fail. -/
def recordWith (fault : Option Nat) (inbox : FileCommandInbox) (command : PendingCommand) :
    Except CommandError RecordResult × FileCommandInbox :=
  match fault, inbox.record command with
  | some reached, (.ok .recorded, _) =>
      (.error .internal, failedWrite inbox (.record command) reached)
  | _, outcome => outcome

/-- The two writes of an accepted command, the event before the delivery. -/
def Gateway.store (platform : Platform) (circumstances : Circumstances) (gateway : Gateway)
    (accepted : AcceptedCommand) :
    Except CommandError (SubmitOutcome × RecordResult) × Gateway :=
  match gateway.outbox.commitWith circumstances.outboxFault
    (gateway.outbox.state.enqueue platform.codec accepted.request circumstances.outboxNow) with
  | (.error e, outbox) => (.error (.fromGatewayError e), { gateway with outbox })
  | (.ok result, outbox) =>
      match recordWith circumstances.inboxFault gateway.inbox accepted.delivery with
      | (.error e, inbox) => (.error e, { gateway with outbox, inbox })
      | (.ok record, inbox) => (.ok (submitOutcome result, record), { gateway with outbox, inbox })

/-! ### One command -/

structure ControlCommandResponse where
  duplicate : Bool
  commandId : String
  delivered : Bool
  awaitingSecondApproval : Bool
  deriving DecidableEq, Repr

/-- The fan-out of an earlier acceptance covers this one only where the inbox has
the command already. -/
def isDelivered (outcome : SubmitOutcome) (record : RecordResult) : Bool :=
  outcome.delivered && record = .alreadyRecorded

section Submit

variable (platform : Platform) (operator : OperatorCaller) (circumstances : Circumstances)
  (gateway : Gateway)

def acceptAndRecord (accepted : AcceptedCommand) :
    Except CommandError ControlCommandResponse × Gateway :=
  if !circumstances.storagePermit then (.error .rateLimited, gateway)
  else
    match gateway.store platform circumstances accepted with
    | (.error e, after) => (.error e, after)
    | (.ok (outcome, record), after) =>
        (.ok {
          duplicate := outcome.duplicate
          commandId := accepted.commandId
          delivered := isDelivered outcome record
          awaitingSecondApproval := false }, after)

/-- A request that needs no approval, or has it. -/
def submitApproved (input : ControlCommandInput) :
    Except CommandError ControlCommandResponse × Gateway :=
  match buildControlRequest platform.toWire input operator circumstances.generated
    circumstances.now with
  | .error e => (.error e, gateway)
  | .ok accepted => acceptAndRecord platform circumstances gateway accepted

/-- The error of a second approval for other fields. -/
def approvalMismatch : CommandError :=
  ⟨.idempotencyConflict, "command_id was already approved once with different fields. Use a new " ++
    "command_id for a genuinely different force_stop."⟩

/-- The answer to a first approval. -/
def awaitingSecond (commandId : String) : ControlCommandResponse where
  duplicate := false
  commandId := commandId
  delivered := false
  awaitingSecondApproval := true

/-- The answer of the approval gate to a request. -/
def approvalFor (input : ControlCommandInput) (commandId : String) :
    Except CommandError ApprovalOutcome × DualApprovalGate :=
  gateway.dualApproval.submit ⟨input.workspaceId, input.namespaceId, commandId⟩
    (fingerprint platform { input with commandId := some commandId }) operator.subject
    circumstances.instant

/-- The inbox has the command. A command it has retired is not in it. -/
def Gateway.hasRecorded (gateway : Gateway) (workspaceId namespaceId commandId : String) : Bool :=
  (gateway.inbox.state.entries.lookup ⟨workspaceId, namespaceId, commandId⟩).isSome

/-- A `force_stop` whose identity is resolved: one that is recorded is a retry and
needs no approval again. -/
def submitIdentified (input : ControlCommandInput) (commandId : String) :
    Except CommandError ControlCommandResponse × Gateway :=
  let identified := { input with commandId := some commandId }
  if gateway.hasRecorded input.workspaceId input.namespaceId commandId then
    submitApproved platform operator circumstances gateway identified
  else
    match approvalFor platform operator circumstances gateway input commandId with
    | (.error e, dualApproval) => (.error e, { gateway with dualApproval })
    | (.ok .awaitingSecond, dualApproval)
    | (.ok .alreadyApprovedBySameOperator, dualApproval) =>
        (.ok (awaitingSecond commandId), { gateway with dualApproval })
    | (.ok .fieldMismatch, dualApproval) =>
        (.error approvalMismatch, { gateway with dualApproval })
    | (.ok .approved, dualApproval) =>
        submitApproved platform operator circumstances { gateway with dualApproval } identified

def submitForceStop (input : ControlCommandInput) :
    Except CommandError ControlCommandResponse × Gateway :=
  if !operator.allowsScope input.workspaceId input.namespaceId then (.error .scopeDenied, gateway)
  else
    match resolveCommandIdAndTimestamp input.commandId circumstances.generated
      circumstances.now with
    | .error e => (.error e, gateway)
    | .ok (commandId, _) =>
        if !circumstances.storagePermit then (.error .rateLimited, gateway)
        else submitIdentified platform operator circumstances gateway input commandId

/-- `do_submit_command`, for an operator that was authenticated. -/
def submitCommand (input : ControlCommandInput) :
    Except CommandError ControlCommandResponse × Gateway :=
  match circumstances.admission with
  | .error e => (.error e, gateway)
  | .ok _ =>
      if input.action = .forceStop then
        submitForceStop platform operator circumstances gateway input
      else submitApproved platform operator circumstances gateway input

end Submit

/-! ### One command for many targets -/

def maxBulkCommandTargets : Nat := 64

structure BulkCommandTarget where
  workspaceId : String
  namespaceId : String
  agentId : String
  runId : String
  parentRunId : Option String
  traceId : String
  deriving DecidableEq, Repr

structure SubmitBulkCommandRequest where
  bulkId : Option String
  targets : List BulkCommandTarget
  action : ControlAction
  reasonCode : Option String
  parameters : Option Struct

structure BulkCommandResult where
  workspaceId : String
  namespaceId : String
  agentId : String
  accepted : Bool
  commandId : Option String
  duplicate : Option Bool
  delivered : Option Bool
  errorCode : Option CommandErrorCode
  errorMessage : Option String
  deriving DecidableEq, Repr

structure SubmitBulkCommandResponse where
  bulkId : String
  results : List BulkCommandResult
  deriving DecidableEq, Repr

def acceptedBulkResult (target : BulkCommandTarget) (commandId : String) (outcome : SubmitOutcome)
    (record : RecordResult) : BulkCommandResult where
  workspaceId := target.workspaceId
  namespaceId := target.namespaceId
  agentId := target.agentId
  accepted := true
  commandId := some commandId
  duplicate := some outcome.duplicate
  delivered := some (isDelivered outcome record)
  errorCode := none
  errorMessage := none

def rejectedBulkResult (target : BulkCommandTarget) (error : CommandError) :
    BulkCommandResult where
  workspaceId := target.workspaceId
  namespaceId := target.namespaceId
  agentId := target.agentId
  accepted := false
  commandId := none
  duplicate := none
  delivered := none
  errorCode := some error.code
  errorMessage := some error.message

/-- `validate_bulk_id`. -/
def validateBulkId (bulkId : Option String) (generated : String) (now : UInt64) :
    Except CommandError (String × Nat) := do
  let bulkId := resolveCommandId bulkId generated
  let millis ← require (uuidv7UnixMillis bulkId)
    ⟨.invalidCommand, "bulk_id must be a canonical lowercase UUIDv7."⟩
  ensure (commandMillisWithinAcceptanceWindow millis now.toNat)
    ⟨.invalidCommand, "bulk_id's embedded UUIDv7 timestamp is outside the accepted clock " ++
      "window. Generate the bulk_id at submission time."⟩
  return (bulkId, millis)

/-- What is hashed for the identity of a target: the bulk identity, and five fields
with a zero byte before each. -/
def targetHashInput (bulkId : String) (target : BulkCommandTarget) : List UInt8 :=
  textBytes bulkId ++ separated 0
    ([target.workspaceId, target.namespaceId, target.agentId, target.runId,
      target.traceId].map textBytes)

def deriveTargetCommandId (platform : Platform) (bulkId : String) (millis : Nat)
    (target : BulkCommandTarget) : String :=
  platform.uuidFromUnixMillis millis
    ((platform.sha256 (targetHashInput bulkId target)).bytes.take 10)

/-- The checks of a bulk call as a whole. -/
def checkBulk (request : SubmitBulkCommandRequest) (generated : String) (now : UInt64) :
    Except CommandError (String × Nat) := do
  ensure (!request.targets.isEmpty)
    ⟨.invalidCommand, "SubmitBulkCommand requires at least one target."⟩
  ensure (request.targets.length ≤ maxBulkCommandTargets)
    ⟨.invalidCommand, "SubmitBulkCommand exceeds the maximum number of targets allowed in one " ++
      "call."⟩
  ensure (actionName request.action).isSome
    ⟨.invalidCommand, "action must be one of stop, pause, resume, inject, set_budget."⟩
  validateBulkId request.bulkId generated now

/-- A bulk call that passed its checks. -/
structure BulkCall where
  request : SubmitBulkCommandRequest
  bulkId : String
  millis : Nat

/-- The command of one target. -/
def BulkCall.input (platform : Platform) (call : BulkCall) (target : BulkCommandTarget) :
    ControlCommandInput where
  commandId := some (deriveTargetCommandId platform call.bulkId call.millis target)
  workspaceId := target.workspaceId
  namespaceId := target.namespaceId
  agentId := target.agentId
  runId := target.runId
  parentRunId := target.parentRunId
  traceId := target.traceId
  action := call.request.action
  reasonCode := call.request.reasonCode
  parameters := call.request.parameters

/-- What the first phase has collected: a slot for each target, open where it
passed, and the targets that passed with their slots. -/
structure Slots where
  slots : List (Option BulkCommandResult)
  pending : List (Nat × BulkCommandTarget × AcceptedCommand)

section Bulk

variable (platform : Platform) (operator : OperatorCaller) (circumstances : Nat → Circumstances)
  (call : BulkCall)

/-- The first phase for one target. -/
def admitTarget (index : Nat) (target : BulkCommandTarget) :
    Except CommandError AcceptedCommand := do
  (circumstances index).admission
  buildControlRequest platform.toWire (call.input platform target) operator
    (circumstances index).generated (circumstances index).now

def admitNext (collected : Slots) (target : BulkCommandTarget) : Slots :=
  match admitTarget platform operator circumstances call collected.slots.length target with
  | .error e => { collected with slots := collected.slots ++ [some (rejectedBulkResult target e)] }
  | .ok accepted =>
      { slots := collected.slots ++ [none]
        pending := collected.pending ++ [(collected.slots.length, target, accepted)] }

def admitTargets : Slots :=
  call.request.targets.foldl (admitNext platform operator circumstances call) ⟨[], []⟩

/-- The second phase for one target. -/
def writeTarget (gateway : Gateway) (index : Nat) (target : BulkCommandTarget)
    (accepted : AcceptedCommand) : BulkCommandResult × Gateway :=
  match gateway.store platform (circumstances index) accepted with
  | (.error e, after) => (rejectedBulkResult target e, after)
  | (.ok (outcome, record), after) =>
      (acceptedBulkResult target accepted.commandId outcome record, after)

def writeTargets (gateway : Gateway) : List (Nat × BulkCommandTarget × AcceptedCommand) →
    List (Nat × BulkCommandResult) × Gateway
  | [] => ([], gateway)
  | (slot, target, accepted) :: rest =>
      let (filled, after) := writeTarget platform circumstances gateway slot target accepted
      let (later, final) := writeTargets after rest
      ((slot, filled) :: later, final)

/-- The results of the second phase put into their slots. -/
def fillSlots (slots : List (Option BulkCommandResult)) (filled : List (Nat × BulkCommandResult)) :
    List (Option BulkCommandResult) :=
  filled.foldl (fun slots entry => slots.set entry.1 (some entry.2)) slots

/-- The response; a slot that is still open is a panic, and there is none. -/
def bulkResponse (slots : List (Option BulkCommandResult)) : Option SubmitBulkCommandResponse :=
  (slots.mapM id).map fun results => ⟨call.bulkId, results⟩

/-- A checked call. -/
def submitTargets (storagePermit : Bool) (gateway : Gateway) :
    Except CommandError (Option SubmitBulkCommandResponse) × Gateway :=
  let admitted := admitTargets platform operator circumstances call
  if admitted.pending.isEmpty then (.ok (bulkResponse call admitted.slots), gateway)
  else if !storagePermit then (.error .rateLimited, gateway)
  else
    let (filled, after) := writeTargets platform circumstances gateway admitted.pending
    (.ok (bulkResponse call (fillSlots admitted.slots filled)), after)

/-- `do_submit_bulk_command`, for an operator that was authenticated. -/
def submitBulkCommand (generated : String) (now : UInt64) (storagePermit : Bool) (gateway : Gateway)
    (request : SubmitBulkCommandRequest) :
    Except CommandError (Option SubmitBulkCommandResponse) × Gateway :=
  match checkBulk request generated now with
  | .error e => (.error e, gateway)
  | .ok (bulkId, millis) =>
      submitTargets platform operator circumstances ⟨request, bulkId, millis⟩ storagePermit gateway

end Bulk

end Apex.Control
