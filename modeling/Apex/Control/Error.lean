import Apex.Domain.Envelope

/-!
The redacted errors of the control gateway: a stable code and a static message.
-/

namespace Apex.Control

inductive CommandErrorCode where
  | unauthenticated
  | invalidAuthorization
  | credentialVerifierUnavailable
  | scopeDenied
  | rateLimited
  | invalidCommand
  | idempotencyConflict
  | idempotencyInProgress
  | capacity
  | internal
  | alreadyDelivered
  deriving DecidableEq, Repr

structure CommandError where
  code : CommandErrorCode
  message : String
  deriving DecidableEq, Repr

namespace CommandError

def scopeDenied : CommandError :=
  ⟨.scopeDenied, "The authenticated operator is not permitted to issue commands in this " ++
    "workspace/namespace."⟩

def alreadyDelivered : CommandError :=
  ⟨.alreadyDelivered, "This command has already been delivered to its agent at least once and " ++
    "can no longer be cancelled: the agent may already be acting on it. " ++
    "Issue a new command instead."⟩

def internal : CommandError :=
  ⟨.internal, "The control gateway failed to process the request."⟩

/-- `configuration_error` of the inbox, which reports nothing of its cause. -/
def configuration : CommandError :=
  internal

/-- The error of a command whose fields do not have the stored form. -/
def malformed : CommandError :=
  ⟨.invalidCommand, "The command was malformed: check target identifiers, action, and required " ++
    "parameters for the requested action."⟩

def inboxCapacity : CommandError :=
  ⟨.capacity, "The durable command inbox is at capacity. Retry after operator remediation."⟩

def inboxScopeQuota : CommandError :=
  ⟨.capacity, "This workspace/namespace has reached its share of the durable command inbox. " ++
    "Retry after operator remediation."⟩

def rateLimited : CommandError :=
  ⟨.rateLimited, "The control gateway is temporarily rate-limited. Retry with backoff."⟩

/-- `from_gateway_error`: the errors of admission and of the outbox, in the
gateway's own codes. -/
def fromGatewayError : Domain.GatewayError → CommandError
  | .idempotencyConflict =>
      ⟨.idempotencyConflict, "command_id was already accepted with different fields. Use a new " ++
        "command_id for a genuinely different command."⟩
  | .idempotencyCapacity =>
      ⟨.capacity, "The durable command outbox is at capacity. Retry after operator remediation."⟩
  | .idempotencyInProgress =>
      ⟨.idempotencyInProgress, "This command is currently being durably recorded by another " ++
        "request. Retry shortly."⟩
  | .internal | .invalidOutboxConfiguration | .invalidIdempotencyConfiguration => internal
  | .unauthenticated | .scopeDenied | .invalidEnvelope | .payloadTooLarge | .invalidEventId
  | .invalidTimestamp | .invalidIntegrity | .invalidStructure | .secretExposure => malformed

end CommandError

end Apex.Control
