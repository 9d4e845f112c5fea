import Apex.Control.Error
import Apex.Lib.JsonFields

/-!
The commands the inbox stores, the records of its journal, and their text.

A journal record is one line of JSON with its kind in the member `op`.
`InboxRecord.decode_encode` says that every record the inbox writes is read
back as it was written.
-/

namespace Apex.Inbox

open Json JsonFields

/-- The largest line of the journal, its newline included. -/
def maxInboxRecordBytes : Nat := 512 * 1024

/-- One command awaiting, or having received, delivery to its agent. -/
structure PendingCommand where
  commandId : String
  workspaceId : String
  namespaceId : String
  agentId : String
  runId : String
  traceId : String
  action : String
  reasonCode : Option String
  parameters : List UInt8
  issuedAt : String
  deliveryAttempt : UInt32
  deriving DecidableEq, Repr

/-- Identifies one stored command. -/
structure InboxKey where
  workspaceId : String
  namespaceId : String
  commandId : String
  deriving DecidableEq, Repr

namespace PendingCommand

def key (command : PendingCommand) : InboxKey :=
  ⟨command.workspaceId, command.namespaceId, command.commandId⟩

def scope (command : PendingCommand) : ExactScope :=
  ⟨command.workspaceId, command.namespaceId⟩

end PendingCommand

def InboxKey.scope (key : InboxKey) : ExactScope :=
  ⟨key.workspaceId, key.namespaceId⟩

/-- The actions a stored command may carry. -/
def storedActions : List String :=
  ["stop", "pause", "resume", "inject", "set_budget", "resolve_hold", "force_stop"]

/-- The grammar a stored command must satisfy. The identifier test of the inbox
is the one of the ingest boundary. -/
def isRecordable (command : PendingCommand) : Bool :=
  isScopeIdentifier command.workspaceId && isScopeIdentifier command.namespaceId &&
    isScopeIdentifier command.agentId && isScopeIdentifier command.runId &&
    isScopeIdentifier command.traceId && isScopeIdentifier command.commandId &&
    storedActions.contains command.action &&
    command.reasonCode.all isScopeIdentifier &&
    command.issuedAt.utf8ByteSize ≤ 64 &&
    command.issuedAt.toList.all (fun c => c.toNat < 128) &&
    !command.issuedAt.toList.any Text.isControl &&
    command.parameters.length ≤ maxInboxRecordBytes / 2

/-- One line of the journal. -/
inductive InboxRecord where
  | command (stored : PendingCommand)
  | delivered (key : InboxKey) (attempt : UInt32) (atMillis : UInt64)
  | acknowledged (key : InboxKey) (atMillis : UInt64)
  | retired (key : InboxKey) (retiredAtMillis : UInt64)
  | cancelled (key : InboxKey) (atMillis : UInt64)
  deriving DecidableEq, Repr

/-- The members that name a command in a record. -/
def keyMembers (key : InboxKey) : List (String × Json) :=
  [("workspace_id", .str key.workspaceId), ("namespace_id", .str key.namespaceId),
    ("command_id", .str key.commandId)]

/-- The key in a record's members. -/
def readKey (members : List (String × Json)) : Option InboxKey := do
  let workspaceId ← field members "workspace_id" >>= asString
  let namespaceId ← field members "namespace_id" >>= asString
  let commandId ← field members "command_id" >>= asString
  return ⟨workspaceId, namespaceId, commandId⟩

/-- The members of a stored command. -/
def commandMembers (command : PendingCommand) : List (String × Json) :=
  [("command_id", .str command.commandId), ("workspace_id", .str command.workspaceId),
    ("namespace_id", .str command.namespaceId), ("agent_id", .str command.agentId),
    ("run_id", .str command.runId), ("trace_id", .str command.traceId),
    ("action", .str command.action), ("reason_code", optionalText command.reasonCode),
    ("parameters", bytes command.parameters), ("issued_at", .str command.issuedAt),
    ("delivery_attempt", natural command.deliveryAttempt.toNat)]

/-- A stored command; the optional reason, the parameters and the attempt
counter have defaults. -/
def readCommand (members : List (String × Json)) : Option PendingCommand := do
  let commandId ← field members "command_id" >>= asString
  let workspaceId ← field members "workspace_id" >>= asString
  let namespaceId ← field members "namespace_id" >>= asString
  let agentId ← field members "agent_id" >>= asString
  let runId ← field members "run_id" >>= asString
  let traceId ← field members "trace_id" >>= asString
  let action ← field members "action" >>= asString
  let reasonCode ← fieldOr members "reason_code" .null >>= asOption asString
  let parameters ← fieldOr members "parameters" (bytes []) >>= asBytes
  let issuedAt ← field members "issued_at" >>= asString
  let deliveryAttempt ← fieldOr members "delivery_attempt" (natural 0) >>= asUInt32
  return { commandId, workspaceId, namespaceId, agentId, runId, traceId, action, reasonCode,
           parameters, issuedAt, deliveryAttempt }

namespace InboxRecord

/-- The document of a record. -/
def toJson : InboxRecord → Json
  | .command stored => .obj (("op", .str "command") :: commandMembers stored)
  | .delivered key attempt atMillis =>
      .obj (("op", .str "delivered") :: keyMembers key ++
        [("attempt", natural attempt.toNat), ("at_millis", natural atMillis.toNat)])
  | .acknowledged key atMillis =>
      .obj (("op", .str "acknowledged") :: keyMembers key ++
        [("at_millis", natural atMillis.toNat)])
  | .retired key retiredAtMillis =>
      .obj (("op", .str "retired") :: keyMembers key ++
        [("retired_at_millis", natural retiredAtMillis.toNat)])
  | .cancelled key atMillis =>
      .obj (("op", .str "cancelled") :: keyMembers key ++
        [("at_millis", natural atMillis.toNat)])

/-- The record of a document. -/
def ofJson (document : Json) : Option InboxRecord := do
  let members ← asObject document
  let op ← field members "op" >>= asString
  if op = "command" then
    return .command (← readCommand members)
  else if op = "delivered" then
    return .delivered (← readKey members) (← field members "attempt" >>= asUInt32)
      (← field members "at_millis" >>= asUInt64)
  else if op = "acknowledged" then
    return .acknowledged (← readKey members) (← field members "at_millis" >>= asUInt64)
  else if op = "retired" then
    return .retired (← readKey members) (← field members "retired_at_millis" >>= asUInt64)
  else if op = "cancelled" then
    return .cancelled (← readKey members) (← field members "at_millis" >>= asUInt64)
  else none

/-- `serde_json::to_vec` of a record. -/
def encode (record : InboxRecord) : List Char :=
  record.toJson.render

/-- `serde_json::from_str` of a line. -/
def decode (line : List Char) : Option InboxRecord :=
  (JsonReader.parse line).bind ofJson

theorem ofJson_toJson (record : InboxRecord) : ofJson record.toJson = some record := by
  cases record with
  | command stored =>
    refine read_then rfl (read_then rfl ?_)
    refine read_then (?_ : readCommand _ = some stored) rfl
    refine read_then rfl (read_then rfl (read_then rfl (read_then rfl (read_then rfl ?_))))
    refine read_then rfl (read_then rfl (read_then (asOption_optionalText _) ?_))
    refine read_then (asBytes_bytes _) (read_then rfl ?_)
    exact read_then (asUInt32_natural _) rfl
  | delivered key attempt atMillis =>
    refine read_then rfl (read_then rfl (read_then rfl ?_))
    exact read_then (asUInt32_natural _) (read_then (asUInt64_natural _) rfl)
  | acknowledged | retired | cancelled =>
    refine read_then rfl (read_then rfl (read_then rfl ?_))
    exact read_then (asUInt64_natural _) rfl

/-- Every record is read back as it was written. -/
@[simp] theorem decode_encode (record : InboxRecord) : decode record.encode = some record := by
  rw [decode, encode, JsonReader.parse_render, Option.bind_some, ofJson_toJson]

/-- The key a record is about. -/
def key : InboxRecord → InboxKey
  | .command stored => stored.key
  | .delivered key _ _ | .acknowledged key _ | .retired key _ | .cancelled key _ => key

end InboxRecord

end Apex.Inbox
