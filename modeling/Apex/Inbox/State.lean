import Apex.Inbox.Command
import Apex.Lib.KeyMap
import Apex.Lib.Saturating

/-!
The in-memory delivery state of the command inbox: the commands in the order
they were recorded, their delivery data, the settled identities that are kept
as tombstones, and the per-scope counters that enforce the quota.
-/

namespace Apex.Inbox

open Checked Control Saturating

/-- A stored command and its delivery data. -/
structure Entry where
  command : PendingCommand
  attempts : UInt32
  lastDeliveredMillis : Option UInt64
  acknowledged : Bool
  sequence : UInt64
  cancelled : Bool
  cancelledAtMillis : Option UInt64
  deriving DecidableEq, Repr

structure InboxState where
  order : List InboxKey
  entries : KeyMap InboxKey Entry
  retired : KeyMap InboxKey UInt64
  capacity : Nat
  scopeQuota : Nat
  scopeCounts : KeyMap ExactScope Nat
  nextSequence : UInt64

/-- The server-derived target of a poll. -/
structure PollTarget where
  agentId : String
  limit : Nat
  deriving DecidableEq, Repr

structure DeliveryPolicy where
  redeliveryAfterMillis : UInt64
  maxAttempts : UInt32
  deriving DecidableEq, Repr

inductive RecordResult where
  | recorded
  | alreadyRecorded
  deriving DecidableEq, Repr

inductive AckResult where
  | acknowledged
  | alreadyAcknowledged
  | notFound
  deriving DecidableEq, Repr

inductive CancelResult where
  | cancelled
  | alreadyCancelled
  | notFound
  deriving DecidableEq, Repr

namespace InboxState

/-- `InboxState::new`. -/
def new (capacity scopeQuota : Nat) : InboxState where
  order := []
  entries := ∅
  retired := ∅
  capacity := capacity
  scopeQuota := scopeQuota
  scopeCounts := ∅
  nextSequence := 1

/-- The counter of a scope. -/
def scopeCount (state : InboxState) (scope : ExactScope) : Nat :=
  (state.scopeCounts.lookup scope).getD 0

/-- Whether a command may be recorded: `some result` means that there is
nothing left to do, `none` that it is new and admitted. -/
def checkRecordable (state : InboxState) (command : PendingCommand) :
    Except CommandError (Option RecordResult) :=
  if command.key ∈ state.entries ∨ command.key ∈ state.retired then
    .ok (some .alreadyRecorded)
  else if state.capacity ≤ state.entries.keys.length + state.retired.keys.length then
    .error .inboxCapacity
  else if state.scopeQuota ≤ state.scopeCount command.scope then
    .error .inboxScopeQuota
  else .ok none

/-- A command that was never delivered. -/
def freshEntry (command : PendingCommand) (sequence : UInt64) : Entry where
  command := command
  attempts := 0
  lastDeliveredMillis := none
  acknowledged := false
  sequence := sequence
  cancelled := false
  cancelledAtMillis := none

/-- Inserts a command that `checkRecordable` has admitted. -/
def insertRecorded (state : InboxState) (command : PendingCommand) : InboxState :=
  { state with
    order := state.order.filter (· ≠ command.key) ++ [command.key]
    nextSequence := next64 state.nextSequence
    entries := AList.insert command.key (freshEntry command state.nextSequence) state.entries
    scopeCounts :=
      AList.insert command.scope (state.scopeCount command.scope + 1) state.scopeCounts }

def record (state : InboxState) (command : PendingCommand) :
    Except CommandError (RecordResult × InboxState) := do
  match ← state.checkRecordable command with
  | some result => return (result, state)
  | none => return (.recorded, state.insertRecorded command)

/-- One entry changed in place. -/
def updateEntry (state : InboxState) (key : InboxKey) (f : Entry → Entry) : InboxState :=
  { state with entries := state.entries.modify key f }

/-- A replayed delivery: the attempt counter and the delivery time only grow. -/
def applyDelivery (state : InboxState) (key : InboxKey) (attempt : UInt32) (atMillis : UInt64) :
    InboxState :=
  state.updateEntry key fun entry =>
    { entry with
      attempts := max entry.attempts attempt
      lastDeliveredMillis :=
        some (entry.lastDeliveredMillis.elim atMillis fun previous => max previous atMillis) }

/-- Whether an entry may be handed to the target now. -/
def isDeliverable (target : PollTarget) (allows : String → String → Bool)
    (policy : DeliveryPolicy) (now : UInt64) (entry : Entry) : Bool :=
  entry.command.agentId = target.agentId &&
    allows entry.command.workspaceId entry.command.namespaceId &&
    !(policy.maxAttempts ≤ entry.attempts) && !entry.acknowledged && !entry.cancelled &&
    entry.lastDeliveredMillis.all fun deliveredAt =>
      policy.redeliveryAfterMillis ≤ sub64 now deliveredAt

/-- The commands the target is entitled to receive now, oldest first. -/
def deliverable (state : InboxState) (target : PollTarget) (allows : String → String → Bool)
    (policy : DeliveryPolicy) (now : UInt64) : List InboxKey :=
  (state.order.filter fun key =>
    (state.entries.lookup key).any (isDeliverable target allows policy now)).take target.limit

/-- One delivery attempt made now. -/
def deliveredEntry (now : UInt64) (entry : Entry) : Entry :=
  { entry with attempts := next32 entry.attempts, lastDeliveredMillis := some now }

/-- Marks one delivery and returns the command with its attempt counter. -/
def markDelivered (state : InboxState) (key : InboxKey) (now : UInt64) :
    Option PendingCommand × InboxState :=
  match state.entries.lookup key with
  | none => (none, state)
  | some entry =>
      (some { entry.command with deliveryAttempt := next32 entry.attempts },
        state.updateEntry key (deliveredEntry now))

def acknowledge (state : InboxState) (target : PollTarget) (key : InboxKey)
    (deliveryAttempt : UInt32) : AckResult × InboxState :=
  match state.entries.lookup key with
  | none => (.notFound, state)
  | some entry =>
      if entry.command.agentId ≠ target.agentId ∨ deliveryAttempt = 0 ∨
          entry.attempts < deliveryAttempt then
        (.notFound, state)
      else if entry.acknowledged then (.alreadyAcknowledged, state)
      else (.acknowledged, state.updateEntry key fun entry => { entry with acknowledged := true })

/-- The cancellation of an entry. -/
def cancelledEntry (now : UInt64) (entry : Entry) : Entry :=
  { entry with cancelled := true, cancelledAtMillis := some now }

/-- Retracts a command that was never delivered. -/
def cancel (state : InboxState) (key : InboxKey) (now : UInt64) :
    Except CommandError (CancelResult × InboxState) :=
  match state.entries.lookup key with
  | some entry =>
      if entry.cancelled then .ok (.alreadyCancelled, state)
      else if 0 < entry.attempts then .error .alreadyDelivered
      else .ok (.cancelled, state.updateEntry key (cancelledEntry now))
  | none =>
      if key ∈ state.retired then .error .alreadyDelivered else .ok (.notFound, state)

/-- The entry becomes a tombstone. -/
def retire (state : InboxState) (key : InboxKey) (retiredAtMillis : UInt64) : InboxState :=
  { state with
    entries := AList.erase key state.entries
    retired := AList.insert key retiredAtMillis state.retired }

/-- One slot of a scope's share is given back. -/
def releaseScope (counts : KeyMap ExactScope Nat) (scope : ExactScope) : KeyMap ExactScope Nat :=
  match counts.lookup scope with
  | none => counts
  | some count =>
      if count - 1 = 0 then AList.erase scope counts else AList.insert scope (count - 1) counts

/-- Drops the tombstones that are past retention; the flag tells whether there
were any. -/
def removeExpiredRetired (state : InboxState) (cutoff : UInt64) : Bool × InboxState :=
  let expired := state.retired.entries.filter fun entry => entry.2 ≤ cutoff
  (!expired.isEmpty,
    { state with
      retired := state.retired.retain fun _ retiredAt => !(retiredAt ≤ cutoff)
      scopeCounts := (expired.map fun entry => entry.1.scope).foldl releaseScope
        state.scopeCounts })

end InboxState

end Apex.Inbox
