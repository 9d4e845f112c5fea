import Apex.Inbox.State

/-!
The file-backed command inbox: the delivery state and the journal it is
replayed from.

The journal is the text of the file. Every operation appends to it before, or
undoes its change when, the append is refused; `compact` replaces it by a
snapshot of the state. `FileCommandInbox.open` replays it.
-/

namespace Apex.Inbox

open Checked Control Lines Saturating

/-- The largest capacity an inbox may be opened with. -/
def defaultInboxCapacity : Nat := 1000000

def maxInboxFileBytes : Nat := 256 * 1024 * 1024

def inboxCompactionThresholdBytes : Nat := 8 * 1024 * 1024

def inboxCompactionDeliveryRecords : Nat := 1024

structure FileCommandInbox where
  journal : List Char
  state : InboxState
  deliveryRecordsSinceCompaction : Nat

/-- One replayed record. A command is validated again rather than trusted, and
its admission is checked again. -/
def InboxState.applyRecord (state : InboxState) : InboxRecord → Except CommandError InboxState
  | .command stored => do
      ensure (isRecordable stored) .configuration
      let (_, next) ← state.record stored
      return next
  | .delivered key attempt atMillis => return state.applyDelivery key attempt atMillis
  | .acknowledged key _ =>
      return state.updateEntry key fun entry => { entry with acknowledged := true }
  | .retired key retiredAtMillis => return state.retire key retiredAtMillis
  | .cancelled key atMillis => return state.updateEntry key (InboxState.cancelledEntry atMillis)

/-- One line of the journal replayed. -/
def InboxState.loadLine (state : InboxState) (line : List Char) :
    Except CommandError InboxState := do
  ensure (byteLength line ≤ maxInboxRecordBytes) .configuration
  let record ← require (InboxRecord.decode line) .configuration
  state.applyRecord record

namespace FileCommandInbox

/-- The state a journal is replayed into. -/
def load (capacity scopeQuota : Nat) (journal : List Char) : Except CommandError InboxState :=
  (lines journal).foldlM InboxState.loadLine (InboxState.new capacity scopeQuota)

/-- Opens the inbox over what its file holds. -/
def «open» (capacity scopeQuota : Nat) (journal : List Char) :
    Except CommandError FileCommandInbox := do
  ensure (0 < capacity && capacity ≤ defaultInboxCapacity) .configuration
  ensure (0 < scopeQuota && scopeQuota ≤ capacity) .configuration
  ensure (byteLength journal ≤ maxInboxFileBytes) .configuration
  let state ← load capacity scopeQuota journal
  return { journal, state, deliveryRecordsSinceCompaction := 0 }

/-- The lines of a batch of records, each within the record limit and all
together within the file limit. -/
def encodeRecords (records : List InboxRecord) : Except CommandError (List Char) := do
  forM records fun record =>
    ensure (byteLength (record.encode ++ ['\n']) ≤ maxInboxRecordBytes) CommandError.inboxCapacity
  let encoded := unlines (records.map InboxRecord.encode)
  ensure (byteLength encoded ≤ maxInboxFileBytes) CommandError.inboxCapacity
  return encoded

/-- Appends a batch of records to the journal. -/
def appendBatch (inbox : FileCommandInbox) (records : List InboxRecord) :
    Except CommandError FileCommandInbox := do
  if records.isEmpty then return inbox
  let encoded ← encodeRecords records
  ensure (byteLength inbox.journal + byteLength encoded ≤ maxInboxFileBytes)
    CommandError.inboxCapacity
  return { inbox with journal := inbox.journal ++ encoded }

/-- The records an entry is rebuilt from. -/
def entryRecords (key : InboxKey) (entry : Entry) : List InboxRecord :=
  [.command entry.command] ++
    (if 0 < entry.attempts then
      [.delivered key entry.attempts (entry.lastDeliveredMillis.getD 0)] else []) ++
    (if entry.acknowledged then
      [.acknowledged key (entry.lastDeliveredMillis.getD 0)] else []) ++
    (if entry.cancelled then
      [.cancelled key (entry.cancelledAtMillis.getD 0)] else [])

/-- The records the state is rebuilt from: the live commands in their order,
then the tombstones as the hash map is scanned. -/
def snapshotRecords (state : InboxState) (scan : Scan InboxKey UInt64) : List InboxRecord :=
  state.order.flatMap (fun key => (state.entries.lookup key).elim [] (entryRecords key)) ++
    (scan.order state.retired).map fun (key, retiredAtMillis) => .retired key retiredAtMillis

/-- Rewrites the journal to a snapshot of the state. -/
def compact (inbox : FileCommandInbox) (scan : Scan InboxKey UInt64) :
    Except CommandError FileCommandInbox := do
  let encoded ← encodeRecords (snapshotRecords inbox.state scan)
  return {
    journal := encoded
    state := { inbox.state with order := inbox.state.order.filter (· ∈ inbox.state.entries) }
    deliveryRecordsSinceCompaction := 0 }

/-- Compaction after a poll; its failure is ignored. -/
def compactIfNeeded (inbox : FileCommandInbox) (scan : Scan InboxKey UInt64) : FileCommandInbox :=
  if byteLength inbox.journal < inboxCompactionThresholdBytes ∨
      inbox.deliveryRecordsSinceCompaction < inboxCompactionDeliveryRecords then
    inbox
  else
    match inbox.compact scan with
    | .ok compacted => compacted
    | .error _ => inbox

def record (inbox : FileCommandInbox) (command : PendingCommand) :
    Except CommandError RecordResult × FileCommandInbox :=
  if !isRecordable command then (.error .malformed, inbox)
  else
    match inbox.state.checkRecordable command with
    | .error e => (.error e, inbox)
    | .ok (some result) => (.ok result, inbox)
    | .ok none =>
        match inbox.appendBatch [.command command] with
        | .error e => (.error e, inbox)
        | .ok appended =>
            (.ok .recorded, { appended with state := appended.state.insertRecorded command })

/-- The attempts of a batch of keys marked one after the other. -/
def markAll (now : UInt64) : List InboxKey → InboxState → List PendingCommand × InboxState
  | [], state => ([], state)
  | key :: rest, state =>
      let (command, marked) := state.markDelivered key now
      let (later, final) := markAll now rest marked
      (command.toList ++ later, final)

/-- The delivery records of a poll. -/
def claimRecords (state : InboxState) (keys : List InboxKey) (now : UInt64) : List InboxRecord :=
  keys.map fun key =>
    .delivered key (next32 ((state.entries.lookup key).elim 0 Entry.attempts)) now

def claim (inbox : FileCommandInbox) (target : PollTarget) (allows : String → String → Bool)
    (policy : DeliveryPolicy) (now : UInt64) (scan : Scan InboxKey UInt64) :
    Except CommandError (List PendingCommand) × FileCommandInbox :=
  let keys := inbox.state.deliverable target allows policy now
  match inbox.appendBatch (claimRecords inbox.state keys now) with
  | .error e => (.error e, inbox)
  | .ok appended =>
      let (delivered, state) := markAll now keys appended.state
      (.ok delivered,
        compactIfNeeded
          { appended with
            state := state
            deliveryRecordsSinceCompaction :=
              appended.deliveryRecordsSinceCompaction + keys.length } scan)

/-- The acknowledgement is undone where its record cannot be appended. -/
def acknowledge (inbox : FileCommandInbox) (target : PollTarget) (key : InboxKey)
    (deliveryAttempt : UInt32) (now : UInt64) : Except CommandError AckResult × FileCommandInbox :=
  let (result, state) := inbox.state.acknowledge target key deliveryAttempt
  let acknowledged := { inbox with state }
  if result = .acknowledged then
    match acknowledged.appendBatch [.acknowledged key now] with
    | .error e =>
        (.error e, { acknowledged with
          state := state.updateEntry key fun entry => { entry with acknowledged := false } })
    | .ok appended => (.ok result, appended)
  else (.ok result, acknowledged)

/-- The cancellation is undone where its record cannot be appended. -/
def cancel (inbox : FileCommandInbox) (key : InboxKey) (now : UInt64) :
    Except CommandError CancelResult × FileCommandInbox :=
  match inbox.state.cancel key now with
  | .error e => (.error e, inbox)
  | .ok (result, state) =>
      let cancelled := { inbox with state }
      if result = .cancelled then
        match cancelled.appendBatch [.cancelled key now] with
        | .error e =>
            (.error e, { cancelled with
              state := state.updateEntry key fun entry =>
                { entry with cancelled := false, cancelledAtMillis := none } })
        | .ok appended => (.ok result, appended)
      else (.ok result, cancelled)

/-- When an entry is retired by a sweep, and with which time: a cancelled one
keeps its cancellation time, a delivered one gets the time of the sweep. -/
def settledAt (now cutoff : UInt64) (maxAttempts : UInt32) (entry : Entry) : Option UInt64 :=
  if entry.cancelled then entry.cancelledAtMillis.filter (· ≤ cutoff)
  else if (entry.acknowledged || maxAttempts ≤ entry.attempts) &&
      entry.lastDeliveredMillis.any (· ≤ cutoff) then
    some now
  else none

/-- The entries a sweep retires. -/
def settled (state : InboxState) (now cutoff : UInt64) (maxAttempts : UInt32) :
    List (InboxKey × UInt64) :=
  state.entries.toPairs.filterMap fun (key, entry) =>
    (settledAt now cutoff maxAttempts entry).map (key, ·)

/-- The state after the settled entries became tombstones. -/
def retireAll (state : InboxState) (retirements : List (InboxKey × UInt64)) : InboxState :=
  retirements.foldl (fun state (key, retiredAt) => state.retire key retiredAt) state

/-- Retires what is settled, drops the tombstones past retention, and rewrites
the journal where anything changed. -/
def maintain (inbox : FileCommandInbox) (now retention : UInt64) (maxAttempts : UInt32)
    (scan : Scan InboxKey UInt64) : Except CommandError Unit × FileCommandInbox :=
  let cutoff := sub64 now retention
  let retirements := settled inbox.state now cutoff maxAttempts
  let (expired, state) := (retireAll inbox.state retirements).removeExpiredRetired cutoff
  if retirements.isEmpty && !expired then (.ok (), inbox)
  else
    match compact { inbox with state } scan with
    | .error e => (.error e, inbox)
    | .ok compacted => (.ok (), compacted)

end FileCommandInbox

end Apex.Inbox
