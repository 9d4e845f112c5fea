import Apex.Lib.TornLines
import Apex.Outbox.File

/-!
The file-backed idempotency store: the keys that were committed, the journal
they are replayed from, and the reservations of requests that are running.

Reservations are in memory only. A commit appends one line and then moves its
key; a sweep drops old keys and rewrites the journal. The loader replays every
line and refuses the file at the first one that is no record.
-/

namespace Apex.Idempotency

open Checked Domain Json JsonFields Lines Outbox Saturating

def maxIdempotencyRecordBytes : Nat := 4096

def maxIdempotencyFileBytes : Nat := 256 * 1024 * 1024

/-! ### Records -/

/-- A committed key: `IdempotencyRecord::Committed`, the only record there is. -/
structure IdempotencyRecord where
  key : OutboxKey
  payloadHash : Fingerprint
  committedAtMillis : Option UInt64
  deriving DecidableEq

/-- A fingerprint from an array of its bytes. -/
def asFingerprint (document : Json) : Option Fingerprint := do
  let bytes ← asBytes document
  if length_eq : bytes.length = 32 then return ⟨bytes, length_eq⟩ else none

@[simp] theorem asFingerprint_bytes (fingerprint : Fingerprint) :
    asFingerprint (bytes fingerprint.bytes) = some fingerprint := by
  simp [asFingerprint, fingerprint.length_eq]

namespace IdempotencyRecord

def members (record : IdempotencyRecord) : List (String × Json) :=
  ("op", .str "committed") :: keyMembers record.key ++
    [("payload_hash", bytes record.payloadHash.bytes)] ++
    optionalMember "committed_at_millis" (record.committedAtMillis.map fun n => natural n.toNat)

def toJson (record : IdempotencyRecord) : Json :=
  .obj record.members

def ofJson (document : Json) : Option IdempotencyRecord := do
  let members ← asObject document
  let op ← field members "op" >>= asString
  if op = "committed" then
    return { key := ← readKey members
             payloadHash := ← field members "payload_hash" >>= asFingerprint
             committedAtMillis := ← readOptional members "committed_at_millis" asUInt64 }
  else none

theorem ofJson_toJson (record : IdempotencyRecord) : ofJson record.toJson = some record := by
  have at_ : readOptional record.members "committed_at_millis" asUInt64 =
      some record.committedAtMillis :=
    readOptional_map asOption_asUInt64 (by simp [members, keyMembers, filter_optionalMember])
  have hash : field record.members "payload_hash" = some (bytes record.payloadHash.bytes) := by
    simp [field, members, keyMembers, filter_optionalMember]
  have op : field record.members "op" = some (.str "committed") := by
    simp [field, members, keyMembers, filter_optionalMember]
  have named : readKey record.members = some record.key := by
    simp [readKey, field, members, keyMembers, filter_optionalMember]
  simp [ofJson, toJson, asObject, op, named, hash, at_]

end IdempotencyRecord

/-- `serde_json` on the records of the journal. -/
def recordCodec : LineCodec IdempotencyRecord where
  encode record := record.toJson.render
  decode line := (JsonReader.parse line).bind IdempotencyRecord.ofJson
  decode_encode record := by
    rw [JsonReader.parse_render, Option.bind_some, IdempotencyRecord.ofJson_toJson]
  isLine record := isLine_render record.toJson

/-! ### The store -/

structure FileIdempotencyStore where
  journal : List Char
  capacity : Nat
  nextToken : UInt64
  committed : KeyMap OutboxKey Fingerprint
  committedAtMillis : KeyMap OutboxKey (Option UInt64)
  pending : KeyMap UInt64 (OutboxKey × Fingerprint)

inductive ReservationResult where
  | reserved (token : UInt64)
  | duplicate
  | inProgress
  | conflict
  deriving DecidableEq, Repr

/-- `scope_capacity`. -/
def scopeCapacity (capacity : Nat) : Nat :=
  min capacity (max (capacity / 16) 2)

namespace FileIdempotencyStore

/-- A store over an empty file. -/
def empty (capacity : Nat) : FileIdempotencyStore where
  journal := []
  capacity := capacity
  nextToken := 1
  committed := ∅
  committedAtMillis := ∅
  pending := ∅

/-! ### Replay -/

/-- Whether a key has the form admission asks for. -/
def validKey (key : OutboxKey) : Bool :=
  isScopeIdentifier key.workspaceId && isScopeIdentifier key.namespaceId &&
    isLowercaseUuidV7 key.eventId

/-- One replayed record. -/
def applyRecord (store : FileIdempotencyStore) (record : IdempotencyRecord) :
    Except GatewayError FileIdempotencyStore := do
  ensure (validKey record.key) .invalidIdempotencyConfiguration
  ensure ((store.committed.lookup record.key).all (· = record.payloadHash)) .idempotencyConflict
  let next := { store with
    committed :=
      if record.key ∈ store.committed then store.committed
      else AList.insert record.key record.payloadHash store.committed
    committedAtMillis :=
      AList.insert record.key record.committedAtMillis store.committedAtMillis }
  ensure (next.committed.keys.length ≤ next.capacity) .idempotencyCapacity
  return next

/-- One line of the journal replayed. -/
def loadLine (store : FileIdempotencyStore) (line : List Char) :
    Except GatewayError FileIdempotencyStore := do
  ensure (byteLength line ≤ maxIdempotencyRecordBytes) .invalidIdempotencyConfiguration
  let record ← require (recordCodec.decode line) .invalidIdempotencyConfiguration
  store.applyRecord record

/-- Opens the store over what its file holds. -/
def «open» (capacity : Nat) (journal : List Char) : Except GatewayError FileIdempotencyStore := do
  ensure (capacity ≠ 0 && capacity ≤ 1000000) .idempotencyCapacity
  ensure (byteLength journal ≤ maxIdempotencyFileBytes) .invalidIdempotencyConfiguration
  (lines journal).foldlM loadLine { empty capacity with journal }

/-! ### Operations -/

/-- The reservation a key has, if any. -/
def pendingHash (store : FileIdempotencyStore) (key : OutboxKey) : Option Fingerprint :=
  (store.pending.entries.find? fun entry => entry.2.1 = key).map fun entry => entry.2.2

/-- How many committed keys and reservations a scope has. -/
def scopeEntries (store : FileIdempotencyStore) (key : OutboxKey) : Nat :=
  let inScope (other : OutboxKey) : Bool :=
    other.workspaceId = key.workspaceId && other.namespaceId = key.namespaceId
  store.committed.keys.countP inScope +
    store.pending.entries.countP fun entry => inScope entry.2.1

/-- `reserve`. -/
def reserve (store : FileIdempotencyStore) (key : OutboxKey) (payloadHash : Fingerprint) :
    Except GatewayError (ReservationResult × FileIdempotencyStore) :=
  match store.committed.lookup key with
  | some existing =>
      .ok (if existing = payloadHash then .duplicate else .conflict, store)
  | none =>
      match store.pendingHash key with
      | some existing =>
          .ok (if existing = payloadHash then .inProgress else .conflict, store)
      | none => do
          ensure (store.scopeEntries key < scopeCapacity store.capacity &&
            store.committed.keys.length + store.pending.keys.length < store.capacity)
            .idempotencyCapacity
          ensure (store.nextToken.toNat + 1 ≠ UInt64.size) .idempotencyCapacity
          return (.reserved store.nextToken,
            { store with
              nextToken := store.nextToken + 1
              pending := AList.insert store.nextToken (key, payloadHash) store.pending })

/-- The checks before a record is written. -/
def checkAppend (store : FileIdempotencyStore) (record : IdempotencyRecord) :
    Except GatewayError Unit := do
  ensure (byteLength (recordCodec.text [record]) ≤ maxIdempotencyRecordBytes) .payloadTooLarge
  ensure (byteLength store.journal + byteLength (recordCodec.text [record]) ≤
    maxIdempotencyFileBytes) .idempotencyCapacity

/-- The record the commit of a reservation writes. -/
def commitRecord (store : FileIdempotencyStore) (token : UInt64) (now : UInt64) :
    Option IdempotencyRecord :=
  (store.pending.lookup token).map fun (key, hash) => ⟨key, hash, some now⟩

/-- The store once a commit's record is durable. -/
def committedStore (store : FileIdempotencyStore) (token : UInt64) (record : IdempotencyRecord) :
    FileIdempotencyStore :=
  { store with
    journal := store.journal ++ recordCodec.text [record]
    pending := AList.erase token store.pending
    committed := AList.insert record.key record.payloadHash store.committed
    committedAtMillis :=
      AList.insert record.key record.committedAtMillis store.committedAtMillis }

/-- `commit`, where the write succeeds. -/
def commit (store : FileIdempotencyStore) (token : UInt64) (now : UInt64) :
    Except GatewayError FileIdempotencyStore := do
  let record ← require (store.commitRecord token now) .internal
  store.checkAppend record
  return store.committedStore token record

/-- `abort`. -/
def abort (store : FileIdempotencyStore) (token : UInt64) : FileIdempotencyStore :=
  { store with pending := AList.erase token store.pending }

/-- The keys past retention. -/
def expired (store : FileIdempotencyStore) (cutoff : UInt64) : List OutboxKey :=
  (store.committedAtMillis.toPairs.filter fun (_, committedAt) =>
    committedAt.any (· ≤ cutoff)).map Prod.fst

/-- The records the journal is rewritten to. -/
def snapshotRecords (store : FileIdempotencyStore) (scan : Scan OutboxKey Fingerprint) :
    List IdempotencyRecord :=
  (scan.order store.committed).map fun (key, hash) =>
    ⟨key, hash, (store.committedAtMillis.lookup key).join⟩

/-- `compact_journal`, where the rewrite succeeds. -/
def compactJournal (store : FileIdempotencyStore) (scan : Scan OutboxKey Fingerprint) :
    Except GatewayError FileIdempotencyStore := do
  let records := store.snapshotRecords scan
  ensure (records.all fun record =>
      byteLength (recordCodec.text [record]) ≤ maxIdempotencyRecordBytes) .idempotencyCapacity
  ensure (byteLength (recordCodec.text records) ≤ maxIdempotencyFileBytes) .idempotencyCapacity
  return { store with journal := recordCodec.text records }

/-- The store without some of its committed keys. -/
def forget (store : FileIdempotencyStore) (keys : List OutboxKey) : FileIdempotencyStore :=
  { store with
    committed := store.committed.retain fun key _ => !keys.contains key
    committedAtMillis := store.committedAtMillis.retain fun key _ =>
      !(keys.contains key && decide (key ∈ store.committed)) }

/-- `maintain`. -/
def maintain (store : FileIdempotencyStore) (now retention : UInt64)
    (scan : Scan OutboxKey Fingerprint) : Except GatewayError Unit × FileIdempotencyStore :=
  let expired := store.expired (sub64 now retention)
  if expired.isEmpty then (.ok (), store)
  else
    match (store.forget expired).compactJournal scan with
    | .error e => (.error e, store)
    | .ok compacted => (.ok (), compacted)

end FileIdempotencyStore

end Apex.Idempotency
