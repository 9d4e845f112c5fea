import Apex.Lib.JsonFields
import Apex.Domain.Envelope

/-!
The events the outbox stores, the records of its journal, and their text.

An event is stored as the bytes of its envelope. What the code makes of such
bytes, decoding them and validating the decoded envelope again, and the SHA-256
fingerprint of them are the two functions of an `EnvelopeCodec`; nothing else
about the bytes matters to the outbox.
-/

namespace Apex

structure Outbox.OutboxKey where
  workspaceId : String
  namespaceId : String
  eventId : String
  deriving DecidableEq, Repr

/-- The key an event is stored under. -/
def Domain.IngestRequest.key (event : Domain.IngestRequest) : Outbox.OutboxKey :=
  ⟨event.workspaceId, event.namespaceId, event.eventId⟩

end Apex

namespace Apex.Outbox

open Domain Json JsonFields Option JsonReader

/-- The 32 bytes of a SHA-256 digest. -/
structure Fingerprint where
  bytes : List UInt8
  length_eq : bytes.length = 32
  deriving DecidableEq

/-- The digest of which every byte is zero. -/
def Fingerprint.zero : Fingerprint := ⟨List.replicate 32 0, rfl⟩

/-- What the code does with the bytes of a stored envelope. -/
structure EnvelopeCodec where
  /-- `EventEnvelope::decode` followed by `from_validated_transport`. -/
  rebuild : List UInt8 → Option IngestRequest
  /-- `payload_fingerprint`. -/
  fingerprint : List UInt8 → Fingerprint

/-- An event that passed admission: its stored bytes are within the envelope
limit and decode to the event they were taken from. -/
structure Admitted (codec : EnvelopeCodec) (event : IngestRequest) : Prop where
  nonempty : event.envelope ≠ []
  size : event.envelope.length ≤ maxEnvelopeBytes
  rebuild : codec.rebuild event.envelope = some event

/-! ### Fingerprints as text -/

/-- `format!("{byte:02x}")`. -/
def hexByte (byte : UInt8) : List Char :=
  [hexDigit (byte.toNat / 16), hexDigit (byte.toNat % 16)]

/-- `hex_fingerprint`. -/
def hexFingerprint (fingerprint : Fingerprint) : String :=
  String.ofList (fingerprint.bytes.flatMap hexByte)

/-- The bytes behind pairs of hexadecimal digits. -/
def parseHexPairs : List Char → Option (List UInt8)
  | [] => some []
  | high :: low :: rest => do
      let high ← JsonReader.hexValue high
      let low ← JsonReader.hexValue low
      let rest ← parseHexPairs rest
      return UInt8.ofNat (high * 16 + low) :: rest
  | [_] => none

/-- `parse_fingerprint`. -/
def parseFingerprint (text : String) : Option Fingerprint := do
  let bytes ← parseHexPairs text.toList
  if length_eq : bytes.length = 32 then return ⟨bytes, length_eq⟩ else none

theorem parseHexPairs_flatMap (bytes : List UInt8) :
    parseHexPairs (bytes.flatMap hexByte) = some bytes := by
  induction bytes with
  | nil => rfl
  | cons byte rest ih =>
    have bound := byte.toNat_lt
    have high := hexValue_hexDigit (byte.toNat / 16) (by omega)
    have low := hexValue_hexDigit (byte.toNat % 16) (by omega)
    have whole : byte.toNat / 16 * 16 + byte.toNat % 16 = byte.toNat := by omega
    simp only [List.flatMap_cons, hexByte, List.cons_append, List.nil_append, parseHexPairs, high,
      low, ih, bind_eq_bind, bind_some, whole, UInt8.ofNat_toNat]
    rfl

@[simp] theorem parseFingerprint_hex (fingerprint : Fingerprint) :
    parseFingerprint (hexFingerprint fingerprint) = some fingerprint := by
  simp [parseFingerprint, hexFingerprint, parseHexPairs_flatMap, fingerprint.length_eq]

/-! ### Journal records -/

inductive FileOutboxRecord where
  | pending (key : OutboxKey) (envelope : List UInt8) (nextAttemptAtMillis : Option UInt64)
      (attempts : Option UInt32) (createdAtMillis : Option UInt64)
  | complete (key : OutboxKey) (envelopeSha256 : Option String)
      (completedAtMillis : Option UInt64) (envelope : Option (List UInt8))
  | quarantined (key : OutboxKey) (envelope : List UInt8) (reason : String)
      (quarantinedAtMillis : UInt64)
  deriving DecidableEq, Repr

/-- The members that name an event in a record. -/
def keyMembers (key : OutboxKey) : List (String × Json) :=
  [("workspace_id", .str key.workspaceId), ("namespace_id", .str key.namespaceId),
    ("event_id", .str key.eventId)]

/-- A member that is left out where there is no value. -/
def optionalMember (name : String) (value : Option Json) : List (String × Json) :=
  value.elim [] fun document => [(name, document)]

def readKey (members : List (String × Json)) : Option OutboxKey := do
  let workspaceId ← field members "workspace_id" >>= asString
  let namespaceId ← field members "namespace_id" >>= asString
  let eventId ← field members "event_id" >>= asString
  return ⟨workspaceId, namespaceId, eventId⟩

/-- An optional field; `null` and a missing member both mean no value. -/
def readOptional {α : Type} (members : List (String × Json)) (name : String)
    (read : Json → Option α) : Option (Option α) :=
  fieldOr members name .null >>= asOption read

namespace FileOutboxRecord

def key : FileOutboxRecord → OutboxKey
  | .pending key .. | .complete key .. | .quarantined key .. => key

/-- The members of a record's document. -/
def members : FileOutboxRecord → List (String × Json)
  | .pending key envelope nextAttemptAtMillis attempts createdAtMillis =>
      ("op", .str "pending") :: keyMembers key ++ [("envelope", bytes envelope)] ++
        optionalMember "next_attempt_at_millis"
          (nextAttemptAtMillis.map fun n => natural n.toNat) ++
        optionalMember "attempts" (attempts.map fun n => natural n.toNat) ++
        optionalMember "created_at_millis" (createdAtMillis.map fun n => natural n.toNat)
  | .complete key envelopeSha256 completedAtMillis envelope =>
      ("op", .str "complete") :: keyMembers key ++
        optionalMember "envelope_sha256" (envelopeSha256.map .str) ++
        optionalMember "completed_at_millis" (completedAtMillis.map fun n => natural n.toNat) ++
        optionalMember "envelope" (envelope.map bytes)
  | .quarantined key envelope reason quarantinedAtMillis =>
      ("op", .str "quarantined") :: keyMembers key ++
        [("envelope", bytes envelope), ("reason", .str reason),
          ("quarantined_at_millis", natural quarantinedAtMillis.toNat)]

/-- The document of a record. -/
def toJson (record : FileOutboxRecord) : Json :=
  .obj record.members

/-- The record of a document. -/
def ofJson (document : Json) : Option FileOutboxRecord := do
  let members ← asObject document
  let op ← field members "op" >>= asString
  if op = "pending" then
    return .pending (← readKey members) (← field members "envelope" >>= asBytes)
      (← readOptional members "next_attempt_at_millis" asUInt64)
      (← readOptional members "attempts" asUInt32)
      (← readOptional members "created_at_millis" asUInt64)
  else if op = "complete" then
    return .complete (← readKey members) (← readOptional members "envelope_sha256" asString)
      (← readOptional members "completed_at_millis" asUInt64)
      (← readOptional members "envelope" asBytes)
  else if op = "quarantined" then
    return .quarantined (← readKey members) (← field members "envelope" >>= asBytes)
      (← field members "reason" >>= asString)
      (← field members "quarantined_at_millis" >>= asUInt64)
  else none

/-- `serde_json::to_vec` of a record. -/
def encode (record : FileOutboxRecord) : List Char :=
  record.toJson.render

/-- `serde_json::from_str` of a line. -/
def decode (line : List Char) : Option FileOutboxRecord :=
  (JsonReader.parse line).bind ofJson

end FileOutboxRecord

theorem filter_optionalMember (name other : String) (value : Option Json) :
    (optionalMember other value).filter (fun member => member.1 = name) =
      if other = name then optionalMember other value else [] := by
  cases value with
  | none => simp [optionalMember]
  | some document =>
    by_cases same : other = name
    · simp [optionalMember, same]
    · simp [optionalMember, same]

/-- A member that was left out or written is read back. -/
theorem readOptional_map {α : Type} {members : List (String × Json)} {name read write}
    (back : ∀ a, asOption read (write a) = some (some a)) {value : Option α}
    (only : members.filter (fun member => member.1 = name) =
      optionalMember name (value.map write)) :
    readOptional members name read = some value := by
  rw [readOptional, fieldOr, only]
  cases value with
  | none => rfl
  | some a => exact back a

theorem asOption_asUInt64 (n : UInt64) :
    asOption asUInt64 (natural n.toNat) = some (some n) :=
  congrArg (Option.map some) (asUInt64_natural n)

theorem asOption_asUInt32 (n : UInt32) :
    asOption asUInt32 (natural n.toNat) = some (some n) :=
  congrArg (Option.map some) (asUInt32_natural n)

theorem asOption_asString (value : String) :
    asOption asString (.str value) = some (some value) := rfl

theorem asOption_asBytes (content : List UInt8) :
    asOption asBytes (bytes content) = some (some content) :=
  congrArg (Option.map some) (asBytes_bytes content)

namespace FileOutboxRecord

theorem ofJson_pending (key : OutboxKey) (envelope : List UInt8)
    (nextAttemptAtMillis : Option UInt64) (attempts : Option UInt32)
    (createdAtMillis : Option UInt64) :
    let record := pending key envelope nextAttemptAtMillis attempts createdAtMillis
    ofJson record.toJson = some record := by
  intro record
  have next : readOptional record.members "next_attempt_at_millis" asUInt64 =
      some nextAttemptAtMillis :=
    readOptional_map asOption_asUInt64 (by
      simp [record, members, keyMembers, filter_optionalMember])
  have tries : readOptional record.members "attempts" asUInt32 = some attempts :=
    readOptional_map asOption_asUInt32 (by
      simp [record, members, keyMembers, filter_optionalMember])
  have created : readOptional record.members "created_at_millis" asUInt64 =
      some createdAtMillis :=
    readOptional_map asOption_asUInt64 (by
      simp [record, members, keyMembers, filter_optionalMember])
  have op : field record.members "op" = some (.str "pending") := by
    simp [record, field, members, keyMembers, filter_optionalMember]
  have named : readKey record.members = some key := by
    simp [record, readKey, field, members, keyMembers, filter_optionalMember]
  have content : field record.members "envelope" = some (bytes envelope) := by
    simp [record, field, members, keyMembers, filter_optionalMember]
  simp [ofJson, toJson, asObject, op, named, content, next, tries, created, record]

theorem ofJson_complete (key : OutboxKey) (envelopeSha256 : Option String)
    (completedAtMillis : Option UInt64) (envelope : Option (List UInt8)) :
    let record := complete key envelopeSha256 completedAtMillis envelope
    ofJson record.toJson = some record := by
  intro record
  have hash : readOptional record.members "envelope_sha256" asString = some envelopeSha256 :=
    readOptional_map asOption_asString (by
      simp [record, members, keyMembers, filter_optionalMember])
  have at_ : readOptional record.members "completed_at_millis" asUInt64 =
      some completedAtMillis :=
    readOptional_map asOption_asUInt64 (by
      simp [record, members, keyMembers, filter_optionalMember])
  have content : readOptional record.members "envelope" asBytes = some envelope :=
    readOptional_map asOption_asBytes (by
      simp [record, members, keyMembers, filter_optionalMember])
  have op : field record.members "op" = some (.str "complete") := by
    simp [record, field, members, keyMembers, filter_optionalMember]
  have named : readKey record.members = some key := by
    simp [record, readKey, field, members, keyMembers, filter_optionalMember]
  simp [ofJson, toJson, asObject, op, named, hash, at_, content, record]

theorem ofJson_toJson (record : FileOutboxRecord) : ofJson record.toJson = some record := by
  cases record with
  | pending => exact ofJson_pending ..
  | complete => exact ofJson_complete ..
  | quarantined key envelope reason quarantinedAtMillis =>
    simp [toJson, members, ofJson, asObject, field, keyMembers, readKey]

/-- Every record is read back as it was written. -/
@[simp] theorem decode_encode (record : FileOutboxRecord) :
    decode record.encode = some record := by
  rw [decode, encode, parse_render, bind_some, ofJson_toJson]

/-- No proper beginning of a record's text is read as a record. -/
theorem decode_torn {record : FileOutboxRecord} {kept lost} (split : record.encode = kept ++ lost)
    (torn : lost ≠ []) : decode kept = none := by
  rw [decode, parse_torn_object split torn, bind_none]

theorem isLine_encode (record : FileOutboxRecord) : Lines.IsLine record.encode :=
  isLine_render record.toJson

theorem encode_ne_nil (record : FileOutboxRecord) : record.encode ≠ [] := by
  simp [encode, toJson, render]

end FileOutboxRecord

end Apex.Outbox
