import Apex.Findings.Store
import Apex.Lib.JsonFields

/-!
The finding journal: a store of findings and the line-framed file it is rebuilt
from.

The file is written through a buffer. A write that fails leaves a part of the
record in the buffer, where the next write finds it, and the store as it was.
-/

namespace Apex.Findings

open Checked Json JsonFields Lines

inductive FindingPersistenceError where
  | io
  | oversizedJournal
  | malformedRecord
  | store (error : FindingErrorCode)
  deriving DecidableEq, Repr

def maxJournalLineBytes : Nat := 1024 * 1024

def maxJournalBytes : Nat := 256 * 1024 * 1024

/-! ### Records and their text -/

/-- A type whose values are written as their names. -/
structure Names (α : Type) where
  name : α → String
  all : List α
  read_name : ∀ value, all.find? (fun other => name other = name value) = some value

namespace Names

variable {α : Type} (names : Names α)

def write (value : α) : Json :=
  .str (names.name value)

def read (document : Json) : Option α :=
  (asString document).bind fun text => names.all.find? fun value => names.name value = text

@[simp] theorem read_write (value : α) : names.read (names.write value) = some value :=
  names.read_name value

end Names

def findingTypeNames : Names FindingType where
  name
    | .telemetryIntegrity => "TelemetryIntegrity"
    | .agentTemplateNoncompliant => "AgentTemplateNoncompliant"
    | .scopeIdentityDenied => "ScopeIdentityDenied"
    | .untrustedControlBoundary => "UntrustedControlBoundary"
    | .secretExposure => "SecretExposure"
    | .toolPolicyDenied => "ToolPolicyDenied"
    | .authAbuse => "AuthAbuse"
    | .admissionAbuse => "AdmissionAbuse"
    | .backlogDegraded => "BacklogDegraded"
  all := [.telemetryIntegrity, .agentTemplateNoncompliant, .scopeIdentityDenied,
    .untrustedControlBoundary, .secretExposure, .toolPolicyDenied, .authAbuse, .admissionAbuse,
    .backlogDegraded]
  read_name value := by cases value <;> decide

def severityNames : Names FindingSeverity where
  name
    | .info => "Info"
    | .low => "Low"
    | .medium => "Medium"
    | .high => "High"
    | .critical => "Critical"
  all := [.info, .low, .medium, .high, .critical]
  read_name value := by cases value <;> decide

def confidenceNames : Names FindingConfidence where
  name
    | .deterministic => "Deterministic"
    | .corroborated => "Corroborated"
    | .heuristic => "Heuristic"
  all := [.deterministic, .corroborated, .heuristic]
  read_name value := by cases value <;> decide

def statusNames : Names FindingStatus where
  name
    | .open => "Open"
    | .acknowledged => "Acknowledged"
    | .contained => "Contained"
    | .resolved => "Resolved"
    | .falsePositive => "FalsePositive"
  all := [.open, .acknowledged, .contained, .resolved, .falsePositive]
  read_name value := by cases value <;> decide

def policyDecisionNames : Names PolicyDecision where
  name
    | .allow => "Allow"
    | .deny => "Deny"
    | .requireApproval => "RequireApproval"
    | .contain => "Contain"
  all := [.allow, .deny, .requireApproval, .contain]
  read_name value := by cases value <;> decide

def containmentActionNames : Names ContainmentAction where
  name
    | .pause => "Pause"
    | .quarantine => "Quarantine"
    | .disableTool => "DisableTool"
  all := [.pause, .quarantine, .disableTool]
  read_name value := by cases value <;> decide

def EvidenceRef.toJson (evidence : EvidenceRef) : Json :=
  .obj [("event_id", .str evidence.eventId), ("field_path", .str evidence.fieldPath),
    ("value_hash", .str evidence.valueHash)]

def EvidenceRef.ofJson (document : Json) : Option EvidenceRef := do
  let members ← asObject document
  return { eventId := ← field members "event_id" >>= asString
           fieldPath := ← field members "field_path" >>= asString
           valueHash := ← field members "value_hash" >>= asString }

def asArray : Json → Option (List Json)
  | .arr items => some items
  | _ => none

def SecurityFinding.members (finding : SecurityFinding) : List (String × Json) :=
  [("finding_id", .str finding.findingId),
    ("finding_type", findingTypeNames.write finding.findingType),
    ("severity", severityNames.write finding.severity),
    ("confidence", confidenceNames.write finding.confidence),
    ("workspace_id", .str finding.workspaceId), ("namespace_id", .str finding.namespaceId),
    ("detector", .str finding.detector),
    ("evidence_refs", .arr (finding.evidenceRefs.map EvidenceRef.toJson)),
    ("policy_decision", policyDecisionNames.write finding.policyDecision),
    ("fingerprint", .str finding.fingerprint),
    ("created_at_ms", natural finding.createdAtMs.toNat)]

def SecurityFinding.toJson (finding : SecurityFinding) : Json :=
  .obj finding.members

def SecurityFinding.ofJson (document : Json) : Option SecurityFinding := do
  let members ← asObject document
  let items ← field members "evidence_refs" >>= asArray
  return { findingId := ← field members "finding_id" >>= asString
           findingType := ← field members "finding_type" >>= findingTypeNames.read
           severity := ← field members "severity" >>= severityNames.read
           confidence := ← field members "confidence" >>= confidenceNames.read
           workspaceId := ← field members "workspace_id" >>= asString
           namespaceId := ← field members "namespace_id" >>= asString
           detector := ← field members "detector" >>= asString
           evidenceRefs := ← items.mapM EvidenceRef.ofJson
           policyDecision := ← field members "policy_decision" >>= policyDecisionNames.read
           fingerprint := ← field members "fingerprint" >>= asString
           createdAtMs := ← field members "created_at_ms" >>= asUInt64 }

/-- A containment action, or `null`. -/
def writeAction : Option ContainmentAction → Json
  | none => .null
  | some action => containmentActionNames.write action

def FindingStatusUpdate.members (update : FindingStatusUpdate) : List (String × Json) :=
  [("finding_id", .str update.findingId), ("from", statusNames.write update.from),
    ("to", statusNames.write update.«to»), ("action", writeAction update.action),
    ("actor_scope", .str update.actorScope), ("actor_subject", .str update.actorSubject),
    ("at_ms", natural update.atMs.toNat)]

def FindingStatusUpdate.toJson (update : FindingStatusUpdate) : Json :=
  .obj update.members

/-- Records from before the subject was recorded have none. -/
def FindingStatusUpdate.ofJson (document : Json) : Option FindingStatusUpdate := do
  let members ← asObject document
  return { findingId := ← field members "finding_id" >>= asString
           «from» := ← field members "from" >>= statusNames.read
           «to» := ← field members "to" >>= statusNames.read
           action := ← fieldOr members "action" .null >>= asOption containmentActionNames.read
           actorScope := ← field members "actor_scope" >>= asString
           actorSubject := ← fieldOr members "actor_subject" (.str "") >>= asString
           atMs := ← field members "at_ms" >>= asUInt64 }

inductive JournalRecord where
  | finding (finding : SecurityFinding)
  | status (update : FindingStatusUpdate)
  deriving DecidableEq, Repr

namespace JournalRecord

def toJson : JournalRecord → Json
  | .finding row => .obj [("Finding", row.toJson)]
  | .status update => .obj [("Status", update.toJson)]

def ofJson : Json → Option JournalRecord
  | .obj [("Finding", document)] => (SecurityFinding.ofJson document).map .finding
  | .obj [("Status", document)] => (FindingStatusUpdate.ofJson document).map .status
  | _ => none

/-- `serde_json::to_vec` of a record. -/
def encode (record : JournalRecord) : List Char :=
  record.toJson.render

/-- `serde_json::from_str` of a line. -/
def decode (line : List Char) : Option JournalRecord :=
  (JsonReader.parse line).bind ofJson

end JournalRecord

theorem EvidenceRef.ofJson_toJson (evidence : EvidenceRef) :
    EvidenceRef.ofJson evidence.toJson = some evidence := by
  simp [toJson, ofJson, asObject, field]

theorem SecurityFinding.ofJson_toJson (finding : SecurityFinding) :
    SecurityFinding.ofJson finding.toJson = some finding := by
  refine read_then rfl (read_then rfl ?_)
  -- identifier and classification
  refine read_then rfl (read_then (findingTypeNames.read_write _) ?_)
  refine read_then (severityNames.read_write _) (read_then (confidenceNames.read_write _) ?_)
  -- scope, detector and evidence
  refine read_then rfl (read_then rfl (read_then rfl ?_))
  refine read_then (mapM_map_some EvidenceRef.ofJson_toJson _) ?_
  -- decision, fingerprint and time
  refine read_then (policyDecisionNames.read_write _) (read_then rfl ?_)
  exact read_then (asUInt64_natural _) rfl

theorem asOption_writeAction (action : Option ContainmentAction) :
    asOption containmentActionNames.read (writeAction action) = some action := by
  cases action with
  | none => rfl
  | some action => exact congrArg (Option.map some) (containmentActionNames.read_write action)

theorem FindingStatusUpdate.ofJson_toJson (update : FindingStatusUpdate) :
    FindingStatusUpdate.ofJson update.toJson = some update := by
  refine read_then rfl (read_then rfl ?_)
  refine read_then (statusNames.read_write _) (read_then (statusNames.read_write _) ?_)
  refine read_then (asOption_writeAction _) (read_then rfl (read_then rfl ?_))
  exact read_then (asUInt64_natural _) rfl

/-- Every record is read back as it was written. -/
@[simp] theorem JournalRecord.decode_encode (record : JournalRecord) :
    decode record.encode = some record := by
  rw [decode, encode, JsonReader.parse_render, Option.bind_some]
  cases record with
  | finding finding => simp [toJson, ofJson, SecurityFinding.ofJson_toJson]
  | status update => simp [toJson, ofJson, FindingStatusUpdate.ofJson_toJson]

theorem JournalRecord.isLine_encode (record : JournalRecord) : IsLine record.encode :=
  isLine_render record.toJson

theorem JournalRecord.encode_ne_nil (record : JournalRecord) : record.encode ≠ [] := by
  cases record <;> simp [encode, toJson, render]

/-! ### The journal -/

section Journal

variable (sha256 : List UInt8 → String)

/-- One replayed record. Status changes go through the live mutator, which reads
the clock again: `now` is that reading. -/
def FindingStore.applyRecord (store : FindingStore) (now : Option UInt64) :
    JournalRecord → Except FindingErrorCode FindingStore
  | .finding finding => (store.append sha256 finding).map Prod.snd
  | .status update =>
      store.transitionReplayed update.findingId update.from update.«to» update.actorScope
        update.actorSubject update.action now

/-- The lines of the journal replayed in order, and the length the file is cut
back to where its last line is torn. `clock` has a reading for every status
change that is replayed. -/
def FindingStore.loadLines (clock : Nat → Option UInt64) (store : FindingStore)
    (replayedBytes : Nat) (parsedAny : Bool) :
    List (List Char) → Except FindingPersistenceError (FindingStore × Option Nat)
  | [] => .ok (store, none)
  | line :: rest =>
      if line.isEmpty then
        if rest.isEmpty then .ok (store, none) else .error .malformedRecord
      else if maxJournalBytes < replayedBytes + byteLength line + 1 then .error .oversizedJournal
      else if maxJournalLineBytes < byteLength line then .error .oversizedJournal
      else
        match JournalRecord.decode line with
        | none =>
            if rest.isEmpty && parsedAny then .ok (store, some replayedBytes)
            else .error .malformedRecord
        | some record => do
            let next ← (store.applyRecord sha256 (clock store.updates.length) record).mapError
              .store
            loadLines clock next (replayedBytes + byteLength line + 1) true rest

structure FindingJournal where
  /-- What the file holds. -/
  disk : List Char
  /-- What the writer still holds. -/
  buffer : List Char
  store : FindingStore

namespace FindingJournal

/-- Opens the journal over what its file holds. -/
def «open» (capacity : Nat) (clock : Nat → Option UInt64) (text : List Char) :
    Except FindingPersistenceError FindingJournal := do
  ensure (byteLength text ≤ maxJournalBytes) .oversizedJournal
  let fresh ← (FindingStore.new capacity).mapError .store
  let (store, cut) ← fresh.loadLines sha256 clock 0 false (lines text)
  return { disk := cut.elim text fun length => takeBytes length text, buffer := [], store }

/-- What the file holds once the journal is closed: dropping the writer flushes
its buffer. -/
def close (journal : FindingJournal) : List Char :=
  journal.disk ++ journal.buffer

/-- How the file system answers a write. -/
inductive WriteOutcome where
  /-- The record is flushed and synced. -/
  | done
  /-- The file's size could not be read. -/
  | unreadable
  /-- The writer took the first `taken` characters of the line, and of what it
  then held the first `reached` came to the file. -/
  | failed (taken reached : Nat)
  deriving DecidableEq, Repr

/-- `write_record`. -/
def writeRecord (journal : FindingJournal) (record : JournalRecord) (outcome : WriteOutcome) :
    Except FindingPersistenceError Unit × FindingJournal :=
  let line := record.encode ++ ['\n']
  if maxJournalLineBytes < byteLength record.encode then (.error .oversizedJournal, journal)
  else if outcome = .unreadable then (.error .io, journal)
  else if maxJournalBytes < byteLength journal.disk + byteLength line then
    (.error .oversizedJournal, journal)
  else
    match outcome with
    | .failed taken reached =>
        let held := journal.buffer ++ line.take taken
        (.error .io, { journal with
          disk := journal.disk ++ held.take reached, buffer := held.drop reached })
    | _ => (.ok (), { journal with disk := journal.disk ++ (journal.buffer ++ line), buffer := [] })

/-- A changed store that stays only if its record is written. -/
def commit {α : Type} (journal : FindingJournal) (next : FindingStore) (record : JournalRecord)
    (outcome : WriteOutcome) (answer : α) : Except FindingPersistenceError α × FindingJournal :=
  match { journal with store := next }.writeRecord record outcome with
  | (.ok (), written) => (.ok answer, written)
  | (.error e, written) => (.error e, { written with store := journal.store })

/-- `append`. -/
def append (journal : FindingJournal) (finding : SecurityFinding) (outcome : WriteOutcome) :
    Except FindingPersistenceError Bool × FindingJournal :=
  match journal.store.append sha256 finding with
  | .error e => (.error (.store e), journal)
  | .ok (false, next) => (.ok false, { journal with store := next })
  | .ok (true, next) => journal.commit next (.finding finding) outcome true

/-- `transition`. -/
def transition (journal : FindingJournal) (findingId : String) (expected next : FindingStatus)
    (caller : Caller) (actorScope : String) (action : Option ContainmentAction)
    (now : Option UInt64) (outcome : WriteOutcome) :
    Except FindingPersistenceError Unit × FindingJournal :=
  match journal.store.transition findingId expected next caller actorScope action now with
  | .error e => (.error (.store e), journal)
  | .ok changed =>
      match changed.updates.getLast? with
      | none => (.error .malformedRecord, { journal with store := changed })
      | some update => journal.commit changed (.status update) outcome ()

end FindingJournal

end Journal

end Apex.Findings
