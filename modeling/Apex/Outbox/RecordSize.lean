import Apex.Lib.JsonSize
import Apex.Outbox.Recovery

/-!
The record limit and the records of one event.

An event is written several times: when it is enqueued, each time it is
rescheduled, when it is quarantined or completed, and once more by every
compaction. The record of its completion is the longest of them, so an event
that leaves room for that record leaves room for all (`RecordOf.size_le`).
`enqueue` does not look for this room: it checks the record it writes itself,
which is shorter.
-/

namespace Apex.Outbox

open Checked Domain Lines Json JsonFields Runs OutboxState FileOutbox List Option FileOutboxRecord

variable {codec : EnvelopeCodec} {capacity : Nat} {op : AppendOp codec}
  {record : FileOutboxRecord} {records : List FileOutboxRecord}

/-! ### The records of an event -/

/-- The latest reading of the clock. -/
def lastMillis : UInt64 := 0xffffffffffffffff

/-- Whether the event could be completed at the latest reading of the clock. -/
def hasRoom (codec : EnvelopeCodec) (event : IngestRequest) : Bool :=
  byteLength ((OutboxState.completeRecord codec ⟨event.key, event, lastMillis⟩).encode ++ ['\n']) ≤
    maxOutboxRecordBytes

/-- A reason that takes no more room than the one compaction writes. -/
def isShortReason (reason : String) : Bool :=
  size (.str reason) ≤ size (.str OutboxState.replayAttemptsExhausted)

/-- A record the outbox writes about the event. -/
inductive RecordOf (event : IngestRequest) : FileOutboxRecord → Prop where
  | pending (next : Option UInt64) (attempts : Option UInt32)
      (few : ∀ n, attempts = some n → n < maxPersistedAttempts) (created : Option UInt64) :
      RecordOf event (.pending event.key event.envelope next attempts created)
  | complete (fingerprint : Option Fingerprint) (completedAt : Option UInt64) :
      RecordOf event
        (.complete event.key (fingerprint.map hexFingerprint) completedAt (some event.envelope))
  | quarantined (reason : String) (short : isShortReason reason) (at_ : UInt64) :
      RecordOf event (.quarantined event.key event.envelope reason at_)

/-! ### Sizes -/

/-- What the members that name the event take. -/
def identitySize (key : OutboxKey) : Nat :=
  ((keyMembers key).map memberSize).sum

def contentSize (envelope : List UInt8) : Nat :=
  memberSize ("envelope", bytes envelope)

theorem sum_optionalMember_le {name value bound}
    (within : ∀ document, value = some document → memberSize (name, document) ≤ bound) :
    ((optionalMember name value).map memberSize).sum ≤ bound := by
  cases value with
  | none => exact Nat.zero_le _
  | some document => simpa [optionalMember] using within document rfl

theorem memberSize_millis_le (name : String) (bound : Nat) (n : UInt64)
    (label : byteLength (renderString name) + 22 ≤ bound) :
    memberSize (name, natural n.toNat) ≤ bound := by
  have digits := size_uint64_le n
  simp only [memberSize]
  omega

theorem sum_millis_le (name : String) (bound : Nat) (value : Option UInt64)
    (label : byteLength (renderString name) + 22 ≤ bound) :
    ((optionalMember name (value.map fun n => natural n.toNat)).map memberSize).sum ≤ bound := by
  refine sum_optionalMember_le fun document is => ?_
  obtain ⟨n, -, rfl⟩ := map_eq_some_iff.mp is
  exact memberSize_millis_le name bound n label

theorem sum_attempts_le {attempts} (few : ∀ n, attempts = some n → n < maxPersistedAttempts) :
    ((optionalMember "attempts" (attempts.map fun n => natural n.toNat)).map memberSize).sum ≤
      13 := by
  refine sum_optionalMember_le fun document is => ?_
  obtain ⟨n, found, rfl⟩ := map_eq_some_iff.mp is
  have small : n.toNat < 8 := few n found
  have digits : size (natural n.toNat) ≤ 1 := size_natural_le (by decide) (by omega)
  have label : byteLength (renderString "attempts") = 10 := by decide
  simp only [memberSize, label]
  omega

theorem byteLength_hexPairs (content : List UInt8) :
    byteLength ((content.flatMap hexByte).flatMap escapeChar) = 2 * content.length := by
  have plain : ∀ n < 16, escapeChar (hexDigit n) = [hexDigit n] ∧ (hexDigit n).utf8Size = 1 := by
    decide
  induction content with
  | nil => rfl
  | cons byte rest ih =>
    have bound := byte.toNat_lt
    have high := plain (byte.toNat / 16) (by omega)
    have low := plain (byte.toNat % 16) (by omega)
    simp only [flatMap_cons, hexByte, flatMap_append, flatMap_nil, high.1, low.1,
      append_nil, byteLength_append, byteLength_cons, byteLength_nil, high.2, low.2, ih,
      length_cons]
    omega

/-- The text of a fingerprint has 64 digits and two quotes. -/
theorem size_hexFingerprint (fingerprint : Fingerprint) :
    size (.str (hexFingerprint fingerprint)) = 66 := by
  have quote : '"'.utf8Size = 1 := by decide
  rw [size_str, renderString, hexFingerprint, String.toList_ofList, cons_append,
    byteLength_cons, byteLength_append, byteLength_hexPairs, fingerprint.length_eq, quote]
  rfl

theorem size_encode (record : FileOutboxRecord) :
    byteLength record.encode = 1 + (record.members.map memberSize).sum := by
  have some : record.members ≠ [] := by
    cases record <;> simp [members]
  exact size_obj some

theorem size_completeRecord (event : IngestRequest) (at_ : UInt64) :
    byteLength (completeRecord codec ⟨event.key, event, at_⟩).encode =
      identitySize event.key + contentSize event.envelope + 102 +
        memberSize ("completed_at_millis", natural at_.toNat) := by
  have op : memberSize ("op", .str "complete") = 16 := by decide
  have hash : memberSize ("envelope_sha256",
      .str (hexFingerprint (codec.fingerprint event.envelope))) = 85 := by
    have label : byteLength (renderString "envelope_sha256") = 17 := by decide
    rw [memberSize, label, size_hexFingerprint]
  rw [size_encode, completeRecord]
  simp only [members, optionalMember, map_some, elim_some,
    map_append, map_cons, map_nil, sum_append, sum_cons, sum_nil, op,
    hash, identitySize, contentSize]
  omega

variable (codec) in
/-- No record of an event is longer than that of its completion at the latest
reading of the clock. -/
theorem RecordOf.size_le {event} (is : RecordOf event record) :
    byteLength record.encode ≤
      byteLength (completeRecord codec ⟨event.key, event, lastMillis⟩).encode := by
  have latest : memberSize ("completed_at_millis", natural lastMillis.toNat) = 43 := by
    decide +kernel
  rw [size_completeRecord, size_encode, latest]
  cases is with
  | pending next attempts few created =>
    have op : memberSize ("op", .str "pending") = 15 := by decide
    have next := sum_millis_le "next_attempt_at_millis" 46 next (by decide)
    have attempts := sum_attempts_le few
    have created := sum_millis_le "created_at_millis" 41 created (by decide)
    simp only [members, map_append, map_cons, map_nil,
      sum_append, sum_cons, sum_nil, op, identitySize, contentSize]
    omega
  | complete fingerprint completedAt =>
    have op : memberSize ("op", .str "complete") = 16 := by decide
    have hash : ((optionalMember "envelope_sha256"
        ((fingerprint.map hexFingerprint).map .str)).map memberSize).sum ≤ 85 := by
      refine sum_optionalMember_le fun document is => ?_
      obtain ⟨_, found, rfl⟩ := map_eq_some_iff.mp is
      obtain ⟨kept, -, rfl⟩ := map_eq_some_iff.mp found
      have label : byteLength (renderString "envelope_sha256") = 17 := by decide
      rw [memberSize, label, size_hexFingerprint]
    have time := sum_millis_le "completed_at_millis" 43 completedAt (by decide)
    simp only [members, map_append, map_cons, sum_append,
      sum_cons, op, identitySize, contentSize, optionalMember, map_some,
      elim_some, map_nil, sum_nil] at hash time ⊢
    omega
  | quarantined reason short at_ =>
    have op : memberSize ("op", .str "quarantined") = 19 := by decide
    have time := memberSize_millis_le "quarantined_at_millis" 45 at_ (by decide)
    have label : byteLength (renderString "reason") = 8 := by decide
    have given : size (.str replayAttemptsExhausted) = 27 := by decide
    have reasonSize : size (.str reason) ≤ 27 := by
      rw [← given]
      exact of_decide_eq_true short
    have reason : memberSize ("reason", .str reason) ≤ 37 := by
      simp only [memberSize, label]
      omega
    simp only [members, map_append, map_cons, map_nil,
      sum_append, sum_cons, sum_nil, op, identitySize, contentSize]
    omega

/-- The records of an event with room are within the record limit. -/
theorem RecordOf.within {event} (is : RecordOf event record) (room : hasRoom codec event) :
    byteLength (record.encode ++ ['\n']) ≤ maxOutboxRecordBytes := by
  have largest := of_decide_eq_true room
  have shorter := is.size_le codec
  rw [byteLength_append] at largest ⊢
  omega

/-! ### Rows with room -/

/-- A record about an admitted event with room. -/
def RoomyRecord (codec : EnvelopeCodec) (record : FileOutboxRecord) : Prop :=
  ∃ event, Admitted codec event ∧ hasRoom codec event ∧ RecordOf event record

/-- The stored event has room, a completed one is stored, and the row is not out of
attempts. -/
structure RowView.Roomy (codec : EnvelopeCodec) (row : RowView) : Prop where
  pending : ∀ event, row.pending = some event → hasRoom codec event
  quarantined : ∀ event, row.quarantined = some event → hasRoom codec event
  completeEvents : ∀ event, row.completeEvents = some event → hasRoom codec event
  completed : row.complete.isSome → row.completeEvents.isSome
  attempts : ∀ n, row.attempts = some n → n < maxPersistedAttempts

namespace RowView.Roomy

variable {row : RowView} {event : IngestRequest}

/-- Replaying a record about an event with room keeps the room. -/
theorem enter (roomy : row.Roomy codec) (about : RoomyRecord codec record) (now : UInt64) :
    (row.enter codec now record).Roomy codec := by
  obtain ⟨event, admitted, room, is⟩ := about
  cases is with
  | pending next attempts few created =>
    refine ⟨fun stored is => ?_, fun stored is => ?_, roomy.completeEvents, roomy.completed, few⟩
    · rcases or_eq_some_iff.mp is with is | ⟨-, rebuilt⟩
      · exact roomy.pending stored is
      · obtain rfl := Option.some.inj (admitted.rebuild.symm.trans rebuilt)
        exact room
    · simp only [RowView.enter] at is
      split_ifs at is
      exact roomy.quarantined stored is
  | complete fingerprint completedAt =>
    have kept : (row.enter codec now (.complete event.key (fingerprint.map hexFingerprint)
        completedAt (some event.envelope))).completeEvents = some event := by
      simp [RowView.enter, admitted.rebuild]
    refine ⟨by rintro _ ⟨⟩, roomy.quarantined, fun stored is => ?_, fun _ => ?_, roomy.attempts⟩
    · obtain rfl := Option.some.inj (kept.symm.trans is)
      exact room
    · rw [kept]
      rfl
  | quarantined reason short at_ =>
    refine ⟨by rintro _ ⟨⟩, fun stored is => ?_, roomy.completeEvents, roomy.completed,
      roomy.attempts⟩
    obtain rfl := Option.some.inj (admitted.rebuild.symm.trans is)
    exact room

theorem arrive (roomy : row.Roomy codec) (room : hasRoom codec event) (now : UInt64) :
    (row.arrive event now).Roomy codec := by
  refine ⟨?_, roomy.quarantined, roomy.completeEvents, roomy.completed, roomy.attempts⟩
  rintro _ ⟨⟩
  exact room

theorem settle (roomy : row.Roomy codec) (room : hasRoom codec event) (completedAt : UInt64) :
    (row.settle codec event completedAt).Roomy codec := by
  refine ⟨nofun, roomy.quarantined, ?_, fun _ => rfl, nofun⟩
  rintro _ ⟨⟩
  exact room

theorem isolate (roomy : row.Roomy codec) : row.isolate.Roomy codec := by
  unfold RowView.isolate
  cases pending : row.pending with
  | none => exact roomy
  | some event =>
    refine ⟨nofun, ?_, roomy.completeEvents, roomy.completed, nofun⟩
    rintro _ ⟨⟩
    exact roomy.pending event pending

theorem release (roomy : row.Roomy codec) (now : UInt64) : (row.release now).Roomy codec := by
  unfold RowView.release
  cases quarantined : row.quarantined with
  | none => exact roomy
  | some event =>
    refine ⟨?_, nofun, roomy.completeEvents, roomy.completed, roomy.attempts⟩
    rintro _ ⟨⟩
    exact roomy.quarantined event quarantined

theorem retry (roomy : row.Roomy codec) (next : UInt64) {attempts}
    (few : attempts < maxPersistedAttempts) : (row.retry next attempts).Roomy codec := by
  refine ⟨roomy.pending, roomy.quarantined, roomy.completeEvents, roomy.completed, ?_⟩
  rintro _ ⟨⟩
  exact few

theorem forget (roomy : row.Roomy codec) : row.forget.Roomy codec :=
  ⟨roomy.pending, roomy.quarantined, nofun, nofun, roomy.attempts⟩

end RowView.Roomy

/-- Every row has room. -/
def Roomy (codec : EnvelopeCodec) (state : OutboxState) : Prop :=
  ∀ key, (state.row key).Roomy codec

theorem ChangesRow.roomy {before after key change} (changes : ChangesRow before after key change)
    (roomy : Roomy codec before) (keeps : (change (before.row key)).Roomy codec) :
    Roomy codec after :=
  changes.each (RowView.Roomy codec) roomy keeps

namespace Roomy

variable {state after : OutboxState}

theorem empty (capacity : Nat) : Roomy codec (OutboxState.empty capacity) :=
  fun _ => ⟨nofun, nofun, nofun, nofun, nofun⟩

theorem replay (roomy : Roomy codec state) {now}
    (about : ∀ record ∈ records, RoomyRecord codec record)
    (replays : state.replay codec now records = .ok after) : Roomy codec after := by
  induction records generalizing state with
  | nil =>
    cases replays
    exact roomy
  | cons record later ih =>
    obtain ⟨first, about⟩ := forall_mem_cons.mp about
    rw [OutboxState.replay, foldlM_cons] at replays
    obtain ⟨next, applied, replays⟩ := bind_eq_ok.mp replays
    exact ih ((applyRecord_row applied).roomy roomy ((roomy _).enter first now)) about
      replays

end Roomy

/-- Events with room and short reasons. -/
def Inputs.roomy (codec : EnvelopeCodec) : Inputs :=
  ⟨fun event => hasRoom codec event, fun reason => isShortReason reason, fun _ => True⟩

variable {state : OutboxState}

/-- A step keeps the room, and its record is about an event with room. -/
theorem Step.roomy {after} (valid : state.Valid codec) (roomy : Roomy codec state)
    (step : Step (.roomy codec) codec state record after) :
    Roomy codec after ∧ RoomyRecord codec record := by
  cases step with
  | @arrive event room admitted fresh space now =>
    exact ⟨(state.insertPending_row event now).roomy roomy ((roomy _).arrive room now), event,
      admitted, room, .pending none none nofun (some now)⟩
  | @settle completion stands =>
    obtain ⟨⟨admitted, own⟩, room⟩ : (Admitted codec completion.event ∧
        completion.event.key = completion.key) ∧ hasRoom codec completion.event := by
      rcases stands with found | ⟨-, found⟩
      · exact ⟨valid.pendingEvent _ _ found, (roomy _).pending _ found⟩
      · exact ⟨valid.completeEvent _ _ found, (roomy _).completeEvents _ found⟩
    refine ⟨(state.insertComplete_row completion).roomy roomy ((roomy _).settle room _),
      completion.event, admitted, room, ?_⟩
    rw [completeRecord, ← own]
    exact .complete (some _) _
  | @isolate key event stands reason short now =>
    obtain ⟨⟨admitted, rfl⟩, room⟩ : (Admitted codec event ∧ event.key = key) ∧
        hasRoom codec event := by
      rcases stands with found | found
      · exact ⟨valid.pendingEvent _ _ found, (roomy _).pending _ found⟩
      · exact ⟨valid.quarantinedEvent _ _ found, (roomy _).quarantined _ found⟩
    exact ⟨(state.insertQuarantined_row _).roomy roomy (roomy _).isolate, event, admitted, room,
      .quarantined reason short now⟩
  | @release key event now stands =>
    obtain ⟨⟨admitted, rfl⟩, room⟩ : (Admitted codec event ∧ event.key = key) ∧
        hasRoom codec event := by
      rcases stands with found | ⟨row, -, found, is⟩
      · exact ⟨valid.quarantinedEvent _ _ found, (roomy _).quarantined _ found⟩
      · have pending : (state.row key).pending = some event := by
          rw [is, RowView.release, found]
          rfl
        exact ⟨valid.pendingEvent _ _ pending, (roomy _).pending _ pending⟩
    exact ⟨(state.insertRequeued_row now _).roomy roomy ((roomy _).release now), event, admitted,
      room, .pending none none nofun (some now)⟩
  | @retry key event attempts found few next =>
    obtain ⟨admitted, rfl⟩ := valid.pendingEvent key event found
    refine ⟨(retried_row next attempts state event.key).roomy roomy
      ((roomy _).retry next few), event, admitted, (roomy _).pending _ found, .pending _ _ ?_ _⟩
    rintro _ ⟨⟩
    exact few

theorem Steps.roomy {after} (valid : state.Valid codec) (roomy : Roomy codec state)
    (steps : Steps (.roomy codec) codec state records after) :
    Roomy codec after ∧ ∀ record ∈ records, RoomyRecord codec record := by
  induction steps with
  | refl => exact ⟨roomy, nofun⟩
  | step first _ ih =>
    obtain ⟨roomy, about⟩ := first.roomy valid roomy
    obtain ⟨ends, later⟩ := ih (first.carries valid).valid roomy
    exact ⟨ends, forall_mem_cons.mpr ⟨about, later⟩⟩

namespace OutboxState

theorem removeCompleted_roomy (roomy : Roomy codec state) (keys : List OutboxKey) :
    Roomy codec (keys.foldl removeCompleted state) := by
  refine List.foldlRecOn keys _ roomy fun state roomy key _ => ?_
  exact (state.removeCompleted_row key).roomy roomy (roomy key).forget

/-- Every record of a snapshot is about an event with room. -/
theorem snapshotRecords_roomy (valid : state.Valid codec) (roomy : Roomy codec state)
    (scan : OutboxScan) (clock : Nat → UInt64) :
    ∀ record ∈ state.snapshotRecords scan clock, RoomyRecord codec record := by
  intro record mem
  rw [← snapshotEntries_records] at mem
  obtain ⟨entry, listed, rfl⟩ := mem_map.mp mem
  rcases mem_snapshotEntries listed with ⟨key, event, found, rfl⟩ | ⟨key, fingerprint, found, rfl⟩ |
    ⟨key, event, now, found, rfl⟩
  · obtain ⟨admitted, rfl⟩ := valid.pendingEvent key event found
    exact ⟨event, admitted, (roomy _).pending _ found, .pending _ _ (roomy _).attempts _⟩
  · obtain ⟨event, kept⟩ := isSome_iff_exists.mp
      ((roomy key).completed (show (state.complete.lookup key).isSome by rw [found]; rfl))
    obtain ⟨admitted, rfl⟩ := valid.completeEvent key event kept
    refine ⟨event, admitted, (roomy _).completeEvents _ kept, ?_⟩
    rw [show state.completeEvents.lookup event.key = some event from kept]
    exact .complete fingerprint _
  · obtain ⟨admitted, rfl⟩ := valid.quarantinedEvent key event found
    exact ⟨event, admitted, (roomy _).quarantined _ found, .quarantined _ (by decide) now⟩

end OutboxState

/-! ### Runs -/

/-- The events an operation brings in have room, and the reasons it gives are
short. -/
def AppendOp.LeavesRoom : AppendOp codec → Prop
  | .enqueue event _ _ => hasRoom codec event
  | .quarantine _ reason _ => isShortReason reason
  | _ => True

variable {n : Nat}

theorem AppendOp.LeavesRoom.meets (leaves : op.LeavesRoom) (state : OutboxState) :
    op.Meets (.roomy codec) state := by
  cases op with
  | enqueue | quarantine => exact leaves
  | reschedule => exact (by decide : isShortReason replayAttemptsExhausted = true)
  | requeueQuarantined => exact fun _ _ => trivial
  | _ => trivial

theorem OutboxState.completions_ne_payloadTooLarge {keys clock} :
    state.completions clock keys ≠ .error .payloadTooLarge := by
  induction keys generalizing clock with
  | nil => exact nofun
  | cons key rest ih =>
    rw [completions]
    cases later : state.completions (fun n => clock (n + 1)) rest with
    | error e =>
      intro same
      cases same
      exact ih later
    | ok later =>
      rw [ok_bind]
      split
      · exact nofun
      · cases state.pending.lookup key <;> exact nofun

/-- The state alone never refuses an operation because of its size. -/
theorem AppendOp.plan_ne_payloadTooLarge :
    op.plan state ≠ .error .payloadTooLarge := by
  cases op with
  | enqueue event admitted now =>
    simp only [AppendOp.plan, OutboxState.enqueue]
    repeat' split
    all_goals rintro ⟨⟩
  | markComplete key now =>
    simp only [AppendOp.plan, OutboxState.markComplete]
    split <;> rintro ⟨⟩
  | markCompleteMany keys clock =>
    simp only [AppendOp.plan, OutboxState.markCompleteMany]
    cases planned : state.completions clock keys with
    | error e =>
      intro same
      cases same
      exact completions_ne_payloadTooLarge planned
    | ok completions => rintro ⟨⟩
  | reschedule | quarantine | requeueQuarantined => rintro ⟨⟩

/-- Records within the limit are not refused because of their size. -/
theorem FileOutbox.appendBatch_ne_payloadTooLarge {outbox : FileOutbox}
    (within : ∀ record ∈ records, byteLength (record.encode ++ ['\n']) ≤ maxOutboxRecordBytes) :
    outbox.appendBatch records ≠ .error .payloadTooLarge := by
  have each : (forM records fun record =>
      ensure (decide (byteLength (record.encode ++ ['\n']) ≤ maxOutboxRecordBytes))
        GatewayError.payloadTooLarge) = .ok () :=
    forM_eq_ok.mpr fun record mem => by simpa using within record mem
  unfold appendBatch
  split
  · rintro ⟨⟩
  · rw [checkBatch, each, ok_bind, ensure]
    split <;> rintro ⟨⟩

/-- Every enqueued event has room for the record of its completion and every
reason is short; a crash is one the outbox recovers from. -/
def LeavesRoom (codec : EnvelopeCodec) : Option FileOutbox → OutboxAction codec → Prop
  | some _, .call op => op.LeavesRoom
  | some outbox, .crash op cut _ =>
      op.LeavesRoom ∧ outbox.journal ≠ [] ∧
        (FileOutbox.encodeBatch (op.batch outbox))[cut]? ≠ some '\n'
  | _, _ => True

/-- No operation is refused because of the size of a record, and the journal a
sweep leaves can be opened. -/
def FitsRecords (codec : EnvelopeCodec) (capacity : Nat) :
    Option FileOutbox → OutboxAction codec → Prop
  | none, _ => False
  | some outbox, .call op => (outbox.commit (op.plan outbox.state)).1 ≠ .error .payloadTooLarge
  | some outbox, .maintain now retention scan clock => ∀ later, ∃ reopened,
      FileOutbox.open codec capacity later (outbox.maintain now retention scan clock).2.journal =
        .ok reopened
  | some _, .crash _ _ _ | some _, .reopen _ => True

/-- A sound outbox whose rows and records are about events with room. -/
structure Spacious (codec : EnvelopeCodec) (capacity : Nat) (outbox : FileOutbox) : Prop where
  sound : Sound codec capacity outbox
  roomy : Roomy codec outbox.state
  journal : ∃ records, outbox.journal = FileOutbox.encodeBatch records ∧
    ∀ record ∈ records, RoomyRecord codec record

namespace Spacious

variable {outbox : FileOutbox}

theorem fresh (capacity : Nat) : Spacious codec capacity (FileOutbox.fresh capacity) :=
  ⟨fresh_sound capacity, Roomy.empty capacity, [], rfl, nofun⟩

/-- The records of the journal are about events with room. -/
theorem recorded (spacious : Spacious codec capacity outbox) {account written}
    (recorded : Recorded codec capacity account outbox.journal written) :
    ∀ record ∈ written, RoomyRecord codec record := by
  obtain ⟨records, is, about⟩ := spacious.journal
  have same := recorded.journalRecords_eq
  rw [is, journalRecords_encodeBatch] at same
  rw [← same]
  exact about

/-- The outbox after an operation. -/
theorem commit (spacious : Spacious codec capacity outbox) (leaves : op.LeavesRoom) :
    Spacious codec capacity (outbox.commit (op.plan outbox.state)).2 ∧
      (outbox.commit (op.plan outbox.state)).1 ≠ .error .payloadTooLarge := by
  have sound : Sound codec capacity (outbox.commit (op.plan outbox.state)).2 :=
    commit_sound spacious.sound fun _ => AppendOp.plan_sound spacious.sound.valid
  cases planned : op.plan outbox.state with
  | error e =>
    refine ⟨spacious, fun refused => ?_⟩
    cases refused
    exact AppendOp.plan_ne_payloadTooLarge planned
  | ok plan =>
    have stepped := AppendOp.plan_stepped (leaves.meets _) planned
    obtain ⟨success, fits⟩ := stepped.success.roomy spacious.sound.valid spacious.roomy
    rw [planned] at sound
    cases written : outbox.appendBatch plan.records with
    | error e =>
      simp only [FileOutbox.commit, written] at sound ⊢
      obtain ⟨_, failed⟩ := stepped.failure
      refine ⟨⟨sound, (failed.roomy spacious.sound.valid spacious.roomy).1, spacious.journal⟩,
        fun refused => ?_⟩
      cases refused
      refine appendBatch_ne_payloadTooLarge (fun record mem => ?_) written
      obtain ⟨event, -, room, is⟩ := fits record mem
      exact is.within room
    | ok appended =>
      obtain ⟨-, rfl⟩ := appendBatch_eq_ok.mp written
      simp only [FileOutbox.commit, written] at sound ⊢
      obtain ⟨records, is, about⟩ := spacious.journal
      refine ⟨⟨sound, success, records ++ plan.records, ?_, ?_⟩, by rintro ⟨⟩⟩
      · simp [is, encodeBatch]
      · exact forall_mem_append.mpr ⟨about, fits⟩

/-- The outbox after a sweep. -/
theorem maintain (spacious : Spacious codec capacity outbox) (now retention : UInt64)
    (scan : OutboxState.OutboxScan) (clock : Nat → UInt64) :
    Spacious codec capacity (outbox.maintain now retention scan clock).2 := by
  have dropped := removeCompleted_foldl spacious.sound.valid
    (outbox.state.expired (Saturating.sub64 now retention))
  have swept : Roomy codec (outbox.swept (Saturating.sub64 now retention)) :=
    removeCompleted_roomy spacious.roomy _
  have about := snapshotRecords_roomy dropped.valid swept scan clock
  have short : ∀ record ∈
      (outbox.swept (Saturating.sub64 now retention)).snapshotRecords scan clock,
      byteLength record.encode ≤ maxOutboxRecordBytes := by
    intro record mem
    obtain ⟨event, -, room, is⟩ := about record mem
    have within := is.within room
    rw [byteLength_append] at within
    omega
  have sound := (maintain_sound spacious.sound short).1
  rcases outbox.maintain_cases now retention scan clock with same | ⟨journal, rfl, -, is⟩
  · rw [same]
    exact spacious
  · rw [is] at sound ⊢
    exact ⟨sound, swept, _, rfl, about⟩

/-- The outbox that is opened over records about events with room. -/
theorem opened (spacious : Spacious codec capacity outbox) {now account written whole reopened}
    (recorded : Recorded codec capacity outbox.state.account outbox.journal written)
    (about : ∀ record ∈ whole, RoomyRecord codec record)
    (opened : Opened codec capacity now account (outbox.journal ++ encodeBatch whole)
      (written ++ whole) reopened) : Spacious codec capacity reopened := by
  have all : ∀ record ∈ written ++ whole, RoomyRecord codec record :=
    forall_mem_append.mpr ⟨spacious.recorded recorded, about⟩
  refine ⟨opened.sound, (Roomy.empty capacity).replay all opened.replays, written ++ whole, ?_, all⟩
  rw [opened.journal_eq, recorded.journal_eq]
  simp [encodeBatch]

/-- One step that leaves room keeps the outbox spacious and refuses no record. -/
theorem step (spacious : Spacious codec capacity outbox) (capacityOk : CapacityOk capacity) {action}
    (leaves : LeavesRoom codec (some outbox) action) :
    (∃ next, outboxStep codec capacity (some outbox) action = some next ∧
        Spacious codec capacity next) ∧ FitsRecords codec capacity (some outbox) action := by
  cases action with
  | call op =>
    obtain ⟨after, accepted⟩ := spacious.commit leaves
    exact ⟨⟨_, rfl, after⟩, accepted⟩
  | maintain now retention scan clock =>
    have after := spacious.maintain now retention scan clock
    refine ⟨⟨_, rfl, after⟩, fun later => ?_⟩
    obtain ⟨records, recorded⟩ := after.sound.recorded
    obtain ⟨reopened, opens, -⟩ := recorded.open_whole capacityOk later
    exact ⟨reopened, opens⟩
  | crash op cut now =>
    obtain ⟨leaves, written, inside⟩ := leaves
    obtain ⟨reopened, opens, records, whole, rest, is, recorded, opened⟩ :=
      open_torn capacityOk spacious.sound op now written inside
    refine ⟨⟨reopened, by simp [outboxStep, opens, Except.toOption],
      spacious.opened recorded (fun record mem => ?_) opened⟩, trivial⟩
    have batch : record ∈ op.batch outbox := is ▸ mem_append_left _ mem
    unfold AppendOp.batch at batch
    split at batch
    · cases batch
    · next plan planned =>
        split at batch
        · cases batch
        · have stepped := AppendOp.plan_stepped (leaves.meets _) planned
          exact (stepped.success.roomy spacious.sound.valid spacious.roomy).2 record batch
  | reopen now =>
    obtain ⟨records, recorded⟩ := spacious.sound.recorded
    obtain ⟨reopened, opens, opened⟩ := recorded.open_whole capacityOk now
    have nothing : ∀ record ∈ ([] : List FileOutboxRecord), RoomyRecord codec record := by simp
    have same : outbox.journal ++ encodeBatch [] = outbox.journal := by
      simp [encodeBatch]
    rw [← same, ← append_nil records] at opened
    exact ⟨⟨reopened, by simp [outboxStep, opens, Except.toOption],
      spacious.opened recorded nothing opened⟩, trivial⟩

end Spacious

/-- There is an open outbox, and it is spacious. -/
def InSpace (codec : EnvelopeCodec) (capacity : Nat) (world : Option FileOutbox) : Prop :=
  ∃ outbox, world = some outbox ∧ Spacious codec capacity outbox

/-- In every run from a new file whose enqueued events leave room for the record
of their completion, whose quarantine reasons are short and whose crashes are
recoverable, no operation is refused because of the size of a record, and every
journal a compaction writes can be opened. -/
theorem fitsRecords_of_leavesRoom (capacityOk : CapacityOk capacity)
    (actions : List (OutboxAction codec))
    (leaves : AllSteps (outboxStep codec capacity) (LeavesRoom codec)
      (some (FileOutbox.fresh capacity)) actions) :
    AllSteps (outboxStep codec capacity) (FitsRecords codec capacity)
      (some (FileOutbox.fresh capacity)) actions := by
  have start : InSpace codec capacity (some (FileOutbox.fresh capacity)) :=
    ⟨_, rfl, Spacious.fresh capacity⟩
  refine allSteps_of_allSteps (fun world action inSpace leaves => ?_)
    (fun world action inSpace leaves => ?_) start leaves
  · obtain ⟨outbox, rfl, spacious⟩ := inSpace
    exact (spacious.step capacityOk leaves).1
  · obtain ⟨outbox, rfl, spacious⟩ := inSpace
    exact (spacious.step capacityOk leaves).2

/-- An event that is enqueued, rescheduled and completed. -/
theorem fitsRecords_of_leavesRoom_sample :
    AllSteps (outboxStep sampleCodec 8) (FitsRecords sampleCodec 8) (some (FileOutbox.fresh 8))
      [.call (enqueueSample 1), .call (.reschedule [(sampleEvent 1).key] 1000 5),
        .call (.markComplete (sampleEvent 1).key 2000), .reopen 3000] :=
  fitsRecords_of_leavesRoom (by decide) _
    ⟨show hasRoom sampleCodec (sampleEvent 1) = true by decide +kernel, trivial, trivial, trivial,
      trivial⟩

/-! ### An event that cannot be completed -/

/-- An event of `n` bytes, each of which takes three digits and a comma. -/
def wideEvent (n : Nat) : IngestRequest where
  eventId := "e"
  workspaceId := "w"
  namespaceId := "n"
  scopeKey := "w/n"
  envelope := List.replicate n 255

def wideCodec : EnvelopeCodec where
  rebuild envelope := some { wideEvent 0 with envelope }
  fingerprint _ := .zero

theorem wideEvent_admitted (some : n ≠ 0) (small : n ≤ maxEnvelopeBytes) :
    Admitted wideCodec (wideEvent n) :=
  ⟨by simp [wideEvent, some], by simpa [wideEvent] using small, rfl⟩

theorem contentSize_wide (some : n ≠ 0) :
    contentSize (wideEvent n).envelope = 4 * n + 13 := by
  have label : byteLength (renderString "envelope") = 10 := by decide
  have item : size (natural (255 : UInt8).toNat) = 3 := by decide
  have items : size (bytes (List.replicate n (255 : UInt8))) = 1 + n * 4 := by
    rw [bytes, size_arr (by simpa using some), List.map_map, List.map_replicate, List.sum_replicate]
    simp only [Function.comp_apply, item]
    rfl
  rw [contentSize, memberSize, label, wideEvent, items]
  omega

theorem identitySize_wide (n : Nat) : identitySize (wideEvent n).key = 53 := by
  change identitySize ⟨"w", "n", "e"⟩ = 53
  decide

theorem size_pending_wide (some : n ≠ 0) :
    byteLength (FileOutboxRecord.pending (wideEvent n).key (wideEvent n).envelope none none
      (Option.some 0)).encode = 4 * n + 104 := by
  have op : memberSize ("op", .str "pending") = 15 := by decide
  have created : memberSize ("created_at_millis", natural (0 : UInt64).toNat) = 22 := by decide
  have content := contentSize_wide some
  have identity := identitySize_wide n
  rw [contentSize] at content
  rw [identitySize] at identity
  rw [size_encode]
  simp only [members, optionalMember, map_some, map_none,
    elim_some, elim_none, map_append, map_cons, map_nil,
    sum_append, sum_cons, sum_nil, op, created, content, identity]
  omega

theorem size_complete_wide (some : n ≠ 0) :
    byteLength (completeRecord wideCodec ⟨(wideEvent n).key, wideEvent n, 0⟩).encode =
      4 * n + 192 := by
  have time : memberSize ("completed_at_millis", natural (0 : UInt64).toNat) = 24 := by decide
  rw [size_completeRecord, identitySize_wide, contentSize_wide some, time]
  omega

/-- The outbox after the event was enqueued. -/
def afterWide (n : Nat) : FileOutbox where
  journal := FileOutbox.encodeBatch
    [.pending (wideEvent n).key (wideEvent n).envelope none none (some 0)]
  state := (OutboxState.empty 8).insertPending (wideEvent n) 0

theorem commit_wide (some : n ≠ 0) (fits : 4 * n + 105 ≤ maxOutboxRecordBytes) :
    (FileOutbox.fresh 8).commit ((OutboxState.empty 8).enqueue wideCodec (wideEvent n) 0) =
      (.ok .enqueued, afterWide n) := by
  have record := size_pending_wide some
  have checked : (FileOutbox.fresh 8).checkBatch
      [.pending (wideEvent n).key (wideEvent n).envelope none none (Option.some 0)] = .ok () := by
    have limit : maxOutboxRecordBytes ≤ maxOutboxFileBytes := by decide
    refine checkBatch_eq_ok.mpr ⟨fun other mem => ?_, ?_⟩
    · obtain rfl := mem_singleton.mp mem
      rw [byteLength_append, record]
      exact fits
    · rw [encodeBatch, map_cons, byteLength_unlines_cons, record]
      simp only [FileOutbox.fresh, map_nil, unlines_nil, byteLength_nil]
      omega
  have planned : (OutboxState.empty 8).enqueue wideCodec (wideEvent n) 0 = .ok {
      records := [.pending (wideEvent n).key (wideEvent n).envelope none none (Option.some 0)]
      answer := .enqueued
      success := (OutboxState.empty 8).insertPending (wideEvent n) 0
      failure := OutboxState.empty 8 } := rfl
  rw [planned, FileOutbox.commit]
  dsimp only
  rw [appendBatch_eq_ok.mpr ⟨.inr checked, rfl⟩]
  rfl

theorem refused_wide (some : n ≠ 0) (exceeds : maxOutboxRecordBytes < 4 * n + 193) :
    ((afterWide n).commit
      ((afterWide n).state.markComplete wideCodec (wideEvent n).key 0)).1 =
        .error .payloadTooLarge := by
  have record := size_complete_wide some
  have pending : (afterWide n).state.pending.lookup (wideEvent n).key = Option.some (wideEvent n) :=
    AList.lookup_insert _
  have refused : (afterWide n).appendBatch
      [completeRecord wideCodec ⟨(wideEvent n).key, wideEvent n, 0⟩] =
        .error .payloadTooLarge := by
    have long : ¬ byteLength ((completeRecord wideCodec
        ⟨(wideEvent n).key, wideEvent n, 0⟩).encode ++ ['\n']) ≤ maxOutboxRecordBytes := by
      rw [byteLength_append, record]
      exact Nat.not_le.mpr exceeds
    simp only [appendBatch, checkBatch, isEmpty_cons,
      Bool.false_eq_true, if_false, forM_cons, ensure, decide_eq_true_eq, if_neg long]
    rfl
  have complete : (afterWide n).state.complete.lookup (wideEvent n).key = none := rfl
  rw [markComplete, complete, pending]
  dsimp only
  rw [FileOutbox.commit, refused]

/-- An envelope of 262117 bytes is accepted, and its completion is refused. -/
theorem wideEvent_never_completes :
    let enqueued := (FileOutbox.fresh 8).commit
      ((OutboxState.empty 8).enqueue wideCodec (wideEvent 262117) 0)
    Admitted wideCodec (wideEvent 262117) ∧ enqueued.1 = .ok .enqueued ∧
      (enqueued.2.commit (enqueued.2.state.markComplete wideCodec (wideEvent 262117).key 0)).1 =
        .error .payloadTooLarge := by
  rw [commit_wide (by decide) (by decide)]
  exact ⟨wideEvent_admitted (by decide) (by decide), rfl, refused_wide (by decide) (by decide)⟩

end Apex.Outbox
