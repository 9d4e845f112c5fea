import Apex.Outbox.Rows

/-!
What a replayed record does to the ledger, and what a replay of the journal
makes of its lines.

A journal is good for a state if its records form a chain (`Chain`): each one
fits the ledger the records before it leave. Chains are what opening the outbox
needs, and every beginning of a chain is one, so a journal whose last append
was torn is as good as a whole one (`open_torn`).
-/

namespace Apex.Outbox

open Checked Domain Lines FileOutbox List Option RowView

variable {codec : EnvelopeCodec} {state : OutboxState}

/-- The effect of a record on a ledger. -/
def effect (codec : EnvelopeCodec) (ledger : Ledger) : FileOutboxRecord → Ledger
  | .pending key envelope _ _ _ =>
      match ledger key with
      | some (.pending _) => ledger
      | _ => (codec.rebuild envelope).elim ledger fun event =>
          Function.update ledger key (some (.pending event))
  | .complete key envelopeSha256 _ _ =>
      Function.update ledger key (some (.complete (
        match envelopeSha256 with
        | some hex => parseFingerprint hex
        | none => (Standing.pendingPart (ledger key)).map fun event =>
            codec.fingerprint event.envelope)))
  | .quarantined key envelope _ _ =>
      (codec.rebuild envelope).elim ledger fun event =>
        Function.update ledger key (some (.quarantined event))

/-- The bytes of an event that passed admission under the key. -/
def IsEventOf (codec : EnvelopeCodec) (key : OutboxKey) (event : IngestRequest)
    (envelope : List UInt8) : Prop :=
  Admitted codec event ∧ event.key = key ∧ event.envelope = envelope

/-- A record the replay accepts after records with this ledger: its bytes are
those of an admitted event, and it is a step an event's standing can take. -/
def Fits (codec : EnvelopeCodec) (ledger : Ledger) : FileOutboxRecord → Prop
  | .pending key envelope _ _ _ =>
      ∃ event, IsEventOf codec key event envelope ∧
        (ledger key = none ∨ ledger key = some (.pending event) ∨
          ∃ other, ledger key = some (.quarantined other))
  | .complete key envelopeSha256 _ envelope =>
      (∀ hex, envelopeSha256 = some hex → (parseFingerprint hex).isSome) ∧
        (∀ bytes, envelope = some bytes → ∃ event, IsEventOf codec key event bytes) ∧
        ∀ event, ledger key ≠ some (.quarantined event)
  | .quarantined key envelope _ _ =>
      (∃ event, IsEventOf codec key event envelope) ∧
        ∀ fingerprint, ledger key ≠ some (.complete fingerprint)

/-- A ledger together with the number of rows it stands for. -/
@[ext] structure Account where
  ledger : Ledger
  rows : Nat

/-- A record entered in an account. -/
def Account.enter (codec : EnvelopeCodec) (account : Account) (record : FileOutboxRecord) :
    Account where
  ledger := effect codec account.ledger record
  rows := account.rows + if account.ledger record.key = none then 1 else 0

/-- Records that fit one after the other, within a capacity. -/
def Chain (codec : EnvelopeCodec) (capacity : Nat) : Account → List FileOutboxRecord → Prop
  | _, [] => True
  | account, record :: rest =>
      Fits codec account.ledger record ∧
        (account.ledger record.key = none → account.rows < capacity) ∧
        Chain codec capacity (account.enter codec record) rest

theorem chain_append {capacity account first second} :
    Chain codec capacity account (first ++ second) ↔
      Chain codec capacity account first ∧
        Chain codec capacity (first.foldl (Account.enter codec) account) second := by
  induction first generalizing account with
  | nil => simp [Chain]
  | cons record rest ih => simp [Chain, ih, and_assoc]

variable {ledger : Ledger} {record : FileOutboxRecord}

theorem effect_pending {event next attempts created} (admitted : Admitted codec event)
    (notPending : ∀ other, ledger event.key ≠ some (.pending other)) :
    effect codec ledger (.pending event.key event.envelope next attempts created) =
      Function.update ledger event.key (some (.pending event)) := by
  simp only [effect, admitted.rebuild]
  rfl

theorem effect_quarantined {event reason now} (admitted : Admitted codec event) :
    effect codec ledger (.quarantined event.key event.envelope reason now) =
      Function.update ledger event.key (some (.quarantined event)) := by
  rw [effect, admitted.rebuild]
  rfl

/-- The account of a state. -/
def OutboxState.account (state : OutboxState) : Account := ⟨state.ledger, state.size⟩

/-- What replaying a record comes to: the state is valid again and the record
is entered in its account. -/
structure Follows (codec : EnvelopeCodec) (before after : OutboxState)
    (record : FileOutboxRecord) : Prop where
  valid : after.Valid codec
  account : after.account = before.account.enter codec record
  capacity : after.capacity = before.capacity

/-- Entering a record that fits in a row leaves an admitted event, and has the effect of the
record on the ledger. -/
theorem Fits.enter {row : RowView} (fits : Fits codec ledger record)
    (stands : ledger record.key = row.holding.standing)
    (admits : row.holding.Admits codec record.key) (now : UInt64) :
    (row.enter codec now record).holding.Admits codec record.key ∧
      (row.enter codec now record).holding.standing ≠ none ∧
      effect codec ledger record =
        Function.update ledger record.key (row.enter codec now record).holding.standing := by
  cases record with
  | pending key envelope next attempts created =>
    obtain ⟨event, ⟨admitted, rfl, rfl⟩, fits⟩ := fits
    cases pending : row.pending with
    | some existing =>
      -- A row that is pending already: only its retry data changes.
      have same : (row.enter codec now (.pending event.key event.envelope next attempts
          created)).holding = row.holding := by
        simp [enter, holding, pending]
      rw [same, ← stands, Function.update_eq_self, stands, admits.standing_pending.mpr pending]
      refine ⟨admits, by rintro ⟨⟩, ?_⟩
      simp only [effect, show ledger event.key = _ from stands,
        admits.standing_pending.mpr pending]
    | none =>
      -- A row that is new, or comes back from quarantine.
      have others : (∀ other, ledger event.key ≠ some (.pending other)) ∧
          row.complete = none := by
        have notPending : ∀ other, ledger event.key ≠ some (.pending other) := by
          intro other isPending
          have found := admits.standing_pending.mp (stands.symm.trans isPending)
          cases pending.symm.trans found
        refine ⟨notPending, eq_none_iff_forall_not_mem.mpr fun fingerprint found => ?_⟩
        have complete : ledger event.key = some (.complete fingerprint) :=
          stands.trans (Holding.standing_complete.mpr found)
        simp [complete] at fits
      have is : (row.enter codec now (.pending event.key event.envelope next attempts
          created)).holding = ⟨some event, none, row.completeEvents, none⟩ := by
        simp [enter, holding, pending, admitted.rebuild, others.2]
      rw [is]
      refine ⟨⟨fun _ _ => ⟨rfl, rfl⟩, by rintro _ ⟨⟩, ?_, admits.completeEvent, by rintro _ ⟨⟩⟩,
        by rintro ⟨⟩, effect_pending admitted others.1⟩
      rintro _ ⟨⟩
      exact ⟨admitted, rfl⟩
  | complete key envelopeSha256 completedAt envelope =>
    obtain ⟨-, bytes, notQuarantined⟩ := fits
    have quarantined : row.quarantined = none := by
      refine eq_none_iff_forall_not_mem.mpr fun event found => notQuarantined event ?_
      exact stands.trans (admits.standing_quarantined.mpr found)
    refine ⟨⟨by rintro _ ⟨⟩, fun _ _ => quarantined, by rintro _ ⟨⟩, ?_, admits.quarantinedEvent⟩,
      by rintro ⟨⟩, ?_⟩
    · intro event kept
      rcases or_eq_some_iff.mp kept with kept | ⟨-, kept⟩
      · rcases or_eq_some_iff.mp kept with rebuilt | ⟨-, pending⟩
        · obtain ⟨content, is, rebuilt⟩ := bind_eq_some_iff.mp rebuilt
          obtain ⟨event', admitted, own, rfl⟩ := bytes content is
          obtain rfl := Option.some.inj (admitted.rebuild.symm.trans rebuilt)
          exact ⟨admitted, own⟩
        · exact admits.pendingEvent event pending
      · exact admits.completeEvent event kept
    · have pending : Standing.pendingPart (ledger key) = row.pending := by
        rw [show ledger key = _ from stands]
        exact admits.pendingPart
      cases envelopeSha256 with
      | none =>
        rw [effect, pending]
        rfl
      | some hex => rfl
  | quarantined key envelope reason at_ =>
    obtain ⟨⟨event, admitted, rfl, rfl⟩, notComplete⟩ := fits
    have complete : row.complete = none := by
      refine eq_none_iff_forall_not_mem.mpr fun fingerprint found =>
        notComplete fingerprint ?_
      exact stands.trans (Holding.standing_complete.mpr found)
    have is : (row.enter codec now (.quarantined event.key event.envelope reason at_)).holding =
        ⟨none, none, row.completeEvents, some event⟩ := by
      simp [enter, holding, admitted.rebuild, complete]
    rw [is]
    refine ⟨⟨by rintro _ ⟨⟩, by rintro _ ⟨⟩, by rintro _ ⟨⟩, admits.completeEvent, ?_⟩,
      by rintro ⟨⟩, effect_quarantined admitted⟩
    rintro _ ⟨⟩
    exact ⟨admitted, rfl⟩

/-- A step that does to the maps of events what entering a record that fits does. -/
theorem Overwrites.follows {before after now} (overwritten : Overwrites before after record.key
      ((before.row record.key).enter codec now record).holding) (valid : before.Valid codec)
    (fits : Fits codec before.ledger record)
    (room : before.ledger record.key = none → before.size < before.capacity) :
    Follows codec before after record := by
  obtain ⟨admits, known, is⟩ := fits.enter (rfl : _ = (before.row record.key).holding.standing)
    (valid.admits _) now
  refine ⟨overwritten.valid valid admits fun fresh _ => room fresh,
    Account.ext (overwritten.ledger_eq.trans is.symm) ?_, overwritten.capacity⟩
  have size := overwritten.size_eq valid admits
  rw [if_neg known] at size
  change after.size = before.size + if before.ledger record.key = none then 1 else 0
  by_cases fresh : before.ledger record.key = none
  · rw [if_pos fresh] at size ⊢
    exact size
  · rw [if_neg fresh] at size ⊢
    exact Nat.add_right_cancel size

namespace OutboxState

theorem names_of_key {event : IngestRequest} {key} (is : event.key = key) :
    names event key = true := by
  subst is
  simp [names, IngestRequest.key]

/-- A record that fits is not refused. -/
theorem Fits.applyChange (valid : state.Valid codec) (now : UInt64) {record}
    (fits : Fits codec state.ledger record) :
    ∃ after, state.applyChange codec now record = .ok after := by
  cases record with
  | pending key envelope next attempts created =>
    obtain ⟨event, ⟨admitted, rfl, rfl⟩, stands⟩ := fits
    simp only [OutboxState.applyChange, applyPending, admitted.rebuild, require_some, ok_bind,
      names_of_key rfl, decide_true, Bool.and_self, ensure_true, admitted.size,
      isEmpty_eq_false_iff.mpr admitted.nonempty, Bool.not_false]
    cases pending : state.pending.lookup event.key with
    | none => exact ⟨_, rfl⟩
    | some existing =>
      have isPending := valid.ledger_pending.mpr pending
      obtain rfl : existing = event := by simpa [isPending] using stands
      simp only [decide_true, ensure_true, ok_bind]
      exact ⟨_, rfl⟩
  | complete key envelopeSha256 completedAt envelope =>
    obtain ⟨hash, bytes, -⟩ := fits
    have stored : ∃ event, reconstruct codec key envelope = .ok event := by
      cases envelope with
      | none => exact ⟨none, rfl⟩
      | some content =>
        obtain ⟨event, admitted, rfl, rfl⟩ := bytes content rfl
        refine ⟨some event, ?_⟩
        simp only [reconstruct, admitted.rebuild, require_some, ok_bind, names_of_key rfl,
          decide_true, Bool.and_self, ensure_true]
        rfl
    have parsed : ∃ fingerprint, completeFingerprint codec (state.pending.lookup key)
        envelopeSha256 = .ok fingerprint := by
      cases envelopeSha256 with
      | none => exact ⟨_, rfl⟩
      | some hex =>
        obtain ⟨fingerprint, parses⟩ := isSome_iff_exists.mp (hash hex rfl)
        exact ⟨some fingerprint, by rw [completeFingerprint, parses]; rfl⟩
    obtain ⟨event, reconstructed⟩ := stored
    obtain ⟨fingerprint, parses⟩ := parsed
    simp only [OutboxState.applyChange, applyComplete, reconstructed, parses, ok_bind]
    exact ⟨_, rfl⟩
  | quarantined key envelope reason at_ =>
    obtain ⟨⟨event, admitted, rfl, rfl⟩, -⟩ := fits
    simp only [OutboxState.applyChange, applyQuarantined, admitted.rebuild, require_some,
      ok_bind, names_of_key rfl, ensure_true]
    exact ⟨_, rfl⟩

/-- A record that fits is replayed, and has its effect. -/
theorem applyRecord_follows (valid : state.Valid codec) (now : UInt64) {record}
    (fits : Fits codec state.ledger record)
    (room : state.ledger record.key = none → state.size < state.capacity) :
    ∃ after, state.applyRecord codec now record = .ok after ∧
      Follows codec state after record := by
  obtain ⟨after, applied⟩ := Fits.applyChange valid now fits
  have follows := (applyChange_row applied).overwrites.follows valid fits room
  refine ⟨after, ?_, follows⟩
  rw [applyRecord, applied, ok_bind, decide_eq_true follows.valid.withinCapacity]
  rfl

/-- The records applied in order. -/
def replay (codec : EnvelopeCodec) (now : UInt64) (state : OutboxState)
    (records : List FileOutboxRecord) : Except GatewayError OutboxState :=
  records.foldlM (fun state record => state.applyRecord codec now record) state

variable {records : List FileOutboxRecord}

/-- A replay changes the row of a key by the records of that key. -/
theorem replay_row {after now} (replays : state.replay codec now records = .ok after)
    (key : OutboxKey) :
    after.row key = records.foldl (RowView.enterAt codec now key) (state.row key) := by
  induction records generalizing state with
  | nil =>
    cases replays
    rfl
  | cons record later ih =>
    rw [replay, foldlM_cons] at replays
    obtain ⟨next, applied, replays⟩ := bind_eq_ok.mp replays
    rw [ih replays, foldl_cons, (applyRecord_row applied).row key, enterAt]
    by_cases same : key = record.key
    · rw [if_pos same, if_pos same.symm, same]
    · rw [if_neg same, if_neg (Ne.symm same)]

/-- A chain of records is replayed, and is entered in the account. -/
theorem replay_chain (valid : state.Valid codec) (now : UInt64)
    (chain : Chain codec state.capacity state.account records) :
    ∃ after, state.replay codec now records = .ok after ∧ after.Valid codec ∧
      after.capacity = state.capacity ∧
      after.account = records.foldl (Account.enter codec) state.account := by
  induction records generalizing state with
  | nil => exact ⟨state, rfl, valid, rfl, rfl⟩
  | cons record later ih =>
    obtain ⟨fits, room, chain⟩ := chain
    obtain ⟨next, applied, follows⟩ := applyRecord_follows valid now fits room
    rw [← follows.account, ← follows.capacity] at chain
    obtain ⟨after, replays, valid', capacity, account⟩ := ih follows.valid chain
    refine ⟨after, ?_, valid', capacity.trans follows.capacity, ?_⟩
    · rw [replay, foldlM_cons, applied, ok_bind]
      exact replays
    · rw [account, follows.account, foldl_cons]

/-- Records within the limit are replayed line by line, whatever comes after
them. -/
theorem loadLines_replay (now : UInt64) (good : Nat) (parsed : Bool) {after}
    (replays : state.replay codec now records = .ok after)
    (short : ∀ record ∈ records, byteLength record.encode ≤ maxOutboxRecordBytes)
    (rest : List (List Char)) :
    state.loadLines codec now good parsed (records.map FileOutboxRecord.encode ++ rest) =
      after.loadLines codec now (good + byteLength (encodeBatch records))
        (parsed || !records.isEmpty) rest := by
  induction records generalizing state good parsed with
  | nil =>
    cases replays
    simp [encodeBatch]
  | cons record later ih =>
    obtain ⟨isShort, short⟩ := forall_mem_cons.mp short
    rw [replay, foldlM_cons] at replays
    obtain ⟨next, applied, replays⟩ := bind_eq_ok.mp replays
    have loads := ih (good + byteLength record.encode + 1) true replays short
    have line : record.encode.isEmpty = false := by
      simpa using FileOutboxRecord.encode_ne_nil record
    have whole : byteLength (encodeBatch (record :: later)) =
        byteLength record.encode + 1 + byteLength (encodeBatch later) :=
      byteLength_unlines_cons _ _
    simp only [map_cons, cons_append, loadLines, line, Bool.false_eq_true, if_false,
      Nat.not_lt.mpr isShort, FileOutboxRecord.decode_encode, applied, ok_bind, loads, whole,
      Bool.true_or, isEmpty_cons, Bool.not_false, Bool.or_true]
    congr 1
    omega

end OutboxState

/-! ### Opening the outbox -/

/-- The account before any record. -/
def Account.blank : Account := ⟨fun _ => none, 0⟩

theorem OutboxState.account_empty (capacity : Nat) : (empty capacity).account = .blank :=
  Account.ext (ledger_empty capacity) rfl

/-- A journal that holds these records, and what they come to. -/
structure Recorded (codec : EnvelopeCodec) (capacity : Nat) (account : Account)
    (journal : List Char) (records : List FileOutboxRecord) : Prop where
  journal_eq : journal = FileOutbox.encodeBatch records
  chain : Chain codec capacity .blank records
  account_eq : records.foldl (Account.enter codec) .blank = account
  short : ∀ record ∈ records, byteLength record.encode ≤ maxOutboxRecordBytes
  small : byteLength journal ≤ maxOutboxFileBytes

/-- An outbox in use: its state is valid, and its journal comes to the same
account. -/
structure Sound (codec : EnvelopeCodec) (capacity : Nat) (outbox : FileOutbox) : Prop where
  valid : outbox.state.Valid codec
  capacity_eq : outbox.state.capacity = capacity
  recorded : ∃ records, Recorded codec capacity outbox.state.account outbox.journal records

variable {capacity : Nat} {account : Account} {journal : List Char}
  {records : List FileOutboxRecord}

theorem lines_encodeBatch_append (records : List FileOutboxRecord) (rest : List Char) :
    lines (encodeBatch records ++ rest) =
      records.map FileOutboxRecord.encode ++ lines rest := by
  refine lines_unlines_append (fun line mem => ?_) rest
  obtain ⟨record, -, rfl⟩ := mem_map.mp mem
  exact record.isLine_encode

theorem lines_encodeBatch (records : List FileOutboxRecord) :
    lines (encodeBatch records) = records.map FileOutboxRecord.encode := by
  simpa [lines] using lines_encodeBatch_append records []

theorem Recorded.lines_eq (recorded : Recorded codec capacity account journal records)
    (rest : List Char) :
    lines (journal ++ rest) = records.map FileOutboxRecord.encode ++ lines rest := by
  rw [recorded.journal_eq, lines_encodeBatch_append]

/-- The records of a journal. -/
def journalRecords (journal : List Char) : List FileOutboxRecord :=
  (lines journal).filterMap FileOutboxRecord.decode

@[simp] theorem journalRecords_encodeBatch (records : List FileOutboxRecord) :
    journalRecords (encodeBatch records) = records := by
  rw [journalRecords, lines_encodeBatch, filterMap_map]
  simp

theorem Recorded.journalRecords_eq (recorded : Recorded codec capacity account journal records) :
    journalRecords journal = records := by
  rw [recorded.journal_eq, journalRecords_encodeBatch]

/-- The replay of the journal, up to what follows it. -/
theorem Recorded.load (recorded : Recorded codec capacity account journal records)
    (now : UInt64) (rest : List Char) :
    ∃ state : OutboxState, state.Valid codec ∧ state.capacity = capacity ∧
      state.account = account ∧
      (OutboxState.empty capacity).replay codec now records = .ok state ∧
      (OutboxState.empty capacity).loadLines codec now 0 false (lines (journal ++ rest)) =
        state.loadLines codec now (byteLength journal) (!records.isEmpty) (lines rest) := by
  have chain : Chain codec (OutboxState.empty capacity).capacity
      (OutboxState.empty capacity).account records := by
    rw [OutboxState.account_empty]
    exact recorded.chain
  obtain ⟨state, replays, valid, same, account_eq⟩ :=
    OutboxState.replay_chain (OutboxState.valid_empty capacity) now chain
  refine ⟨state, valid, same, ?_, replays, ?_⟩
  · rw [account_eq, OutboxState.account_empty, recorded.account_eq]
  · rw [recorded.lines_eq, OutboxState.loadLines_replay now 0 false replays recorded.short,
      recorded.journal_eq]
    simp

/-- The capacities the constructor accepts. -/
def CapacityOk (capacity : Nat) : Prop := 0 < capacity ∧ capacity ≤ 1000000

instance (capacity : Nat) : Decidable (CapacityOk capacity) := inferInstanceAs (Decidable (_ ∧ _))

/-- An outbox that was opened over a journal and holds what the records of it
come to. -/
structure Opened (codec : EnvelopeCodec) (capacity : Nat) (now : UInt64) (account : Account)
    (journal : List Char) (records : List FileOutboxRecord) (outbox : FileOutbox) : Prop where
  sound : Sound codec capacity outbox
  account_eq : outbox.state.account = account
  journal_eq : outbox.journal = journal
  replays : (OutboxState.empty capacity).replay codec now records = .ok outbox.state

/-- A journal of whole lines opens to what its records come to. -/
theorem Recorded.open_whole (recorded : Recorded codec capacity account journal records)
    (capacityOk : CapacityOk capacity) (now : UInt64) :
    ∃ outbox, FileOutbox.open codec capacity now journal = .ok outbox ∧
      Opened codec capacity now account journal records outbox := by
  obtain ⟨state, valid, same, rfl, replays, loads⟩ := recorded.load now []
  rw [append_nil] at loads
  refine ⟨⟨journal, state⟩, ?_, ⟨valid, same, records, recorded⟩, rfl, rfl, replays⟩
  simp only [FileOutbox.open, capacityOk.1, capacityOk.2, recorded.small, decide_true,
    Bool.and_self, ensure_true, ok_bind, loads]
  rfl

/-- A torn last line is cut off again, where a record stands before it. -/
theorem Recorded.open_torn (recorded : Recorded codec capacity account journal records)
    (capacityOk : CapacityOk capacity) (now : UInt64) (some : records ≠ []) {kept lost}
    (split : record.encode = kept ++ lost) (nonempty : kept ≠ []) (torn : lost ≠ [])
    (short : byteLength record.encode ≤ maxOutboxRecordBytes)
    (small : byteLength (journal ++ kept) ≤ maxOutboxFileBytes) :
    ∃ outbox, FileOutbox.open codec capacity now (journal ++ kept) = .ok outbox ∧
      Opened codec capacity now account journal records outbox := by
  obtain ⟨state, valid, same, rfl, replays, loads⟩ := recorded.load now kept
  have isLine : IsLine kept := fun c mem =>
    record.isLine_encode c (by rw [split]; exact mem_append_left _ mem)
  have keptShort : byteLength kept ≤ maxOutboxRecordBytes := by
    rw [split, byteLength_append] at short
    omega
  have last : state.loadLines codec now (byteLength journal) (!records.isEmpty) (lines kept) =
      .ok (state, Option.some (byteLength journal)) := by
    rw [lines_unterminated isLine nonempty]
    simp [OutboxState.loadLines, nonempty, Nat.not_lt.mpr keptShort,
      FileOutboxRecord.decode_torn split torn, some]
  refine ⟨⟨journal, state⟩, ?_, ⟨valid, same, records, recorded⟩, rfl, rfl, replays⟩
  simp only [FileOutbox.open, capacityOk.1, capacityOk.2, small, decide_true, Bool.and_self,
    ensure_true, ok_bind, loads, last, elim_some, takeBytes_append]
  rfl

/-- The records of a chain appended to a journal. -/
theorem Recorded.append (recorded : Recorded codec capacity account journal records) {batch}
    (chain : Chain codec capacity account batch)
    (short : ∀ record ∈ batch, byteLength record.encode ≤ maxOutboxRecordBytes)
    (small : byteLength journal + byteLength (encodeBatch batch) ≤ maxOutboxFileBytes) :
    Recorded codec capacity (batch.foldl (Account.enter codec) account)
      (journal ++ encodeBatch batch) (records ++ batch) where
  journal_eq := by simp [recorded.journal_eq, encodeBatch]
  chain := chain_append.mpr ⟨recorded.chain, by rwa [recorded.account_eq]⟩
  account_eq := by rw [foldl_append, recorded.account_eq]
  short := by
    intro record mem
    rcases mem_append.mp mem with mem | mem
    · exact recorded.short record mem
    · exact short record mem
  small := by rwa [byteLength_append]

end Apex.Outbox
