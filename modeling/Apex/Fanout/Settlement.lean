import Apex.Fanout.Worker
import Apex.Lib.TornLines

/-!
What an access of the outbox does to the standing of an event.

The journal of an outbox that is in use tells its ledger (`Tracked`), so what the
file says about an event is what the ledger says. An access that was answered
`Ok(Ok(_))` moves the ledger on as its operation does, and one that failed without
leaving bytes leaves it alone (`withLock_tracked`); each operation moves an event only from one kind
of standing to one other.
-/

namespace Apex.Fanout

open Checked Control Domain Lines Outbox Runs OutboxState List FileOutbox

/-- The journal as lines. -/
def outboxCodec : LineCodec FileOutboxRecord where
  encode := FileOutboxRecord.encode
  decode := FileOutboxRecord.decode
  decode_encode := FileOutboxRecord.decode_encode
  isLine := FileOutboxRecord.isLine_encode

/-! ### The journal tells the ledger -/

/-- The ledger of a journal's records. -/
def ledgerOf (codec : EnvelopeCodec) (records : List FileOutboxRecord) : Ledger :=
  records.foldl (effect codec) fun _ => none

/-- The event is complete or quarantined. -/
def Settled (standing : Option Standing) : Prop :=
  (∃ fingerprint, standing = some (.complete fingerprint)) ∨
    ∃ event, standing = some (.quarantined event)

/-- The file says that the event is complete or quarantined. -/
def DurablyRecorded (codec : EnvelopeCodec) (outbox : FileOutbox) (key : OutboxKey) : Prop :=
  ∃ records, outbox.journal = FileOutbox.encodeBatch records ∧ Settled (ledgerOf codec records key)

/-- A valid state, and a file whose records come to its ledger. -/
structure Tracked (codec : EnvelopeCodec) (outbox : FileOutbox) : Prop where
  valid : outbox.state.Valid codec
  told : ∃ records, outbox.journal = FileOutbox.encodeBatch records ∧
    ledgerOf codec records = outbox.state.ledger

section Tracked

variable {codec : EnvelopeCodec} {outbox : FileOutbox} {α : Type}

theorem tracked_of_sound {capacity} (sound : Sound codec capacity outbox) :
    Tracked codec outbox := by
  obtain ⟨records, recorded⟩ := sound.recorded
  refine ⟨sound.valid, records, recorded.journal_eq, ?_⟩
  have ledger := congrArg Account.ledger recorded.account_eq
  rw [ledger_foldl_enter] at ledger
  exact ledger

theorem Tracked.durablyRecorded (tracked : Tracked codec outbox) {key} :
    DurablyRecorded codec outbox key ↔ Settled (outbox.state.ledger key) := by
  obtain ⟨records, text, tells⟩ := tracked.told
  constructor
  · rintro ⟨others, othersText, settled⟩
    obtain rfl : others = records := outboxCodec.text_injective (othersText.symm.trans text)
    rwa [← tells]
  · intro settled
    exact ⟨records, text, by rwa [tells]⟩

/-- Records that lead to a state, appended to the file of the state before. -/
theorem Tracked.append (tracked : Tracked codec outbox) {records after}
    (carries : Carries codec outbox.state records after) :
    Tracked codec ⟨outbox.journal ++ FileOutbox.encodeBatch records, after⟩ := by
  obtain ⟨before, text, tells⟩ := tracked.told
  refine ⟨carries.valid, before ++ records, ?_, ?_⟩
  · rw [text]
    exact (outboxCodec.text_append before records).symm
  · have account := congrArg Account.ledger carries.account
    rw [ledger_foldl_enter] at account
    rw [ledgerOf, foldl_append, ← ledgerOf, tells]
    exact account.symm

/-- A plan that was not carried out changes nothing but retry data. -/
theorem Tracked.failure (tracked : Tracked codec outbox) {plan : Plan α}
    (sound : plan.Sound codec outbox.state) :
    Tracked codec { outbox with state := plan.failure } ∧
      plan.failure.ledger = outbox.state.ledger := by
  have appended := tracked.append sound.failure
  have same : outbox.journal ++ encodeBatch [] = outbox.journal := append_nil _
  rw [same] at appended
  exact ⟨appended, congrArg Account.ledger sound.failure.account⟩

/-- The ledger moves on as the plan has it if the access is answered, and is left
alone otherwise. -/
structure Moved (codec : EnvelopeCodec) (held : HeldOutbox) (plan : Plan α) (answered : Prop)
    (after : HeldOutbox) : Prop where
  tracked : Tracked codec after.toFileOutbox
  ledger : answered ∧ after.state.ledger = plan.success.ledger ∨
    ¬ answered ∧ after.state.ledger = held.state.ledger

/-- The access fails, if it fails, without leaving a byte. -/
def Fault.Clean : Fault → Prop
  | .lock => True
  | .storage fault => fault.Clean

variable {held : HeldOutbox} {plan : Plan α}

theorem commit_tracked {fault} (clean : ∀ f ∈ fault, f.Clean)
    (tracked : Tracked codec held.toFileOutbox) (sound : plan.Sound codec held.state) :
    Moved codec held plan ((held.commit fault (.ok plan)).1 = .ok plan.answer)
      (held.commit fault (.ok plan)).2 := by
  have carried := HeldOutbox.commit_carried clean held plan
  generalize held.commit fault (.ok plan) = outcome at carried
  cases carried with
  | failed e =>
    obtain ⟨tracked', ledger⟩ := tracked.failure sound
    exact ⟨tracked', .inr ⟨by rintro ⟨⟩, ledger⟩⟩
  | done => exact ⟨tracked.append sound.success, .inl ⟨rfl, rfl⟩⟩

/-- An access of the worker moves the ledger on if it is answered `Ok(Ok(_))`,
and leaves it alone otherwise. -/
theorem withLock_tracked {fault} (clean : ∀ f ∈ fault, f.Clean)
    (tracked : Tracked codec held.toFileOutbox) (sound : plan.Sound codec held.state) :
    Moved codec held plan ((withLock fault held (.ok plan)).1 = .ok (.ok plan.answer))
      (withLock fault held (.ok plan)).2 := by
  have moves {fault : Option AppendFault} (clean : ∀ f ∈ fault, f.Clean) :
      Moved codec held plan (Except.ok (held.commit fault (.ok plan)).1 =
        (.ok (.ok plan.answer) : Except CommandError _)) (held.commit fault (.ok plan)).2 := by
    rw [Except.ok.injEq]
    exact commit_tracked clean tracked sound
  rcases fault with _ | (_ | fault)
  · exact moves (by rintro _ ⟨⟩)
  · exact ⟨tracked, .inr ⟨by rintro ⟨⟩, rfl⟩⟩
  · refine moves ?_
    rintro _ ⟨⟩
    exact clean _ rfl

end Tracked

/-! ### What the operations do to a standing -/

section Standings

variable {codec : EnvelopeCodec} {state : OutboxState}

/-- An enqueued event was unknown, or nothing changes. -/
theorem enqueue_ledger (valid : state.Valid codec) {event} (admitted : Admitted codec event)
    {now plan} (ok : state.enqueue codec event now = .ok plan) (key : OutboxKey) :
    plan.success.ledger key = state.ledger key ∨ state.ledger key = none := by
  rcases enqueue_cases ok with ⟨answer, rfl⟩ | ⟨fresh, room, rfl⟩
  · exact .inl rfl
  · by_cases own : key = event.key
    · exact .inr (own ▸ fresh)
    · have carries := insertPending_carries valid admitted fresh room now
      left
      rw [OutboxState.arrival, carries.ledger_one, effect_pending admitted (by simp [fresh])]
      exact Function.update_of_ne own _ _

theorem requeue_ledger (valid : state.Valid codec) (keys : List OutboxKey) (now : UInt64)
    (key : OutboxKey) :
    (state.requeueQuarantined keys now).success.ledger key = state.ledger key ∨
      key ∈ keys ∧ ∃ event, state.ledger key = some (.quarantined event) ∧
        (state.requeueQuarantined keys now).success.ledger key = some (.pending event) := by
  have moved := requeue_standing valid keys now key
  rw [requeueQuarantined, moved]
  split_ifs with mem
  · rcases state.ledger key with - | ⟨event⟩ | ⟨fingerprint⟩ | ⟨event⟩ <;>
      simp [Outbox.Standing.released, mem]
  · exact .inl rfl

theorem quarantine_ledger (valid : state.Valid codec) (keys : List OutboxKey) (reason : String)
    (now : UInt64) (key : OutboxKey) :
    (state.quarantine keys reason now).success.ledger key = state.ledger key ∨
      key ∈ keys ∧ ∃ event, state.ledger key = some (.pending event) ∧
        (state.quarantine keys reason now).success.ledger key = some (.quarantined event) := by
  have moved := quarantine_standing valid keys key
  rw [OutboxState.quarantine, moved]
  split_ifs with mem
  · rcases state.ledger key with - | ⟨event⟩ | ⟨fingerprint⟩ | ⟨event⟩ <;>
      simp [Outbox.Standing.isolated, mem]
  · exact .inl rfl

/-- A rescheduled event stays pending or is out of attempts. -/
theorem reschedule_ledger (valid : state.Valid codec) (keys : List OutboxKey)
    (afterMillis now : UInt64) (key : OutboxKey) :
    (state.reschedule keys afterMillis now).success.ledger key = state.ledger key ∨
      ∃ event, state.ledger key = some (.pending event) ∧
        (state.reschedule keys afterMillis now).success.ledger key =
          some (.quarantined event) := by
  obtain ⟨same, -⟩ := rescheduleKeys_steps codec .any
    (Saturating.add64 now afterMillis) keys ⟨state, [], []⟩
  have ledger := congrArg Account.ledger same.account
  have moved := quarantine_ledger (same.valid valid)
    (keys.foldl (rescheduleKey (Saturating.add64 now afterMillis))
      ⟨state, [], []⟩).quarantineKeys replayAttemptsExhausted now key
  rw [show OutboxState.ledger _ = state.ledger from ledger] at moved
  rcases moved with same | ⟨-, quarantined⟩
  · exact .inl same
  · exact .inr quarantined

/-- Completions of other keys leave the standing of an event alone. -/
theorem insertComplete_ledger (completions : List OutboxState.Completion) {key}
    (others : ∀ completion ∈ completions, completion.key ≠ key) :
    (completions.foldl (fun state completion => state.insertComplete codec completion)
      state).ledger key = state.ledger key := by
  refine List.foldlRecOn (motive := (OutboxState.ledger · key = _)) completions _ rfl ?_
  intro kept same completion mem
  rw [← same]
  simp only [OutboxState.ledger, insertComplete, KeyMap.lookup_insert_eq,
    KeyMap.lookup_erase_eq, if_neg (others completion mem).symm]

/-- Events that are pending can all be completed. -/
theorem completions_of_pending {keys} (clock : Nat → UInt64)
    (pending : ∀ key ∈ keys, ∃ event, state.pending.lookup key = some event) :
    ∃ completions, state.completions clock keys = .ok completions := by
  induction keys generalizing clock with
  | nil => exact ⟨[], rfl⟩
  | cons key rest ih =>
    obtain ⟨⟨event, found⟩, others⟩ := forall_mem_cons.mp pending
    obtain ⟨later, ok⟩ := ih (fun n => clock (n + 1)) others
    simp only [OutboxState.completions, ok, found, require]
    cases state.complete.lookup key with
    | some fingerprint => exact ⟨later, rfl⟩
    | none => exact ⟨⟨key, event, clock 0⟩ :: later, rfl⟩

theorem markCompleteMany_ledger {keys clock plan}
    (ok : state.markCompleteMany codec keys clock = .ok plan) {key} (other : key ∉ keys) :
    plan.success.ledger key = state.ledger key := by
  obtain ⟨completions, found, is⟩ := bind_eq_ok.mp ok
  obtain rfl := pure_eq_ok.mp is
  refine insertComplete_ledger completions fun completion mem own => other ?_
  rw [← own]
  exact ((completions_eq_ok found).1 completion mem).1

/-- The batch is the published events and the others. -/
theorem keys_perm (publish : IngestRequest → PublishResult) (batch : List IngestRequest) :
    (failedKeys publish batch ++ publishedKeys publish batch).Perm
      (batch.map IngestRequest.key) := by
  rw [failedKeys, publishedKeys, ← map_append]
  exact ((perm_append_comm).trans (filter_append_perm _ batch)).map _

/-- The events of a batch are pending, one for each key. -/
theorem pendingBatch_spec (valid : state.Valid codec) (scan : Scan OutboxKey IngestRequest)
    (limit : Nat) (now : UInt64) :
    ((pendingBatch state scan limit now).map IngestRequest.key).Nodup ∧
      ∀ event ∈ pendingBatch state scan limit now,
        state.pending.lookup event.key = some event := by
  have own (key : OutboxKey) (event : IngestRequest)
      (mem : (key, event) ∈ scan.order state.pending) :
      event.key = key ∧ state.pending.lookup key = some event := by
    have found := (scan.mem_order _).mp mem
    exact ⟨(valid.pendingEvent key event found).2, found⟩
  constructor
  · -- The keys of the batch are, in their order, keys of the scan.
    have keys : ((scan.order state.pending).map fun entry => entry.2.key).Nodup := by
      have same : (scan.order state.pending).map (fun entry => entry.2.key) =
          (scan.order state.pending).map Prod.fst :=
        map_congr_left fun entry mem => (own entry.1 entry.2 mem).1
      rw [same]
      exact scan.nodup_keys_order _
    refine keys.sublist ?_
    have sublist : (pendingBatch state scan limit now).Sublist
        ((scan.order state.pending).map Prod.snd) :=
      ((take_sublist _ _).trans filter_sublist).map _
    have mapped := sublist.map IngestRequest.key
    rwa [map_map] at mapped
  · intro event mem
    obtain ⟨⟨key, event⟩, listed, rfl⟩ := mem_map.mp mem
    obtain ⟨inScan, -⟩ := mem_filter.mp (mem_of_mem_take listed)
    obtain ⟨rfl, pending⟩ := own key event inScan
    exact pending

/-- A sweep takes nothing but completed rows from the ledger, and its rewritten
journal tells what is left. -/
theorem maintain_tracked {held : HeldOutbox} (tracked : Tracked codec held.toFileOutbox) {fault}
    (clean : ∀ f ∈ fault, f.Clean) (now retention : UInt64) (scan : OutboxState.OutboxScan)
    (clock : Nat → UInt64) :
    Tracked codec (held.maintain fault now retention scan clock).2.toFileOutbox ∧
      ∀ key, (held.maintain fault now retention scan clock).2.state.ledger key =
          held.state.ledger key ∨
        ∃ fingerprint, held.state.ledger key = some (.complete fingerprint) := by
  have dropped := removeCompleted_foldl tracked.valid
    (held.state.expired (Saturating.sub64 now retention))
  rcases @HeldOutbox.maintain_clean held fault now retention scan clock clean with same | is
  · rw [same]
    exact ⟨tracked, fun _ => .inl rfl⟩
  · rw [is]
    obtain ⟨-, account⟩ := snapshot_chain dropped.valid scan clock
    refine ⟨⟨dropped.valid, _, rfl, ?_⟩, fun key => ?_⟩
    · have ledger := congrArg Account.ledger account
      rw [ledger_foldl_enter] at ledger
      exact ledger
    · rcases dropped.ledger key with same | ⟨-, -, stood⟩
      · exact .inl same
      · exact .inr stood

end Standings

end Apex.Fanout
