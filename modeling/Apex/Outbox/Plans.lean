import Apex.Outbox.Replay

/-!
The operations that append a batch change the state row by row, each change with
its record.

`Step` says once what such a change can be, and every operation is some steps
(`Plan.Stepped`), so a fact about the rows or the records of the outbox is shown of
one step. Each operation walks over a list of keys with the records of its batch
fixed beforehand, so a key that is named twice is recorded twice; the second record
finds the row where the first one has moved it, and changes nothing.

`Carries` is the first such fact: the batch is a chain from the first state, and
entering it in its account gives the account of the second.
-/

namespace Apex.Outbox

open Checked Domain Lines List RowView Option

variable {codec : EnvelopeCodec} {state : OutboxState}

/-! ### Retry data -/

namespace OutboxState

/-- The two states differ in their retry data only. -/
structure SameRows (before after : OutboxState) : Prop where
  capacity : after.capacity = before.capacity
  pending : after.pending = before.pending
  complete : after.complete = before.complete
  completeEvents : after.completeEvents = before.completeEvents
  quarantined : after.quarantined = before.quarantined

namespace SameRows

variable {before after : OutboxState}

theorem account (same : SameRows before after) : after.account = before.account := by
  simp [OutboxState.account, OutboxState.size, funext_iff, OutboxState.ledger, same.pending,
    same.complete, same.quarantined]

theorem valid (same : SameRows before after) (valid : before.Valid codec) : after.Valid codec where
  pendingOnly := by rw [same.pending, same.complete, same.quarantined]; exact valid.pendingOnly
  completeOnly := by rw [same.complete, same.quarantined]; exact valid.completeOnly
  pendingEvent := by rw [same.pending]; exact valid.pendingEvent
  completeEvent := by rw [same.completeEvents]; exact valid.completeEvent
  quarantinedEvent := by rw [same.quarantined]; exact valid.quarantinedEvent
  withinCapacity := by
    rw [OutboxState.size, same.pending, same.complete, same.quarantined, same.capacity]
    exact valid.withinCapacity

end SameRows

theorem SameRows.refl (state : OutboxState) : SameRows state state :=
  ⟨rfl, rfl, rfl, rfl, rfl⟩

theorem SameRows.trans {first second third} (one : SameRows first second)
    (two : SameRows second third) : SameRows first third :=
  ⟨two.1.trans one.1, two.2.trans one.2, two.3.trans one.3, two.4.trans one.4, two.5.trans one.5⟩

/-- The retry data of a key. -/
def retried (state : OutboxState) (next : UInt64) (attempts : UInt32) (key : OutboxKey) :
    OutboxState :=
  { state with
    nextAttemptAtMillis := AList.insert key next state.nextAttemptAtMillis
    attempts := AList.insert key attempts state.attempts }

theorem retried_row (next : UInt64) (attempts : UInt32) (state : OutboxState) (key : OutboxKey) :
    ChangesRow state (state.retried next attempts key) key (RowView.retry next attempts) := by
  refine ⟨rfl, fun other => ?_⟩
  split_ifs with same
  · subst same
    simp [row, retried, retry]
  · simp [row, retried, same]

/-- The record of a key that is retried. -/
def retryRecord (state : OutboxState) (next : UInt64) (attempts : UInt32) (key : OutboxKey)
    (event : IngestRequest) : FileOutboxRecord :=
  .pending key event.envelope (some next) (some attempts) (state.pendingSinceMillis.lookup key)

/-- Rescheduling one key collects nothing in the state, or retries a pending
event that is not out of attempts. -/
theorem rescheduleKey_cases (next : UInt64) (work : Rescheduling) (key : OutboxKey) :
    ((rescheduleKey next work key).state = work.state ∧
        (rescheduleKey next work key).records = work.records) ∨
      ∃ event attempts, work.state.pending.lookup key = some event ∧
        attempts < maxPersistedAttempts ∧
        (rescheduleKey next work key).state = work.state.retried next attempts key ∧
        (rescheduleKey next work key).records =
          work.records ++ [work.state.retryRecord next attempts key event] := by
  unfold rescheduleKey
  split
  · exact .inl ⟨rfl, rfl⟩
  · next event found =>
      dsimp only
      split_ifs with exhausted
      · exact .inl ⟨rfl, rfl⟩
      · exact .inr ⟨event, _, found, UInt32.not_le.mp exhausted, rfl, rfl⟩

end OutboxState

/-! ### Steps -/

/-- What is required of the events and the reasons that are given to the outbox, and
of the rows that are requeued. -/
structure Inputs where
  event : IngestRequest → Prop
  reason : String → Prop
  row : RowView → Prop

/-- Nothing is required. -/
def Inputs.any : Inputs :=
  ⟨fun _ => True, fun _ => True, fun _ => True⟩

/-- A change of one row, with its record. -/
inductive Step (inputs : Inputs) (codec : EnvelopeCodec) (state : OutboxState) :
    FileOutboxRecord → OutboxState → Prop where
  | arrive {event} (given : inputs.event event) (admitted : Admitted codec event)
      (fresh : state.ledger event.key = none) (room : state.size < state.capacity) (now : UInt64) :
      Step inputs codec state (.pending event.key event.envelope none none (some now))
        (state.insertPending event now)
  | settle {completion : OutboxState.Completion}
      (stands : state.pending.lookup completion.key = some completion.event ∨
        (state.complete.lookup completion.key).isSome ∧
          state.completeEvents.lookup completion.key = some completion.event) :
      Step inputs codec state (OutboxState.completeRecord codec completion)
        (state.insertComplete codec completion)
  | isolate {key event}
      (stands : state.pending.lookup key = some event ∨ state.quarantined.lookup key = some event)
      {reason} (given : inputs.reason reason) (now : UInt64) :
      Step inputs codec state (.quarantined key event.envelope reason now)
        (state.insertQuarantined key)
  | release {key event now} (stands : state.quarantined.lookup key = some event ∨
        ∃ row : RowView, inputs.row row ∧ row.quarantined = some event ∧
          state.row key = row.release now) :
      Step inputs codec state (.pending key event.envelope none none (some now))
        (OutboxState.insertRequeued now state key)
  | retry {key event attempts} (found : state.pending.lookup key = some event)
      (few : attempts < maxPersistedAttempts) (next : UInt64) :
      Step inputs codec state (state.retryRecord next attempts key event)
        (state.retried next attempts key)

/-- Some steps, one after the other. -/
inductive Steps (inputs : Inputs) (codec : EnvelopeCodec) :
    OutboxState → List FileOutboxRecord → OutboxState → Prop where
  | refl (state : OutboxState) : Steps inputs codec state [] state
  | step {before middle after record records} (first : Step inputs codec before record middle)
      (later : Steps inputs codec middle records after) :
      Steps inputs codec before (record :: records) after

variable {inputs : Inputs}

theorem Steps.append {before middle after first second}
    (one : Steps inputs codec before first middle) (two : Steps inputs codec middle second after) :
    Steps inputs codec before (first ++ second) after := by
  induction one with
  | refl => exact two
  | step first _ ih => exact .step first (ih two)

/-- Moving a list of keys, with the records taken from the state before. -/
theorem Steps.moves {source change next} (moves : RowMoves source change next)
    {record : OutboxKey → IngestRequest → FileOutboxRecord}
    (enters : ∀ current key event, source (state.row key) = some event →
      current.row key = state.row key ∨ current.row key = change (state.row key) →
      Step inputs codec current (record key event) (next current key)) (keys : List OutboxKey) :
    Steps inputs codec state (keys.filterMap fun key => (source (state.row key)).map (record key))
      (keys.foldl next state) := by
  -- Along the walk every row is as it was, or changed once.
  suffices walk : ∀ current : OutboxState, (∀ key, current.row key = state.row key ∨
      current.row key = change (state.row key)) → Steps inputs codec current
        (keys.filterMap fun key => (source (state.row key)).map (record key))
        (keys.foldl next current) from walk state fun _ => .inl rfl
  induction keys with
  | nil => exact fun current _ => .refl current
  | cons key rest ih =>
    intro current seen
    have changes := moves.changes current key
    have seenThen : ∀ other, (next current key).row other = state.row other ∨
        (next current key).row other = change (state.row other) := by
      intro other
      by_cases same : other = key
      · rw [same, changes.here]
        rcases seen key with is | is
        · exact .inr (by rw [is])
        · exact .inr (by rw [is, moves.again])
      · rw [changes.elsewhere same]
        exact seen other
    cases found : source (state.row key) with
    | none =>
      -- There was nothing to move at the start, so there is nothing now.
      have nothing : source (current.row key) = none := by
        rcases seen key with is | is
        · rw [is, found]
        · rw [is, moves.moved]
      rw [filterMap_cons_none (by rw [found]; rfl), foldl_cons, moves.skips current key nothing]
      exact ih current seen
    | some event =>
      rw [filterMap_cons_some (by rw [found]; rfl)]
      exact .step (enters current key event found (seen key)) (ih _ seenThen)

/-! ### Plans -/

/-- A plan whose batch leads to the state it leaves once the batch is durable, and
that changes nothing but retry data where it is refused. -/
structure Plan.Stepped {α : Type} (inputs : Inputs) (codec : EnvelopeCodec) (state : OutboxState)
    (plan : Plan α) : Prop where
  success : Steps inputs codec state plan.records plan.success
  failure : ∃ records, Steps inputs codec state records plan.failure
  same : OutboxState.SameRows state plan.failure

namespace OutboxState

theorem stepped_of_success {α : Type} {plan : Plan α}
    (success : Steps inputs codec state plan.records plan.success)
    (failure : plan.failure = state) :
    plan.Stepped inputs codec state :=
  ⟨success, ⟨[], by rw [failure]; exact .refl state⟩, by rw [failure]; exact .refl state⟩

/-- The plan of a fresh event. -/
def arrival (state : OutboxState) (event : IngestRequest) (now : UInt64) : Plan EnqueueResult where
  records := [.pending event.key event.envelope none none (some now)]
  answer := .enqueued
  success := state.insertPending event now
  failure := state

variable {now : UInt64}

/-- An enqueue that is not refused has nothing to do, or the event is fresh and
there is room for it. -/
theorem enqueue_cases {event plan} (ok : state.enqueue codec event now = .ok plan) :
    (∃ answer, plan = state.nothing answer) ∨
      state.ledger event.key = none ∧ state.size < state.capacity ∧
        plan = state.arrival event now := by
  unfold enqueue at ok
  split at ok
  · split_ifs at ok
    exact .inl ⟨_, (Except.ok.inj ok).symm⟩
  · exact .inl ⟨_, (Except.ok.inj ok).symm⟩
  · next complete =>
      split at ok
      · split_ifs at ok
        exact .inl ⟨_, (Except.ok.inj ok).symm⟩
      · next quarantined =>
          split at ok
          · split_ifs at ok
            exact .inl ⟨_, (Except.ok.inj ok).symm⟩
          · next pending =>
              split_ifs at ok with full
              refine .inr ⟨?_, Nat.lt_of_not_le full, (Except.ok.inj ok).symm⟩
              rw [ledger, complete, pending, quarantined]
              rfl

theorem enqueue_stepped {event} (given : inputs.event event) (admitted : Admitted codec event)
    {plan} (ok : state.enqueue codec event now = .ok plan) : plan.Stepped inputs codec state := by
  rcases enqueue_cases ok with ⟨answer, rfl⟩ | ⟨fresh, room, rfl⟩
  · exact stepped_of_success (.refl state) rfl
  · exact stepped_of_success (.step (.arrive given admitted fresh room now) (.refl _)) rfl

/-- The completions of a list of keys are of events of the list that are pending. -/
theorem completions_eq_ok {keys clock completions}
    (ok : state.completions clock keys = .ok completions) :
    (∀ completion ∈ completions, completion.key ∈ keys ∧
        state.pending.lookup completion.key = some completion.event) ∧
      ∀ key ∈ keys, key ∈ state.complete ∨ ∃ completion ∈ completions, completion.key = key := by
  induction keys generalizing clock completions with
  | nil =>
    cases ok
    simp
  | cons key rest ih =>
    obtain ⟨later, ok', here⟩ := bind_eq_ok.mp ok
    obtain ⟨taken, covered⟩ := ih ok'
    replace taken := fun completion mem =>
      (taken completion mem).imp_left (mem_cons_of_mem key)
    cases complete : state.complete.lookup key with
    | some fingerprint =>
      rw [complete] at here
      obtain rfl := pure_eq_ok.mp here
      refine ⟨taken, fun other mem => ?_⟩
      rcases mem_cons.mp mem with rfl | mem
      · exact .inl (KeyMap.mem_of_lookup complete)
      · exact covered other mem
    | none =>
      rw [complete] at here
      obtain ⟨event, found, here⟩ := bind_eq_ok.mp here
      obtain rfl := pure_eq_ok.mp here
      refine ⟨forall_mem_cons.mpr ⟨⟨mem_cons_self, require_eq_ok.mp found⟩, taken⟩,
        fun other mem => ?_⟩
      rcases mem_cons.mp mem with rfl | mem
      · exact .inr ⟨_, mem_cons_self, rfl⟩
      · rcases covered other mem with complete | ⟨completion, mem, named⟩
        · exact .inl complete
        · exact .inr ⟨completion, mem_cons_of_mem _ mem, named⟩

/-- Completing pending events one after the other. -/
theorem complete_steps {completions : List Completion}
    (pending : ∀ completion ∈ completions,
      state.pending.lookup completion.key = some completion.event) :
    Steps inputs codec state (completions.map (completeRecord codec))
      (completions.foldl (fun state completion => state.insertComplete codec completion)
        state) := by
  -- A row is as it was, or complete with the event that was pending.
  suffices walk : ∀ current : OutboxState, (∀ completion ∈ completions,
      current.pending.lookup completion.key = some completion.event ∨
        (current.complete.lookup completion.key).isSome ∧
          current.completeEvents.lookup completion.key = some completion.event) →
      Steps inputs codec current (completions.map (completeRecord codec))
        (completions.foldl (fun state completion => state.insertComplete codec completion) current)
    from walk state fun completion mem => .inl (pending completion mem)
  induction completions with
  | nil => exact fun current _ => .refl current
  | cons completion rest ih =>
    intro current stands
    obtain ⟨here, later⟩ := forall_mem_cons.mp stands
    obtain ⟨first, pending⟩ := forall_mem_cons.mp pending
    refine .step (.settle here) (ih pending _ fun other mem => ?_)
    by_cases same : other.key = completion.key
    · have event : other.event = completion.event := by
        have found := pending other mem
        rw [same, first] at found
        exact (Option.some.inj found).symm
      rw [same, event]
      exact .inr ⟨by simp [insertComplete], by simp [insertComplete]⟩
    · simpa [insertComplete, same] using later other mem

theorem markComplete_stepped {key plan} (ok : state.markComplete codec key now = .ok plan) :
    plan.Stepped inputs codec state := by
  unfold markComplete at ok
  split at ok
  · cases ok
    exact stepped_of_success (.refl state) rfl
  · cases ok
  · next event _ found =>
      cases ok
      have pending : ∀ completion ∈ [(⟨key, event, now⟩ : Completion)],
          state.pending.lookup completion.key = some completion.event := by
        simpa using found
      exact stepped_of_success (complete_steps pending) rfl

theorem markCompleteMany_stepped {keys clock plan}
    (ok : state.markCompleteMany codec keys clock = .ok plan) :
    plan.Stepped inputs codec state := by
  obtain ⟨completions, found, is⟩ := bind_eq_ok.mp ok
  obtain rfl := pure_eq_ok.mp is
  have pending := fun completion mem => ((completions_eq_ok found).1 completion mem).2
  exact stepped_of_success (complete_steps pending) rfl

theorem quarantine_steps (keys : List OutboxKey) {reason} (given : inputs.reason reason)
    (now : UInt64) :
    Steps inputs codec state (state.quarantineRecords keys reason now)
      (keys.foldl insertQuarantined state) := by
  refine Steps.moves insertQuarantined_moves (fun current key event found seen => ?_) keys
  refine .isolate ?_ given now
  rcases seen with is | is
  · exact .inl ((congrArg RowView.pending is).trans found)
  · refine .inr ((congrArg RowView.quarantined is).trans ?_)
    rw [RowView.isolate, found]
    rfl

theorem quarantine_stepped (keys : List OutboxKey) {reason} (given : inputs.reason reason)
    (now : UInt64) :
    (state.quarantine keys reason now).Stepped inputs codec state :=
  stepped_of_success (quarantine_steps keys given now) rfl

theorem requeueQuarantined_stepped (keys : List OutboxKey) (now : UInt64)
    (given : ∀ key, (state.row key).quarantined.isSome → inputs.row (state.row key)) :
    (state.requeueQuarantined keys now).Stepped inputs codec state := by
  refine stepped_of_success (Steps.moves (insertRequeued_moves now)
    (fun current key event found seen => .release ?_) keys) rfl
  rcases seen with is | is
  · exact .inl ((congrArg RowView.quarantined is).trans found)
  · exact .inr ⟨state.row key, given key (by rw [found]; rfl), found, is⟩

variable (inputs codec) in
/-- A walk over rescheduled keys leads to the state it collects, and changes nothing
but retry data. -/
theorem rescheduleKeys_steps (next : UInt64) (keys : List OutboxKey) (work : Rescheduling) :
    SameRows work.state (keys.foldl (rescheduleKey next) work).state ∧
      ∃ records, (keys.foldl (rescheduleKey next) work).records = work.records ++ records ∧
        Steps inputs codec work.state records (keys.foldl (rescheduleKey next) work).state := by
  induction keys generalizing work with
  | nil => exact ⟨.refl _, [], (append_nil _).symm, .refl _⟩
  | cons key rest ih =>
    obtain ⟨sameRows, records, collected, steps⟩ := ih (rescheduleKey next work key)
    rcases rescheduleKey_cases next work key with ⟨same, none⟩ |
      ⟨event, attempts, found, few, is, one⟩
    · rw [same] at sameRows steps
      rw [none] at collected
      exact ⟨sameRows, records, collected, steps⟩
    · rw [is] at sameRows steps
      have retried : SameRows work.state (work.state.retried next attempts key) :=
        ⟨rfl, rfl, rfl, rfl, rfl⟩
      refine ⟨retried.trans sameRows, _ :: records, ?_, .step (.retry found few next) steps⟩
      rw [foldl_cons, collected, one, append_assoc]
      rfl

theorem reschedule_stepped (keys : List OutboxKey) (afterMillis now : UInt64)
    (given : inputs.reason replayAttemptsExhausted) :
    (state.reschedule keys afterMillis now).Stepped inputs codec state := by
  obtain ⟨same, records, is, steps⟩ := rescheduleKeys_steps codec inputs
    (Saturating.add64 now afterMillis) keys ⟨state, [], []⟩
  refine ⟨?_, ⟨records, steps⟩, same⟩
  rw [nil_append] at is
  simp only [reschedule, is]
  exact steps.append (quarantine_steps _ given now)

end OutboxState

/-! ### Batches and accounts -/

/-- The records lead from one valid state to the other. -/
structure Carries (codec : EnvelopeCodec) (before : OutboxState)
    (records : List FileOutboxRecord) (after : OutboxState) : Prop where
  chain : Chain codec before.capacity before.account records
  valid : after.Valid codec
  account : after.account = records.foldl (Account.enter codec) before.account
  capacity : after.capacity = before.capacity

namespace Carries

theorem refl (valid : state.Valid codec) : Carries codec state [] state :=
  ⟨trivial, valid, rfl, rfl⟩

variable {before after : OutboxState}

theorem trans {middle first second} (one : Carries codec before first middle)
    (two : Carries codec middle second after) :
    Carries codec before (first ++ second) after where
  chain := chain_append.mpr ⟨one.chain, by rw [← one.account, ← one.capacity]; exact two.chain⟩
  valid := two.valid
  account := by rw [two.account, one.account, foldl_append]
  capacity := two.capacity.trans one.capacity

/-- A step that does to the maps of events what its record does. -/
theorem of_row {record : FileOutboxRecord} {change}
    (changes : ChangesRow before after record.key change) (valid : before.Valid codec)
    (fits : Fits codec before.ledger record)
    (room : before.ledger record.key = none → before.size < before.capacity)
    (same : (change (before.row record.key)).holding =
      ((before.row record.key).enter codec 0 record).holding) :
    Carries codec before [record] after := by
  have overwritten := changes.overwrites
  rw [same] at overwritten
  have follows := overwritten.follows valid fits room
  exact ⟨⟨fits, room, trivial⟩, follows.valid, follows.account, follows.capacity⟩

theorem ledger_one {record} (carries : Carries codec before [record] after) :
    after.ledger = effect codec before.ledger record :=
  congrArg Account.ledger carries.account

end Carries

namespace OutboxState

variable {key : OutboxKey} {event : IngestRequest}

theorem Valid.pending_eq_none (valid : state.Valid codec)
    (not : ∀ event, state.ledger key ≠ some (.pending event)) : state.pending.lookup key = none :=
  eq_none_iff_forall_not_mem.mpr fun event found =>
    not event (valid.ledger_pending.mpr found)

theorem Valid.quarantined_eq_none (valid : state.Valid codec)
    (not : ∀ event, state.ledger key ≠ some (.quarantined event)) :
    state.quarantined.lookup key = none :=
  eq_none_iff_forall_not_mem.mpr fun event found =>
    not event (valid.ledger_quarantined.mpr found)

theorem insertPending_carries (valid : state.Valid codec) (admitted : Admitted codec event)
    (fresh : state.ledger event.key = none) (room : state.size < state.capacity) (now : UInt64) :
    Carries codec state [.pending event.key event.envelope none none (some now)]
      (state.insertPending event now) := by
  have pending : (state.row event.key).pending = none := valid.pending_eq_none (by simp [fresh])
  have quarantined : (state.row event.key).quarantined = none :=
    valid.quarantined_eq_none (by simp [fresh])
  refine .of_row (state.insertPending_row event now) valid
    ⟨event, ⟨admitted, rfl, rfl⟩, .inl fresh⟩ (fun _ => room) ?_
  simp [RowView.arrive, RowView.enter, RowView.holding, FileOutboxRecord.key, pending, quarantined,
    admitted.rebuild]

theorem insertComplete_carries (valid : state.Valid codec) {completion : Completion}
    (stands : state.pending.lookup completion.key = some completion.event ∨
      (state.complete.lookup completion.key).isSome ∧
        state.completeEvents.lookup completion.key = some completion.event) :
    Carries codec state [completeRecord codec completion]
      (state.insertComplete codec completion) := by
  obtain ⟨own, known, notQuarantined⟩ :
      (Admitted codec completion.event ∧ completion.event.key = completion.key) ∧
        state.ledger completion.key ≠ none ∧
        ∀ other, state.ledger completion.key ≠ some (.quarantined other) := by
    rcases stands with found | ⟨complete, found⟩
    · refine ⟨valid.pendingEvent _ _ found, ?_⟩
      rw [valid.ledger_pending.mpr found]
      exact ⟨nofun, nofun⟩
    · obtain ⟨fingerprint, complete⟩ := isSome_iff_exists.mp complete
      refine ⟨valid.completeEvent _ _ found, ?_⟩
      rw [Valid.ledger_complete.mpr complete]
      exact ⟨nofun, nofun⟩
  have fits : Fits codec state.ledger (completeRecord codec completion) := by
    refine ⟨?_, ?_, notQuarantined⟩
    · rintro _ ⟨⟩
      simp
    · rintro _ ⟨⟩
      exact ⟨completion.event, own.1, own.2, rfl⟩
  refine .of_row (state.insertComplete_row completion) valid fits
    (fun fresh => absurd fresh known) ?_
  simp [RowView.settle, completeRecord, RowView.enter, RowView.holding, RowView.fingerprintOf,
    FileOutboxRecord.key, own.1.rebuild]

/-- A pending event that is quarantined, or one that was already. -/
theorem insertQuarantined_carries (valid : state.Valid codec)
    (stands : state.pending.lookup key = some event ∨ state.quarantined.lookup key = some event)
    (reason : String) (now : UInt64) :
    Carries codec state [.quarantined key event.envelope reason now]
      (state.insertQuarantined key) := by
  have changes := state.insertQuarantined_row key
  rcases stands with found | found
  · have pending := valid.ledger_pending.mpr found
    obtain ⟨admitted, own⟩ := valid.pendingEvent key event found
    refine .of_row changes valid ⟨⟨event, admitted, own, rfl⟩, by simp [pending]⟩
      (by simp [FileOutboxRecord.key, pending]) ?_
    simp [RowView.isolate, RowView.enter, RowView.holding, FileOutboxRecord.key,
      show (state.row key).pending = _ from found, admitted.rebuild]
  · have quarantined := valid.ledger_quarantined.mpr found
    have pending : (state.row key).pending = none := valid.pending_eq_none (by simp [quarantined])
    obtain ⟨admitted, own⟩ := valid.quarantinedEvent key event found
    refine .of_row changes valid ⟨⟨event, admitted, own, rfl⟩, by simp [quarantined]⟩
      (by simp [FileOutboxRecord.key, quarantined]) ?_
    simp [RowView.isolate, RowView.enter, RowView.holding, FileOutboxRecord.key, pending,
      show (state.row key).quarantined = _ from found, admitted.rebuild]

/-- A quarantined event that is replay work again, or one that was already. -/
theorem insertRequeued_carries (valid : state.Valid codec)
    (stands : state.quarantined.lookup key = some event ∨ state.pending.lookup key = some event)
    (now : UInt64) :
    Carries codec state [.pending key event.envelope none none (some now)]
      (insertRequeued now state key) := by
  have changes := state.insertRequeued_row now key
  rcases stands with found | found
  · have quarantined := valid.ledger_quarantined.mpr found
    have pending : (state.row key).pending = none := valid.pending_eq_none (by simp [quarantined])
    obtain ⟨admitted, own⟩ := valid.quarantinedEvent key event found
    refine .of_row changes valid ⟨event, ⟨admitted, own, rfl⟩, .inr (.inr ⟨event, quarantined⟩)⟩
      (by simp [FileOutboxRecord.key, quarantined]) ?_
    simp [RowView.release, RowView.enter, RowView.holding, FileOutboxRecord.key, pending,
      show (state.row key).quarantined = _ from found, admitted.rebuild]
  · have pending := valid.ledger_pending.mpr found
    have quarantined : (state.row key).quarantined = none :=
      valid.quarantined_eq_none (by simp [pending])
    obtain ⟨admitted, own⟩ := valid.pendingEvent key event found
    refine .of_row changes valid ⟨event, ⟨admitted, own, rfl⟩, .inr (.inl pending)⟩
      (by simp [FileOutboxRecord.key, pending]) ?_
    simp [RowView.release, RowView.enter, RowView.holding, FileOutboxRecord.key, quarantined,
      show (state.row key).pending = _ from found]

/-- Quarantining a list of keys moves the pending events among them. -/
theorem quarantine_standing (valid : state.Valid codec) (keys : List OutboxKey) (key : OutboxKey) :
    (keys.foldl insertQuarantined state).ledger key =
      if key ∈ keys then Standing.isolated (state.ledger key) else state.ledger key := by
  rw [insertQuarantined_moves.ledger_foldl, standing_isolate (valid.admits key)]
  rfl

/-- Requeueing a list of keys moves the quarantined events among them. -/
theorem requeue_standing (valid : state.Valid codec) (keys : List OutboxKey) (now : UInt64)
    (key : OutboxKey) :
    (keys.foldl (insertRequeued now) state).ledger key =
      if key ∈ keys then Standing.released (state.ledger key) else state.ledger key := by
  rw [(insertRequeued_moves now).ledger_foldl, standing_release (valid.admits key)]
  rfl

theorem retried_carries (valid : state.Valid codec) {attempts}
    (found : state.pending.lookup key = some event) (next : UInt64) :
    Carries codec state [state.retryRecord next attempts key event]
      (state.retried next attempts key) := by
  have pending := valid.ledger_pending.mpr found
  obtain ⟨admitted, own⟩ := valid.pendingEvent key event found
  refine .of_row (retried_row next attempts state key) valid
    ⟨event, ⟨admitted, own, rfl⟩, .inr (.inl pending)⟩
    (by simp [retryRecord, FileOutboxRecord.key, pending]) ?_
  simp [RowView.retry, retryRecord, RowView.enter, RowView.holding, FileOutboxRecord.key,
    show (state.row key).pending = _ from found]

end OutboxState

theorem Step.carries {record after} (valid : state.Valid codec)
    (step : Step inputs codec state record after) : Carries codec state [record] after := by
  cases step with
  | arrive given admitted fresh room now =>
    exact OutboxState.insertPending_carries valid admitted fresh room now
  | settle stands => exact OutboxState.insertComplete_carries valid stands
  | isolate stands given now => exact OutboxState.insertQuarantined_carries valid stands _ now
  | @release key event now stands =>
    refine OutboxState.insertRequeued_carries valid (stands.imp_right ?_) now
    rintro ⟨row, -, found, is⟩
    refine (congrArg pending is).trans ?_
    rw [RowView.release, found]
    rfl
  | retry found few next => exact OutboxState.retried_carries valid found next

theorem Steps.carries {records after} (valid : state.Valid codec)
    (steps : Steps inputs codec state records after) :
    Carries codec state records after := by
  induction steps with
  | refl => exact .refl valid
  | step first _ ih =>
    have carries := first.carries valid
    exact carries.trans (ih carries.valid)

/-- A plan whose batch leads to the state it leaves once the batch is durable,
and whose failure leaves the account alone. -/
structure Plan.Sound {α : Type} (codec : EnvelopeCodec) (state : OutboxState) (plan : Plan α) :
    Prop where
  success : Carries codec state plan.records plan.success
  failure : Carries codec state [] plan.failure

theorem Plan.Stepped.sound {α : Type} {plan : Plan α} (stepped : plan.Stepped inputs codec state)
    (valid : state.Valid codec) : plan.Sound codec state where
  success := stepped.success.carries valid
  failure := ⟨trivial, stepped.same.valid valid, stepped.same.account, stepped.same.capacity⟩

namespace FileOutbox

variable {capacity : Nat} {outbox : FileOutbox}

variable {records : List FileOutboxRecord}

theorem checkBatch_eq_ok :
    outbox.checkBatch records = .ok () ↔
      (∀ record ∈ records, byteLength (record.encode ++ ['\n']) ≤ maxOutboxRecordBytes) ∧
        byteLength outbox.journal + byteLength (encodeBatch records) ≤ maxOutboxFileBytes := by
  simp [checkBatch, bind_eq_ok, forM_eq_ok]

theorem appendBatch_eq_ok {after} :
    outbox.appendBatch records = .ok after ↔
      (records = [] ∨ outbox.checkBatch records = .ok ()) ∧
        after = { outbox with journal := outbox.journal ++ encodeBatch records } := by
  cases records with
  | nil =>
    rw [appendBatch, if_pos isEmpty_nil, pure_eq_ok]
    simp only [encodeBatch, map_nil, unlines_nil, append_nil, true_or, true_and]
    exact eq_comm
  | cons record rest =>
    rw [appendBatch, if_neg (by simp), bind_eq_ok]
    simp only [pure_eq_ok, reduceCtorEq, false_or, eq_comm (a := after)]
    constructor
    · rintro ⟨_, checked, is⟩
      exact ⟨checked, is⟩
    · rintro ⟨checked, is⟩
      exact ⟨(), checked, is⟩

/-- A batch that passes the checks keeps the journal readable. -/
theorem recorded_append (sound : Sound codec capacity outbox) {written}
    (recorded : Recorded codec capacity outbox.state.account outbox.journal written)
    (chain : Chain codec outbox.state.capacity outbox.state.account records)
    (checked : records = [] ∨ outbox.checkBatch records = .ok ()) :
    Recorded codec capacity (records.foldl (Account.enter codec) outbox.state.account)
      (outbox.journal ++ encodeBatch records) (written ++ records) := by
  rcases checked with rfl | checked
  · simpa [encodeBatch] using recorded
  · obtain ⟨short, small⟩ := checkBatch_eq_ok.mp checked
    rw [sound.capacity_eq] at chain
    refine recorded.append chain (fun record mem => ?_) small
    have bound := short record mem
    rw [byteLength_append] at bound
    omega

/-- Carrying out a sound plan keeps the outbox sound. -/
theorem commit_sound {α : Type} (sound : Sound codec capacity outbox)
    {plan : Except GatewayError (Plan α)}
    (planned : ∀ p, plan = .ok p → p.Sound codec outbox.state) :
    Sound codec capacity (outbox.commit plan).2 := by
  cases plan with
  | error e => exact sound
  | ok p =>
    obtain ⟨success, failure⟩ := planned p rfl
    cases written : outbox.appendBatch p.records with
    | error e =>
      -- The batch was refused: nothing was written.
      obtain ⟨records, recorded⟩ := sound.recorded
      simp only [commit, written]
      refine ⟨failure.valid, failure.capacity.trans sound.capacity_eq, records, ?_⟩
      rw [failure.account]
      exact recorded
    | ok appended =>
      obtain ⟨checked, rfl⟩ := appendBatch_eq_ok.mp written
      simp only [commit, written]
      obtain ⟨written, recorded⟩ := sound.recorded
      refine ⟨success.valid, success.capacity.trans sound.capacity_eq, written ++ p.records, ?_⟩
      rw [success.account]
      exact recorded_append sound recorded success.chain checked

/-- What a plan that was carried out has left in the state. -/
theorem commit_eq_ok {α : Type} {plan} {answer : α} {after}
    (ok : outbox.commit plan = (.ok answer, after)) :
    ∃ p, plan = .ok p ∧ p.answer = answer ∧ p.success = after.state := by
  cases plan with
  | error e => cases ok
  | ok p =>
    cases written : outbox.appendBatch p.records with
    | error e => simp [commit, written] at ok
    | ok appended =>
      simp only [commit, written, Prod.mk.injEq, Except.ok.injEq] at ok
      exact ⟨p, rfl, ok.1, by rw [← ok.2]⟩

end FileOutbox

end Apex.Outbox
