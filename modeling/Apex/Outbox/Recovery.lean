import Apex.Lib.Runs
import Apex.Outbox.Compaction

/-!
Crashes: what a reopened outbox knows.

A run calls the outbox, sweeps it, closes and reopens it, and may lose power in
the middle of an append, which leaves any beginning of the batch in the file.
The identifiers of admitted events and the reason codes of the callers are
ASCII, so the text of a journal has one byte a character and a write can stop
after any character of it.

`recovers_of_careful` is the durability of the outbox: a reopen succeeds and
finds the ledger as it was, with a beginning of the batch that was being
written. It needs three things of a run. A write that stops must not stop right
before a newline: the replay takes the whole last line for a record without
looking for its newline, and the next append is glued onto it. The journal must
hold a record when a write stops. And a rewritten journal must respect the
record limit, which the rewrite itself does not check.
-/

namespace Apex.Outbox

open Checked Domain Lines Runs OutboxState FileOutbox List KeyMap

variable {codec : EnvelopeCodec} {capacity : Nat} {outbox : FileOutbox}

/-- An operation that appends a batch, with the clock readings it takes. -/
inductive AppendOp (codec : EnvelopeCodec) where
  | enqueue (event : IngestRequest) (admitted : Admitted codec event) (now : UInt64)
  | markComplete (key : OutboxKey) (now : UInt64)
  | markCompleteMany (keys : List OutboxKey) (clock : Nat → UInt64)
  | reschedule (keys : List OutboxKey) (afterMillis now : UInt64)
  | quarantine (keys : List OutboxKey) (reason : String) (now : UInt64)
  | requeueQuarantined (keys : List OutboxKey) (now : UInt64)

namespace AppendOp

/-- The plan of an operation; its answer is left out. -/
def plan (state : OutboxState) : AppendOp codec → Except GatewayError (Plan Unit)
  | .enqueue event _ now => do
      let plan ← state.enqueue codec event now
      return { plan with answer := () }
  | .markComplete key now => state.markComplete codec key now
  | .markCompleteMany keys clock => state.markCompleteMany codec keys clock
  | .reschedule keys afterMillis now => .ok (state.reschedule keys afterMillis now)
  | .quarantine keys reason now => .ok (state.quarantine keys reason now)
  | .requeueQuarantined keys now => .ok (state.requeueQuarantined keys now)

/-- The records an operation writes. -/
def batch (outbox : FileOutbox) (op : AppendOp codec) : List FileOutboxRecord :=
  match op.plan outbox.state with
  | .error _ => []
  | .ok plan =>
      match outbox.checkBatch plan.records with
      | .error _ => []
      | .ok _ => plan.records

/-- What an operation is given is as required. -/
def Meets (inputs : Inputs) (state : OutboxState) : AppendOp codec → Prop
  | .enqueue event _ _ => inputs.event event
  | .quarantine _ reason _ => inputs.reason reason
  | .reschedule _ _ _ => inputs.reason OutboxState.replayAttemptsExhausted
  | .requeueQuarantined _ _ =>
      ∀ key, (state.row key).quarantined.isSome → inputs.row (state.row key)
  | _ => True

theorem plan_stepped {inputs state} {op : AppendOp codec} (meets : op.Meets inputs state) {plan}
    (ok : op.plan state = .ok plan) :
    plan.Stepped inputs codec state := by
  cases op with
  | enqueue event admitted now =>
    obtain ⟨enqueued, found, is⟩ := bind_eq_ok.mp ok
    obtain rfl := pure_eq_ok.mp is
    obtain ⟨success, failure, same⟩ := enqueue_stepped meets admitted found
    exact ⟨success, failure, same⟩
  | markComplete key now => exact markComplete_stepped ok
  | markCompleteMany keys clock => exact markCompleteMany_stepped ok
  | reschedule keys afterMillis now =>
    cases ok
    exact reschedule_stepped keys afterMillis now meets
  | quarantine keys reason now =>
    cases ok
    exact quarantine_stepped keys meets now
  | requeueQuarantined keys now =>
    cases ok
    exact requeueQuarantined_stepped keys now meets

theorem meets_any (op : AppendOp codec) (state : OutboxState) : op.Meets .any state := by
  cases op with
  | requeueQuarantined => exact fun _ _ => trivial
  | _ => trivial

theorem plan_sound {state : OutboxState} (valid : state.Valid codec) {op : AppendOp codec} {plan}
    (ok : op.plan state = .ok plan) : plan.Sound codec state :=
  (plan_stepped (op.meets_any state) ok).sound valid

/-- The batch of an operation is a chain that passed the checks. -/
theorem batch_spec (valid : outbox.state.Valid codec) (op : AppendOp codec) :
    Chain codec outbox.state.capacity outbox.state.account (op.batch outbox) ∧
      (op.batch outbox = [] ∨ outbox.checkBatch (op.batch outbox) = .ok ()) := by
  unfold batch
  split
  · exact ⟨trivial, .inl rfl⟩
  · next plan planned =>
      split
      · exact ⟨trivial, .inl rfl⟩
      · next checked => exact ⟨(plan_sound valid planned).success.chain, .inr checked⟩

end AppendOp

/-- One step of a run. -/
inductive OutboxAction (codec : EnvelopeCodec) where
  | call (op : AppendOp codec)
  | maintain (now retention : UInt64) (scan : OutboxState.OutboxScan) (clock : Nat → UInt64)
  /-- The write of an operation stops after `cut` bytes, and the outbox is
  opened again over what is in the file. -/
  | crash (op : AppendOp codec) (cut : Nat) (now : UInt64)
  | reopen (now : UInt64)

/-- What is in the file after a write has stopped. -/
def tornJournal (outbox : FileOutbox) (op : AppendOp codec) (cut : Nat) : List Char :=
  outbox.journal ++ (FileOutbox.encodeBatch (op.batch outbox)).take cut

/-- After a reopen that failed there is no outbox. -/
def outboxStep (codec : EnvelopeCodec) (capacity : Nat) :
    Option FileOutbox → OutboxAction codec → Option FileOutbox
  | none, _ => none
  | some outbox, .call op => some (outbox.commit (op.plan outbox.state)).2
  | some outbox, .maintain now retention scan clock =>
      some (outbox.maintain now retention scan clock).2
  | some outbox, .crash op cut now =>
      (FileOutbox.open codec capacity now (tornJournal outbox op cut)).toOption
  | some outbox, .reopen now => (FileOutbox.open codec capacity now outbox.journal).toOption

/-! ### What a run is to preserve -/

/-- The standing accounts for the event: it holds the event's bytes, or the
fingerprint of them where one was kept. -/
def AccountsFor (codec : EnvelopeCodec) (event : IngestRequest) : Standing → Prop
  | .pending stored | .quarantined stored => stored.envelope = event.envelope
  | .complete fingerprint =>
      ∀ stored, fingerprint = some stored → stored = codec.fingerprint event.envelope

/-- What an operation that answered `Ok` has entered in the ledger. -/
def AppendOp.Reflected (before after : Ledger) : AppendOp codec → Prop
  | .enqueue event _ _ => ∃ standing, after event.key = some standing ∧
      AccountsFor codec event standing
  | .markComplete key _ => ∃ fingerprint, after key = some (.complete fingerprint)
  | .markCompleteMany keys _ =>
      ∀ key ∈ keys, ∃ fingerprint, after key = some (.complete fingerprint)
  | .quarantine keys _ _ => ∀ key ∈ keys, ∀ event, before key = some (.pending event) →
      after key = some (.quarantined event)
  | .requeueQuarantined keys _ => ∀ key ∈ keys, ∀ event,
      before key = some (.quarantined event) → after key = some (.pending event)
  | .reschedule _ _ _ => True

/-- The property of one step. An operation that answered `Ok` is entered in the
ledger, which changes by the effects of its records and by nothing else, and one
that failed leaves the ledger alone; a sweep takes nothing from it but completed
rows past retention; a reopen succeeds and finds the ledger as it was, after a
crash with the effects of a beginning of the batch that was being written. -/
def Recovers (codec : EnvelopeCodec) (capacity : Nat) :
    Option FileOutbox → OutboxAction codec → Prop
  | none, _ => False
  | some outbox, .call op =>
      match outbox.commit (op.plan outbox.state) with
      | (.ok _, after) =>
          op.Reflected outbox.state.ledger after.state.ledger ∧
            after.state.ledger = (op.batch outbox).foldl (effect codec) outbox.state.ledger
      | (.error _, after) => after.state.ledger = outbox.state.ledger
  | some outbox, .maintain now retention scan clock => ∀ key,
      (outbox.maintain now retention scan clock).2.state.ledger key = outbox.state.ledger key ∨
        key ∈ outbox.state.expired (Saturating.sub64 now retention) ∧
          ∃ fingerprint, outbox.state.ledger key = some (.complete fingerprint)
  | some outbox, .crash op cut now => ∃ reopened,
      FileOutbox.open codec capacity now (tornJournal outbox op cut) = .ok reopened ∧
        ∃ whole rest, op.batch outbox = whole ++ rest ∧
          reopened.state.ledger = whole.foldl (effect codec) outbox.state.ledger
  | some outbox, .reopen now => ∃ reopened,
      FileOutbox.open codec capacity now outbox.journal = .ok reopened ∧
        reopened.state.ledger = outbox.state.ledger

/-- A crash finds a record in the journal and does not stop the write right
before a newline; a sweep writes no line over the record limit. -/
def Careful (codec : EnvelopeCodec) : Option FileOutbox → OutboxAction codec → Prop
  | some outbox, .crash op cut _ =>
      outbox.journal ≠ [] ∧ (FileOutbox.encodeBatch (op.batch outbox))[cut]? ≠ some '\n'
  | some outbox, .maintain now retention scan clock =>
      ∀ record ∈ (outbox.swept (Saturating.sub64 now retention)).snapshotRecords scan clock,
        byteLength record.encode ≤ maxOutboxRecordBytes
  | _, _ => True

instance (world : Option FileOutbox) (action : OutboxAction codec) :
    Decidable (Careful codec world action) :=
  match world, action with
  | some _, .crash _ _ _ => inferInstanceAs (Decidable (_ ≠ _ ∧ _ ≠ _))
  | some outbox, .maintain now retention scan clock =>
    inferInstanceAs (Decidable (∀ record ∈
      (outbox.swept (Saturating.sub64 now retention)).snapshotRecords scan clock, _ ≤ _))
  | some _, .call _ | some _, .reopen _ | none, _ => .isTrue trivial

/-! ### Answers are reflected -/

namespace OutboxState

variable {state : OutboxState} {key : OutboxKey}

theorem enqueue_reflected (valid : state.Valid codec) {event now plan}
    (ok : state.enqueue codec event now = .ok plan) :
    ∃ standing, plan.success.ledger event.key = some standing ∧
      AccountsFor codec event standing := by
  unfold enqueue at ok
  split at ok
  · next stored complete =>
      split_ifs at ok with same
      cases ok
      refine ⟨_, Valid.ledger_complete.mpr complete, ?_⟩
      rintro _ ⟨⟩
      exact same
  · next complete =>
      cases ok
      exact ⟨_, Valid.ledger_complete.mpr complete, by rintro _ ⟨⟩⟩
  · next complete =>
      split at ok
      · next existing quarantined =>
          split_ifs at ok with same
          cases ok
          exact ⟨_, valid.ledger_quarantined.mpr quarantined, same⟩
      · split at ok
        · next existing pending =>
            split_ifs at ok with same
            cases ok
            exact ⟨_, valid.ledger_pending.mpr pending, same⟩
        · split_ifs at ok
          cases ok
          refine ⟨.pending event, ?_, rfl⟩
          rw [ledger, insertPending, complete, lookup_insert_eq, if_pos rfl]

theorem insertComplete_complete (completions : List Completion)
    (held : key ∈ state.complete ∨ ∃ completion ∈ completions, completion.key = key) :
    key ∈ (completions.foldl (fun state completion => state.insertComplete codec completion)
      state).complete := by
  induction completions generalizing state with
  | nil => simpa using held
  | cons completion rest ih =>
    refine ih ?_
    rcases held with held | ⟨named, mem, rfl⟩
    · exact .inl ((AList.mem_insert _).mpr (.inr held))
    · rcases mem_cons.mp mem with rfl | mem
      · exact .inl ((AList.mem_insert _).mpr (.inl rfl))
      · exact .inr ⟨named, mem, rfl⟩

theorem ledger_of_mem_complete (held : key ∈ state.complete) :
    ∃ fingerprint, state.ledger key = some (.complete fingerprint) := by
  obtain ⟨fingerprint, found⟩ := Option.isSome_iff_exists.mp (mem_iff_isSome.mp held)
  exact ⟨fingerprint, Valid.ledger_complete.mpr found⟩

end OutboxState

/-- An operation that answered `Ok` is entered in the ledger. -/
theorem AppendOp.reflected (valid : outbox.state.Valid codec) {op : AppendOp codec} {plan}
    (ok : op.plan outbox.state = .ok plan) :
    op.Reflected outbox.state.ledger plan.success.ledger := by
  cases op with
  | enqueue event admitted now =>
    obtain ⟨enqueued, found, is⟩ := bind_eq_ok.mp ok
    obtain rfl := pure_eq_ok.mp is
    exact enqueue_reflected valid found
  | markComplete key now =>
    refine ledger_of_mem_complete ?_
    simp only [AppendOp.plan, OutboxState.markComplete] at ok
    split at ok
    · next found =>
        cases ok
        exact mem_of_lookup found
    · cases ok
    · cases ok
      exact (AList.mem_insert _).mpr (.inl rfl)
  | markCompleteMany keys clock =>
    intro key mem
    obtain ⟨completions, found, is⟩ := bind_eq_ok.mp ok
    obtain rfl := pure_eq_ok.mp is
    refine ledger_of_mem_complete (insertComplete_complete completions ?_)
    exact (completions_eq_ok found).2 key mem
  | reschedule keys afterMillis now => trivial
  | quarantine keys reason now =>
    cases ok
    intro key mem event pending
    change (keys.foldl insertQuarantined outbox.state).ledger key = _
    rw [quarantine_standing valid, if_pos mem, pending]
    rfl
  | requeueQuarantined keys now =>
    cases ok
    intro key mem event quarantined
    change (keys.foldl (insertRequeued now) outbox.state).ledger key = _
    rw [requeue_standing valid, if_pos mem, quarantined]
    rfl

theorem ledger_foldl_enter (records : List FileOutboxRecord) (account : Account) :
    (records.foldl (Account.enter codec) account).ledger =
      records.foldl (effect codec) account.ledger :=
  (foldl_hom Account.ledger fun _ _ => rfl).symm

/-- The records of an operation whose write is accepted. -/
theorem AppendOp.batch_eq {op : AppendOp codec} {plan appended}
    (planned : op.plan outbox.state = .ok plan)
    (written : outbox.appendBatch plan.records = .ok appended) :
    op.batch outbox = plan.records := by
  simp only [batch, planned]
  rcases (appendBatch_eq_ok.mp written).1 with none | checked
  · rw [none]
    split <;> rfl
  · rw [checked]

theorem AppendOp.commit_recovers (valid : outbox.state.Valid codec) (op : AppendOp codec) :
    Recovers codec capacity (some outbox) (.call op) := by
  cases planned : op.plan outbox.state with
  | error e => simp only [Recovers, commit, planned]
  | ok plan =>
    have sound := plan_sound valid planned
    cases written : outbox.appendBatch plan.records with
    | error e =>
      simp only [Recovers, commit, planned, written]
      exact congrArg Account.ledger sound.failure.account
    | ok appended =>
      simp only [Recovers, commit, planned, written]
      refine ⟨op.reflected valid planned, ?_⟩
      rw [op.batch_eq planned written]
      exact (congrArg Account.ledger sound.success.account).trans (ledger_foldl_enter _ _)

/-! ### Crashes -/

/-- A beginning of a batch that passed the checks passes them. -/
theorem checked_append {first second}
    (checked : first ++ second = [] ∨ outbox.checkBatch (first ++ second) = .ok ()) :
    first = [] ∨ outbox.checkBatch first = .ok () := by
  rcases checked with none | checked
  · exact .inl (append_eq_nil_iff.mp none).1
  · obtain ⟨short, small⟩ := checkBatch_eq_ok.mp checked
    refine .inr (checkBatch_eq_ok.mpr ⟨fun record mem => ?_, ?_⟩)
    · exact short record (mem_append_left _ mem)
    · simp only [encodeBatch, map_append, unlines_append, byteLength_append]
        at small ⊢
      omega

/-- A write that stopped inside a line, or behind a newline, leaves a journal
that opens to a beginning of the batch. -/
theorem open_torn (capacityOk : CapacityOk capacity) (sound : Sound codec capacity outbox)
    (op : AppendOp codec) {cut} (now : UInt64) (written : outbox.journal ≠ [])
    (inside : (encodeBatch (op.batch outbox))[cut]? ≠ some '\n') :
    ∃ reopened, FileOutbox.open codec capacity now (tornJournal outbox op cut) = .ok reopened ∧
      ∃ written whole rest, op.batch outbox = whole ++ rest ∧
        Recorded codec capacity outbox.state.account outbox.journal written ∧
        Opened codec capacity now (whole.foldl (Account.enter codec) outbox.state.account)
          (outbox.journal ++ encodeBatch whole) (written ++ whole) reopened := by
  obtain ⟨written', sofar⟩ := sound.recorded
  obtain ⟨chain, checked⟩ := op.batch_spec sound.valid
  obtain ⟨lines, others, split, left⟩ :=
    take_unlines ((op.batch outbox).map FileOutboxRecord.encode) cut
  obtain ⟨whole, rest, is, rfl, rfl⟩ := map_eq_append_iff.mp split
  rw [is] at chain checked
  have recorded :=
    recorded_append sound sofar (chain_append.mp chain).1 (checked_append checked)
  rcases left with left | ⟨line, later, kept, lost, next, parts, nonempty, left, last⟩
  · -- Whole lines were written.
    have torn : tornJournal outbox op cut = outbox.journal ++ encodeBatch whole :=
      congrArg (outbox.journal ++ ·) left
    rw [torn]
    obtain ⟨reopened, opens, opened⟩ := recorded.open_whole capacityOk now
    exact ⟨reopened, opens, written', whole, rest, is, sofar, opened⟩
  · -- The last line is torn, and not right before its newline.
    obtain ⟨record, others, rfl, rfl, rfl⟩ := map_eq_cons_iff.mp next
    have torn : tornJournal outbox op cut =
        outbox.journal ++ encodeBatch whole ++ kept := by
      rw [append_assoc]
      exact congrArg (outbox.journal ++ ·) left
    obtain ⟨short, small⟩ := checkBatch_eq_ok.mp (checked.resolve_left (by simp))
    have hasRecord : written' ++ whole ≠ [] := by
      intro none
      have empty := recorded.journal_eq
      rw [none] at empty
      exact written (append_eq_nil_iff.mp empty).1
    have shortLine := short record (by simp)
    rw [byteLength_append] at shortLine
    have smallFile : byteLength (outbox.journal ++ encodeBatch whole ++ kept) ≤
        maxOutboxFileBytes := by
      simp only [encodeBatch, map_append, map_cons, unlines_append,
        byteLength_append, byteLength_unlines_cons, parts] at small ⊢
      omega
    obtain ⟨reopened, opens, opened⟩ := recorded.open_torn capacityOk now hasRecord parts
      nonempty (fun all => inside (last all)) (by omega) smallFile
    rw [torn]
    exact ⟨reopened, opens, written', whole, record :: others, is, sofar, opened⟩

/-- There is an open outbox, and it is sound. -/
def InUse (codec : EnvelopeCodec) (capacity : Nat) (world : Option FileOutbox) : Prop :=
  ∃ outbox, world = some outbox ∧ Sound codec capacity outbox

/-- One careful step keeps the outbox in use and recovers. -/
theorem inUse_step (capacityOk : CapacityOk capacity) {world action}
    (inUse : InUse codec capacity world) (careful : Careful codec world action) :
    InUse codec capacity (outboxStep codec capacity world action) ∧
      Recovers codec capacity world action := by
  obtain ⟨outbox, rfl, sound⟩ := inUse
  cases action with
  | call op =>
    exact ⟨⟨_, rfl, commit_sound sound fun _ => AppendOp.plan_sound sound.valid⟩,
      op.commit_recovers sound.valid⟩
  | maintain now retention scan clock =>
    obtain ⟨sound', kept⟩ := maintain_sound sound careful
    exact ⟨⟨_, rfl, sound'⟩, kept⟩
  | crash op cut now =>
    obtain ⟨reopened, opens, written, whole, rest, is, -, opened⟩ :=
      open_torn capacityOk sound op now careful.1 careful.2
    have ledger := congrArg Account.ledger opened.account_eq
    exact ⟨⟨reopened, by simp [outboxStep, opens, Except.toOption], opened.sound⟩,
      reopened, opens, whole, rest, is,
      ledger.trans (ledger_foldl_enter whole outbox.state.account)⟩
  | reopen now =>
    obtain ⟨records, recorded⟩ := sound.recorded
    obtain ⟨reopened, opens, opened⟩ := recorded.open_whole capacityOk now
    exact ⟨⟨reopened, by simp [outboxStep, opens, Except.toOption], opened.sound⟩,
      reopened, opens, congrArg Account.ledger opened.account_eq⟩

/-- An outbox over a new file. -/
def FileOutbox.fresh (capacity : Nat) : FileOutbox :=
  ⟨[], OutboxState.empty capacity⟩

theorem fresh_sound (capacity : Nat) : Sound codec capacity (FileOutbox.fresh capacity) where
  valid := valid_empty capacity
  capacity_eq := rfl
  recorded := ⟨[], rfl, trivial, (account_empty capacity).symm, by simp,
    Nat.zero_le _⟩

/-- In every run from a new file whose crashes find a record in the journal and
do not stop a write right before a newline, and whose sweeps write no line over
the record limit, every reopen succeeds and everything that was answered `Ok` is
reflected after it. -/
theorem recovers_of_careful (capacityOk : CapacityOk capacity)
    (actions : List (OutboxAction codec))
    (careful : AllSteps (outboxStep codec capacity) (Careful codec)
      (some (FileOutbox.fresh capacity)) actions) :
    AllSteps (outboxStep codec capacity) (Recovers codec capacity)
      (some (FileOutbox.fresh capacity)) actions := by
  have start : InUse codec capacity (some (FileOutbox.fresh capacity)) :=
    ⟨_, rfl, fresh_sound capacity⟩
  exact allSteps_of_allSteps (fun _ _ inUse step => (inUse_step capacityOk inUse step).1)
    (fun _ _ inUse step => (inUse_step capacityOk inUse step).2) start careful

/-! ### A run that loses an event -/

/-- An event whose envelope is one byte. -/
def sampleEvent (n : UInt8) : IngestRequest where
  eventId := "event-" ++ toString n.toNat
  workspaceId := "w"
  namespaceId := "n"
  scopeKey := "w:n"
  envelope := [n]

def sampleCodec : EnvelopeCodec where
  rebuild
    | [n] => some (sampleEvent n)
    | _ => none
  fingerprint _ := .zero

theorem sampleEvent_admitted (n : UInt8) : Admitted sampleCodec (sampleEvent n) :=
  ⟨cons_ne_nil _ _, by simp [sampleEvent, maxEnvelopeBytes], rfl⟩

def enqueueSample (n : UInt8) : AppendOp sampleCodec :=
  .enqueue (sampleEvent n) (sampleEvent_admitted n) 0

/-- Three events are enqueued; the write of the second stops after `cut`
bytes. -/
def interruptedEnqueue (cut : Nat) : List (OutboxAction sampleCodec) :=
  [.call (enqueueSample 1), .crash (enqueueSample 2) cut 0, .call (enqueueSample 3)]

/-- A write that stops in the middle of a line. -/
theorem recovers_of_careful_interruptedEnqueue :
    AllSteps (outboxStep sampleCodec 8) (Recovers sampleCodec 8) (some (FileOutbox.fresh 8))
      (interruptedEnqueue 40 ++ [.reopen 0]) :=
  recovers_of_careful (by decide) (interruptedEnqueue 40 ++ [.reopen 0])
    (by decide +kernel)

/-- A reopen that forgets a key does not recover. -/
theorem not_recovers_of_forgotten {world now} (key : OutboxKey)
    (forgotten : (outboxStep codec capacity world (.reopen now)).map (fun outbox =>
        (outbox.state.ledger key).isSome) ≠
      world.map fun outbox => (outbox.state.ledger key).isSome) :
    ¬ Recovers codec capacity world (.reopen now) := by
  intro recovers
  cases world with
  | none => exact recovers
  | some outbox =>
    obtain ⟨reopened, opens, ledger⟩ := recovers
    simp [outboxStep, opens, Except.toOption, ledger] at forgotten

/-- A write that stops right before the newline of its line. The outbox opens
with both events; the third one is answered `Ok`, but its line is written onto
the second, so the next open finds a torn line and cuts off both. -/
theorem interruptedEnqueue_not_recovers :
    ¬ AllSteps (outboxStep sampleCodec 8) (Recovers sampleCodec 8) (some (FileOutbox.fresh 8))
      (interruptedEnqueue 112 ++ [.reopen 0]) := by
  refine mt AllSteps.last (not_recovers_of_forgotten (sampleEvent 3).key ?_)
  decide +kernel

end Apex.Outbox
