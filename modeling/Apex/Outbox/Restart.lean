import Apex.Outbox.Requests

/-!
Restarts: what a reopened outbox knows, row by row.

The live operations remove the retry data of a row that leaves the pending set;
the replay of a completed or quarantined record does not. So a row that was
rescheduled before it was completed or quarantined comes back from a restart
with retry data, and once its event is pending again it is held back, and
quarantined early, by attempts of an earlier round. And a rescheduling whose
batch is refused changes the retry data in memory and writes nothing.

`unaffected_of_restartable` is what holds without these: a restart changes no
row and no later answer.
-/

namespace Apex.Outbox

open Checked Domain Lines Lockstep Runs FileOutbox RowView

variable {codec : EnvelopeCodec} {capacity : Nat} {outbox : FileOutbox}

/-! ### Retry data in a journal -/

def noteRetry (key : OutboxKey) (retry : Option UInt64 × Option UInt32) :
    FileOutboxRecord → Option UInt64 × Option UInt32
  | .pending named _ nextAttemptAtMillis attempts _ =>
      if named = key then (nextAttemptAtMillis, attempts) else retry
  | _ => retry

/-- The retry data in the last pending record of a key. -/
def lastRetry (key : OutboxKey) (records : List FileOutboxRecord) :
    Option UInt64 × Option UInt32 :=
  records.foldl (noteRetry key) (none, none)

/-- A reschedule is within the limits of the journal; a sweep writes no line over
the record limit; and at a restart the last pending record of every row that is
not pending is without retry data. -/
def Restartable (codec : EnvelopeCodec) : Option FileOutbox → Request codec → Prop
  | some outbox, .call (.reschedule keys afterMillis now) =>
      (outbox.state.reschedule keys afterMillis now).records = [] ∨
        outbox.checkBatch (outbox.state.reschedule keys afterMillis now).records = .ok ()
  | some outbox, .maintain now retention scans clock =>
      ∀ record ∈ (outbox.swept (Saturating.sub64 now retention)).snapshotRecords scans.scan clock,
        byteLength record.encode ≤ maxOutboxRecordBytes
  | some outbox, .reopen _ =>
      ∀ record ∈ journalRecords outbox.journal, outbox.state.pending.lookup record.key = none →
        lastRetry record.key (journalRecords outbox.journal) = (none, none)
  | _, _ => True

/-- A restart succeeds, finds every row as it was, and changes no answer to later
requests. -/
def Unaffected (codec : EnvelopeCodec) (capacity : Nat) :
    Option FileOutbox → Request codec → Prop
  | none, _ => False
  | some outbox, .reopen now => ∃ reopened,
      FileOutbox.open codec capacity now outbox.journal = .ok reopened ∧
        SameRowViews outbox.state reopened.state ∧
        ∀ later, answers (serveOutbox codec capacity) (some outbox) later =
          answers (serveOutbox codec capacity) (some reopened) later
  | some _, _ => True

instance (world : Option FileOutbox) (request : Request codec) :
    Decidable (Restartable codec world request) :=
  match world, request with
  | some _, .call (.reschedule _ _ _) => inferInstanceAs (Decidable (_ ∨ _))
  | some outbox, .maintain now retention scans clock =>
    inferInstanceAs (Decidable (∀ record ∈
      (outbox.swept (Saturating.sub64 now retention)).snapshotRecords scans.scan clock, _ ≤ _))
  | some outbox, .reopen _ =>
    inferInstanceAs (Decidable (∀ record ∈ journalRecords outbox.journal, _ → _))
  | some _, .call (.enqueue _ _ _) | some _, .call (.markComplete _ _)
  | some _, .call (.markCompleteMany _ _) | some _, .call (.quarantine _ _ _)
  | some _, .call (.requeueQuarantined _ _) | some _, .read _ | none, _ => .isTrue trivial

/-! ### What a replay leaves behind -/

/-- The retry data a replay leaves in a row is that of the last pending record. -/
theorem foldl_enterAt_retry (now : UInt64) (key : OutboxKey) (records : List FileOutboxRecord)
    (row : RowView) :
    ((records.foldl (RowView.enterAt codec now key) row).nextAttemptAtMillis,
        (records.foldl (RowView.enterAt codec now key) row).attempts) =
      records.foldl (noteRetry key) (row.nextAttemptAtMillis, row.attempts) := by
  induction records generalizing row with
  | nil => rfl
  | cons record later ih =>
    rw [List.foldl_cons, ih, List.foldl_cons]
    refine congrArg (later.foldl (noteRetry key)) ?_
    cases record with
    | pending named envelope next attempts created =>
      rw [enterAt, noteRetry, FileOutboxRecord.key]
      split <;> rfl
    | complete | quarantined =>
      rw [enterAt]
      split <;> rfl

theorem lastRetry_of_unnamed {key records} (unnamed : ∀ record ∈ records, record.key ≠ key) :
    lastRetry key records = (none, none) := by
  refine List.foldlRecOn (motive := (· = (none, none))) records _ rfl ?_
  rintro _ rfl record mem
  cases record with
  | pending named => exact if_neg (unnamed _ mem)
  | complete | quarantined => rfl

/-! ### Runs -/

/-- The outbox is sound, and the records of its journal lead to the rows it
holds. -/
structure Faithful (codec : EnvelopeCodec) (capacity : Nat) (outbox : FileOutbox) : Prop where
  sound : Sound codec capacity outbox
  orderly : outbox.state.Orderly
  tracks : Tracks codec (.empty capacity) (journalRecords outbox.journal) outbox.state

theorem fresh_faithful (capacity : Nat) :
    Faithful codec capacity (FileOutbox.fresh capacity) :=
  ⟨fresh_sound capacity, OutboxState.orderly_empty capacity, .refl _⟩

/-- Carrying out a plan that is accepted, or leaves the state as it was where it is
refused. -/
theorem FileOutbox.commit_faithful {α : Type} (faithful : Faithful codec capacity outbox)
    {plan : Plan α} (stepped : plan.Stepped .untried codec outbox.state)
    (accepted : plan.failure = outbox.state ∨ plan.records = [] ∨
      outbox.checkBatch plan.records = .ok ()) :
    Faithful codec capacity (outbox.commit (.ok plan)).2 := by
  have planSound := stepped.sound faithful.sound.valid
  have sound : Sound codec capacity (outbox.commit (.ok plan)).2 := by
    refine commit_sound faithful.sound ?_
    rintro _ ⟨⟩
    exact planSound
  cases written : outbox.appendBatch plan.records with
  | error e =>
    have unchanged : plan.failure = outbox.state := by
      refine accepted.resolve_right fun accepted => ?_
      rw [appendBatch_eq_ok.mpr ⟨accepted, rfl⟩] at written
      cases written
    simp only [commit, written, unchanged]
    exact faithful
  | ok appended =>
    obtain ⟨checked, rfl⟩ := appendBatch_eq_ok.mp written
    obtain ⟨tracks, orderly⟩ := stepped.success.tracks faithful.sound.valid faithful.orderly
    simp only [commit, written] at sound ⊢
    refine ⟨sound, orderly, ?_⟩
    obtain ⟨records, recorded⟩ := faithful.sound.recorded
    have longer := recorded_append faithful.sound recorded planSound.success.chain checked
    rw [longer.journalRecords_eq, ← recorded.journalRecords_eq]
    exact faithful.tracks.trans tracks

theorem AppendOp.serve_eq (outbox : FileOutbox) (op : AppendOp codec) :
    (op.serve outbox).2 = (outbox.commit (op.plan outbox.state)).2 := by
  cases op with
  | enqueue event admitted now =>
    simp only [serve, plan]
    cases outbox.state.enqueue codec event now with
    | error e => rfl
    | ok plan =>
      rw [ok_bind]
      change _ = (outbox.commit (.ok { plan with answer := () })).2
      simp only [commit]
      split <;> rfl
  | _ => rfl

/-- What an operation leaves where its batch is refused. -/
theorem AppendOp.plan_failure {state} {op : AppendOp codec} {plan} (ok : op.plan state = .ok plan) :
    plan.failure = state ∨ ∃ keys afterMillis now, op = .reschedule keys afterMillis now := by
  cases op with
  | enqueue event admitted now =>
    obtain ⟨enqueued, found, is⟩ := bind_eq_ok.mp ok
    obtain rfl := pure_eq_ok.mp is
    rcases OutboxState.enqueue_cases found with ⟨answer, rfl⟩ | ⟨-, -, rfl⟩
    · exact .inl rfl
    · exact .inl rfl
  | markComplete key now =>
    simp only [AppendOp.plan, OutboxState.markComplete] at ok
    split at ok <;> cases ok <;> exact .inl rfl
  | markCompleteMany keys clock =>
    obtain ⟨completions, -, is⟩ := bind_eq_ok.mp ok
    obtain rfl := pure_eq_ok.mp is
    exact .inl rfl
  | reschedule keys afterMillis now => exact .inr ⟨keys, afterMillis, now, rfl⟩
  | quarantine | requeueQuarantined =>
    cases ok
    exact .inl rfl

/-- What is requeued has no retry data where only pending rows have any. -/
theorem AppendOp.meets_untried {state : OutboxState} (valid : state.Valid codec)
    (orderly : state.Orderly) (op : AppendOp codec) : op.Meets .untried state := by
  cases op with
  | requeueQuarantined keys now =>
    intro key quarantined
    obtain ⟨event, found⟩ := Option.isSome_iff_exists.mp quarantined
    obtain ⟨next, attempts, -⟩ := (orderly key).settled (valid.pending_of_quarantined found)
    exact ⟨next, attempts⟩
  | _ => trivial

/-- An operation that appends keeps the outbox faithful. -/
theorem AppendOp.serve_faithful (faithful : Faithful codec capacity outbox) {op}
    (restartable : Restartable codec (some outbox) (.call op)) :
    Faithful codec capacity (op.serve outbox).2 := by
  have meets := op.meets_untried faithful.sound.valid faithful.orderly
  rw [serve_eq]
  cases planned : op.plan outbox.state with
  | error e => exact faithful
  | ok plan =>
    refine commit_faithful faithful (plan_stepped meets planned) ?_
    rcases plan_failure planned with same | ⟨keys, afterMillis, now, rfl⟩
    · exact .inl same
    · cases planned
      exact .inr restartable

/-- A sweep keeps the outbox faithful. -/
theorem FileOutbox.maintain_faithful (faithful : Faithful codec capacity outbox)
    {now retention scans clock}
    (restartable : Restartable codec (some outbox) (.maintain now retention scans clock)) :
    Faithful codec capacity (outbox.maintain now retention scans.scan clock).2 := by
  obtain ⟨sound, -⟩ := maintain_sound faithful.sound restartable
  rcases outbox.maintain_cases now retention scans.scan clock with same | ⟨journal, written, -, is⟩
  · rw [same]
    exact faithful
  · rw [is] at sound ⊢
    have orderly := OutboxState.removeCompleted_orderly faithful.orderly
      (outbox.state.expired (Saturating.sub64 now retention))
    refine ⟨sound, orderly, ?_⟩
    rw [written, journalRecords_encodeBatch]
    exact snapshot_tracks sound.valid orderly scans.scan clock capacity

/-- A restart of a faithful outbox finds the rows as they were. -/
theorem Faithful.reopen (faithful : Faithful codec capacity outbox)
    (capacityOk : CapacityOk capacity) {now}
    (restartable : Restartable codec (some outbox) (.reopen now)) :
    ∃ reopened, FileOutbox.open codec capacity now outbox.journal = .ok reopened ∧
      Sound codec capacity reopened ∧ outbox.Same reopened := by
  obtain ⟨records, recorded⟩ := faithful.sound.recorded
  obtain ⟨reopened, opens, opened⟩ := recorded.open_whole capacityOk now
  refine ⟨reopened, opens, opened.sound, opened.journal_eq.symm, ?_, fun key => ?_⟩
  · rw [faithful.sound.capacity_eq, opened.sound.capacity_eq]
  · have tracks := faithful.tracks now key
    rw [recorded.journalRecords_eq] at tracks
    -- The live row is the replayed one without stale retry data.
    have tidied : outbox.state.row key = (reopened.state.row key).tidy := by
      rw [tracks, OutboxState.replay_row opened.replays, foldl_track]
      rfl
    rw [tidied]
    by_cases pending : (reopened.state.row key).pending.isSome
    · rw [tidy, if_pos pending]
    · have notPending : (outbox.state.row key).pending = none := by
        rw [tidied, tidy, if_neg pending]
        simpa using pending
      have clean : lastRetry key records = (none, none) := by
        rw [← recorded.journalRecords_eq]
        by_cases named : ∃ record ∈ journalRecords outbox.journal, record.key = key
        · obtain ⟨record, mem, rfl⟩ := named
          exact restartable record mem notPending
        · exact lastRetry_of_unnamed fun record mem same => named ⟨record, mem, same⟩
      have retry : ((reopened.state.row key).nextAttemptAtMillis,
          (reopened.state.row key).attempts) = (none, none) := by
        rw [OutboxState.replay_row opened.replays, foldl_enterAt_retry]
        exact clean
      obtain ⟨next, attempts⟩ := Prod.mk.inj retry
      rw [tidy, if_neg pending, ← next, ← attempts]

/-- There is an open outbox, and it is faithful. -/
def InFaith (codec : EnvelopeCodec) (capacity : Nat) (world : Option FileOutbox) : Prop :=
  ∃ outbox, world = some outbox ∧ Faithful codec capacity outbox

theorem Faithful.same {reopened} (faithful : Faithful codec capacity outbox)
    (sound : Sound codec capacity reopened) (same : outbox.Same reopened) :
    Faithful codec capacity reopened := by
  refine ⟨sound, fun key => ?_, fun now key => ?_⟩
  · rw [← same.state.row]
    exact faithful.orderly key
  · rw [← same.state.row, ← same.journal]
    exact faithful.tracks now key

/-- One restartable request keeps the outbox faithful, and is unaffected. -/
theorem inFaith_step (capacityOk : CapacityOk capacity) {world request}
    (inFaith : InFaith codec capacity world) (restartable : Restartable codec world request) :
    InFaith codec capacity (outboxAfter codec capacity world request) ∧
      Unaffected codec capacity world request := by
  obtain ⟨outbox, rfl, faithful⟩ := inFaith
  cases request with
  | call op => exact ⟨⟨_, rfl, AppendOp.serve_faithful faithful restartable⟩, trivial⟩
  | maintain now retention scans clock =>
    exact ⟨⟨_, rfl, maintain_faithful faithful restartable⟩, trivial⟩
  | read query => exact ⟨⟨_, rfl, faithful⟩, trivial⟩
  | reopen now =>
    obtain ⟨reopened, opens, sound, same⟩ := faithful.reopen capacityOk restartable
    constructor
    · refine ⟨reopened, ?_, faithful.same sound same⟩
      simp only [outboxAfter, serveOutbox, serve, opens]
    · exact ⟨reopened, opens, same.state,
        (serveOutbox_bisimulation codec capacity).answers_eq (.some same)⟩

/-- In every run from a new file whose reschedules are within the limits of the
journal, whose sweeps write no line over the record limit, and whose restarts
find no retry data in the last pending record of a row that is not pending, every
restart succeeds, finds the rows as they were, and changes no later answer. -/
theorem unaffected_of_restartable (capacityOk : CapacityOk capacity)
    (requests : List (Request codec))
    (restartable : AllSteps (outboxAfter codec capacity)
      (Restartable codec) (some (FileOutbox.fresh capacity)) requests) :
    AllSteps (outboxAfter codec capacity)
      (Unaffected codec capacity) (some (FileOutbox.fresh capacity)) requests := by
  have start : InFaith codec capacity (some (FileOutbox.fresh capacity)) :=
    ⟨_, rfl, fresh_faithful capacity⟩
  have keeps : ∀ world request, InFaith codec capacity world → Restartable codec world request →
      InFaith codec capacity (outboxAfter codec capacity world request) :=
    fun _ _ inFaith step => (inFaith_step capacityOk inFaith step).1
  exact allSteps_of_allSteps keeps
    (fun _ _ inFaith step => (inFaith_step capacityOk inFaith step).2) start restartable

/-- An event is rescheduled `rounds` times. -/
def rescheduleSample (rounds : Nat) : List (Request sampleCodec) :=
  List.replicate rounds (.call (.reschedule [(sampleEvent 1).key] 0 0))

/-- A rescheduled event that is still pending at the restart. -/
theorem unaffected_of_restartable_pending :
    AllSteps (outboxAfter sampleCodec 8)
      (Unaffected sampleCodec 8) (some (FileOutbox.fresh 8))
      (.call (enqueueSample 1) :: rescheduleSample 2 ++ [.reopen 0]) :=
  unaffected_of_restartable (by decide) _ (by decide +kernel)

/-- A restart that changes a later answer. -/
theorem not_unaffected_of_answers {world now} (later : List (Request codec))
    (differs : answers (serveOutbox codec capacity) world later ≠
      answers (serveOutbox codec capacity) (outboxAfter codec capacity world (.reopen now)) later) :
    ¬ Unaffected codec capacity world (.reopen now) := by
  intro unaffected
  cases world with
  | none => exact unaffected
  | some outbox =>
    obtain ⟨reopened, opens, -, same⟩ := unaffected
    refine differs ?_
    rw [same later, outboxAfter, serveOutbox, serve, opens]

/-- An event is rescheduled seven times and quarantined. Once it is requeued, its
next failure is the first of a new round, and it stays pending. With a restart
before the requeue that failure counts as the eighth, and the event is quarantined
again. -/
theorem quarantined_not_unaffected :
    ¬ AllSteps (outboxAfter sampleCodec 8)
      (Unaffected sampleCodec 8) (some (FileOutbox.fresh 8))
      (.call (enqueueSample 1) :: rescheduleSample 7 ++
        [.call (.quarantine [(sampleEvent 1).key] "replay" 0)] ++ [.reopen 0]) := by
  refine mt AllSteps.last (not_unaffected_of_answers
    [.call (.requeueQuarantined [(sampleEvent 1).key] 0),
      .call (.reschedule [(sampleEvent 1).key] 0 0), .read .pendingCount] ?_)
  decide +kernel

end Apex.Outbox
