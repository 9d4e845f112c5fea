import Apex.Fanout.Settlement

/-!
The retry bookkeeping of the fan-out worker over whole runs.

`Accounted` is what a step owes: an event is forgotten only where the file says
that it is complete or quarantined, and an event whose settlement failed is
counted and held back. `bookkeeping_of_careful` proves it of the runs in which
the storage refuses no settlement and no quarantine and failing writes leave no
byte; a poisoned lock is allowed. The worker looks at the outer one of two nested
results only, so a settlement the storage refuses makes it forget
(`refusedSettlement_forgets`).
-/

namespace Apex.Fanout

open Checked Control Domain Lines Outbox Runs Saturating List KeyMap AppendOp OutboxState

variable {codec : EnvelopeCodec} {sha256 : List UInt8 → Fingerprint} {worker : Worker}

/-! ### What is to hold -/

/-- The count or the deadline of the event is gone. -/
def Forgets (before after : Worker) (key : OutboxKey) : Prop :=
  (key ∈ before.failures ∧ key ∉ after.failures) ∨ (key ∈ before.notBefore ∧ key ∉ after.notBefore)

/-- The count of the event's next failed attempt. -/
def Worker.nextAttempt (worker : Worker) (key : OutboxKey) : UInt32 :=
  next32 ((worker.failures.lookup key).getD 0)

/-- The event was published, and its settlement was not answered `Ok(Ok(()))`. -/
def FailedSettlement (codec : EnvelopeCodec) (worker : Worker)
    (publish : IngestRequest → PublishResult) (fault : Option Fault) (clock : Nat → UInt64)
    (key : OutboxKey) : Prop :=
  ∃ batch, worker.phase = .publishing batch ∧ key ∈ publishedKeys publish batch ∧
    (withLock fault worker.outbox (worker.outbox.state.markCompleteMany codec
      (publishedKeys publish batch) clock)).1 ≠ .ok (.ok ())

/-- The deadline a failed attempt sets. -/
def deadline (sha256 : List UInt8 → Fingerprint) (worker : Worker) (instants : OutboxKey → Instant)
    (key : OutboxKey) : Instant :=
  (instants key).addMillis (retryDelay sha256 key (worker.nextAttempt key))

/-- What a step owes to the events it deals with. -/
def Accounted (codec : EnvelopeCodec) (sha256 : List UInt8 → Fingerprint) (worker : Worker)
    (action : FanoutAction codec) : Prop :=
  (∀ key, Forgets worker (fanoutStep codec sha256 worker action) key →
    DurablyRecorded codec (fanoutStep codec sha256 worker action).outbox.toFileOutbox key) ∧
  match action with
  | .settle publish fault clock instants _ =>
      ∀ key, FailedSettlement codec worker publish fault clock key →
        (fanoutStep codec sha256 worker action).failures.lookup key =
          some (worker.nextAttempt key) ∧
        if maxReplayAttempts ≤ worker.nextAttempt key then
          ∃ groups quarantine, (fanoutStep codec sha256 worker action).phase =
            .retrying groups quarantine ∧ key ∈ quarantine
        else (fanoutStep codec sha256 worker action).notBefore.lookup key =
          some (deadline sha256 worker instants key)
  | .quarantine _ _ => ∀ quarantine, worker.phase = .retrying [] quarantine →
      ∀ key ∈ quarantine,
        DurablyRecorded codec (fanoutStep codec sha256 worker action).outbox.toFileOutbox key
  | _ => True

/-- A read makes the worker publish the event. -/
def Publishes (worker : Worker) (fault : Option Fault) (elapsed : Nat) (now : UInt64)
    (scan : Scan OutboxKey IngestRequest) (key : OutboxKey) : Prop :=
  worker.phase = .idle ∧ ∃ batch, (worker.read fault elapsed now scan).phase = .publishing batch ∧
    key ∈ batch.map IngestRequest.key

/-- After a failed settlement the event is published again only when its deadline
has come; if it was out of attempts, only when it was requeued from quarantine. -/
def HeldBack (codec : EnvelopeCodec) (sha256 : List UInt8 → Fingerprint) (start : Worker)
    (actions : List (FanoutAction codec)) : Prop :=
  ∀ before publish fault clock instants order middle readFault elapsed now scan rest key,
    actions = before ++ .settle publish fault clock instants order :: middle ++
      .read readFault elapsed now scan :: rest →
    FailedSettlement codec (run (fanoutStep codec sha256) start before) publish fault clock key →
    Publishes (run (fanoutStep codec sha256) start
      (before ++ .settle publish fault clock instants order :: middle)) readFault elapsed now scan
      key →
    (maxReplayAttempts ≤ (run (fanoutStep codec sha256) start before).nextAttempt key →
      ∃ keys requeuedAt faults,
        .other (.requeueQuarantined keys requeuedAt) faults ∈ middle ∧ key ∈ keys) ∧
    (¬ maxReplayAttempts ≤ (run (fanoutStep codec sha256) start before).nextAttempt key →
      deadline sha256 (run (fanoutStep codec sha256) start before) instants key ≤
        (run (fanoutStep codec sha256) start
          (before ++ .settle publish fault clock instants order :: middle)).instant + elapsed)

/-- The records of a plan pass the checks of the outbox, whose file is open. -/
def HasRoom (outbox : HeldOutbox) (plan : Except GatewayError (Plan Unit)) : Prop :=
  ∀ p, plan = .ok p → p.records = [] ∨ outbox.checkBatch none p.records = .ok ()

/-- The storage refuses neither the settlement of a published event nor a
quarantine, and where it refuses another access it leaves no byte; locks may be
poisoned while settling. -/
def Careful (codec : EnvelopeCodec) (worker : Worker) : FanoutAction codec → Prop
  | .other _ faults => faults.Clean
  | .reschedule fault _ => ∀ f ∈ fault, f.Clean
  | .read .. => True
  | .settle publish fault clock _ _ => ∀ batch, worker.phase = .publishing batch →
      publishedKeys publish batch = [] ∨ fault = some .lock ∨
        fault = none ∧ HasRoom worker.outbox
          (worker.outbox.state.markCompleteMany codec (publishedKeys publish batch) clock)
  | .quarantine fault now => ∀ keys, worker.phase = .retrying [] keys → keys ≠ [] →
      fault = none ∧ HasRoom worker.outbox
        (.ok (worker.outbox.state.quarantine keys OutboxState.replayAttemptsExhausted now))

/-! ### Others at the outbox -/

/-- The event is work for the worker, now or once it is requeued. -/
def Waiting (standing : Option Standing) : Prop :=
  ∃ event, standing = some (.pending event) ∨ standing = some (.quarantined event)

variable {outbox : HeldOutbox} {key : OutboxKey} {batch : List IngestRequest} {until_ : Instant}
  {faults : Faults}

/-- What others do to the standing of an event: one that was unknown is
enqueued, one in quarantine is requeued, one that was complete is dropped. -/
theorem Interference.apply_spec (tracked : Tracked codec outbox.toFileOutbox)
    (clean : faults.Clean) (op : Interference codec) :
    Tracked codec (op.apply faults outbox).toFileOutbox ∧ ∀ key,
      (op.apply faults outbox).state.ledger key = outbox.state.ledger key ∨
      outbox.state.ledger key = none ∨
      (∃ fingerprint, outbox.state.ledger key = some (.complete fingerprint)) ∨
      (∃ keys now, op = .requeueQuarantined keys now ∧ key ∈ keys) ∧
        ∃ event, outbox.state.ledger key = some (.quarantined event) ∧
          (op.apply faults outbox).state.ledger key = some (.pending event) := by
  cases op with
  | enqueue event admitted now =>
    cases ok : outbox.state.enqueue codec event now with
    | error e =>
      simp only [apply, ok]
      exact ⟨tracked, fun _ => .inl rfl⟩
    | ok plan =>
      have stepped : plan.Stepped .any codec outbox.state :=
        enqueue_stepped trivial admitted ok
      obtain ⟨tracked', moved⟩ := commit_tracked clean.1 tracked (stepped.sound tracked.valid)
      simp only [apply, ok]
      refine ⟨tracked', fun key => ?_⟩
      rcases moved with ⟨-, ledger⟩ | ⟨-, ledger⟩
      · rw [ledger]
        rcases enqueue_ledger tracked.valid admitted ok key with same | unknown
        · exact .inl same
        · exact .inr (.inl unknown)
      · exact .inl (congrFun ledger key)
  | requeueQuarantined keys now =>
    obtain ⟨tracked', moved⟩ := commit_tracked clean.1 tracked
      (@plan_sound codec _ tracked.valid (.requeueQuarantined keys now) _ rfl)
    refine ⟨tracked', fun key => ?_⟩
    rcases moved with ⟨-, ledger⟩ | ⟨-, ledger⟩
    · simp only [apply, ledger]
      rcases requeue_ledger tracked.valid keys now key with same | ⟨mem, requeued⟩
      · exact .inl same
      · exact .inr (.inr (.inr ⟨⟨keys, now, rfl, mem⟩, requeued⟩))
    · exact .inl (congrFun ledger key)
  | maintain now retention scan clock =>
    obtain ⟨tracked', ledger⟩ := maintain_tracked tracked clean.2 now retention scan clock
    refine ⟨tracked', fun key => ?_⟩
    rcases ledger key with same | complete
    · exact .inl same
    · exact .inr (.inr (.inl complete))

/-- A pending event stays pending whatever others do. -/
theorem Interference.apply_pending (tracked : Tracked codec outbox.toFileOutbox)
    (clean : faults.Clean) (op : Interference codec) {event}
    (stands : outbox.state.ledger key = some (.pending event)) :
    (op.apply faults outbox).state.ledger key = some (.pending event) := by
  rcases (op.apply_spec tracked clean).2 key with
    same | unknown | ⟨fingerprint, complete⟩ | ⟨-, other, quarantined, -⟩
  · exact same.trans stands
  · cases stands.symm.trans unknown
  · cases stands.symm.trans complete
  · cases stands.symm.trans quarantined

theorem Interference.apply_quarantined (tracked : Tracked codec outbox.toFileOutbox)
    (clean : faults.Clean) (op : Interference codec) {event}
    (stands : outbox.state.ledger key = some (.quarantined event)) :
    (op.apply faults outbox).state.ledger key = some (.quarantined event) ∨
      (op.apply faults outbox).state.ledger key = some (.pending event) ∧
        ∃ keys now, op = .requeueQuarantined keys now ∧ key ∈ keys := by
  rcases (op.apply_spec tracked clean).2 key with
    same | unknown | ⟨fingerprint, complete⟩ | ⟨requeue, other, quarantined, pending⟩
  · exact .inl (same.trans stands)
  · cases stands.symm.trans unknown
  · cases stands.symm.trans complete
  · cases stands.symm.trans quarantined
    exact .inr ⟨pending, requeue⟩

/-! ### Counting failures -/

section Noting

variable (instants : OutboxKey → Instant) (noted : Noted) (key other : OutboxKey)

/-- What a collection says of an event. -/
structure Note where
  failures : Option UInt32
  notBefore : Option Instant
  quarantine : Prop

def Noted.note (noted : Noted) (key : OutboxKey) : Note :=
  ⟨noted.failures.lookup key, noted.notBefore.lookup key, key ∈ noted.quarantine⟩

/-- The event is counted once more; it is out of attempts, or has a deadline. -/
def Note.fail (sha256 : List UInt8 → Fingerprint) (instants : OutboxKey → Instant)
    (key : OutboxKey) (note : Note) : Note :=
  let attempts := next32 (note.failures.getD 0)
  if maxReplayAttempts ≤ attempts then ⟨some attempts, note.notBefore, True⟩
  else ⟨some attempts, some ((instants key).addMillis (retryDelay sha256 key attempts)),
    note.quarantine⟩

theorem noteFailure_note : (noteFailure sha256 instants noted key).note other =
    if other = key then (noted.note key).fail sha256 instants key else noted.note other := by
  simp only [noteFailure]
  by_cases same : other = key
  · subst same
    rw [if_pos rfl]
    split_ifs with exhausted <;> simp [Noted.note, Note.fail, exhausted]
  · rw [if_neg same]
    split_ifs <;> simp [Noted.note, same]

/-- Each of the failed events is counted once. -/
theorem noteFailures_note {failed : List OutboxKey} (distinct : failed.Nodup) :
    (failed.foldl (noteFailure sha256 instants) noted).note key =
      if key ∈ failed then (noted.note key).fail sha256 instants key else noted.note key :=
  view_foldl (noteFailure_note instants) distinct noted key

end Noting

/-! ### The cycle -/

/-- The deadline of the event, if it has one, has come. -/
def Worker.Due (worker : Worker) (key : OutboxKey) : Prop :=
  ∀ deadline, worker.notBefore.lookup key = some deadline → deadline ≤ worker.instant

/-- What holds of a worker between its steps: a batch that is being published is
of different pending events, and the events that go to quarantine are still
waiting. -/
structure Ordered (codec : EnvelopeCodec) (worker : Worker) : Prop where
  tracked : Tracked codec worker.outbox.toFileOutbox
  publishing : ∀ batch, worker.phase = .publishing batch → (batch.map IngestRequest.key).Nodup ∧
    ∀ event ∈ batch, worker.outbox.state.ledger event.key = some (.pending event) ∧
      worker.Due event.key
  retrying : ∀ groups quarantine, worker.phase = .retrying groups quarantine →
    ∀ key ∈ quarantine, Waiting (worker.outbox.state.ledger key) ∧ worker.Due key

/-- What is known of an event is the same. -/
structure SameEntry (before after : Worker) (key : OutboxKey) : Prop where
  failures : after.failures.lookup key = before.failures.lookup key
  notBefore : after.notBefore.lookup key = before.notBefore.lookup key
  ledger : after.outbox.state.ledger key = before.outbox.state.ledger key

/-- The published events are settled: an event is as it was, or it is complete
and no longer among the failed ones. -/
structure SettledSpec (codec : EnvelopeCodec) (worker : Worker) (batch : List IngestRequest)
    (settled : Worker) (failed : List OutboxKey) : Prop where
  tracked : Tracked codec settled.outbox.toFileOutbox
  instant : settled.instant = worker.instant
  nodup : failed.Nodup
  subset : ∀ key ∈ failed, key ∈ batch.map IngestRequest.key
  each : ∀ key, SameEntry worker settled key ∨
    key ∈ batch.map IngestRequest.key ∧ key ∉ failed ∧ Settled (settled.outbox.state.ledger key)

theorem lookup_forget (worker : Worker) (keys : List OutboxKey) (key : OutboxKey) :
    ((worker.forget keys).failures.lookup key =
        if key ∈ keys then none else worker.failures.lookup key) ∧
      (worker.forget keys).notBefore.lookup key =
        if key ∈ keys then none else worker.notBefore.lookup key := by
  simp only [Worker.forget, lookup_retain]
  by_cases mem : key ∈ keys
  · simp [mem]
  · have all {ν : Type} (value : Option ν) : Option.filter (fun _ => true) value = value := by
      cases value <;> rfl
    simp only [contains_eq_mem, mem, decide_false, Bool.not_false, if_false]
    exact ⟨all _, all _⟩

/-- An access that finds room is answered `Ok(Ok(_))`. -/
theorem withLock_of_hasRoom {plan} (room : HasRoom outbox (.ok plan)) :
    (withLock none outbox (.ok plan)).1 = .ok (.ok ()) := by
  simp only [withLock, HeldOutbox.commit, HeldOutbox.appendBatch]
  rcases room plan rfl with nothing | checked
  · rw [if_pos (by simp [nothing])]
    rfl
  · split_ifs
    · rfl
    · rw [checked]
      rfl

theorem none_clean : ∀ f ∈ (none : Option Fault), f.Clean := by
  rintro _ ⟨⟩

theorem settlePublished_spec (ordered : Ordered codec worker)
    (phase : worker.phase = .publishing batch) (publish : IngestRequest → PublishResult)
    (fault : Option Fault) (clock : Nat → UInt64)
    (careful : publishedKeys publish batch = [] ∨ fault = some .lock ∨
      fault = none ∧ HasRoom worker.outbox
        (worker.outbox.state.markCompleteMany codec (publishedKeys publish batch) clock)) :
    SettledSpec codec worker batch
        (worker.settlePublished codec (publishedKeys publish batch) (failedKeys publish batch)
          fault clock).1
        (worker.settlePublished codec (publishedKeys publish batch) (failedKeys publish batch)
          fault clock).2 ∧
      ∀ key, FailedSettlement codec worker publish fault clock key →
        key ∈ (worker.settlePublished codec (publishedKeys publish batch)
          (failedKeys publish batch) fault clock).2 := by
  obtain ⟨nodup, pending⟩ := ordered.publishing batch phase
  have perm := keys_perm publish batch
  have allNodup := perm.nodup_iff.mpr nodup
  have failedSubset : ∀ key ∈ failedKeys publish batch, key ∈ batch.map IngestRequest.key :=
    fun key mem => perm.mem_iff.mp (mem_append_left _ mem)
  have batchIs {other : List IngestRequest} (is : worker.phase = .publishing other) :
      other = batch := by
    rw [phase] at is
    cases is
    rfl
  unfold Worker.settlePublished
  by_cases nothing : publishedKeys publish batch = []
  · rw [if_pos (by simp [nothing])]
    refine ⟨⟨ordered.tracked, rfl, allNodup.of_append_left, failedSubset,
      fun _ => .inl ⟨rfl, rfl, rfl⟩⟩, ?_⟩
    rintro key ⟨other, is, mem, -⟩
    rw [batchIs is, nothing] at mem
    cases mem
  rw [if_neg (by simpa using nothing)]
  rcases careful.resolve_left nothing with rfl | ⟨rfl, room⟩
  · -- The lock is poisoned: every event of the batch has failed.
    refine ⟨⟨ordered.tracked, rfl, allNodup, fun key mem => perm.mem_iff.mp mem,
      fun _ => .inl ⟨rfl, rfl, rfl⟩⟩, ?_⟩
    rintro key ⟨other, is, mem, -⟩
    rw [batchIs is] at mem
    exact mem_append_right _ mem
  · -- The published events are pending, so the storage completes them.
    have found : ∀ key ∈ publishedKeys publish batch,
        ∃ event, worker.outbox.state.pending.lookup key = some event := by
      intro key mem
      obtain ⟨event, inBatch, rfl⟩ := mem_map.mp (perm.mem_iff.mp (mem_append_right _ mem))
      exact ⟨event, ordered.tracked.valid.ledger_pending.mp (pending event inBatch).1⟩
    obtain ⟨completions, ok⟩ := completions_of_pending clock found
    have planned : ∃ plan, worker.outbox.state.markCompleteMany codec
        (publishedKeys publish batch) clock = .ok plan := by
      simp only [OutboxState.markCompleteMany, ok]
      exact ⟨_, rfl⟩
    obtain ⟨plan, planIs⟩ := planned
    rw [planIs] at room
    have answered := withLock_of_hasRoom room
    obtain ⟨tracked, moved⟩ := withLock_tracked none_clean ordered.tracked
      (@plan_sound codec _ ordered.tracked.valid (.markCompleteMany _ clock) _ planIs)
    have ledger : (withLock none worker.outbox (.ok plan)).2.state.ledger =
        plan.success.ledger := by
      rcases moved with ⟨-, ledger⟩ | ⟨refused, -⟩
      · exact ledger
      · exact absurd answered refused
    have completed : (markCompleteMany (publishedKeys publish batch) clock :
        AppendOp codec).Reflected worker.outbox.state.ledger plan.success.ledger :=
      reflected ordered.tracked.valid planIs
    rw [planIs]
    simp only [answered]
    refine ⟨⟨tracked, rfl, allNodup.of_append_left, failedSubset, fun key => ?_⟩, ?_⟩
    · obtain ⟨failures, notBefore⟩ := lookup_forget
        { worker with outbox := (withLock none worker.outbox (.ok plan)).2 }
        (publishedKeys publish batch) key
      by_cases mem : key ∈ publishedKeys publish batch
      · refine .inr ⟨perm.mem_iff.mp (mem_append_right _ mem), fun failed => ?_, .inl ?_⟩
        · exact disjoint_of_nodup_append allNodup failed mem
        · change ∃ fingerprint, (withLock none worker.outbox (.ok plan)).2.state.ledger key = _
          rw [ledger]
          exact completed key mem
      · rw [if_neg mem] at failures notBefore
        refine .inl ⟨failures, notBefore, ?_⟩
        change (withLock none worker.outbox (.ok plan)).2.state.ledger key = _
        rw [ledger]
        exact markCompleteMany_ledger planIs mem
    · rintro key ⟨other, is, mem, refused⟩
      rw [batchIs is, planIs] at refused
      exact absurd answered refused

/-- A whole settling step, with the events it counts. -/
structure CycleSpec (codec : EnvelopeCodec) (sha256 : List UInt8 → Fingerprint) (worker : Worker)
    (batch : List IngestRequest) (instants : OutboxKey → Instant) (after : Worker)
    (failed : List OutboxKey) : Prop where
  tracked : Tracked codec after.outbox.toFileOutbox
  instant : after.instant = worker.instant
  subset : ∀ key ∈ failed, key ∈ batch.map IngestRequest.key
  phase : after.phase = .idle ∧ failed = [] ∨ ∃ groups quarantine,
    after.phase = .retrying groups quarantine ∧
      ∀ key, key ∈ quarantine ↔ key ∈ failed ∧ maxReplayAttempts ≤ worker.nextAttempt key
  counted : ∀ key ∈ failed, after.failures.lookup key = some (worker.nextAttempt key) ∧
    after.outbox.state.ledger key = worker.outbox.state.ledger key ∧
    after.notBefore.lookup key =
      if maxReplayAttempts ≤ worker.nextAttempt key then worker.notBefore.lookup key
      else some (deadline sha256 worker instants key)
  other : ∀ key ∉ failed, SameEntry worker after key ∨
    key ∈ batch.map IngestRequest.key ∧ Settled (after.outbox.state.ledger key)

theorem noteFailures_spec {settled failed} (spec : SettledSpec codec worker batch settled failed)
    (instants : OutboxKey → Instant) (order : Scan Nat (List OutboxKey)) :
    CycleSpec codec sha256 worker batch instants
      (settled.noteFailures sha256 failed instants order) failed := by
  have kept (key : OutboxKey) (mem : key ∈ failed) : SameEntry worker settled key := by
    rcases spec.each key with same | ⟨-, absent, -⟩
    · exact same
    · exact absurd mem absent
  have noted (key : OutboxKey) := @noteFailures_note sha256 instants
    ⟨settled.failures, settled.notBefore, ∅, []⟩ key failed spec.nodup
  -- What is noted of a failed event, with the count it had before.
  have counted (key : OutboxKey) (mem : key ∈ failed) :
      (failed.foldl (noteFailure sha256 instants)
          ⟨settled.failures, settled.notBefore, ∅, []⟩).note key =
        if maxReplayAttempts ≤ worker.nextAttempt key then
          ⟨some (worker.nextAttempt key), worker.notBefore.lookup key, True⟩
        else
          ⟨some (worker.nextAttempt key), some (deadline sha256 worker instants key), False⟩ := by
    rw [noted, if_pos mem, ← (kept key mem).notBefore]
    simp only [Noted.note, (kept key mem).failures, not_mem_nil]
    rfl
  refine ⟨spec.tracked, spec.instant, spec.subset, ?_, fun key mem => ?_, fun key absent => ?_⟩
  · cases failed with
    | nil => exact .inl ⟨rfl, rfl⟩
    | cons first rest =>
      refine .inr ⟨_, _, rfl, fun key => ?_⟩
      by_cases mem : key ∈ first :: rest
      · refine (iff_of_eq (congrArg Note.quarantine (counted key mem))).trans ?_
        split_ifs with out <;> simp [mem, out]
      · refine (iff_of_eq (congrArg Note.quarantine (noted key))).trans ?_
        simp [mem, Noted.note]
  · obtain ⟨-, -, ledger⟩ := kept key mem
    have failures := congrArg Note.failures (counted key mem)
    have notBefore := congrArg Note.notBefore (counted key mem)
    refine ⟨?_, ledger, ?_⟩
    · split_ifs at failures <;> exact failures
    · split_ifs at notBefore ⊢ <;> exact notBefore
  · have same := noted key
    rw [if_neg absent] at same
    rcases spec.each key with ⟨failures, notBefore, ledger⟩ | ⟨mem, -, settled⟩
    · exact .inl ⟨(congrArg Note.failures same).trans failures,
        (congrArg Note.notBefore same).trans notBefore, ledger⟩
    · exact .inr ⟨mem, settled⟩

/-- The events of the quarantine are in it, and what is known of the others is the
same. -/
structure QuarantineSpec (codec : EnvelopeCodec) (worker : Worker) (keys : List OutboxKey)
    (after : Worker) : Prop where
  tracked : Tracked codec after.outbox.toFileOutbox
  idle : after.phase = .idle
  instant : after.instant = worker.instant
  each : ∀ key, if key ∈ keys then
      ∃ event, after.outbox.state.ledger key = some (.quarantined event)
    else SameEntry worker after key

/-- A quarantine that the storage does not refuse. -/
theorem quarantine_spec (ordered : Ordered codec worker) {keys}
    (phase : worker.phase = .retrying [] keys) (fault : Option Fault) (now : UInt64)
    (careful : Careful codec worker (.quarantine fault now)) :
    QuarantineSpec codec worker keys (worker.quarantine fault now) := by
  cases keys with
  | nil =>
    simp only [Worker.quarantine, phase]
    refine ⟨ordered.tracked, rfl, rfl, fun key => ?_⟩
    rw [if_neg not_mem_nil]
    exact ⟨rfl, rfl, rfl⟩
  | cons first rest =>
    obtain ⟨rfl, room⟩ := careful _ phase (cons_ne_nil _ _)
    have answered := withLock_of_hasRoom room
    obtain ⟨tracked, moved⟩ := withLock_tracked none_clean ordered.tracked
      (@plan_sound codec _ ordered.tracked.valid (.quarantine (first :: rest)
        replayAttemptsExhausted now) _ rfl)
    simp only [Worker.quarantine, phase, answered, flatten]
    refine ⟨tracked, rfl, rfl, fun key => ?_⟩
    rcases moved with ⟨-, ledger⟩ | ⟨refused, -⟩
    · split_ifs with mem
      · simp only [Worker.forget, ledger]
        obtain ⟨⟨event, waits⟩, -⟩ := ordered.retrying _ _ phase key mem
        refine ⟨event, (quarantine_standing ordered.tracked.valid _ _).trans ?_⟩
        rcases waits with waits | waits <;> rw [if_pos mem, waits] <;> rfl
      · obtain ⟨failures, notBefore⟩ := lookup_forget
          { worker with
            outbox := (withLock none worker.outbox (.ok (worker.outbox.state.quarantine
              (first :: rest) replayAttemptsExhausted now))).2
            phase := .idle } (first :: rest) key
        rw [if_neg mem] at failures notBefore
        refine ⟨failures, notBefore, ?_⟩
        simp only [Worker.forget, ledger]
        rcases quarantine_ledger ordered.tracked.valid (first :: rest)
          replayAttemptsExhausted now key with same | ⟨listed, -⟩
        · exact same
        · exact absurd listed mem
    · exact absurd answered refused

theorem quarantine_of_not_ends (ends : ¬ ∃ keys, worker.phase = .retrying [] keys) {fault now} :
    worker.quarantine fault now = worker := by
  unfold Worker.quarantine
  split
  · next phase => exact absurd ⟨_, phase⟩ ends
  · next phase => exact absurd ⟨_, phase⟩ ends
  · rfl

/-- The events a read hands out are pending, and their deadlines have come. -/
theorem due_spec (valid : worker.outbox.state.Valid codec) (instant : Instant) (now : UInt64)
    (scan : Scan OutboxKey IngestRequest) :
    ((worker.due instant now scan).map IngestRequest.key).Nodup ∧
      ∀ event ∈ worker.due instant now scan,
        worker.outbox.state.ledger event.key = some (.pending event) ∧
          ∀ deadline, worker.notBefore.lookup event.key = some deadline → deadline ≤ instant := by
  obtain ⟨nodup, pending⟩ := pendingBatch_spec valid scan fanoutBatchSize now
  constructor
  · exact nodup.sublist (filter_sublist.map _)
  · intro event mem
    obtain ⟨inBatch, open_⟩ := mem_filter.mp mem
    refine ⟨valid.ledger_pending.mpr (pending event inBatch), fun deadline found => ?_⟩
    simpa [found] using open_

theorem read_cases (worker : Worker) (fault : Option Fault) (elapsed : Nat) (now : UInt64)
    (scan : Scan OutboxKey IngestRequest) :
    worker.read fault elapsed now scan = { worker with instant := worker.instant + elapsed } ∨
      worker.phase = .idle ∧ worker.read fault elapsed now scan = { worker with
        instant := worker.instant + elapsed
        phase := .publishing (worker.due (worker.instant + elapsed) now scan) } := by
  unfold Worker.read
  dsimp only
  split
  · next idle =>
      split_ifs
      · left
        rw [← idle]
      · exact .inr ⟨idle, rfl⟩
  · exact .inl rfl

/-! ### Steps -/

theorem Waiting.reschedule {before after} (waits : Waiting before)
    (moved : after = before ∨ ∃ event, before = some (.pending event) ∧
      after = some (.quarantined event)) : Waiting after := by
  rcases moved with rfl | ⟨event, -, rfl⟩
  · exact waits
  · exact ⟨event, .inr rfl⟩

theorem Waiting.interference (tracked : Tracked codec outbox.toFileOutbox) (clean : faults.Clean)
    (op : Interference codec) (waits : Waiting (outbox.state.ledger key)) :
    Waiting ((op.apply faults outbox).state.ledger key) := by
  obtain ⟨event, pending | quarantined⟩ := waits
  · exact ⟨event, .inl (op.apply_pending tracked clean pending)⟩
  · rcases op.apply_quarantined tracked clean quarantined with stays | ⟨requeued, -⟩
    · exact ⟨event, .inr stays⟩
    · exact ⟨event, .inl requeued⟩

/-- The action finds nothing to settle and nothing to end. -/
def Free (worker : Worker) : FanoutAction codec → Prop
  | .settle .. => ∀ batch, worker.phase ≠ .publishing batch
  | .quarantine .. => ∀ keys, worker.phase ≠ .retrying [] keys
  | _ => True

/-- What a careful step does. -/
inductive Turn (codec : EnvelopeCodec) (sha256 : List UInt8 → Fingerprint) (worker : Worker) :
    FanoutAction codec → Worker → Prop where
  | rests {action} (elapsed : Nat) (free : Free worker action) :
      Turn codec sha256 worker action { worker with instant := worker.instant + elapsed }
  | interferes (op : Interference codec) {faults : Faults} (clean : faults.Clean) :
      Turn codec sha256 worker (.other op faults)
        { worker with outbox := op.apply faults worker.outbox }
  | reads {fault elapsed now scan} (idle : worker.phase = .idle) :
      Turn codec sha256 worker (.read fault elapsed now scan) { worker with
        instant := worker.instant + elapsed
        phase := .publishing (worker.due (worker.instant + elapsed) now scan) }
  | settles {publish fault clock instants order batch after failed}
      (phase : worker.phase = .publishing batch)
      (spec : CycleSpec codec sha256 worker batch instants after failed)
      (noted : ∀ key, FailedSettlement codec worker publish fault clock key → key ∈ failed) :
      Turn codec sha256 worker (.settle publish fault clock instants order) after
  | reschedules {fault now group groups keys} {outbox : HeldOutbox}
      (phase : worker.phase = .retrying (group :: groups) keys)
      (tracked : Tracked codec outbox.toFileOutbox)
      (ledger : ∀ key, outbox.state.ledger key = worker.outbox.state.ledger key ∨
        ∃ event, worker.outbox.state.ledger key = some (.pending event) ∧
          outbox.state.ledger key = some (.quarantined event)) :
      Turn codec sha256 worker (.reschedule fault now)
        { worker with outbox, phase := .retrying groups keys }
  | quarantines {fault now keys after} (phase : worker.phase = .retrying [] keys)
      (spec : QuarantineSpec codec worker keys after) :
      Turn codec sha256 worker (.quarantine fault now) after

variable (sha256) in
theorem turn_step (ordered : Ordered codec worker) (action : FanoutAction codec)
    (careful : Careful codec worker action) :
    Turn codec sha256 worker action (fanoutStep codec sha256 worker action) := by
  cases action with
  | other op faults => exact .interferes op careful
  | read fault elapsed now scan =>
    rw [fanoutStep]
    rcases read_cases worker fault elapsed now scan with is | ⟨idle, is⟩
    · rw [is]
      exact .rests elapsed trivial
    · rw [is]
      exact .reads idle
  | settle publish fault clock instants order =>
    cases phase : worker.phase with
    | idle | retrying =>
      simp only [fanoutStep, Worker.settle, phase]
      exact .rests 0 fun batch is => by cases phase.symm.trans is
    | publishing batch =>
      obtain ⟨spec, noted⟩ :=
        settlePublished_spec ordered phase publish fault clock (careful batch phase)
      simp only [fanoutStep, Worker.settle, phase]
      exact .settles phase (noteFailures_spec spec instants order) noted
  | reschedule fault now =>
    unfold fanoutStep Worker.reschedule
    dsimp only
    split
    · next delay keys groups quarantine phase =>
        obtain ⟨tracked, moved⟩ := withLock_tracked careful ordered.tracked
          (@plan_sound codec _ ordered.tracked.valid
            (.reschedule keys (UInt64.ofNat delay) now) _ rfl)
        refine .reschedules phase tracked fun key => ?_
        rcases moved with ⟨-, ledger⟩ | ⟨-, ledger⟩
        · rw [ledger]
          exact reschedule_ledger ordered.tracked.valid _ _ _ key
        · exact .inl (congrFun ledger key)
    · exact .rests 0 trivial
  | quarantine fault now =>
    by_cases ends : ∃ keys, worker.phase = .retrying [] keys
    · obtain ⟨keys, phase⟩ := ends
      exact .quarantines phase (quarantine_spec ordered phase fault now careful)
    · rw [fanoutStep, quarantine_of_not_ends ends]
      exact .rests 0 fun keys is => ends ⟨keys, is⟩

variable {action : FanoutAction codec} {next : Worker}

/-- Every step keeps the cycle in order. -/
theorem Turn.ordered (turn : Turn codec sha256 worker action next)
    (ordered : Ordered codec worker) : Ordered codec next := by
  cases turn with
  | rests elapsed =>
    refine ⟨ordered.tracked, fun batch phase => ?_, fun groups keys phase key mem => ?_⟩
    · obtain ⟨nodup, events⟩ := ordered.publishing batch phase
      refine ⟨nodup, fun event mem => ⟨(events event mem).1, fun deadline found => ?_⟩⟩
      exact Nat.le_add_right_of_le ((events event mem).2 deadline found)
    · obtain ⟨waits, due⟩ := ordered.retrying groups keys phase key mem
      exact ⟨waits, fun deadline found => Nat.le_add_right_of_le (due deadline found)⟩
  | interferes op clean =>
    refine ⟨(op.apply_spec ordered.tracked clean).1, fun batch phase => ?_,
      fun groups keys phase => ?_⟩
    · obtain ⟨nodup, events⟩ := ordered.publishing batch phase
      refine ⟨nodup, fun event mem => ?_⟩
      obtain ⟨pending, due⟩ := events event mem
      exact ⟨op.apply_pending ordered.tracked clean pending, due⟩
    · intro key mem
      obtain ⟨waits, due⟩ := ordered.retrying groups keys phase key mem
      exact ⟨waits.interference ordered.tracked clean op, due⟩
  | reads =>
    refine ⟨ordered.tracked, ?_, nofun⟩
    rintro _ ⟨⟩
    exact due_spec ordered.tracked.valid _ _ _
  | settles phase spec =>
    refine ⟨spec.tracked, fun other is => ?_, fun groups keys is key mem => ?_⟩
    · rcases spec.phase with ⟨idle, -⟩ | ⟨_, _, retrying, -⟩
      · cases idle.symm.trans is
      · cases retrying.symm.trans is
    · rcases spec.phase with ⟨idle, -⟩ | ⟨_, quarantine, retrying, listed⟩
      · cases idle.symm.trans is
      · cases retrying.symm.trans is
        obtain ⟨isFailed, out⟩ := (listed key).mp mem
        obtain ⟨-, ledger, notBefore⟩ := spec.counted key isFailed
        obtain ⟨event, inBatch, rfl⟩ := mem_map.mp (spec.subset key isFailed)
        obtain ⟨pending, due⟩ := (ordered.publishing _ phase).2 event inBatch
        rw [if_pos out] at notBefore
        refine ⟨⟨event, .inl (ledger.trans pending)⟩, fun deadline found => ?_⟩
        rw [spec.instant]
        exact due deadline (notBefore.symm.trans found)
  | reschedules phase tracked ledger =>
    refine ⟨tracked, nofun, ?_⟩
    rintro _ _ ⟨⟩ key mem
    obtain ⟨waits, due⟩ := ordered.retrying _ _ phase key mem
    exact ⟨waits.reschedule (ledger key), due⟩
  | quarantines phase spec =>
    refine ⟨spec.tracked, fun batch is => ?_, fun groups keys is => ?_⟩
    · cases spec.idle.symm.trans is
    · cases spec.idle.symm.trans is

variable (sha256) in
theorem ordered_step (ordered : Ordered codec worker) (action : FanoutAction codec)
    (careful : Careful codec worker action) :
    Ordered codec (fanoutStep codec sha256 worker action) :=
  (turn_step sha256 ordered action careful).ordered ordered

/-- What is unchanged is not forgotten. -/
theorem not_forgets {before after} (same : SameEntry before after key) :
    ¬ Forgets before after key := by
  rintro (⟨had, gone⟩ | ⟨had, gone⟩)
  · rw [mem_iff_isSome] at had gone
    exact gone (same.failures ▸ had)
  · rw [mem_iff_isSome] at had gone
    exact gone (same.notBefore ▸ had)

/-- Every careful step does what it owes. -/
theorem accounted_step (ordered : Ordered codec worker) (action : FanoutAction codec)
    (careful : Careful codec worker action) : Accounted codec sha256 worker action := by
  have turn := turn_step sha256 ordered action careful
  simp only [Accounted, (turn.ordered ordered).tracked.durablyRecorded]
  generalize fanoutStep codec sha256 worker action = next at turn ⊢
  have unchanged (failures : next.failures = worker.failures)
      (notBefore : next.notBefore = worker.notBefore) (key : OutboxKey) :
      Forgets worker next key → Settled (next.outbox.state.ledger key) := by
    intro forgets
    unfold Forgets at forgets
    rw [failures, notBefore] at forgets
    rcases forgets with ⟨had, gone⟩ | ⟨had, gone⟩
    · exact absurd had gone
    · exact absurd had gone
  cases turn with
  | rests elapsed free =>
    refine ⟨unchanged rfl rfl, ?_⟩
    cases action with
    | settle publish fault clock instants order =>
      rintro key ⟨batch, phase, -⟩
      exact absurd phase (free batch)
    | quarantine fault now =>
      intro keys phase
      exact absurd phase (free keys)
    | _ => trivial
  | interferes | reads | reschedules => exact ⟨unchanged rfl rfl, trivial⟩
  | @settles _ _ _ _ _ _ _ failed phase spec noted =>
    refine ⟨fun key forgets => ?_, fun key failing => ?_⟩
    · by_cases mem : key ∈ failed
      · -- A counted event keeps its deadline or gets a new one.
        obtain ⟨counted, -, notBefore⟩ := spec.counted key mem
        rcases forgets with ⟨-, gone⟩ | ⟨had, gone⟩
        · simp [mem_iff_isSome, counted] at gone
        · rw [mem_iff_isSome] at had gone
          rw [notBefore] at gone
          split_ifs at gone
          · exact absurd had gone
          · simp at gone
      · rcases spec.other key mem with same | ⟨-, settled⟩
        · exact absurd forgets (not_forgets same)
        · exact settled
    · have mem := noted key failing
      obtain ⟨counted, -, notBefore⟩ := spec.counted key mem
      refine ⟨counted, ?_⟩
      split_ifs with out
      · rcases spec.phase with ⟨-, none⟩ | ⟨groups, keys, retrying, listed⟩
        · rw [none] at mem
          cases mem
        · exact ⟨groups, keys, retrying, (listed key).mpr ⟨mem, out⟩⟩
      · rwa [if_neg out] at notBefore
  | quarantines phase spec =>
    refine ⟨fun key forgets => ?_, fun others is key mem => ?_⟩
    · have here := spec.each key
      split_ifs at here
      · exact .inr here
      · exact absurd forgets (not_forgets here)
    · cases phase.symm.trans is
      have here := spec.each key
      rw [if_pos mem] at here
      exact .inr here

/-! ### Holding back -/

/-- The event is held back until an instant, or the instant has come. -/
def DeferredUntil (until_ : Instant) (key : OutboxKey) (worker : Worker) : Prop :=
  until_ ≤ worker.instant ∨ ∃ deadline, worker.notBefore.lookup key = some deadline ∧
    until_ ≤ deadline

/-- An event whose deadline has come is due. -/
theorem DeferredUntil.come (deferred : DeferredUntil until_ key worker) (due : worker.Due key) :
    until_ ≤ worker.instant := by
  rcases deferred with come | ⟨deadline, found, later⟩
  · exact come
  · exact later.trans (due deadline found)

theorem DeferredUntil.of_same {next : Worker} (deferred : DeferredUntil until_ key worker)
    (instant : worker.instant ≤ next.instant)
    (notBefore : next.notBefore.lookup key = worker.notBefore.lookup key) :
    DeferredUntil until_ key next := by
  rcases deferred with come | ⟨deadline, found, later⟩
  · exact .inl (come.trans instant)
  · exact .inr ⟨deadline, notBefore.trans found, later⟩

theorem Turn.deferredUntil (turn : Turn codec sha256 worker action next)
    (ordered : Ordered codec worker) (deferred : DeferredUntil until_ key worker) :
    DeferredUntil until_ key next := by
  cases turn with
  | interferes op => exact deferred
  | rests | reads => exact deferred.of_same (Nat.le_add_right _ _) rfl
  | @settles _ _ _ _ _ batch _ failed phase spec =>
    by_cases inBatch : key ∈ batch.map IngestRequest.key
    · -- An event that is being published was due.
      obtain ⟨event, mem, rfl⟩ := mem_map.mp inBatch
      have due := ((ordered.publishing batch phase).2 event mem).2
      exact .inl (spec.instant ▸ deferred.come due)
    · have absent : key ∉ failed := fun mem => inBatch (spec.subset key mem)
      rcases spec.other key absent with ⟨-, notBefore, -⟩ | ⟨mem, -⟩
      · exact deferred.of_same spec.instant.ge notBefore
      · exact absurd mem inBatch
  | reschedules => exact deferred
  | quarantines phase spec =>
    have here := spec.each key
    split_ifs at here with mem
    · have due := (ordered.retrying _ _ phase key mem).2
      exact .inl (spec.instant ▸ deferred.come due)
    · exact deferred.of_same spec.instant.ge here.notBefore

/-- The event is about to be quarantined, or is in quarantine. -/
def OutOfAttempts (key : OutboxKey) (worker : Worker) : Prop :=
  (∃ groups quarantine, worker.phase = .retrying groups quarantine ∧ key ∈ quarantine) ∨
    ∃ event, worker.outbox.state.ledger key = some (.quarantined event)

/-- The action takes the event out of quarantine. -/
def Requeues (key : OutboxKey) (action : FanoutAction codec) : Prop :=
  ∃ keys now faults, action = .other (.requeueQuarantined keys now) faults ∧ key ∈ keys

theorem Turn.outOfAttempts (turn : Turn codec sha256 worker action next)
    (ordered : Ordered codec worker) (out : OutOfAttempts key worker)
    (stays : ¬ Requeues key action) : OutOfAttempts key next := by
  rcases out with ⟨groups, keys, is, mem⟩ | ⟨event, quarantined⟩
  · cases turn with
    | rests | interferes => exact .inl ⟨groups, keys, is, mem⟩
    | reads idle => cases idle.symm.trans is
    | settles phase => cases phase.symm.trans is
    | reschedules phase =>
      cases phase.symm.trans is
      exact .inl ⟨_, _, rfl, mem⟩
    | quarantines phase spec =>
      cases phase.symm.trans is
      have here := spec.each key
      rw [if_pos mem] at here
      exact .inr here
  · cases turn with
    | rests | reads => exact .inr ⟨event, quarantined⟩
    | interferes op clean =>
      rcases op.apply_quarantined ordered.tracked clean quarantined with
        same | ⟨-, keys, now, rfl, mem⟩
      · exact .inr ⟨event, same⟩
      · exact absurd ⟨keys, now, _, rfl, mem⟩ stays
    | @settles _ _ _ _ _ batch _ _ phase spec =>
      -- The events that are being published are pending, so this one is none of them.
      have absent : key ∉ batch.map IngestRequest.key := by
        intro inBatch
        obtain ⟨other, mem, rfl⟩ := mem_map.mp inBatch
        have pending := ((ordered.publishing batch phase).2 other mem).1
        cases quarantined.symm.trans pending
      rcases spec.other key fun mem => absent (spec.subset key mem) with ⟨-, -, ledger⟩ | ⟨mem, -⟩
      · exact .inr ⟨event, ledger.trans quarantined⟩
      · exact absurd mem absent
    | reschedules _ _ ledger =>
      rcases ledger key with same | ⟨other, pending, -⟩
      · exact .inr ⟨event, same.trans quarantined⟩
      · cases quarantined.symm.trans pending
    | quarantines phase spec =>
      have here := spec.each key
      split_ifs at here with mem
      · exact .inr here
      · exact .inr ⟨event, here.ledger.trans quarantined⟩

/-- A read publishes pending events whose deadlines have come. -/
theorem publishes_spec (ordered : Ordered codec worker) {fault elapsed now scan}
    (publishes : Publishes worker fault elapsed now scan key) :
    worker.phase = .idle ∧ (∃ event, worker.outbox.state.ledger key = some (.pending event)) ∧
      ∀ deadline, worker.notBefore.lookup key = some deadline →
        deadline ≤ worker.instant + elapsed := by
  obtain ⟨idle, batch, phase, mem⟩ := publishes
  refine ⟨idle, ?_⟩
  rcases read_cases worker fault elapsed now scan with is | ⟨-, is⟩
  · rw [is] at phase
    cases idle.symm.trans phase
  · rw [is] at phase
    cases phase
    obtain ⟨event, inBatch, rfl⟩ := mem_map.mp mem
    obtain ⟨pending, due⟩ := (due_spec ordered.tracked.valid _ now scan).2 event inBatch
    exact ⟨⟨event, pending⟩, due⟩

/-! ### Runs -/

theorem ordered_spawn {capacity outbox} (sound : Sound codec capacity outbox) :
    Ordered codec (Worker.spawn outbox) :=
  ⟨tracked_of_sound sound, nofun, nofun⟩

/-- In a careful run failed settlements hold their events back. -/
theorem heldBack_of_careful {start} (ordered : Ordered codec start) {actions}
    (careful : AllSteps (fanoutStep codec sha256) (Careful codec) start actions) :
    HeldBack codec sha256 start actions := by
  rintro before publish fault clock instants order middle readFault elapsed now scan rest key rfl
    failing publishes
  rw [allSteps_append, allSteps_append] at careful
  obtain ⟨⟨beforeCareful, settleCareful, middleCareful⟩, -⟩ := careful
  have orderedThen : Ordered codec (run (fanoutStep codec sha256) start before) :=
    run_of_allSteps (fun worker action (ordered : Ordered codec worker) =>
      ordered_step sha256 ordered action) ordered beforeCareful
  rw [run_append, run_cons] at publishes ⊢
  generalize run (fanoutStep codec sha256) start before = worker at *
  have orderedNext := ordered_step sha256 orderedThen _ settleCareful
  have accounted : Accounted codec sha256 worker (.settle publish fault clock instants order) :=
    accounted_step orderedThen _ settleCareful
  obtain ⟨-, owed⟩ := accounted.2 key failing
  refine ⟨fun exhausted => ?_, fun more => ?_⟩
  · rw [if_pos exhausted] at owed
    -- Nothing but a requeue makes the event pending again.
    by_contra noRequeue
    have stays : ∀ action ∈ middle, ¬ Requeues key action := by
      rintro action mem ⟨keys, requeuedAt, faults, rfl, listed⟩
      exact noRequeue ⟨keys, requeuedAt, faults, mem, listed⟩
    have steps := middleCareful.and (allSteps_of_forall stays)
    obtain ⟨ordered', out⟩ := run_of_allSteps
      (fun worker action (inv : Ordered codec worker ∧ OutOfAttempts key worker) step =>
        have turn := turn_step sha256 inv.1 action step.1
        ⟨turn.ordered inv.1, turn.outOfAttempts inv.1 inv.2 step.2⟩) ⟨orderedNext, .inl owed⟩ steps
    obtain ⟨idle, ⟨event, pending⟩, -⟩ := publishes_spec ordered' publishes
    rcases out with ⟨groups, keys, phase, -⟩ | ⟨other, quarantined⟩
    · cases idle.symm.trans phase
    · cases pending.symm.trans quarantined
  · rw [if_neg more] at owed
    obtain ⟨ordered', deferred⟩ := run_of_allSteps
      (fun later action (inv : Ordered codec later ∧
          DeferredUntil (deadline sha256 worker instants key) key later) step =>
        have turn := turn_step sha256 inv.1 action step
        ⟨turn.ordered inv.1, turn.deferredUntil inv.1 inv.2⟩)
      ⟨orderedNext, .inr ⟨_, owed, le_rfl⟩⟩ middleCareful
    obtain ⟨-, -, due⟩ := publishes_spec ordered' publishes
    rcases deferred with come | ⟨deadline, found, later⟩
    · exact Nat.le_add_right_of_le come
    · exact later.trans (due deadline found)

/-- In every run in which the storage refuses no settlement of a published event
and no quarantine, and leaves no byte where it refuses anything else, an event is
forgotten only where the file says that it is complete or quarantined, and an
event whose settlement failed is counted and held back. -/
theorem bookkeeping_of_careful {capacity : Nat} {outbox : FileOutbox}
    (sound : Sound codec capacity outbox) (actions : List (FanoutAction codec))
    (careful : AllSteps (fanoutStep codec sha256) (Careful codec) (Worker.spawn outbox) actions) :
    AllSteps (fanoutStep codec sha256) (Accounted codec sha256) (Worker.spawn outbox) actions ∧
      HeldBack codec sha256 (Worker.spawn outbox) actions := by
  have ordered := ordered_spawn sound
  refine ⟨?_, heldBack_of_careful ordered careful⟩
  exact allSteps_of_allSteps (fun _ action ordered => ordered_step sha256 ordered action)
    (fun _ action ordered => accounted_step ordered action) ordered careful

/-! ### A refused settlement -/

def sampleSha256 (_ : List UInt8) : Fingerprint :=
  .zero

/-- An event is enqueued and read, its publication fails, and it is read again
when its delay has passed. -/
def deferredSample (retry : Option Fault) : List (FanoutAction sampleCodec) :=
  [.other (.enqueue (sampleEvent 1) (sampleEvent_admitted 1) 0) .none,
    .read none 0 0 (.stored _ _),
    .settle (fun _ => .failed) none (fun _ => 0) (fun _ => 0) (.stored _ _),
    .reschedule retry 0,
    .quarantine none 0,
    .read none 20000000000 20000 (.stored _ _)]

/-- The event is published. -/
def settleSample (fault : Option Fault) : FanoutAction sampleCodec :=
  .settle (fun _ => .published) fault (fun _ => 20000) (fun _ => 20000000000) (.stored _ _)

/-- The retry is refused before a byte of it is written, and the lock is poisoned
while the event is settled. -/
theorem bookkeeping_of_careful_settleSample :
    AllSteps (fanoutStep sampleCodec sampleSha256) (Accounted sampleCodec sampleSha256)
        (Worker.spawn (FileOutbox.fresh 8))
        (deferredSample (some (.storage (.write 0))) ++ [settleSample (some .lock)]) ∧
      HeldBack sampleCodec sampleSha256 (Worker.spawn (FileOutbox.fresh 8))
        (deferredSample (some (.storage (.write 0))) ++ [settleSample (some .lock)]) := by
  refine bookkeeping_of_careful (fresh_sound 8) _ ⟨⟨by rintro _ ⟨⟩, by rintro _ ⟨⟩⟩, trivial,
    fun batch _ => .inl ?_, ?_, fun keys phase nonempty => absurd phase ?_, trivial,
    fun _ _ => .inr (.inl rfl), trivial⟩
  · simp [publishedKeys, PublishResult.isOk]
  · rintro _ ⟨⟩
    rfl
  · have noKeys : (run (fanoutStep sampleCodec sampleSha256) (Worker.spawn (FileOutbox.fresh 8))
        ((deferredSample (some (.storage (.write 0)))).take 4)).phase = .retrying [] [] := by
      decide +kernel
    simp only [deferredSample, List.take, run_cons, run_nil] at noKeys
    rw [noKeys]
    rintro ⟨⟩
    exact nonempty rfl

/-- A file whose records leave the event pending does not record it. -/
theorem not_durablyRecorded (records : List FileOutboxRecord)
    {outbox : FileOutbox} (text : outbox.journal = FileOutbox.encodeBatch records)
    (pending : (Outbox.Standing.pendingPart (ledgerOf codec records key)).isSome) :
    ¬ DurablyRecorded codec outbox key := by
  rintro ⟨others, othersText, settled⟩
  obtain rfl : others = records := outboxCodec.text_injective (othersText.symm.trans text)
  rcases settled with ⟨fingerprint, complete⟩ | ⟨event, quarantined⟩
  · simp [complete, Outbox.Standing.pendingPart] at pending
  · simp [quarantined, Outbox.Standing.pendingPart] at pending

/-- The storage refuses to settle the published event. The worker forgets it
although the file has it as pending, and the next read, with no time passed,
publishes it again. -/
theorem refusedSettlement_forgets :
    ¬ AllSteps (fanoutStep sampleCodec sampleSha256) (Accounted sampleCodec sampleSha256)
        (Worker.spawn (FileOutbox.fresh 8))
        (deferredSample none ++ [settleSample (some (.storage (.write 0)))]) ∧
      ¬ HeldBack sampleCodec sampleSha256 (Worker.spawn (FileOutbox.fresh 8))
        (deferredSample none ++
          [settleSample (some (.storage (.write 0))), .read none 0 20000 (.stored _ _)]) := by
  constructor
  · intro steps
    have forgotten := steps.last.1 (sampleEvent 1).key (by unfold Forgets; decide +kernel)
    refine not_durablyRecorded
      [.pending (sampleEvent 1).key [1] none none (some 0),
        .pending (sampleEvent 1).key [1] (some 10000) (some 1) (some 0)] ?_ ?_ forgotten
    · decide +kernel
    · decide +kernel
  · intro heldBack
    have failing : FailedSettlement sampleCodec (run (fanoutStep sampleCodec sampleSha256)
        (Worker.spawn (FileOutbox.fresh 8)) (deferredSample none)) (fun _ => .published)
        (some (.storage (.write 0))) (fun _ => 20000) (sampleEvent 1).key := by
      refine ⟨[sampleEvent 1], by decide +kernel, by decide +kernel, fun ok => ?_⟩
      have refused := congrArg (fun result => (flatten result).isOk) ok
      revert refused
      decide +kernel
    have publishes : Publishes (run (fanoutStep sampleCodec sampleSha256)
        (Worker.spawn (FileOutbox.fresh 8))
        (deferredSample none ++ [settleSample (some (.storage (.write 0)))]))
        none 0 20000 (.stored _ _) (sampleEvent 1).key :=
      ⟨by decide +kernel, [sampleEvent 1], by decide +kernel, by decide +kernel⟩
    obtain ⟨-, early⟩ := heldBack (deferredSample none) _ _ _ _ _ [] none 0 20000 (.stored _ _) []
      (sampleEvent 1).key (List.append_assoc _ [settleSample (some (.storage (.write 0)))] _).symm
      failing publishes
    revert early
    decide +kernel

end Apex.Fanout
