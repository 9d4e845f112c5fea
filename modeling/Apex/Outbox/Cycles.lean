import Apex.Outbox.Publisher

/-!
Replay cycles keep the events of a batch apart.

An event that was published is complete at the end of its cycle, no other event's
failure raises its attempts, and an event that fails every time is quarantined at
its eighth failure (`cycles_isolated`): in every run in which no publisher panics,
every record of a cycle passes the checks of the outbox, no write fails, and no
restart brings back the attempts of an earlier round. A batch is written as a
whole, so a record that is refused is refused for all of them; and a publisher
that panics at one event leaves the others of its batch unsettled
(`panickingCycle_not_isolated`).
-/

namespace Apex.Outbox

open Checked Domain Lines Runs Saturating OutboxState FileOutbox List Option KeyMap RowView AList
open Fanout (PublishResult pendingBatch publishedKeys failedKeys pendingBatch_spec keys_perm
  completions_of_pending)

variable {codec : EnvelopeCodec} {sha256 : List UInt8 → Fingerprint} {capacity : Nat}
  {outbox : FileOutbox}

/-! ### Writes that fit -/

/-- A batch that the outbox accepts. -/
def FileOutbox.Fits (outbox : FileOutbox) (records : List FileOutboxRecord) : Prop :=
  records = [] ∨ outbox.checkBatch records = .ok ()

instance (outbox : FileOutbox) (records : List FileOutboxRecord) :
    Decidable (outbox.Fits records) :=
  inferInstanceAs (Decidable (_ ∨ _))

/-- Two batches that fit together fit one after the other. -/
theorem FileOutbox.Fits.split {first second} (fits : outbox.Fits (first ++ second))
    {after : FileOutbox} (written : after.journal = outbox.journal ++ encodeBatch first) :
    outbox.Fits first ∧ after.Fits second := by
  refine ⟨checked_append fits, ?_⟩
  rcases fits with none | fits
  · exact .inl (append_eq_nil_iff.mp none).2
  · obtain ⟨short, small⟩ := checkBatch_eq_ok.mp fits
    refine .inr (checkBatch_eq_ok.mpr ⟨fun record mem => ?_, ?_⟩)
    · exact short record (mem_append_right _ mem)
    · rw [written]
      simp only [encodeBatch, map_append, unlines_append, byteLength_append] at small ⊢
      omega

/-- A plan whose records fit is carried out. -/
theorem FileOutbox.commitWith_of_fits {α : Type} {plan : Plan α} (fits : outbox.Fits plan.records) :
    outbox.commitWith none (.ok plan) =
      (.ok plan.answer, ⟨outbox.journal ++ encodeBatch plan.records, plan.success⟩) ∧
    (outbox.commit (.ok plan)).2 = ⟨outbox.journal ++ encodeBatch plan.records, plan.success⟩ := by
  have appended := appendBatch_eq_ok.mpr ⟨fits, rfl⟩
  have committed : outbox.commit (.ok plan) =
      (.ok plan.answer, ⟨outbox.journal ++ encodeBatch plan.records, plan.success⟩) := by
    simp only [commit, appended]
  constructor
  · have same := @HeldOutbox.commit_none ⟨outbox, true⟩ α rfl (.ok plan)
    rw [commitWith, same]
    dsimp only
    rw [committed]
    rfl
  · rw [committed]

/-! ### The groups of a cycle -/

namespace OutboxedPublisher

/-- The keys are grouped by the delay their counts lead to. -/
theorem noteAttempts_groups (sha256 : List UInt8 → Fingerprint) {keys : List OutboxKey}
    (distinct : keys.Nodup) (retries : Retries) :
    (keys.foldl (noteAttempt sha256) retries).groups =
      KeyMap.pushAll (fun key =>
        retryDelay sha256 key (next32 ((retries.attempts.lookup key).getD 0))) retries.groups
        keys := by
  induction keys generalizing retries with
  | nil => rfl
  | cons first rest ih =>
    obtain ⟨apart, distinct⟩ := nodup_cons.mp distinct
    rw [foldl_cons, ih distinct]
    refine pushAll_congr (fun key mem => ?_) _
    have other : key ≠ first := by
      rintro rfl
      exact apart mem
    have same : (noteAttempt sha256 retries first).attempts.lookup key =
        retries.attempts.lookup key := by
      unfold noteAttempt
      dsimp only
      split_ifs
      · exact lookup_erase_ne other
      · exact lookup_insert_ne other
    rw [same]

/-- The records of a group. -/
def groupRecords (cycle : Cycle) (state : OutboxState) (group : (Nat × List OutboxKey) × Nat) :
    List FileOutboxRecord :=
  (state.reschedule group.1.2 (UInt64.ofNat group.1.1) (cycle.retryClock group.2)).records

/-- Groups of different keys are put back one after the other. -/
theorem rescheduleGroups {cycle : Cycle} (sound : ∀ index, cycle.retryFault index = none)
    {groups : List ((Nat × List OutboxKey) × Nat)}
    (distinct : (groups.flatMap fun group => group.1.2).Nodup)
    (faithful : Faithful codec capacity outbox)
    (fits : outbox.Fits (groups.flatMap (groupRecords cycle outbox.state)))
    (error : Option GatewayError) :
    Faithful codec capacity (groups.foldl (rescheduleGroup cycle) (outbox, error)).1 ∧
      ∀ key, (key ∈ groups.flatMap (fun group => group.1.2) → ∃ next,
          (groups.foldl (rescheduleGroup cycle) (outbox, error)).1.state.row key =
            (outbox.state.row key).reschedule next) ∧
        (key ∉ groups.flatMap (fun group => group.1.2) →
          (groups.foldl (rescheduleGroup cycle) (outbox, error)).1.state.row key =
            outbox.state.row key) := by
  induction groups generalizing outbox error with
  | nil => exact ⟨faithful, fun key => ⟨nofun, fun _ => rfl⟩⟩
  | cons group rest ih =>
    obtain ⟨⟨delay, keys⟩, index⟩ := group
    rw [flatMap_cons, nodup_append] at distinct
    obtain ⟨here, later, apart⟩ := distinct
    set plan := outbox.state.reschedule keys (UInt64.ofNat delay) (cycle.retryClock index)
      with isPlan
    set after : FileOutbox := ⟨outbox.journal ++ encodeBatch plan.records,
      plan.success⟩ with isAfter
    rw [flatMap_cons] at fits
    have written : after.journal = outbox.journal ++ encodeBatch plan.records := rfl
    obtain ⟨fitsHere, fitsLater⟩ := fits.split written
    obtain ⟨done, committed⟩ := @commitWith_of_fits outbox _ plan fitsHere
    have stepped : rescheduleGroup cycle (outbox, error) ((delay, keys), index) =
        (after, error) := by
      simp only [rescheduleGroup, sound, ← isPlan, done]
      rfl
    have rows : ∀ key, after.state.row key =
        if key ∈ keys then
          (outbox.state.row key).reschedule (add64 (cycle.retryClock index) (UInt64.ofNat delay))
        else outbox.state.row key :=
      reschedule_row here _ _
    have faithfulAfter : Faithful codec capacity after := by
      rw [isAfter, ← committed]
      let op : AppendOp codec :=
        .reschedule keys (UInt64.ofNat delay) (cycle.retryClock index)
      exact @AppendOp.serve_faithful codec capacity outbox faithful op fitsHere
    -- The later groups find their rows as they were.
    have same : rest.flatMap (groupRecords cycle outbox.state) =
        rest.flatMap (groupRecords cycle after.state) := by
      refine flatMap_congr fun group mem => ?_
      have listed {key : OutboxKey} (inGroup : key ∈ group.1.2) :
          key ∈ rest.flatMap fun group => group.1.2 := mem_flatMap.mpr ⟨group, mem, inGroup⟩
      refine reschedule_records_congr ?_ _ _ fun key inGroup => ?_
      · exact (nodup_flatMap.mp later).1 group mem
      · rw [rows, if_neg fun early => apart key early key (listed inGroup) rfl]
    rw [same] at fitsLater
    obtain ⟨faithful', rest'⟩ := ih later faithfulAfter fitsLater error
    rw [foldl_cons, stepped]
    refine ⟨faithful', fun key => ⟨fun mem => ?_, fun out => ?_⟩⟩
    · rw [flatMap_cons] at mem
      rcases mem_append.mp mem with early | late
      · refine ⟨add64 (cycle.retryClock index) (UInt64.ofNat delay), ?_⟩
        rw [(rest' key).2 fun late => apart key early key late rfl, rows, if_pos early]
      · obtain ⟨next, is⟩ := (rest' key).1 late
        rw [rows, if_neg fun early => apart key early key late rfl] at is
        exact ⟨next, is⟩
    · rw [flatMap_cons] at out
      obtain ⟨notEarly, notLate⟩ := not_or.mp fun either => out (mem_append.mpr either)
      rw [(rest' key).2 notLate, rows, if_neg notEarly]

end OutboxedPublisher

/-! ### The published events -/

/-- Completions settle the rows of their keys and no others. -/
theorem OutboxState.insertCompletes_row (completions : List Completion) (state : OutboxState)
    (key : OutboxKey) :
    ((∃ completion ∈ completions, completion.key = key) → ∃ event completedAt,
      (completions.foldl (fun state completion => state.insertComplete codec completion)
        state).row key = (state.row key).settle codec event completedAt) ∧
      ((∀ completion ∈ completions, completion.key ≠ key) →
        (completions.foldl (fun state completion => state.insertComplete codec completion)
          state).row key = state.row key) := by
  induction completions generalizing state with
  | nil => exact ⟨nofun, fun _ => rfl⟩
  | cons first rest ih =>
    have changes : ChangesRow state (state.insertComplete codec first) first.key _ :=
      state.insertComplete_row first
    obtain ⟨settled, kept⟩ := ih (state.insertComplete codec first)
    rw [foldl_cons]
    constructor
    · rintro ⟨completion, mem, rfl⟩
      by_cases again : ∃ later ∈ rest, later.key = completion.key
      · -- A second completion writes the same fields once more.
        obtain ⟨event, completedAt, is⟩ := settled again
        refine ⟨event, completedAt, is.trans ?_⟩
        rw [changes.row]
        split_ifs with here
        · rw [here]
          rfl
        · rfl
      · rcases mem_cons.mp mem with rfl | mem
        · refine ⟨completion.event, completion.completedAtMillis, ?_⟩
          rw [kept fun later mem is => again ⟨later, mem, is⟩, changes.here]
        · exact absurd ⟨completion, mem, rfl⟩ again
    · intro others
      obtain ⟨here, later⟩ := forall_mem_cons.mp others
      rw [kept later, changes.elsewhere (Ne.symm here)]

namespace OutboxedPublisher

variable {publisher : OutboxedPublisher} {cycle : Cycle}

/-- The records that settle some keys. -/
def settleRecords (codec : EnvelopeCodec) (state : OutboxState) (cycle : Cycle)
    (completed : List OutboxKey) : List FileOutboxRecord :=
  ((state.completions cycle.settleClock completed).toOption.getD []).map
    (OutboxState.completeRecord codec)

/-- A settlement that fits. -/
structure SettlesTo (codec : EnvelopeCodec) (capacity : Nat) (publisher : OutboxedPublisher)
    (cycle : Cycle) (completed : List OutboxKey) (after : FileOutbox) : Prop where
  settled : ∀ failed, publisher.settle codec cycle completed failed =
    ⟨⟨after, publisher.forget completed⟩, failed, none, !completed.isEmpty⟩
  faithful : Faithful codec capacity after
  journal : after.journal = publisher.outbox.journal ++
    FileOutbox.encodeBatch (settleRecords codec publisher.outbox.state cycle completed)
  published : ∀ key ∈ completed, ∃ event completedAt,
    after.state.row key = (publisher.outbox.state.row key).settle codec event completedAt
  others : ∀ key ∉ completed, after.state.row key = publisher.outbox.state.row key

theorem settlesTo (faithful : Faithful codec capacity publisher.outbox)
    (sound : cycle.settleFault = none) {completed}
    (pending : ∀ key ∈ completed, ∃ event, publisher.outbox.state.pending.lookup key = some event)
    (fits : publisher.outbox.Fits
      (settleRecords codec publisher.outbox.state cycle completed)) :
    ∃ after, SettlesTo codec capacity publisher cycle completed after := by
  by_cases none : completed = []
  · subst none
    refine ⟨publisher.outbox, fun failed => ?_, faithful, ?_, nofun, fun _ _ => rfl⟩
    · have same : publisher.forget [] = publisher.retryAttempts := retain_true _
      rw [settle, if_pos isEmpty_nil, same]
      rfl
    · exact (append_nil _).symm
  · obtain ⟨completions, found⟩ := completions_of_pending cycle.settleClock pending
    obtain ⟨taken, covered⟩ := completions_eq_ok found
    set plan : Plan Unit := {
      records := completions.map (completeRecord codec)
      answer := ()
      success := completions.foldl
        (fun state completion => state.insertComplete codec completion) publisher.outbox.state
      failure := publisher.outbox.state } with isPlan
    have planned : publisher.outbox.state.markCompleteMany codec completed cycle.settleClock =
        .ok plan := by
      rw [markCompleteMany, found]
      rfl
    have records : settleRecords codec publisher.outbox.state cycle completed = plan.records := by
      rw [settleRecords, found]
      rfl
    rw [records] at fits
    obtain ⟨done, committed⟩ := @commitWith_of_fits publisher.outbox _ plan fits
    set after : FileOutbox :=
      ⟨publisher.outbox.journal ++ encodeBatch plan.records, plan.success⟩ with isAfter
    refine ⟨after, fun failed => ?_, ?_, by rw [records], fun key mem => ?_, fun key out => ?_⟩
    · have some : completed.isEmpty = false := by simpa using none
      rw [settle, some, planned, sound, done]
      rfl
    · rw [← committed, ← planned]
      let op : AppendOp codec := .markCompleteMany completed cycle.settleClock
      exact @AppendOp.serve_faithful codec capacity publisher.outbox faithful op trivial
    · refine (insertCompletes_row completions _ key).1 ?_
      refine (covered key mem).resolve_left fun complete => ?_
      obtain ⟨event, waits⟩ := pending key mem
      exact (faithful.sound.valid.pendingOnly key (mem_of_lookup waits)).1 complete
    · refine (insertCompletes_row completions _ key).2 fun completion mem own => ?_
      rw [← own] at out
      exact out (taken completion mem).1

/-! ### One cycle -/

/-- The records a cycle writes. -/
def cycleRecords (codec : EnvelopeCodec) (sha256 : List UInt8 → Fingerprint)
    (publisher : OutboxedPublisher) (cycle : Cycle) : List FileOutboxRecord :=
  let pending := publisher.batch cycle
  let completed := publishedKeys cycle.publish pending
  let retries := (failedKeys cycle.publish pending).foldl (noteAttempt sha256)
    ⟨publisher.forget completed, ∅⟩
  settleRecords codec publisher.outbox.state cycle completed ++
    (cycle.order.order retries.groups).zipIdx.flatMap
      (groupRecords cycle publisher.outbox.state)

/-- No publish of the cycle panics, no write fails, and all records fit. -/
structure Undisturbed (codec : EnvelopeCodec) (sha256 : List UInt8 → Fingerprint)
    (publisher : OutboxedPublisher) (cycle : Cycle) : Prop where
  calm : ∀ event ∈ publisher.batch cycle, cycle.publish event ≠ .panicked
  settles : cycle.settleFault = none
  reschedules : ∀ index, cycle.retryFault index = none
  fits : publisher.outbox.Fits (cycleRecords codec sha256 publisher cycle)

/-- What an undisturbed cycle does to the rows. -/
structure CycleRows (codec : EnvelopeCodec) (publish : IngestRequest → PublishResult)
    (batch : List IngestRequest) (before after : OutboxState) : Prop where
  published : ∀ key ∈ publishedKeys publish batch, ∃ event completedAt,
    after.row key = (before.row key).settle codec event completedAt
  failed : ∀ key ∈ failedKeys publish batch, ∃ next,
    after.row key = (before.row key).reschedule next
  others : ∀ key, key ∉ batch.map IngestRequest.key → after.row key = before.row key

theorem replayPendingInner_rows (faithful : Faithful codec capacity publisher.outbox)
    (undisturbed : Undisturbed codec sha256 publisher cycle) :
    Faithful codec capacity (publisher.replayPendingInner codec sha256 cycle).2.outbox ∧
      CycleRows codec cycle.publish (publisher.batch cycle) publisher.outbox.state
        (publisher.replayPendingInner codec sha256 cycle).2.outbox.state := by
  set batch := publisher.batch cycle with isBatch
  obtain ⟨distinct, waits⟩ := pendingBatch_spec faithful.sound.valid cycle.scan replayBatchSize
    cycle.now
  have perm := keys_perm cycle.publish batch
  have split := perm.nodup_iff.mpr distinct
  obtain ⟨distinctFailed, -, apart⟩ := List.nodup_append.mp split
  have quiet : ¬ (batch.any (cycle.publish · = .panicked)) = true := by
    rw [List.any_eq_true]
    rintro ⟨event, mem, panicked⟩
    exact undisturbed.calm event mem (of_decide_eq_true panicked)
  have pending : ∀ key ∈ publishedKeys cycle.publish batch, ∃ event,
      publisher.outbox.state.pending.lookup key = some event := by
    intro key mem
    obtain ⟨event, inBatch, rfl⟩ := List.mem_map.mp mem
    exact ⟨event, waits event (List.mem_filter.mp inBatch).1⟩
  have fits := undisturbed.fits
  rw [cycleRecords, ← isBatch] at fits
  obtain ⟨after, settles⟩ := settlesTo faithful undisturbed.settles pending (checked_append fits)
  set retries := (failedKeys cycle.publish batch).foldl (noteAttempt sha256)
    ⟨publisher.forget (publishedKeys cycle.publish batch), ∅⟩ with isRetries
  have groups := noteAttempts_groups sha256 distinctFailed
    ⟨publisher.forget (publishedKeys cycle.publish batch), ∅⟩
  rw [← isRetries] at groups
  have keys : ((cycle.order.order retries.groups).zipIdx.flatMap fun group => group.1.2) =
      (cycle.order.order retries.groups).flatMap Prod.snd := by
    have paired : ((cycle.order.order retries.groups).zipIdx.map Prod.fst).flatMap Prod.snd =
        (cycle.order.order retries.groups).zipIdx.flatMap fun group => group.1.2 :=
      List.flatMap_map _ _ _
    rw [← paired, List.zipIdx_map_fst]
  have listed (key : OutboxKey) :
      key ∈ ((cycle.order.order retries.groups).zipIdx.flatMap fun group => group.1.2) ↔
        key ∈ failedKeys cycle.publish batch := by
    rw [keys, groups]
    exact cycle.order.mem_flatMap_order_pushAll _ _
  have distinctGroups :
      ((cycle.order.order retries.groups).zipIdx.flatMap fun group => group.1.2).Nodup := by
    rw [keys, groups]
    exact cycle.order.nodup_flatMap_order_pushAll _ _ distinctFailed
  -- The failed events find their rows as they were before the settlement.
  have untouched : ∀ key ∈ failedKeys cycle.publish batch,
      after.state.row key = publisher.outbox.state.row key :=
    fun key mem => settles.others key fun other => apart key mem key other rfl
  have records : (cycle.order.order retries.groups).zipIdx.flatMap
        (groupRecords cycle publisher.outbox.state) =
      (cycle.order.order retries.groups).zipIdx.flatMap (groupRecords cycle after.state) := by
    refine List.flatMap_congr fun group mem => ?_
    refine reschedule_records_congr ?_ _ _ fun key inGroup => ?_
    · exact (List.nodup_flatMap.mp distinctGroups).1 group mem
    · exact (untouched key ((listed key).mp (List.mem_flatMap.mpr ⟨group, mem, inGroup⟩))).symm
  obtain ⟨-, fitsLater⟩ := fits.split settles.journal
  rw [records] at fitsLater
  obtain ⟨faithful', rows⟩ := rescheduleGroups undisturbed.reschedules distinctGroups
    settles.faithful fitsLater none
  have ends : (publisher.replayPendingInner codec sha256 cycle).2.outbox =
      ((cycle.order.order retries.groups).zipIdx.foldl (rescheduleGroup cycle)
        (after, none)).1 := by
    simp only [replayPendingInner, ← isBatch, if_neg quiet, settles.settled, ← isRetries]
  rw [ends]
  refine ⟨faithful', fun key mem => ?_, fun key mem => ?_, fun key out => ?_⟩
  · obtain ⟨event, completedAt, is⟩ := settles.published key mem
    refine ⟨event, completedAt, ?_⟩
    rw [(rows key).2 fun failed => apart key ((listed key).mp failed) key mem rfl, is]
  · obtain ⟨next, is⟩ := (rows key).1 ((listed key).mpr mem)
    exact ⟨next, by rw [is, untouched key mem]⟩
  · have neither := fun either => out (perm.mem_iff.mp (List.mem_append.mpr either))
    obtain ⟨notFailed, notPublished⟩ := not_or.mp neither
    rw [(rows key).2 fun failed => notFailed ((listed key).mp failed),
      settles.others key notPublished]

end OutboxedPublisher

/-! ### Runs -/

/-- The request is not one of the worker's own. -/
def Request.Outside : Request codec → Prop
  | .call (.enqueue _ _ _) | .call (.requeueQuarantined _ _) => True
  | .call _ => False
  | _ => True

/-- A replay cycle, or what happens to the outbox between two cycles. A restart
forgets the failures counted in memory. -/
inductive ReplayAction (codec : EnvelopeCodec) where
  | cycle (cycle : Cycle)
  | other (request : Request codec) (outside : request.Outside)

/-- A run of cycles, with the failed attempts of every event since it became
pending. After a restart that failed there is no publisher. -/
structure Replaying where
  publisher : Option OutboxedPublisher
  failures : OutboxKey → Nat

def Request.isReopen : Request codec → Bool
  | .reopen _ => true
  | _ => false

def replayStep (codec : EnvelopeCodec) (sha256 : List UInt8 → Fingerprint) (capacity : Nat)
    (replaying : Replaying) (action : ReplayAction codec) : Replaying :=
  match replaying.publisher, action with
  | none, _ => replaying
  | some publisher, .cycle cycle =>
      { publisher := some (publisher.replayPendingInner codec sha256 cycle).2
        failures := fun key =>
          if key ∈ failedKeys cycle.publish (attempted cycle.publish (publisher.batch cycle)) then
            replaying.failures key + 1
          else replaying.failures key }
  | some publisher, .other request _ =>
      match outboxAfter codec capacity (some publisher.outbox) request with
      | none => { replaying with publisher := none }
      | some outbox =>
          { publisher := some ⟨outbox, if request.isReopen then ∅ else publisher.retryAttempts⟩
            failures := fun key =>
              if key ∉ publisher.outbox.state.pending ∧ key ∈ outbox.state.pending then 0
              else replaying.failures key }

/-- A cycle that keeps its events apart: what was published is complete, attempts
are raised by an event's own failure only, and exactly the events that failed for
the eighth time are newly quarantined. -/
structure KeepsApart (publish : IngestRequest → PublishResult) (tried : List IngestRequest)
    (failures : OutboxKey → Nat) (before after : OutboxState) : Prop where
  complete : ∀ event ∈ tried, (publish event).isOk = true → event.key ∈ after.complete
  raised : ∀ key, before.made key < after.made key → key ∈ failedKeys publish tried
  below : ∀ key ∈ failedKeys publish tried, failures key < 8
  quarantined : ∀ key, key ∈ after.quarantined ↔ key ∈ before.quarantined ∨
    key ∈ failedKeys publish tried ∧ failures key + 1 = 8

/-- The cycle of a step keeps its events apart. -/
def Isolated (codec : EnvelopeCodec) (sha256 : List UInt8 → Fingerprint) (replaying : Replaying) :
    ReplayAction codec → Prop
  | .cycle cycle => ∀ publisher, replaying.publisher = some publisher →
      KeepsApart cycle.publish (attempted cycle.publish (publisher.batch cycle))
        replaying.failures publisher.outbox.state
        (publisher.replayPendingInner codec sha256 cycle).2.outbox.state
  | .other _ _ => True

/-- A cycle is undisturbed; a sweep writes no line over the record limit; and at a
restart the last pending record of a row that is not pending is without retry
data. -/
def Steady (codec : EnvelopeCodec) (sha256 : List UInt8 → Fingerprint) (replaying : Replaying) :
    ReplayAction codec → Prop
  | .cycle cycle => ∀ publisher, replaying.publisher = some publisher →
      publisher.Undisturbed codec sha256 cycle
  | .other request _ => ∀ publisher, replaying.publisher = some publisher →
      Restartable codec (some publisher.outbox) request

/-! ### What a step does to the attempts -/

namespace RowView

/-- The attempts a row has made. -/
def made (row : RowView) : Nat :=
  (row.attempts.getD 0).toNat

/-- A pending row with attempts left is tried again or, with its eighth attempt
made, isolated. -/
theorem reschedule_cases {row : RowView} (waits : row.pending.isSome) (below : row.made < 8)
    (next : UInt64) :
    row.nextAttempt.toNat = row.made + 1 ∧
      (row.made + 1 < 8 ∧ row.reschedule next = row.retry next row.nextAttempt ∨
        row.made + 1 = 8 ∧ row.reschedule next = row.isolate) := by
  have fewer : row.attempts.getD 0 < maxPersistedAttempts := UInt32.lt_iff_toNat_lt.mpr below
  have counted : row.nextAttempt.toNat = row.made + 1 := toNat_next32_of_below fewer
  refine ⟨counted, ?_⟩
  by_cases again : row.nextAttempt < maxPersistedAttempts
  · left
    have less := UInt32.lt_iff_toNat_lt.mp again
    rw [counted] at less
    exact ⟨less, by simp [reschedule, retries, waits, again]⟩
  · right
    have reached := UInt32.le_iff_toNat_le.mp (UInt32.not_lt.mp again)
    rw [counted] at reached
    refine ⟨Nat.le_antisymm below reached, ?_⟩
    simp [reschedule, retries, exhausted, waits, again, UInt32.not_lt.mp again]

/-- The attempts are as they were, and a pending row stays so. -/
structure Spares (before after : RowView) : Prop where
  attempts : after.attempts = before.attempts
  pending : before.pending.isSome → after.pending = before.pending

theorem Spares.refl (row : RowView) : row.Spares row :=
  ⟨rfl, fun _ => rfl⟩

end RowView

namespace OutboxState

variable {state : OutboxState}

theorem made_eq_row (state : OutboxState) (key : OutboxKey) :
    state.made key = (state.row key).made := rfl

theorem insertRequeueds_spares (valid : state.Valid codec) (now : UInt64) (keys : List OutboxKey)
    (key : OutboxKey) :
    (state.row key).Spares ((keys.foldl (insertRequeued now) state).row key) := by
  rw [row_foldl (insertRequeued_moves now).changes (insertRequeued_moves now).again]
  split_ifs
  · unfold release
    cases quarantined : (state.row key).quarantined with
    | none => exact .refl _
    | some event =>
      refine ⟨rfl, fun waits => ?_⟩
      have out := (valid.pendingOnly key (mem_iff_isSome.mpr waits)).2
      cases (lookup_eq_none.mpr out).symm.trans quarantined
  · exact .refl _

end OutboxState

theorem OutboxState.enqueue_spares {state : OutboxState} (valid : state.Valid codec)
    {event now plan} (planned : state.enqueue codec event now = .ok plan) (key : OutboxKey) :
    (state.row key).Spares (plan.failure.row key) ∧
      (state.row key).Spares (plan.success.row key) := by
  rcases enqueue_cases planned with ⟨answer, rfl⟩ | ⟨fresh, -, rfl⟩
  · exact ⟨.refl _, .refl _⟩
  · refine ⟨.refl _, ?_⟩
    have arrived := (state.insertPending_row event now).row key
    change (state.row key).Spares ((state.insertPending event now).row key)
    rw [arrived]
    split_ifs with here
    · subst here
      refine ⟨rfl, fun waits => ?_⟩
      have none : (state.row event.key).pending = none := valid.pending_eq_none (by simp [fresh])
      rw [none] at waits
      cases waits
    · exact .refl _

theorem FileOutbox.commit_spares {α : Type} (outbox : FileOutbox)
    (plan : Except GatewayError (Plan α)) {key}
    (planned : ∀ p, plan = .ok p → (outbox.state.row key).Spares (p.failure.row key) ∧
      (outbox.state.row key).Spares (p.success.row key)) :
    (outbox.state.row key).Spares ((outbox.commit plan).2.state.row key) := by
  cases plan with
  | error e => exact .refl _
  | ok p =>
    obtain ⟨failure, success⟩ := planned p rfl
    unfold commit
    dsimp only
    split
    · exact failure
    · exact success

/-- What is not the worker's own leaves the attempts alone. -/
theorem outside_spares (capacityOk : CapacityOk capacity)
    (faithful : Faithful codec capacity outbox) {request : Request codec}
    (outside : request.Outside) (restartable : Restartable codec (some outbox) request) :
    ∃ after, outboxAfter codec capacity (some outbox) request = some after ∧
      Faithful codec capacity after ∧
      ∀ key, (outbox.state.row key).Spares (after.state.row key) := by
  obtain ⟨⟨after, is, faithful'⟩, -⟩ :=
    inFaith_step capacityOk ⟨outbox, rfl, faithful⟩ restartable
  refine ⟨after, is, faithful', fun key => ?_⟩
  have valid := faithful.sound.valid
  cases request with
  | call op =>
    cases op with
    | enqueue event admitted now =>
      obtain rfl : (outbox.commit (outbox.state.enqueue codec event now)).2 = after :=
        Option.some.inj is
      exact outbox.commit_spares _ fun plan planned =>
        enqueue_spares valid planned key
    | requeueQuarantined keys now =>
      obtain rfl : (outbox.commit (.ok (outbox.state.requeueQuarantined keys now))).2 =
          after := Option.some.inj is
      refine outbox.commit_spares _ fun plan planned => ?_
      cases planned
      exact ⟨.refl _, insertRequeueds_spares valid now keys key⟩
    | markComplete | markCompleteMany | reschedule | quarantine => exact outside.elim
  | maintain now retention scans clock =>
    obtain rfl : (outbox.maintain now retention scans.scan clock).2 = after :=
      Option.some.inj is
    rcases outbox.maintain_cases now retention scans.scan clock with same | ⟨_, -, -, swept⟩
    · rw [same]
      exact .refl _
    · rw [swept, FileOutbox.swept, removeCompleted_foldl_row]
      split_ifs
      · exact ⟨rfl, fun _ => rfl⟩
      · exact .refl _
  | read query =>
    obtain rfl : outbox = after := Option.some.inj is
    exact .refl _
  | reopen now =>
    obtain ⟨reopened, opens, -, same⟩ := faithful.reopen capacityOk restartable
    obtain rfl : reopened = after := by
      simpa [outboxAfter, serveOutbox, FileOutbox.serve, opens] using is
    rw [← same.state.row]
    exact .refl _

/-! ### Cycles keep their events apart -/

theorem attempted_of_calm {publish batch} (calm : ∀ event ∈ batch, publish event ≠ .panicked) :
    attempted publish batch = batch := by
  induction batch with
  | nil => rfl
  | cons event rest ih =>
    obtain ⟨here, later⟩ := forall_mem_cons.mp calm
    rw [attempted, if_neg here, ih later]

/-- There is a publisher, its outbox is faithful, and the attempts of a pending
event are its failures, fewer than eight. -/
def Counted (codec : EnvelopeCodec) (capacity : Nat) (replaying : Replaying) : Prop :=
  ∃ publisher, replaying.publisher = some publisher ∧
    Faithful codec capacity publisher.outbox ∧
    ∀ key, (publisher.outbox.state.row key).pending.isSome →
      (publisher.outbox.state.row key).made = replaying.failures key ∧
        (publisher.outbox.state.row key).made < 8

/-- What happens between two cycles keeps the count. -/
theorem Counted.other (capacityOk : CapacityOk capacity) {replaying}
    (counted : Counted codec capacity replaying) {request outside}
    (steady : Steady codec sha256 replaying (.other request outside)) :
    Counted codec capacity
      (replayStep codec sha256 capacity replaying (.other request outside)) := by
  obtain ⟨publisher, is, faithful, counts⟩ := counted
  obtain ⟨after, served, faithful', spares⟩ :=
    outside_spares capacityOk faithful outside (steady publisher is)
  refine ⟨⟨after, if request.isReopen then ∅ else publisher.retryAttempts⟩, ?_, faithful', ?_⟩
  · simp only [replayStep, is, served]
  · intro key waits
    have made : (after.state.row key).made = (publisher.outbox.state.row key).made := by
      rw [RowView.made, (spares key).attempts, RowView.made]
    simp only [replayStep, is, served, mem_iff_isSome]
    rw [made]
    by_cases before : (publisher.outbox.state.row key).pending.isSome
    · rw [if_neg fun fresh => fresh.1 before]
      exact counts key before
    · -- A row that was not pending has no attempts.
      have none : (publisher.outbox.state.row key).attempts = none :=
        ((faithful.orderly key).settled (by simpa using before)).2.1
      rw [if_pos ⟨before, waits⟩, RowView.made, none]
      exact ⟨rfl, by decide⟩

/-- What became of a row in an undisturbed cycle. -/
inductive Fate (codec : EnvelopeCodec) (publish : IngestRequest → PublishResult)
    (batch : List IngestRequest) (key : OutboxKey) (before after : RowView) : Prop where
  | settled (out : key ∉ failedKeys publish batch) (event : IngestRequest) (completedAt : UInt64)
      (row : after = before.settle codec event completedAt)
  | retried (failed : key ∈ failedKeys publish batch) (waits : before.pending.isSome)
      (fewer : before.made + 1 < 8) (next : UInt64)
      (counted : before.nextAttempt.toNat = before.made + 1)
      (row : after = before.retry next before.nextAttempt)
  | isolated (failed : key ∈ failedKeys publish batch) (waits : before.pending.isSome)
      (eighth : before.made + 1 = 8) (row : after = before.isolate)
  | untouched (out : key ∉ failedKeys publish batch) (row : after = before)

theorem OutboxedPublisher.CycleRows.fate {publish batch before after}
    (rows : CycleRows codec publish batch before after)
    (distinct : (batch.map IngestRequest.key).Nodup)
    (waits : ∀ event ∈ batch, before.pending.lookup event.key = some event)
    (below : ∀ key, (before.row key).pending.isSome → (before.row key).made < 8) (key : OutboxKey) :
    Fate codec publish batch key (before.row key) (after.row key) := by
  have perm := keys_perm publish batch
  by_cases mem : key ∈ batch.map IngestRequest.key
  · rw [← perm.mem_iff] at mem
    rcases mem_append.mp mem with failed | published
    · obtain ⟨event, inBatch, rfl⟩ := mem_map.mp failed
      have pending : (before.row event.key).pending.isSome :=
        isSome_iff_exists.mpr ⟨event, waits event (mem_filter.mp inBatch).1⟩
      obtain ⟨next, is⟩ := rows.failed event.key failed
      obtain ⟨counted, cases⟩ := reschedule_cases pending (below event.key pending) next
      rcases cases with ⟨fewer, row⟩ | ⟨eighth, row⟩
      · exact .retried failed pending fewer next counted (is.trans row)
      · exact .isolated failed pending eighth (is.trans row)
    · obtain ⟨event, completedAt, is⟩ := rows.published key published
      obtain ⟨-, -, apart⟩ := nodup_append.mp (perm.nodup_iff.mpr distinct)
      exact .settled (fun failed => apart key failed key published rfl) event completedAt is
  · refine .untouched (fun failed => mem ?_) (rows.others key mem)
    exact perm.mem_iff.mp (mem_append_left _ failed)

/-- An undisturbed cycle keeps the count, and keeps its events apart. -/
theorem Counted.cycle {replaying} (counted : Counted codec capacity replaying) {cycle}
    (steady : Steady codec sha256 replaying (.cycle cycle)) :
    Counted codec capacity (replayStep codec sha256 capacity replaying (.cycle cycle)) ∧
      Isolated codec sha256 replaying (.cycle cycle) := by
  obtain ⟨publisher, is, faithful, counts⟩ := counted
  have undisturbed := steady publisher is
  obtain ⟨faithful', rows⟩ := OutboxedPublisher.replayPendingInner_rows faithful undisturbed
  obtain ⟨distinct, waits⟩ := pendingBatch_spec faithful.sound.valid cycle.scan replayBatchSize
    cycle.now
  have tried := attempted_of_calm undisturbed.calm
  have fate := rows.fate distinct waits fun key pending => (counts key pending).2
  constructor
  · refine ⟨_, by simp only [replayStep, is], faithful', fun key pending => ?_⟩
    simp only [replayStep, is, tried]
    cases fate key with
    | settled out event completedAt row =>
      rw [row] at pending
      cases pending
    | retried failed waits fewer next counted row =>
      rw [row]
      have made : ((publisher.outbox.state.row key).retry next
          (publisher.outbox.state.row key).nextAttempt).made =
          (publisher.outbox.state.row key).made + 1 := counted
      rw [if_pos failed, made, (counts key waits).1]
      rw [(counts key waits).1] at fewer
      exact ⟨rfl, fewer⟩
    | isolated failed waits eighth row =>
      obtain ⟨event, found⟩ := isSome_iff_exists.mp waits
      rw [row, isolate, found] at pending
      cases pending
    | untouched out row =>
      rw [row] at pending ⊢
      rw [if_neg out]
      exact counts key pending
  · intro other is'
    obtain rfl := Option.some.inj (is.symm.trans is')
    rw [tried]
    refine ⟨fun event mem ok => ?_, fun key raised => ?_, fun key failed => ?_, fun key => ?_⟩
    · obtain ⟨stored, completedAt, row⟩ := rows.published event.key
        (mem_map_of_mem (mem_filter.mpr ⟨mem, ok⟩))
      refine mem_iff_isSome.mpr ?_
      have complete := congrArg RowView.complete row
      exact isSome_iff_exists.mpr ⟨_, complete⟩
    · rw [made_eq_row, made_eq_row] at raised
      cases fate key with
      | settled out event completedAt row =>
        rw [row] at raised
        exact absurd raised (Nat.not_lt_zero _)
      | retried failed | isolated failed => exact failed
      | untouched out row =>
        rw [row] at raised
        exact absurd raised (Nat.lt_irrefl _)
    · cases fate key with
      | settled out | untouched out => exact absurd failed out
      | retried _ waits | isolated _ waits =>
        rw [← (counts key waits).1]
        exact (counts key waits).2
    · have held (state : OutboxState) :
          key ∈ state.quarantined ↔ (state.row key).quarantined.isSome := mem_iff_isSome
      rw [held, held]
      cases fate key with
      | settled out event completedAt row =>
        rw [row]
        simp [settle, out]
      | retried failed waits fewer next counted row =>
        obtain ⟨same, -⟩ := counts key waits
        have early : replaying.failures key + 1 ≠ 8 := by omega
        rw [row]
        simp [retry, early]
      | isolated failed waits eighth row =>
        obtain ⟨same, -⟩ := counts key waits
        have late : replaying.failures key + 1 = 8 := by omega
        obtain ⟨event, found⟩ := isSome_iff_exists.mp waits
        rw [row]
        simp [isolate, found, failed, late]
      | untouched out row =>
        rw [row]
        simp [out]

/-- A process that has just opened a new file. -/
def Replaying.fresh (capacity : Nat) : Replaying where
  publisher := some ⟨FileOutbox.fresh capacity, ∅⟩
  failures := fun _ => 0

/-- In every run of undisturbed cycles, with sweeps that write no line over the
record limit and restarts that find no retry data in the last pending record of a
row that is not pending, every cycle keeps its events apart. -/
theorem cycles_isolated (codec : EnvelopeCodec) (sha256 : List UInt8 → Fingerprint)
    (capacityOk : CapacityOk capacity) (actions : List (ReplayAction codec))
    (steady : AllSteps (replayStep codec sha256 capacity) (Steady codec sha256)
      (.fresh capacity) actions) :
    AllSteps (replayStep codec sha256 capacity) (Isolated codec sha256) (.fresh capacity)
      actions := by
  have start : Counted codec capacity (.fresh capacity) :=
    ⟨_, rfl, fresh_faithful capacity, fun key pending => nomatch pending⟩
  have keep : ∀ replaying action, Counted codec capacity replaying →
      Steady codec sha256 replaying action →
      Counted codec capacity (replayStep codec sha256 capacity replaying action) := by
    intro replaying action counted steady
    cases action with
    | cycle cycle => exact (counted.cycle steady).1
    | other request outside => exact counted.other capacityOk steady
  have conclude : ∀ replaying action, Counted codec capacity replaying →
      Steady codec sha256 replaying action → Isolated codec sha256 replaying action := by
    intro replaying action counted steady
    cases action with
    | cycle cycle => exact (counted.cycle steady).2
    | other request outside => trivial
  exact allSteps_of_allSteps keep conclude start steady

/-- A cycle in which nothing is written that fails. -/
def quietCycle (publish : IngestRequest → PublishResult) : Cycle where
  now := 0
  scan := Scan.stored _ _
  publish := publish
  settleFault := none
  settleClock := fun _ => 0
  order := Scan.stored _ _
  retryFault := fun _ => none
  retryClock := fun _ => 0

def noDigest (_ : List UInt8) : Fingerprint :=
  .zero

/-- Two events are enqueued. -/
def twoEnqueued : List (ReplayAction sampleCodec) :=
  [.other (.call (enqueueSample 2)) trivial, .other (.call (enqueueSample 1)) trivial]

def afterTwoEnqueued : Replaying :=
  run (replayStep sampleCodec noDigest 8) (.fresh 8) twoEnqueued

/-- A cycle that publishes the first event and meets this result with the second. -/
def firstPublished (second : PublishResult) : Cycle :=
  quietCycle fun event => if event = sampleEvent 2 then second else .published

/-- A decidable fact about the publisher. -/
theorem afterTwoEnqueued_publisher (P : OutboxedPublisher → Prop) [DecidablePred P]
    (all : afterTwoEnqueued.publisher.all (fun publisher => decide (P publisher)) = true)
    {publisher} (is : afterTwoEnqueued.publisher = some publisher) :
    P publisher := by
  rw [is] at all
  exact of_decide_eq_true all

theorem cycles_isolated_failed :
    AllSteps (replayStep sampleCodec noDigest 8) (Isolated sampleCodec noDigest) (.fresh 8)
      (twoEnqueued ++ [.cycle (firstPublished .failed)]) := by
  refine cycles_isolated sampleCodec noDigest (by decide) _
    (allSteps_append.mpr ⟨⟨fun _ _ => trivial, fun _ _ => trivial, trivial⟩, ?_, trivial⟩)
  intro publisher is
  refine ⟨?_, rfl, fun _ => rfl, ?_⟩
  · exact afterTwoEnqueued_publisher (fun publisher =>
      ∀ event ∈ publisher.batch (firstPublished .failed),
        (firstPublished .failed).publish event ≠ .panicked) (by decide +kernel) is
  · exact afterTwoEnqueued_publisher (fun publisher => publisher.outbox.Fits
      (publisher.cycleRecords sampleCodec noDigest (firstPublished .failed))) (by decide +kernel) is

/-- The publisher panics at the second event: the first one was published, and is
not complete. -/
theorem panickingCycle_not_isolated :
    ¬ AllSteps (replayStep sampleCodec noDigest 8) (Isolated sampleCodec noDigest) (.fresh 8)
      (twoEnqueued ++ [.cycle (firstPublished .panicked)]) := by
  intro isolated
  have there : afterTwoEnqueued.publisher.isSome = true := by decide +kernel
  obtain ⟨publisher, is⟩ := Option.isSome_iff_exists.mp there
  have apart := isolated.last publisher is
  have tried := afterTwoEnqueued_publisher (fun publisher =>
    sampleEvent 1 ∈ attempted (firstPublished .panicked).publish
      (publisher.batch (firstPublished .panicked))) (by decide +kernel) is
  have open_ := afterTwoEnqueued_publisher (fun publisher => (sampleEvent 1).key ∉
    (publisher.replayPendingInner sampleCodec noDigest
      (firstPublished .panicked)).2.outbox.state.complete) (by decide +kernel) is
  exact open_ (apart.complete (sampleEvent 1) tried (by decide +kernel))

end Apex.Outbox
