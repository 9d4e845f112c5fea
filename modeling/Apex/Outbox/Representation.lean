import Apex.Outbox.Backends
import Apex.Outbox.Restart

/-!
The maps of the file-backed outbox, against each other.

The live operations and the sweeps keep every event in one place, within the
capacity, a pending one with its arrival time, a completed one with the fingerprint
of its bytes, and retry data with pending events only, also where a write fails and
leaves nothing in the file. A restart keeps all of it but the last: the replay of a
completed or quarantined record leaves the retry data of its event in place.
-/

namespace Apex.Outbox

open Checked Domain FileOutbox Lines OutboxState RowView Runs List AList

variable {codec : EnvelopeCodec} {capacity : Nat} {outbox reopened : FileOutbox} {now : UInt64}
  {state after : OutboxState} {records : List FileOutboxRecord} {held : HeldOutbox}

/-- What a request leaves, with what goes wrong in it. -/
def heldAfter (codec : EnvelopeCodec) (capacity : Nat) :
    Option HeldOutbox → Request codec × Faults → Option HeldOutbox
  | none, _ => none
  | some held, (.call op, faults) => some (held.commit faults.append (op.plan held.state)).2
  | some held, (.maintain now retention scans clock, faults) =>
      some (held.maintain faults.compact now retention scans.scan clock).2
  | some held, (.read _, _) => some held
  | some held, (.reopen now, _) =>
      (FileOutbox.open codec capacity now held.journal).toOption.map (⟨·, true⟩)

/-- The sets of pending, complete and quarantined events are disjoint and within the
capacity; every pending event has an arrival time; the fingerprint of a completed one
is that of the bytes kept with it; and only pending ones have retry data. -/
structure Represented (codec : EnvelopeCodec) (state : OutboxState) : Prop where
  pendingOnly : ∀ key ∈ state.pending, key ∉ state.complete ∧ key ∉ state.quarantined
  completeOnly : ∀ key ∈ state.complete, key ∉ state.quarantined
  withinCapacity : state.size ≤ state.capacity
  dated : ∀ key ∈ state.pending, key ∈ state.pendingSinceMillis
  fingerprinted : ∀ key fingerprint, state.complete.lookup key = some fingerprint →
    ∃ event, state.completeEvents.lookup key = some event ∧
      fingerprint = some (codec.fingerprint event.envelope)
  tried : ∀ key, key ∈ state.attempts ∨ key ∈ state.nextAttemptAtMillis → key ∈ state.pending

/-- The capacity and the sizes of the file and of its records are within the limits. -/
def Readable (capacity : Nat) (journal : List Char) : Prop :=
  CapacityOk capacity ∧ byteLength journal ≤ maxOutboxFileBytes ∧
    ∀ record ∈ journalRecords journal, byteLength record.encode ≤ maxOutboxRecordBytes

/-- The last pending record of an event that is not pending has no retry data. -/
def Cleared (outbox : FileOutbox) : Prop :=
  ∀ key, outbox.state.pending.lookup key = none →
    lastRetry key (journalRecords outbox.journal) = (none, none)

/-- A readable file that is opened again is cleared. -/
def FindsCleared (capacity : Nat) : Option HeldOutbox → Request codec × Faults → Prop
  | some held, (.reopen _, _) => Readable capacity held.journal → Cleared held.toFileOutbox
  | _, _ => True

/-! ### Rows but for their retry data -/

namespace RowView

variable {row other : RowView} {key : OutboxKey} {record : FileOutboxRecord}

/-- The row without retry data. -/
def core (row : RowView) : RowView :=
  { row with nextAttemptAtMillis := none, attempts := none }

theorem core_tidy : row.tidy.core = row.core := by
  unfold tidy
  split <;> rfl

theorem core_enterAt (same : row.core = other.core) :
    (row.enterAt codec now key record).core = (other.enterAt codec now key record).core := by
  unfold enterAt
  split
  · simp only [core, mk.injEq] at same
    cases record <;> simp [core, enter, same]
  · exact same

theorem Orderly.of_core (orderly : row.Orderly) (same : other.core = row.core)
    (cleared : other.pending = none → (other.nextAttemptAtMillis, other.attempts) = (none, none)) :
    other.Orderly := by
  simp only [core, mk.injEq] at same
  obtain ⟨pending, complete, events, completedAt, -, -, -, since⟩ := same
  refine ⟨fun none => ?_, ?_, ?_⟩
  · obtain ⟨next, attempts⟩ := Prod.mk.inj (cleared none)
    rw [pending] at none
    exact ⟨next, attempts, since.trans (orderly.settled none).2.2⟩
  · rw [pending, since]
    exact orderly.dated
  · rw [complete, events, completedAt]
    exact orderly.kept

end RowView

/-- An operation that could not be written changes retry data only. -/
theorem AppendOp.core_plan_failure {op : AppendOp codec} {plan} (planned : op.plan state = .ok plan)
    (key : OutboxKey) :
    (plan.failure.row key).core = (state.row key).core := by
  rcases plan_failure planned with same | ⟨keys, afterMillis, now, rfl⟩
  · rw [same]
  · cases planned
    refine List.foldlRecOn (motive := fun work : Rescheduling => (work.state.row key).core = _)
      keys _ rfl fun work same other _ => ?_
    rw [← same]
    unfold rescheduleKey
    dsimp only
    repeat' split
    all_goals rfl

/-! ### What a restart finds -/

theorem loadLines_short {good parsed loaded}
    (loads : state.loadLines codec now good parsed (records.map FileOutboxRecord.encode) =
      .ok loaded) : ∀ record ∈ records, byteLength record.encode ≤ maxOutboxRecordBytes := by
  induction records generalizing state good parsed with
  | nil => nofun
  | cons record later ih =>
    have line : record.encode.isEmpty = false := by
      simpa using FileOutboxRecord.encode_ne_nil record
    simp only [map_cons, loadLines, line, FileOutboxRecord.decode_encode,
      Bool.false_eq_true, if_false] at loads
    split_ifs at loads with long
    obtain ⟨next, -, loads⟩ := bind_eq_ok.mp loads
    exact forall_mem_cons.mpr ⟨Nat.not_lt.mp long, ih loads⟩

/-! ### Runs -/

/-- An outbox between two requests. The records of its file lead to its rows, but for
their retry data. -/
structure Kept (codec : EnvelopeCodec) (capacity : Nat) (outbox : FileOutbox) : Prop where
  valid : outbox.state.Valid codec
  capacity_eq : outbox.state.capacity = capacity
  orderly : outbox.state.Orderly
  exclusive : outbox.state.Exclusive codec
  told : ∃ records, outbox.journal = FileOutbox.encodeBatch records ∧
    Chain codec capacity .blank records ∧
    records.foldl (Account.enter codec) .blank = outbox.state.account ∧
    ∀ now key, (records.foldl (RowView.enterAt codec now key) .blank).core =
      (outbox.state.row key).core

namespace Kept

theorem represented (kept : Kept codec capacity outbox) : Represented codec outbox.state where
  pendingOnly := kept.valid.pendingOnly
  completeOnly := kept.valid.completeOnly
  withinCapacity := kept.valid.withinCapacity
  dated key pending := KeyMap.mem_iff_isSome.mpr
    ((kept.orderly key).dated (KeyMap.mem_iff_isSome.mp pending))
  fingerprinted key := (kept.exclusive key).fingerprint
  tried key tried := by
    by_contra absent
    obtain ⟨next, attempts, -⟩ := (kept.orderly key).settled (lookup_eq_none.mpr absent)
    rcases tried with tried | tried
    · exact lookup_eq_none.mp attempts tried
    · exact lookup_eq_none.mp next tried

theorem append (kept : Kept codec capacity outbox)
    (carries : Carries codec outbox.state records after) (orderly : after.Orderly)
    (exclusive : after.Exclusive codec)
    (rows : ∀ now key, (records.foldl (RowView.enterAt codec now key) (outbox.state.row key)).core =
      (after.row key).core) :
    Kept codec capacity ⟨outbox.journal ++ encodeBatch records, after⟩ := by
  obtain ⟨before, text, chain, account, tells⟩ := kept.told
  refine ⟨carries.valid, carries.capacity.trans kept.capacity_eq, orderly, exclusive,
    before ++ records, ?_, chain_append.mpr ⟨chain, ?_⟩, ?_, fun now key => ?_⟩
  · simp [text, encodeBatch]
  · rw [account, ← kept.capacity_eq]
    exact carries.chain
  · rw [foldl_append, account, carries.account]
  · rw [foldl_append, ← rows]
    exact foldl_rel (r := (RowView.core · = RowView.core ·)) (tells now key)
      fun _ _ _ _ same => core_enterAt same

theorem call (kept : Kept codec capacity held.toFileOutbox) {fault} (clean : ∀ f ∈ fault, f.Clean)
    (op : AppendOp codec) :
    Kept codec capacity (held.commit fault (op.plan held.state)).2.toFileOutbox := by
  cases planned : op.plan held.state with
  | error e => exact kept
  | ok plan =>
    have stepped := AppendOp.plan_stepped (op.meets_untried kept.valid kept.orderly) planned
    have sound := stepped.sound kept.valid
    have carried := HeldOutbox.commit_carried clean held plan
    generalize held.commit fault (.ok plan) = outcome at carried
    cases carried with
    | failed e =>
      -- The retry data of a refused reschedule stays in memory.
      obtain ⟨_, steps⟩ := stepped.failure
      have failed := kept.append sound.failure (steps.tracks kept.valid kept.orderly).2
        (steps.exclusive kept.exclusive) fun _ key => (AppendOp.core_plan_failure planned key).symm
      simpa [encodeBatch] using failed
    | done =>
      obtain ⟨tracks, orderly⟩ := stepped.success.tracks kept.valid kept.orderly
      refine kept.append sound.success orderly (stepped.success.exclusive kept.exclusive) ?_
      intro now key
      rw [tracks now key, ← (kept.orderly key).tidy_eq, ← foldl_track, core_tidy,
        (kept.orderly key).tidy_eq]

theorem maintain (kept : Kept codec capacity held.toFileOutbox) {fault}
    (clean : ∀ f ∈ fault, f.Clean) (now retention : UInt64) (scan : OutboxState.OutboxScan)
    (clock : Nat → UInt64) :
    Kept codec capacity (held.maintain fault now retention scan clock).2.toFileOutbox := by
  rcases @HeldOutbox.maintain_clean held fault now retention scan clock clean with same | is
  · rw [same]
    exact kept
  · rw [is]
    set keys := held.state.expired (Saturating.sub64 now retention)
    have dropped : Dropped codec keys held.state (held.swept _) :=
      removeCompleted_foldl kept.valid keys
    have orderly : (held.swept _).Orderly := removeCompleted_orderly kept.orderly keys
    have exclusive : (held.swept _).Exclusive codec :=
      List.foldlRecOn keys _ kept.exclusive fun _ kept key _ => kept.removeCompleted key
    obtain ⟨chain, account⟩ := snapshot_chain dropped.valid scan clock
    have capacity_eq := dropped.capacity.trans kept.capacity_eq
    rw [capacity_eq] at chain
    refine ⟨dropped.valid, capacity_eq, orderly, exclusive, _, rfl, chain, account,
      fun now key => ?_⟩
    rw [← core_tidy, foldl_track]
    exact congrArg RowView.core (snapshot_tracks dropped.valid orderly scan clock 0 now key).symm

/-- Only a readable file is opened. -/
theorem readable (kept : Kept codec capacity outbox)
    (opens : FileOutbox.open codec capacity now outbox.journal = .ok reopened) :
    Readable capacity outbox.journal := by
  obtain ⟨records, text, -⟩ := kept.told
  obtain ⟨_, capacityOk, rest⟩ := bind_eq_ok.mp opens
  obtain ⟨_, small, rest⟩ := bind_eq_ok.mp rest
  obtain ⟨loaded, loads, -⟩ := bind_eq_ok.mp rest
  rw [text, lines_encodeBatch] at loads
  refine ⟨by simpa [CapacityOk] using ensure_eq_ok.mp capacityOk,
    by simpa using ensure_eq_ok.mp small, ?_⟩
  rw [text, journalRecords_encodeBatch]
  exact loadLines_short loads

/-- A readable file is opened, and what is found is in order exactly when it is cleared. -/
theorem reopen (kept : Kept codec capacity outbox) (readable : Readable capacity outbox.journal)
    (now : UInt64) : ∃ reopened,
      FileOutbox.open codec capacity now outbox.journal = .ok reopened ∧
      (Cleared outbox → Kept codec capacity reopened) ∧
      (Represented codec reopened.state → Cleared outbox) := by
  obtain ⟨records, text, chain, account, tells⟩ := kept.told
  have is : journalRecords outbox.journal = records := by
    rw [text, journalRecords_encodeBatch]
  have recorded : Recorded codec capacity outbox.state.account outbox.journal records :=
    ⟨text, chain, account, is ▸ readable.2.2, readable.2.1⟩
  obtain ⟨reopened, opens, opened⟩ := recorded.open_whole readable.1 now
  have row key : reopened.state.row key = records.foldl (RowView.enterAt codec now key) .blank :=
    replay_row opened.replays key
  have same key : (reopened.state.row key).core = (outbox.state.row key).core := by
    rw [row, tells]
  have retry key : ((reopened.state.row key).nextAttemptAtMillis,
      (reopened.state.row key).attempts) = lastRetry key (journalRecords outbox.journal) := by
    rw [row, foldl_enterAt_retry, is]
    rfl
  have pending key : reopened.state.pending.lookup key = outbox.state.pending.lookup key :=
    congrArg RowView.pending (same key)
  refine ⟨reopened, opens, fun cleared => ?_, fun represented key absent => ?_⟩
  · refine ⟨opened.sound.valid, opened.sound.capacity_eq, fun key => ?_, fun key => ?_, records,
      opened.journal_eq.trans text, chain, account.trans opened.account_eq.symm,
      fun at_ key => (tells at_ key).trans (same key).symm⟩
    · refine (kept.orderly key).of_core (same key) fun none => (retry key).trans ?_
      exact cleared key ((pending key).symm.trans none)
    · change (reopened.state.row key).core.holding.Exclusive codec
      rw [same]
      exact kept.exclusive key
  · rw [← pending, lookup_eq_none] at absent
    rw [← retry]
    obtain ⟨attempts, next⟩ := not_or.mp (mt (represented.tried key) absent)
    exact congrArg₂ Prod.mk (lookup_eq_none.mpr next) (lookup_eq_none.mpr attempts)

end Kept

/-- A step that fails cleanly, if it fails, keeps the outbox in order exactly when a
file it opens is cleared. -/
theorem kept_step {world} (request : Request codec × Faults)
    (kept : ∀ held ∈ world, Kept codec capacity held.toFileOutbox) (clean : request.2.Clean) :
    (FindsCleared capacity world request →
        ∀ held ∈ heldAfter codec capacity world request, Kept codec capacity held.toFileOutbox) ∧
      ((∀ held ∈ heldAfter codec capacity world request, Represented codec held.state) →
        FindsCleared capacity world request) := by
  obtain ⟨request, faults⟩ := request
  cases world with
  | none => exact ⟨fun _ => nofun, fun _ => trivial⟩
  | some held =>
    have kept := kept held rfl
    cases request with
    | call op => exact ⟨fun _ _ is => Option.some.inj is ▸ kept.call clean.1 op, fun _ => trivial⟩
    | maintain now retention scans clock =>
      refine ⟨fun _ _ is => ?_, fun _ => trivial⟩
      exact Option.some.inj is ▸ kept.maintain clean.2 now retention scans.scan clock
    | read query => exact ⟨fun _ _ is => Option.some.inj is ▸ kept, fun _ => trivial⟩
    | reopen now =>
      rw [heldAfter]
      by_cases readable : Readable capacity held.journal
      · obtain ⟨reopened, opens, forth, back⟩ := kept.reopen readable now
        rw [opens]
        exact ⟨fun cleared _ is => Option.some.inj is ▸ forth (cleared readable),
          fun represented _ => back (represented ⟨reopened, true⟩ rfl)⟩
      · cases opens : FileOutbox.open codec capacity now held.journal with
        | error e => exact ⟨by rintro _ _ ⟨⟩, fun _ held => absurd held readable⟩
        | ok reopened => exact absurd (kept.readable opens) readable

/-- In every run from a new file in which failing writes leave the file as it was, the
maps agree with each other in every state exactly when every file that is opened again
is cleared. -/
theorem represented_iff_cleared (requests : List (Request codec × Faults))
    (clean : ∀ request ∈ requests, request.2.Clean) :
    Always (heldAfter codec capacity) (fun world => ∀ held ∈ world, Represented codec held.state)
        (some ⟨FileOutbox.fresh capacity, true⟩) requests ↔
      AllSteps (heldAfter codec capacity) (FindsCleared capacity)
        (some ⟨FileOutbox.fresh capacity, true⟩) requests := by
  refine always_iff_allSteps
    (fun world request (kept : ∀ held ∈ world, Kept codec capacity held.toFileOutbox) clean =>
      (kept_step request kept clean).1)
    (fun _ kept held mem => (kept held mem).represented)
    (fun _ request kept clean => (kept_step request kept clean).2) ?_ (allSteps_of_forall clean)
  rintro _ ⟨⟩
  exact ⟨valid_empty capacity, rfl, orderly_empty capacity, exclusive_empty capacity, [], rfl,
    trivial, rfl, fun _ _ => rfl⟩

/-- A completion that the storage refuses at first, and a restart. -/
def refusedOnce : List (Request sampleCodec × Faults) :=
  [(.call (enqueueSample 1), .none),
    (.call (.markComplete (sampleEvent 1).key 0), ⟨some (.write 0), none⟩),
    (.call (.markComplete (sampleEvent 1).key 0), .none),
    (.call (enqueueSample 2), ⟨some .metadata, none⟩), (.reopen 0, .none),
    (.call (enqueueSample 2), .none)]

theorem represented_iff_cleared_refusedOnce :
    Always (heldAfter sampleCodec 8)
      (fun world => ∀ held ∈ world, Represented sampleCodec held.state)
      (some ⟨FileOutbox.fresh 8, true⟩) refusedOnce := by
  have restart (world : Option HeldOutbox)
      (plain : world.all fun held => (journalRecords held.journal).all fun record =>
        noteRetry record.key (none, none) record = (none, none)) :
      AllSteps (heldAfter sampleCodec 8) (FindsCleared 8) world (refusedOnce.drop 4) := by
    refine ⟨?_, ?_, trivial⟩
    · obtain _ | held := world
      · trivial
      intro _ key _
      rw [Option.all_some, all_eq_true] at plain
      refine List.foldlRecOn (motive := (· = (none, none))) _ _ rfl fun _ same record mem => ?_
      have own := of_decide_eq_true (plain record mem)
      cases record <;> simp_all [noteRetry, FileOutboxRecord.key]
    · cases heldAfter sampleCodec 8 world _ <;> trivial
  refine (represented_iff_cleared refusedOnce ?_).mpr
    ⟨trivial, trivial, trivial, trivial, restart _ ?_⟩
  · simp [refusedOnce, Faults.Clean, Faults.none, AppendFault.Clean]
  · decide +kernel

/-- An event is rescheduled, completed, and read back. -/
def completedRetry : List (Request sampleCodec × Faults) :=
  (.call (enqueueSample 1) :: rescheduleSample 1).map (·, .none) ++
    [(.call (.markComplete (sampleEvent 1).key 0), .none), (.reopen 0, .none)]

/-- The completion of an event is written, but not synced. The event is still pending,
so it is rescheduled, and read back. -/
def unsyncedCompletion : List (Request sampleCodec × Faults) :=
  [(.call (enqueueSample 1), .none),
    (.call (.markComplete (sampleEvent 1).key 0), ⟨some .sync, none⟩)] ++
    (rescheduleSample 1 ++ [Request.reopen 0]).map (·, .none)

/-- The one event is complete and has attempts, the other is complete and pending. -/
theorem completed_not_represented :
    ¬ Always (heldAfter sampleCodec 8)
        (fun world => ∀ held ∈ world, Represented sampleCodec held.state)
        (some ⟨FileOutbox.fresh 8, true⟩) completedRetry ∧
      ¬ Always (heldAfter sampleCodec 8)
        (fun world => ∀ held ∈ world, Represented sampleCodec held.state)
        (some ⟨FileOutbox.fresh 8, true⟩) unsyncedCompletion := by
  have found {requests} (odd : ∃ held ∈ run (heldAfter sampleCodec 8)
      (some ⟨FileOutbox.fresh 8, true⟩) requests, (sampleEvent 1).key ∈ held.state.complete ∧
        ((sampleEvent 1).key ∈ held.state.pending ∨
          (sampleEvent 1).key ∈ held.state.attempts)) :
      ¬ Always (heldAfter sampleCodec 8)
        (fun world => ∀ held ∈ world, Represented sampleCodec held.state)
        (some ⟨FileOutbox.fresh 8, true⟩) requests := by
    intro always
    obtain ⟨held, mem, complete, odd⟩ := odd
    have represented := always.last held mem
    have pending := odd.elim id fun tried => represented.tried _ (.inl tried)
    exact (represented.pendingOnly _ pending).1 complete
  constructor
  · exact found (by decide +kernel)
  · exact found (by decide +kernel)

end Apex.Outbox
