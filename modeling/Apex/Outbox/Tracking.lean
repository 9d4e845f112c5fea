import Apex.Outbox.Compaction

/-!
The live operations do to every row what their records do.

`Tracks` says this of a batch and two states. Each operation walks over its keys
with the records fixed beforehand, so a key that is named twice has two records;
the second one finds the row as the first one left it.
-/

namespace Apex.Outbox

open Checked Domain OutboxState List AList KeyMap RowView

variable {codec : EnvelopeCodec} {state after : OutboxState} {record : FileOutboxRecord}

/-- A record entered in the row of a key, and the retry data of a row that is not
pending removed. -/
def RowView.track (codec : EnvelopeCodec) (now : UInt64) (key : OutboxKey) (row : RowView)
    (record : FileOutboxRecord) : RowView :=
  (row.enterAt codec now key record).tidy

/-- The records lead from the rows of one state to those of the other. -/
def Tracks (codec : EnvelopeCodec) (before : OutboxState) (records : List FileOutboxRecord)
    (after : OutboxState) : Prop :=
  ∀ now key, after.row key = records.foldl (RowView.track codec now key) (before.row key)

namespace RowView

variable {row : RowView} {now : UInt64} {key : OutboxKey} {record : FileOutboxRecord}

theorem track_here (same : record.key = key) :
    row.track codec now key record = (row.enter codec now record).tidy := by
  rw [track, enterAt, if_pos same]

theorem Orderly.track_elsewhere (orderly : row.Orderly) (apart : record.key ≠ key) :
    row.track codec now key record = row := by
  rw [track, enterAt, if_neg apart, orderly.tidy_eq]

/-- Removing stale retry data before a record is entered changes nothing of what
is left after it. -/
theorem track_tidy : row.tidy.track codec now key record = row.track codec now key record := by
  unfold track enterAt
  split
  next =>
    unfold tidy
    split
    next => rfl
    next settled =>
      have none : row.pending = none := by simpa using settled
      cases record <;> simp [enter, none]
  next =>
    unfold tidy
    split
    next => rfl
    next => simp

theorem foldl_track (records : List FileOutboxRecord) :
    (records.foldl (enterAt codec now key) row).tidy =
      records.foldl (track codec now key) row.tidy :=
  (foldl_hom tidy fun _ _ => track_tidy).symm

end RowView

namespace Tracks

theorem refl (state : OutboxState) : Tracks codec state [] state :=
  fun _ _ => rfl

theorem trans {before middle first second} (one : Tracks codec before first middle)
    (two : Tracks codec middle second after) :
    Tracks codec before (first ++ second) after := by
  intro now key
  rw [two now key, one now key, foldl_append]

/-- A step that changes the row of its record as the record does. -/
theorem of_changes {before : OutboxState} {change} (orderly : before.Orderly)
    (changes : ChangesRow before after record.key change)
    (keeps : (change (before.row record.key)).Orderly)
    (enters : ∀ now, change (before.row record.key) =
      ((before.row record.key).enter codec now record).tidy) :
    Tracks codec before [record] after ∧ after.Orderly := by
  refine ⟨fun now key => ?_, changes.orderly orderly keeps⟩
  rw [foldl_cons, foldl_nil]
  by_cases same : record.key = key
  · rw [← same, track_here rfl, changes.here, enters now]
  · rw [(orderly key).track_elsewhere same, changes.elsewhere (Ne.symm same)]

end Tracks

namespace OutboxState

variable {key : OutboxKey} {event : IngestRequest}

theorem Valid.rebuild_pending (valid : state.Valid codec)
    (pending : state.pending.lookup key = some event) :
    codec.rebuild event.envelope = some event :=
  (valid.pendingEvent key event pending).1.rebuild

theorem Valid.rebuild_quarantined (valid : state.Valid codec)
    (quarantined : state.quarantined.lookup key = some event) :
    codec.rebuild event.envelope = some event :=
  (valid.quarantinedEvent key event quarantined).1.rebuild

/-- A quarantined row is not pending. -/
theorem Valid.pending_of_quarantined (valid : state.Valid codec)
    (quarantined : state.quarantined.lookup key = some event) :
    state.pending.lookup key = none := by
  refine lookup_eq_none.mpr fun pending => ?_
  exact (valid.pendingOnly key pending).2 (mem_of_lookup quarantined)

end OutboxState

/-! ### The operations -/

/-- A requeued row has no retry data. -/
def Inputs.untried : Inputs :=
  ⟨fun _ => True, fun _ => True, fun row => row.nextAttemptAtMillis = none ∧ row.attempts = none⟩

theorem Step.tracks (valid : state.Valid codec) (orderly : state.Orderly)
    (step : Step .untried codec state record after) :
    Tracks codec state [record] after ∧ after.Orderly := by
  cases step with
  | @arrive event given admitted fresh room now =>
    have pending : (state.row event.key).pending = none := valid.pending_eq_none (by simp [fresh])
    have quarantined : (state.row event.key).quarantined = none :=
      valid.quarantined_eq_none (by simp [fresh])
    refine Tracks.of_changes orderly (state.insertPending_row event now)
      ((orderly event.key).arrive event now) fun at_ => ?_
    obtain ⟨next, attempts, -⟩ := (orderly event.key).settled pending
    simp [RowView.arrive, enter, tidy, FileOutboxRecord.key, pending, quarantined,
      admitted.rebuild, next, attempts]
  | @settle completion stands =>
    refine Tracks.of_changes orderly (state.insertComplete_row completion) (.settle codec _ _)
      fun now => ?_
    have rebuilt : codec.rebuild completion.event.envelope = some completion.event := by
      rcases stands with found | ⟨-, found⟩
      · exact valid.rebuild_pending found
      · exact (valid.completeEvent _ _ found).1.rebuild
    simp [RowView.settle, completeRecord, enter, fingerprintOf,
      tidy, FileOutboxRecord.key, rebuilt]
  | @isolate key event stands reason given now =>
    refine Tracks.of_changes orderly (state.insertQuarantined_row key) (orderly key).isolate
      fun at_ => ?_
    rcases stands with found | found
    · have pending : (state.row key).pending = some event := found
      simp [RowView.isolate, enter, tidy, FileOutboxRecord.key, pending,
        valid.rebuild_pending found]
    · have quarantined : (state.row key).quarantined = some event := found
      have pending : (state.row key).pending = none := valid.pending_of_quarantined found
      obtain ⟨next, attempts, since⟩ := (orderly key).settled pending
      ext1 <;> simp [RowView.isolate, enter, tidy, FileOutboxRecord.key, pending,
        quarantined, valid.rebuild_quarantined found, next, attempts, since]
  | @release key event now stands =>
    refine Tracks.of_changes orderly (state.insertRequeued_row now key) ((orderly key).release now)
      fun at_ => ?_
    rcases stands with found | ⟨row, ⟨next, attempts⟩, found, is⟩
    · have quarantined : (state.row key).quarantined = some event := found
      have pending : (state.row key).pending = none := valid.pending_of_quarantined found
      obtain ⟨next, attempts, -⟩ := (orderly key).settled pending
      simp [RowView.release, enter, tidy, FileOutboxRecord.key, pending,
        quarantined, valid.rebuild_quarantined found, next, attempts]
    · simp [is, RowView.release, enter, tidy, FileOutboxRecord.key, found, next,
        attempts]
  | @retry key event attempts found few next =>
    have pending : (state.row key).pending = some event := found
    have isPending : (state.row key).pending.isSome := by rw [pending]; rfl
    obtain ⟨since, dated⟩ := Option.isSome_iff_exists.mp ((orderly key).dated isPending)
    refine Tracks.of_changes orderly (retried_row next attempts state key)
      ((orderly key).retry isPending _ _) fun now => ?_
    -- The record repeats the arrival time the row has.
    have kept : state.pendingSinceMillis.lookup key = some since := dated
    simp [RowView.retry, retryRecord, enter, tidy,
      FileOutboxRecord.key, pending, kept, dated]

theorem Steps.tracks (valid : state.Valid codec) (orderly : state.Orderly) {records}
    (steps : Steps .untried codec state records after) :
    Tracks codec state records after ∧ after.Orderly := by
  induction steps with
  | refl => exact ⟨.refl _, orderly⟩
  | step first _ ih =>
    obtain ⟨tracks, orderly⟩ := first.tracks valid orderly
    obtain ⟨later, ends⟩ := ih (first.carries valid).valid orderly
    exact ⟨tracks.trans later, ends⟩

namespace OutboxState

variable {key : OutboxKey}

/-! ### Retention -/

theorem removeCompleted_orderly (orderly : state.Orderly) (keys : List OutboxKey) :
    (keys.foldl removeCompleted state).Orderly := by
  refine List.foldlRecOn keys _ orderly fun state orderly key _ => ?_
  exact (state.removeCompleted_row key).orderly orderly (orderly key).forget

/-- The record of a row in a snapshot, entered in a blank row, gives the row. -/
theorem enter_snapshotEntry (valid : state.Valid codec) (orderly : state.Orderly) {scan clock}
    {entry} (mem : entry ∈ state.snapshotEntries scan clock) (now : UInt64) :
    (RowView.blank.enter codec now entry.1).tidy = state.row entry.1.key := by
  rcases mem_snapshotEntries mem with ⟨key, event, found, rfl⟩ | ⟨key, fingerprint, found, rfl⟩ |
    ⟨key, event, at_, found, rfl⟩
  · have isPending := mem_of_lookup found
    have pending : (state.row key).pending = some event := found
    have complete : (state.row key).complete = none :=
      lookup_eq_none.mpr (valid.pendingOnly key isPending).1
    have quarantined : state.quarantined.lookup key = none :=
      lookup_eq_none.mpr (valid.pendingOnly key isPending).2
    obtain ⟨events, at_⟩ := (orderly key).kept complete
    obtain ⟨since, dated⟩ :=
      Option.isSome_iff_exists.mp ((orderly key).dated (by rw [pending]; rfl))
    simp only [row] at complete events at_ dated
    simp [row, blank, enter, tidy, FileOutboxRecord.key, found,
      valid.rebuild_pending found, complete, quarantined, events, at_, dated]
  · have isComplete := mem_of_lookup found
    have pending : state.pending.lookup key = none :=
      lookup_eq_none.mpr fun pending => (valid.pendingOnly key pending).1 isComplete
    have quarantined : state.quarantined.lookup key = none :=
      lookup_eq_none.mpr (valid.completeOnly key isComplete)
    obtain ⟨next, attempts, since⟩ := (orderly key).settled pending
    simp only [row] at next attempts since
    have parsed : fingerprintOf codec none (fingerprint.map hexFingerprint) =
        fingerprint := by
      cases fingerprint with
      | none => rfl
      | some bytes => simp [fingerprintOf]
    have events : ((state.completeEvents.lookup key).map IngestRequest.envelope).bind
        codec.rebuild = state.completeEvents.lookup key := by
      cases kept : state.completeEvents.lookup key with
      | none => rfl
      | some event => exact (valid.completeEvent key event kept).1.rebuild
    simp [row, blank, enter, tidy, FileOutboxRecord.key, found, pending,
      quarantined, next, attempts, since, parsed, events]
  · have isQuarantined := mem_of_lookup found
    have pending := valid.pending_of_quarantined found
    have complete : (state.row key).complete = none :=
      lookup_eq_none.mpr fun complete => valid.completeOnly key complete isQuarantined
    obtain ⟨next, attempts, since⟩ := (orderly key).settled pending
    obtain ⟨events, at_⟩ := (orderly key).kept complete
    simp only [row] at complete events at_ next attempts since
    simp [row, blank, enter, tidy, FileOutboxRecord.key, found,
      valid.rebuild_quarantined found, pending, complete, next, attempts, since, events, at_]

/-- A key nothing is known of has a blank row. -/
theorem Orderly.row_eq_blank (orderly : state.Orderly) (unknown : state.ledger key = none) :
    state.row key = .blank := by
  obtain ⟨pending, complete, quarantined⟩ := ledger_eq_none.mp unknown
  have pending : (state.row key).pending = none := lookup_eq_none.mpr pending
  have complete : (state.row key).complete = none := lookup_eq_none.mpr complete
  have quarantined : (state.row key).quarantined = none := lookup_eq_none.mpr quarantined
  obtain ⟨next, attempts, since⟩ := (orderly key).settled pending
  obtain ⟨events, at_⟩ := (orderly key).kept complete
  exact RowView.ext pending complete events at_ next attempts quarantined since

end OutboxState

namespace RowView

variable {row : RowView} {now : UInt64} {key : OutboxKey} {records : List FileOutboxRecord}

theorem Orderly.foldl_track_elsewhere (orderly : row.Orderly)
    (apart : ∀ record ∈ records, record.key ≠ key) :
    records.foldl (track codec now key) row = row := by
  refine List.foldlRecOn (motive := (· = row)) records _ rfl ?_
  rintro _ rfl record mem
  exact orderly.track_elsewhere (apart record mem)

/-- Of the records of distinct keys one reaches the row. -/
theorem Orderly.foldl_track_once (orderly : row.Orderly)
    (distinct : (records.map FileOutboxRecord.key).Nodup) (mem : record ∈ records)
    (orderly' : (row.track codec now record.key record).Orderly) :
    records.foldl (track codec now record.key) row = row.track codec now record.key record := by
  induction records with
  | nil => cases mem
  | cons first later ih =>
    obtain ⟨new, distinct⟩ := nodup_cons.mp distinct
    rw [foldl_cons]
    rcases mem_cons.mp mem with rfl | mem
    · refine orderly'.foldl_track_elsewhere fun other mem same => ?_
      exact new (mem_map.mpr ⟨other, mem, same⟩)
    · have apart : first.key ≠ record.key := fun same =>
        new (mem_map.mpr ⟨record, mem, same.symm⟩)
      rw [orderly.track_elsewhere apart]
      exact ih distinct mem

end RowView

/-- A snapshot leads from an empty state to the rows it was taken of. -/
theorem snapshot_tracks (valid : state.Valid codec) (orderly : state.Orderly)
    (scan : OutboxState.OutboxScan) (clock : Nat → UInt64) (capacity : Nat) :
    Tracks codec (.empty capacity) (state.snapshotRecords scan clock) state := by
  intro now key
  have distinct : ((state.snapshotRecords scan clock).map FileOutboxRecord.key).Nodup := by
    rw [← snapshotEntries_records, map_map]
    exact nodup_snapshotEntries valid scan clock
  change _ = (state.snapshotRecords scan clock).foldl (track codec now key) .blank
  cases stands : state.ledger key with
  | none =>
    rw [orderly.row_eq_blank stands, orderly_blank.foldl_track_elsewhere]
    rw [← snapshotEntries_records]
    rintro record recorded rfl
    obtain ⟨entry, mem, rfl⟩ := mem_map.mp recorded
    rw [(introduces_snapshot valid mem).2] at stands
    cases stands
  | some standing =>
    obtain ⟨entry, mem, rfl, -⟩ := exists_snapshotEntry valid scan clock stands
    have gives := enter_snapshotEntry valid orderly mem now
    rw [orderly_blank.foldl_track_once distinct, track_here rfl, gives]
    · rw [← snapshotEntries_records]
      exact mem_map_of_mem mem
    · rw [track_here rfl, gives]
      exact orderly _

end Apex.Outbox
