import Apex.Findings.Journal
import Apex.Lib.Runs

/-!
Reopening the finding journal.

Replay rebuilds the store through the live mutators. A replayed finding brings
its own creation time, but a replayed status change is stamped with the clock of
the reopening process, so the recorded time is lost. `reopen_same_iff` is the
exact statement: a reopened journal holds the same findings and the same status
history precisely where the clock repeats every recorded time.
-/

namespace Apex.Findings

open Checked Lines Runs FindingStore List FindingJournal

section Runs

variable (sha256 : List UInt8 → String) (capacity : Nat)

/-- One call on the journal; `reopen` closes it and opens it again. -/
inductive JournalOp where
  | append (finding : SecurityFinding) (outcome : FindingJournal.WriteOutcome)
  | transition (findingId : String) (expected next : FindingStatus) (caller : Caller)
      (actorScope : String) (action : Option ContainmentAction) (now : Option UInt64)
      (outcome : FindingJournal.WriteOutcome)
  | reopen (clock : Nat → Option UInt64)

/-- The journal after a call. Where it cannot be opened again, the one before
closing stands for what a reopening should have brought back. -/
def journalStep (journal : FindingJournal) : JournalOp → FindingJournal
  | .append finding outcome => (journal.append sha256 finding outcome).2
  | .transition findingId expected next caller actorScope action now outcome =>
      (journal.transition findingId expected next caller actorScope action now outcome).2
  | .reopen clock =>
      match FindingJournal.open sha256 capacity clock journal.close with
      | .ok reopened => reopened
      | .error _ => journal

/-- The writer takes nothing of a record whose write fails. -/
def FindingJournal.WriteOutcome.Untaken (outcome : FindingJournal.WriteOutcome) : Prop :=
  ∀ taken reached, outcome = .failed taken reached → taken = 0

def JournalOp.Untaken : JournalOp → Prop
  | .append _ outcome | .transition _ _ _ _ _ _ _ outcome => outcome.Untaken
  | .reopen _ => True

/-- The journal opens again with the findings and the status history it had. -/
def ReopensSame (clock : Nat → Option UInt64) (journal : FindingJournal) : Prop :=
  ∃ reopened, FindingJournal.open sha256 capacity clock journal.close = .ok reopened ∧
    reopened.store.findings = journal.store.findings ∧
    reopened.store.updates = journal.store.updates

/-- The clock shows, at each replayed status change, the time it was recorded
at. -/
def RepeatsTimes (clock : Nat → Option UInt64) (store : FindingStore) : Prop :=
  ∀ k update, store.updates[k]? = some update → clock k = some update.atMs

/-! ### Replay -/

def JournalRecord.isStatus : JournalRecord → Bool
  | .finding _ => false
  | .status _ => true

/-- The records of a journal replayed in order. -/
def replay (clock : Nat → Option UInt64) (store : FindingStore) :
    List JournalRecord → Except FindingErrorCode FindingStore
  | [] => .ok store
  | record :: rest => do
      let next ← store.applyRecord sha256 (clock store.updates.length) record
      replay clock next rest

end Runs

section Replay

variable {sha256 : List UInt8 → String} {clock : Nat → Option UInt64} {store : FindingStore}

theorem replay_append (records later : List JournalRecord) :
    replay sha256 clock store (records ++ later) =
      replay sha256 clock store records >>= fun next => replay sha256 clock next later := by
  induction records generalizing store with
  | nil => rfl
  | cons record rest ih =>
    simp only [cons_append, replay]
    cases store.applyRecord sha256 (clock store.updates.length) record with
    | error e => rfl
    | ok next => exact ih

variable {after : FindingStore} {records : List JournalRecord}

/-- What an accepted status change adds. -/
theorem transitionReplayed_eq_ok {findingId expected next actorScope actorSubject action now} :
    store.transitionReplayed findingId expected next actorScope actorSubject action now =
        .ok after ↔
      (!actorSubject.isEmpty && validActorScope actorScope) = true ∧
        store.checkTransition findingId expected next actorScope action = .ok () ∧
        ∃ atMs, now = some atMs ∧ store.pushUpdate
          ⟨findingId, expected, next, action, actorScope, actorSubject, atMs⟩ = after := by
  simp only [transitionReplayed, transitionInternal, bind_eq_ok,
    ensure_eq_ok, require_eq_ok, pure_eq_ok]
  constructor
  · rintro ⟨_, passed, _, checked, atMs, read, done⟩
    exact ⟨passed, checked, atMs, read, done⟩
  · rintro ⟨passed, checked, atMs, read, done⟩
    exact ⟨(), passed, (), checked, atMs, read, done⟩

/-- A stored finding leaves the status history alone. -/
theorem append_updates {finding reply} (stored : store.append sha256 finding = .ok reply) :
    reply.2.updates = store.updates := by
  simp only [FindingStore.append, bind_eq_ok, pure_eq_ok] at stored
  obtain ⟨_, _, accepted, _, rfl⟩ := stored
  cases accepted <;> rfl

/-- A replay stamps the status changes with its own clock. -/
theorem repeatsTimes_replay (start : RepeatsTimes clock store)
    (replayed : replay sha256 clock store records = .ok after) :
    RepeatsTimes clock after := by
  induction records generalizing store with
  | nil =>
    cases replayed
    exact start
  | cons record rest ih =>
    simp only [replay, bind_eq_ok] at replayed
    obtain ⟨next, applied, replayed⟩ := replayed
    refine ih ?_ replayed
    cases record with
    | finding finding =>
      obtain ⟨reply, stored, rfl⟩ := map_eq_ok.mp applied
      intro k update found
      rw [append_updates stored] at found
      exact start k update found
    | status update =>
      obtain ⟨-, -, atMs, read, rfl⟩ := transitionReplayed_eq_ok.mp applied
      intro k recorded found
      rw [pushUpdate, List.getElem?_append] at found
      split_ifs at found with before
      · exact start k recorded found
      · -- the new update stands at the end of the history
        rw [List.getElem?_singleton] at found
        split_ifs at found with last
        cases found
        rw [← read]
        congr 1
        omega

/-- A replay adds one update a status record, whatever the clock shows. -/
theorem length_updates_replay (replayed : replay sha256 clock store records = .ok after) :
    after.updates.length = store.updates.length + records.countP JournalRecord.isStatus := by
  induction records generalizing store with
  | nil =>
    cases replayed
    rfl
  | cons record rest ih =>
    simp only [replay, bind_eq_ok] at replayed
    obtain ⟨next, applied, replayed⟩ := replayed
    rw [ih replayed, countP_cons]
    cases record with
    | finding finding =>
      obtain ⟨reply, stored, rfl⟩ := map_eq_ok.mp applied
      rw [append_updates stored]
      rfl
    | status update =>
      obtain ⟨-, -, atMs, -, rfl⟩ := transitionReplayed_eq_ok.mp applied
      simp only [pushUpdate, length_append, length_singleton, JournalRecord.isStatus, if_true]
      omega

/-- The total clock behind one that has a reading wherever it is asked. -/
def reading (clock : Nat → Option UInt64) (k : Nat) : UInt64 :=
  (clock k).getD 0

/-- The clock has a reading for every status change of the store. -/
def Readable (clock : Nat → Option UInt64) (store : FindingStore) : Prop :=
  ∀ k < store.updates.length, clock k = some (reading clock k)

theorem RepeatsTimes.readable (repeats : RepeatsTimes clock store) : Readable clock store := by
  intro k below
  have shown := repeats k _ (List.getElem?_eq_getElem below)
  rw [reading, shown]
  rfl

theorem RepeatsTimes.retime (repeats : RepeatsTimes clock store) :
    store.retime (reading clock) = store := by
  have same : store.updates.mapIdx (fun k update => { update with atMs := reading clock k }) =
      store.updates := by
    apply ext_getElem?
    intro k
    rw [List.getElem?_mapIdx]
    cases found : store.updates[k]? with
    | none => rfl
    | some update =>
      have shown := repeats k update found
      rw [Option.map_some, reading, shown]
      rfl
  obtain ⟨⟩ := store
  simpa [retime] using same

end Replay

/-! ### What the file holds -/

/-- The file is the text of records that rebuild the store, up to the times of
the status changes. -/
structure Recorded (sha256 : List UInt8 → String) (capacity : Nat)
    (journal : FindingJournal) : Prop where
  flushed : journal.buffer = []
  size : byteLength journal.disk ≤ maxJournalBytes
  text : ∃ records, journal.disk = unlines (records.map JournalRecord.encode) ∧
    (∀ record ∈ records, byteLength record.encode ≤ maxJournalLineBytes) ∧
    ∃ fresh, FindingStore.new capacity = .ok fresh ∧
      ∀ clock, Readable clock journal.store →
        replay sha256 clock fresh records = .ok (journal.store.retime (reading clock))

section Invariant

variable {sha256 : List UInt8 → String} {capacity : Nat} {journal : FindingJournal}

variable {clock : Nat → Option UInt64} {outcome : FindingJournal.WriteOutcome}

/-- Replaying the lines of whole records is replaying the records. -/
theorem loadLines_records
    (sizes : ∀ record ∈ records, byteLength record.encode ≤ maxJournalLineBytes)
    {store : FindingStore} {replayedBytes parsedAny}
    (size : replayedBytes + byteLength (unlines (records.map JournalRecord.encode)) ≤
      maxJournalBytes) :
    store.loadLines sha256 clock replayedBytes parsedAny (records.map JournalRecord.encode) =
      ((replay sha256 clock store records).mapError .store).map fun after => (after, none) := by
  induction records generalizing store replayedBytes parsedAny with
  | nil => rfl
  | cons record rest ih =>
    obtain ⟨lineSize, restSizes⟩ := forall_mem_cons.mp sizes
    rw [map_cons, byteLength_unlines_cons] at size
    have nonempty : record.encode.isEmpty = false := by
      simpa using record.encode_ne_nil
    rw [map_cons, loadLines, nonempty, if_neg Bool.false_ne_true,
      if_neg (by omega), if_neg (by omega), record.decode_encode]
    simp only [replay]
    cases store.applyRecord sha256 (clock store.updates.length) record with
    | error e => rfl
    | ok next => exact ih restSizes (by omega)

/-- Opening the file of a recorded journal replays its records. -/
theorem open_recorded {fresh} (made : FindingStore.new capacity = .ok fresh)
    (sizes : ∀ record ∈ records, byteLength record.encode ≤ maxJournalLineBytes)
    (size : byteLength (unlines (records.map JournalRecord.encode)) ≤ maxJournalBytes) :
    FindingJournal.open sha256 capacity clock (unlines (records.map JournalRecord.encode)) =
      ((replay sha256 clock fresh records).mapError .store).map fun after =>
        ⟨unlines (records.map JournalRecord.encode), [], after⟩ := by
  have isLines : ∀ line ∈ records.map JournalRecord.encode, IsLine line := by
    intro line mem
    obtain ⟨record, -, rfl⟩ := mem_map.mp mem
    exact record.isLine_encode
  have bounded : decide (byteLength (unlines (records.map JournalRecord.encode)) ≤
      maxJournalBytes) = true := decide_eq_true size
  have loaded : fresh.loadLines sha256 clock 0 false (records.map JournalRecord.encode) =
      ((replay sha256 clock fresh records).mapError .store).map fun after => (after, none) :=
    loadLines_records sizes (by omega)
  rw [FindingJournal.open, bounded, made, lines_unlines isLines]
  simp only [ensure_true, ok_bind, Except.mapError, loaded]
  cases replay sha256 clock fresh records <;> rfl

/-- A recorded journal opens again as the store it had, with the readings of the
new clock for the times of its status changes. -/
theorem Recorded.open_eq (recorded : Recorded sha256 capacity journal) {reopened}
    (opened : FindingJournal.open sha256 capacity clock journal.close = .ok reopened) :
    RepeatsTimes clock reopened.store ∧
      reopened = ⟨journal.disk, [], journal.store.retime (reading clock)⟩ := by
  obtain ⟨records, text, sizes, fresh, made, rebuilds⟩ := recorded.text
  have size := recorded.size
  rw [text] at size
  rw [close, recorded.flushed, append_nil, text, open_recorded made sizes size, map_eq_ok] at opened
  obtain ⟨after, replayed, rfl⟩ := opened
  rw [mapError_eq_ok] at replayed
  have repeats : RepeatsTimes clock after := by
    refine repeatsTimes_replay ?_ replayed
    -- a new store has no history
    intro k update found
    simp only [FindingStore.new, withQuotas, bind_eq_ok, pure_eq_ok] at made
    obtain ⟨_, _, rfl⟩ := made
    cases found
  have readable : Readable clock journal.store := by
    -- both histories have one update a status record
    have length := length_updates_replay replayed
    have rebuilt := rebuilds (fun _ => some 0) fun _ _ => rfl
    have length' := length_updates_replay rebuilt
    rw [length_retime_updates, ← length] at length'
    intro k below
    exact repeats.readable k (by omega)
  refine ⟨repeats, ?_⟩
  rw [rebuilds clock readable] at replayed
  cases replayed
  rw [text]

/-- Where the writer takes nothing of a record whose write fails, the call fails
and leaves the journal as it was, or adds the record's line and the changed
store. -/
theorem commit_cases {α : Type} {next record} {answer : α} (flushed : journal.buffer = [])
    (untaken : outcome.Untaken) :
    (∃ e, journal.commit next record outcome answer = (.error e, journal)) ∨
      byteLength record.encode ≤ maxJournalLineBytes ∧
      byteLength journal.disk + byteLength (record.encode ++ ['\n']) ≤ maxJournalBytes ∧
      journal.commit next record outcome answer =
        (.ok answer, ⟨journal.disk ++ (record.encode ++ ['\n']), [], next⟩) := by
  unfold commit writeRecord
  by_cases long : maxJournalLineBytes < byteLength record.encode
  · left
    simp only [if_pos long]
    exact ⟨_, rfl⟩
  · by_cases unreadable : outcome = .unreadable
    · left
      simp only [if_neg long, if_pos unreadable]
      exact ⟨_, rfl⟩
    · by_cases full : maxJournalBytes <
          byteLength journal.disk + byteLength (record.encode ++ ['\n'])
      · left
        simp only [if_neg long, if_neg unreadable, if_pos full]
        exact ⟨_, rfl⟩
      · obtain ⟨disk, buffer, store⟩ := journal
        cases flushed
        simp only [if_neg long, if_neg unreadable, if_neg full]
        cases outcome with
        | done => exact .inr ⟨Nat.le_of_not_lt long, Nat.le_of_not_lt full, rfl⟩
        | unreadable => exact absurd rfl unreadable
        | failed taken reached =>
          obtain rfl := untaken taken reached rfl
          exact .inl ⟨.io, by simp⟩

/-- A record whose replay does to the rebuilt store what the call did to the
live one keeps the file in step with the store. -/
theorem recorded_commit {α : Type} {next record} {answer : α}
    (recorded : Recorded sha256 capacity journal) (untaken : outcome.Untaken)
    (replays : ∀ clock, Readable clock next → Readable clock journal.store ∧
      (journal.store.retime (reading clock)).applyRecord sha256
        (clock journal.store.updates.length) record = .ok (next.retime (reading clock))) :
    Recorded sha256 capacity (journal.commit next record outcome answer).2 := by
  rcases (commit_cases recorded.flushed untaken :
      (∃ e, journal.commit next record outcome answer = (.error e, journal)) ∨ _) with
    ⟨e, same⟩ | ⟨lineSize, fileSize, written⟩
  · rw [same]
    exact recorded
  · rw [written]
    obtain ⟨records, text, sizes, fresh, made, rebuilds⟩ := recorded.text
    refine ⟨rfl, ?_, records ++ [record], ?_, ?_, fresh, made, fun clock readable => ?_⟩
    · rw [byteLength_append]
      exact fileSize
    · simp [text, unlines]
    · intro other mem
      rcases mem_append.mp mem with before | new
      · exact sizes other before
      · rw [mem_singleton.mp new]
        exact lineSize
    · obtain ⟨readableBefore, applied⟩ := replays clock readable
      rw [replay_append, rebuilds clock readableBefore, ok_bind]
      simp only [replay, length_retime_updates, applied, ok_bind]

theorem recorded_append (recorded : Recorded sha256 capacity journal) (finding : SecurityFinding)
    (untaken : outcome.Untaken) :
    Recorded sha256 capacity (journal.append sha256 finding outcome).2 := by
  unfold FindingJournal.append
  cases stored : journal.store.append sha256 finding with
  | error e => exact recorded
  | ok reply =>
    obtain ⟨accepted, next⟩ := reply
    cases accepted with
    | false =>
      -- a repeated finding changes nothing
      have same : next = journal.store := by
        simp only [FindingStore.append, bind_eq_ok, pure_eq_ok] at stored
        obtain ⟨_, _, accepted, _, reply⟩ := stored
        obtain ⟨rfl, rfl⟩ := Prod.mk.inj reply
        rfl
      rw [same]
      exact recorded
    | true =>
      refine recorded_commit recorded untaken fun clock readable => ⟨?_, ?_⟩
      · have history : next.updates = journal.store.updates := append_updates stored
        rw [Readable, history] at readable
        exact readable
      · rw [applyRecord, append_retime, stored]
        rfl

theorem recorded_transition (recorded : Recorded sha256 capacity journal)
    {findingId expected next caller actorScope action now} (untaken : outcome.Untaken) :
    Recorded sha256 capacity
      (journal.transition findingId expected next caller actorScope action now outcome).2 := by
  unfold FindingJournal.transition
  cases changes : journal.store.transition findingId expected next caller actorScope action now with
  | error e => exact recorded
  | ok changed =>
    simp only [FindingStore.transition, transitionInternal, bind_eq_ok,
      ensure_eq_ok, require_eq_ok, pure_eq_ok, Option.filter_eq_some_iff] at changes
    obtain ⟨_, scope, subject, ⟨-, nonempty⟩, _, -, _, checked, atMs, -, rfl⟩ := changes
    have last : (journal.store.pushUpdate ⟨findingId, expected, next, action, actorScope,
        subject, atMs⟩).updates.getLast? =
        some ⟨findingId, expected, next, action, actorScope, subject, atMs⟩ := by
      simp [pushUpdate]
    simp only [last]
    refine recorded_commit recorded untaken fun clock readable => ?_
    have length : (journal.store.pushUpdate ⟨findingId, expected, next, action, actorScope,
        subject, atMs⟩).updates.length = journal.store.updates.length + 1 := by
      simp [pushUpdate]
    rw [Readable, length] at readable
    refine ⟨fun k below => readable k (by omega), ?_⟩
    apply transitionReplayed_eq_ok.mpr
    rw [checkTransition_retime, retime_pushUpdate]
    exact ⟨by simpa [scope] using nonempty, checked, _, readable _ (by omega), rfl⟩

theorem recorded_reopen (recorded : Recorded sha256 capacity journal)
    (clock : Nat → Option UInt64) :
    Recorded sha256 capacity (journalStep sha256 capacity journal (.reopen clock)) := by
  cases opened : FindingJournal.open sha256 capacity clock journal.close with
  | error e =>
    simp only [journalStep, opened]
    exact recorded
  | ok reopened =>
    obtain ⟨-, rfl⟩ := recorded.open_eq opened
    simp only [journalStep, opened]
    obtain ⟨records, text, sizes, fresh, made, rebuilds⟩ := recorded.text
    refine ⟨rfl, recorded.size, records, text, sizes, fresh, made, fun later readable => ?_⟩
    rw [retime_retime]
    apply rebuilds later
    rwa [Readable, length_retime_updates] at readable

/-- **The step.** Every call keeps the file in step with the store, unless its
write fails midway. -/
theorem recorded_step (recorded : Recorded sha256 capacity journal) {op : JournalOp}
    (untaken : op.Untaken) : Recorded sha256 capacity (journalStep sha256 capacity journal op) := by
  cases op with
  | append finding outcome => exact recorded_append recorded finding untaken
  | transition findingId expected next caller actorScope action now outcome =>
    exact recorded_transition recorded untaken
  | reopen clock => exact recorded_reopen recorded clock

/-- A journal opened over an empty file. -/
theorem recorded_open (opened : FindingJournal.open sha256 capacity clock [] = .ok journal) :
    Recorded sha256 capacity journal := by
  simp only [FindingJournal.open, bind_eq_ok, ensure_eq_ok, mapError_eq_ok] at opened
  obtain ⟨_, _, fresh, made, loaded, replayed, done⟩ := opened
  cases replayed
  cases done
  refine ⟨rfl, Nat.zero_le _, [], rfl, forall_mem_nil _, fresh, made, fun clock _ => ?_⟩
  simp only [new, withQuotas, bind_eq_ok, pure_eq_ok] at made
  obtain ⟨_, _, rfl⟩ := made
  rfl

/-- A recorded journal opens again as it was exactly where the clock repeats the
times of its history. -/
theorem Recorded.reopensSame_iff (recorded : Recorded sha256 capacity journal) :
    ReopensSame sha256 capacity clock journal ↔ RepeatsTimes clock journal.store := by
  constructor
  · rintro ⟨reopened, opened, -, updates⟩
    obtain ⟨repeats, -⟩ := recorded.open_eq opened
    rwa [RepeatsTimes, updates] at repeats
  · intro repeats
    obtain ⟨records, text, sizes, fresh, made, rebuilds⟩ := recorded.text
    have size := recorded.size
    rw [text] at size
    refine ⟨⟨journal.disk, [], journal.store⟩, ?_, rfl, rfl⟩
    rw [close, recorded.flushed, append_nil, text,
      open_recorded made sizes size, rebuilds clock repeats.readable, repeats.retime]
    rfl

end Invariant

/-- **A reopened journal is the one that was closed, except for the times of its
status changes.** After every run of appends, status changes and reopenings from
an empty file in which the writer takes nothing of a record whose write fails,
closing the journal and opening it again brings back the same findings and the
same status history, field for field, exactly where the clock shows at each
replayed change the time it was recorded at. -/
theorem reopen_same_iff (sha256 : List UInt8 → String) (capacity : Nat)
    (start : FindingJournal) (started clock : Nat → Option UInt64) (ops : List JournalOp)
    (opened : FindingJournal.open sha256 capacity started [] = .ok start)
    (untaken : ∀ op ∈ ops, op.Untaken) :
    ReopensSame sha256 capacity clock (run (journalStep sha256 capacity) start ops) ↔
      RepeatsTimes clock (run (journalStep sha256 capacity) start ops).store := by
  have steps : AllSteps (journalStep sha256 capacity) (fun _ op => op.Untaken) start ops :=
    allSteps_of_forall untaken
  have recorded : Recorded sha256 capacity (run (journalStep sha256 capacity) start ops) := by
    refine run_of_allSteps ?_ (recorded_open opened) steps
    intro journal op recorded untaken
    exact recorded_step recorded untaken
  exact recorded.reopensSame_iff

/-! ### A finding that is acknowledged -/

/-- The finding is refused once and recorded then, and acknowledged at time 5. -/
def sampleOps : List JournalOp :=
  [.append sampleFinding (.failed 0 0),
   .append sampleFinding .done,
   .transition sampleFinding.findingId .open .acknowledged ⟨true, some "s", none, ["w/n"]⟩ "w/n"
     none (some 5) .done]

theorem unindexed (findingId : String) (index : Nat)
    (found : (∅ : KeyMap String Nat).lookup findingId = some index) :
    index < ([] : List SecurityFinding).length := by
  simp at found

/-- The journal over an empty file. -/
def sampleStart : FindingJournal where
  disk := []
  buffer := []
  store :=
    { scopeCapacity := 8, globalCapacity := maxFindings,
      maxUpdates := maxFindings * maxStatusUpdatesPerFinding, findings := [], updates := [],
      byId := ∅, byScopeFingerprint := ∅, scopeCounts := ∅, indexed := unindexed }

theorem repeatsTimes_const {store : FindingStore} {now}
    (all : ∀ update ∈ store.updates, update.atMs = now) :
    RepeatsTimes (fun _ => some now) store := by
  intro k update found
  rw [all update (mem_of_getElem? found)]

theorem reopen_same_iff_sampleOps :
    ReopensSame sampleDigest 8 (fun _ => some 5)
      (run (journalStep sampleDigest 8) sampleStart sampleOps) := by
  have untaken : ∀ op ∈ sampleOps, op.Untaken := by
    simp [sampleOps, JournalOp.Untaken, WriteOutcome.Untaken]
  apply (reopen_same_iff sampleDigest 8 sampleStart (fun _ => none) _ sampleOps rfl untaken).mpr
  apply repeatsTimes_const
  decide +kernel

/-- Reopened at time 9, the journal says the finding was acknowledged at 9. -/
theorem sampleOps_reopened_later :
    ¬ ReopensSame sampleDigest 8 (fun _ => some 9)
      (run (journalStep sampleDigest 8) sampleStart sampleOps) := by
  rintro ⟨reopened, opened, -, updates⟩
  have observed : (FindingJournal.open sampleDigest 8 (fun _ => some 9)
        (run (journalStep sampleDigest 8) sampleStart sampleOps).close).toOption.map
          (fun reopened => reopened.store.updates) ≠
      some (run (journalStep sampleDigest 8) sampleStart sampleOps).store.updates := by
    decide +kernel
  apply observed
  rw [opened, ← updates]
  rfl

end Apex.Findings
