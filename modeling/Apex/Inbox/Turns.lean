import Apex.Inbox.Invariant

/-!
What one operation of an inbox does.

`turn` says once, for all later invariants, what an operation other than a
reopen can do: nothing (`Still`), a change that is taken back because its record
was not written (`Restored`), a batch of records with the change they note
(`Writes`), after which the journal may be rewritten, or a sweep. That an
operation keeps the journal in step with the state is the first use of it
(`Turn.sound`).
-/

namespace Apex.Inbox

open Checked Control FileCommandInbox Saturating InboxState

/-- One operation on the inbox, with all it depends on. -/
inductive InboxOp where
  | record (command : PendingCommand)
  | claim (target : PollTarget) (allows : String → String → Bool) (policy : DeliveryPolicy)
      (now : UInt64) (scan : Scan InboxKey UInt64)
  | acknowledge (target : PollTarget) (key : InboxKey) (deliveryAttempt : UInt32) (now : UInt64)
  | cancel (key : InboxKey) (now : UInt64)
  | maintain (now retention : UInt64) (maxAttempts : UInt32) (scan : Scan InboxKey UInt64)
  | reopen

/-- What an inbox has told a caller. -/
inductive Answer where
  | recorded (command : PendingCommand)
  | known (key : InboxKey)
  | delivered (key : InboxKey) (attempt : UInt32)
  | acknowledged (key : InboxKey)
  | cancelled (key : InboxKey)

def Answer.key : Answer → InboxKey
  | .recorded command => command.key
  | .known key | .delivered key _ | .acknowledged key | .cancelled key => key

def recordAnswers (command : PendingCommand) : Except CommandError RecordResult → List Answer
  | .ok .recorded => [.recorded command]
  | .ok .alreadyRecorded => [.known command.key]
  | .error _ => []

def claimAnswers : Except CommandError (List PendingCommand) → List Answer
  | .ok delivered => delivered.map fun command => .delivered command.key command.deliveryAttempt
  | .error _ => []

def acknowledgeAnswers (key : InboxKey) : Except CommandError AckResult → List Answer
  | .ok .acknowledged => [.acknowledged key]
  | .ok .alreadyAcknowledged => [.acknowledged key]
  | .ok .notFound => []
  | .error _ => []

def cancelAnswers (key : InboxKey) : Except CommandError CancelResult → List Answer
  | .ok .cancelled => [.cancelled key]
  | .ok .alreadyCancelled => [.cancelled key]
  | .ok .notFound => []
  | .error _ => []

/-- What an operation tells its caller where it succeeds. -/
def answers (inbox : FileCommandInbox) : InboxOp → List Answer
  | .record command => recordAnswers command (inbox.record command).1
  | .claim target allows policy now scan =>
      claimAnswers (inbox.claim target allows policy now scan).1
  | .acknowledge target key deliveryAttempt now =>
      acknowledgeAnswers key (inbox.acknowledge target key deliveryAttempt now).1
  | .cancel key now => cancelAnswers key (inbox.cancel key now).1
  | .maintain .. | .reopen => []

/-- The commands an operation hands out. -/
def handedOut (inbox : FileCommandInbox) : InboxOp → List PendingCommand
  | .claim target allows policy now scan =>
      match (inbox.claim target allows policy now scan).1 with
      | .ok commands => commands
      | .error _ => []
  | _ => []

/-- The records an operation appends. -/
def appends (inbox : FileCommandInbox) : InboxOp → List InboxRecord
  | .record command =>
      match inbox.state.checkRecordable command with
      | .ok none => if isRecordable command then [.command command] else []
      | _ => []
  | .claim target allows policy now _ =>
      claimRecords inbox.state (inbox.state.deliverable target allows policy now) now
  | .acknowledge target key deliveryAttempt now =>
      match inbox.state.acknowledge target key deliveryAttempt with
      | (.acknowledged, _) => [.acknowledged key now]
      | _ => []
  | .cancel key now =>
      match inbox.state.cancel key now with
      | .ok (.cancelled, _) => [.cancelled key now]
      | _ => []
  | .maintain .. | .reopen => []

/-- The state an operation leaves where its append fails: acknowledgements and
cancellations were made already and are undone. -/
def undone (inbox : FileCommandInbox) : InboxOp → InboxState
  | .acknowledge target key deliveryAttempt _ =>
      match inbox.state.acknowledge target key deliveryAttempt with
      | (.acknowledged, state) =>
          state.updateEntry key fun entry => { entry with acknowledged := false }
      | _ => inbox.state
  | .cancel key now =>
      match inbox.state.cancel key now with
      | .ok (.cancelled, state) =>
          state.updateEntry key fun entry =>
            { entry with cancelled := false, cancelledAtMillis := none }
      | _ => inbox.state
  | _ => inbox.state

/-- The inbox after an operation on it; a reopen reads nothing but the file. -/
def FileCommandInbox.served (inbox : FileCommandInbox) : InboxOp → FileCommandInbox
  | .record command => (inbox.record command).2
  | .claim target allows policy now scan => (inbox.claim target allows policy now scan).2
  | .acknowledge target key deliveryAttempt now =>
      (inbox.acknowledge target key deliveryAttempt now).2
  | .cancel key now => (inbox.cancel key now).2
  | .maintain now retention maxAttempts scan => (inbox.maintain now retention maxAttempts scan).2
  | .reopen => inbox

/-! ### Turns -/

/-- The answers of an operation that has nothing to do. -/
inductive Still (state : InboxState) : InboxOp → List Answer → Prop where
  | refused {op} : Still state op []
  | known {command} (known : state.checkRecordable command = .ok (some .alreadyRecorded)) :
      Still state (.record command) [.known command.key]
  | acknowledged {target key deliveryAttempt now entry}
      (found : state.entries.lookup key = some entry) (already : entry.acknowledged = true) :
      Still state (.acknowledge target key deliveryAttempt now) [.acknowledged key]
  | cancelled {key now entry} (found : state.entries.lookup key = some entry)
      (already : entry.cancelled = true) :
      Still state (.cancel key now) [.cancelled key]

/-- The state after a change that was taken back. -/
inductive Restored (before : InboxState) : InboxOp → InboxState → Prop where
  | acknowledge {target : PollTarget} {key deliveryAttempt now entry}
      (found : before.entries.lookup key = some entry) (fresh : entry.acknowledged = false)
      (own : entry.command.agentId = target.agentId) :
      Restored before (.acknowledge target key deliveryAttempt now)
        ((before.updateEntry key fun entry => { entry with acknowledged := true }).updateEntry key
          fun entry => { entry with acknowledged := false })
  | cancel {key now entry} (found : before.entries.lookup key = some entry)
      (fresh : entry.cancelled = false) :
      Restored before (.cancel key now)
        ((before.updateEntry key (InboxState.cancelledEntry now)).updateEntry key fun entry =>
          { entry with cancelled := false, cancelledAtMillis := none })

/-- The records of an operation, with the answers it gives, the commands it hands
out and the state it leaves once they are written. -/
inductive Writes (before : InboxState) :
    InboxOp → List InboxRecord → List Answer → List PendingCommand → InboxState → Prop where
  | record {command} (recordable : isRecordable command = true)
      (admitted : before.checkRecordable command = .ok none) :
      Writes before (.record command) [.command command] [.recorded command] []
        (before.insertRecorded command)
  | claim {target allows policy now scan} :
      Writes before (.claim target allows policy now scan)
        (claimRecords before (before.deliverable target allows policy now) now)
        (claimAnswers (.ok (markAll now (before.deliverable target allows policy now) before).1))
        (markAll now (before.deliverable target allows policy now) before).1
        (markAll now (before.deliverable target allows policy now) before).2
  | acknowledge {target : PollTarget} {key deliveryAttempt now entry}
      (found : before.entries.lookup key = some entry)
      (own : entry.command.agentId = target.agentId) (delivered : entry.attempts ≠ 0) :
      Writes before (.acknowledge target key deliveryAttempt now) [.acknowledged key now]
        [.acknowledged key] []
        (before.updateEntry key fun entry => { entry with acknowledged := true })
  | cancel {key now entry} (found : before.entries.lookup key = some entry)
      (undelivered : entry.attempts = 0) :
      Writes before (.cancel key now) [.cancelled key now] [.cancelled key] []
        (before.updateEntry key (InboxState.cancelledEntry now))

/-- The inbox itself, whose counter of delivery records is read by nothing but the
next compaction, or the inbox after a compaction. -/
inductive Rewritten (inbox : FileCommandInbox) : FileCommandInbox → Prop where
  | counted (count : Nat) : Rewritten inbox { inbox with deliveryRecordsSinceCompaction := count }
  | compacted {scan after} (ok : inbox.compact scan = .ok after) : Rewritten inbox after

inductive Turn (inbox : FileCommandInbox) :
    InboxOp → List Answer → List PendingCommand → FileCommandInbox → Prop where
  | still {op given} (still : Still inbox.state op given) :
      Turn inbox op given [] inbox
  | restored {op state} (restored : Restored inbox.state op state) :
      Turn inbox op [] [] { inbox with state }
  | written {op records given handed changed appended after}
      (writes : Writes inbox.state op records given handed changed)
      (ok : inbox.appendBatch records = .ok appended)
      (rewritten : Rewritten { appended with state := changed } after) :
      Turn inbox op given handed after
  | swept {now retention maxAttempts scan after}
      (ok : compact { inbox with state := swept inbox.state now (sub64 now retention) maxAttempts }
        scan = .ok after) :
      Turn inbox (.maintain now retention maxAttempts scan) [] [] after

/-! ### The operations by cases -/

variable {inbox appended : FileCommandInbox}

theorem checkRecordable_some {state : InboxState} {command result}
    (known : state.checkRecordable command = .ok (some result)) :
    result = .alreadyRecorded := by
  unfold checkRecordable at known
  split_ifs at known
  · exact (Option.some.inj (Except.ok.inj known)).symm
  · cases known

/-- The acknowledgement of a command: nothing to do, or a change of its entry. -/
theorem acknowledge_cases (state : InboxState) (target : PollTarget) (key : InboxKey)
    (deliveryAttempt : UInt32) :
    state.acknowledge target key deliveryAttempt = (.notFound, state) ∨
    (∃ entry, state.entries.lookup key = some entry ∧ entry.acknowledged = true ∧
      state.acknowledge target key deliveryAttempt = (.alreadyAcknowledged, state)) ∨
    ∃ entry, state.entries.lookup key = some entry ∧ entry.acknowledged = false ∧
      (entry.command.agentId = target.agentId ∧ entry.attempts ≠ 0) ∧
      state.acknowledge target key deliveryAttempt =
        (.acknowledged,
          state.updateEntry key fun entry => { entry with acknowledged := true }) := by
  unfold InboxState.acknowledge
  cases found : state.entries.lookup key with
  | none => exact .inl rfl
  | some entry =>
    dsimp only
    split_ifs with refused already
    · exact .inl rfl
    · exact .inr (.inl ⟨entry, rfl, already, rfl⟩)
    · obtain ⟨own, nonzero, enough⟩ : entry.command.agentId = target.agentId ∧
          deliveryAttempt ≠ 0 ∧ ¬ entry.attempts < deliveryAttempt := by
        simpa only [not_or, not_not, ne_eq] using refused
      refine .inr (.inr ⟨entry, rfl, by simpa using already, ⟨own, ?_⟩, rfl⟩)
      rintro undelivered
      rw [undelivered, UInt32.not_lt] at enough
      exact nonzero (UInt32.le_antisymm enough (UInt32.zero_le))

/-- The cancellation of a command: nothing to do, or a change of its entry. -/
theorem cancel_cases (state : InboxState) (key : InboxKey) (now : UInt64) :
    (∃ e, state.cancel key now = .error e) ∨
    state.cancel key now = .ok (.notFound, state) ∨
    (∃ entry, state.entries.lookup key = some entry ∧ entry.cancelled = true ∧
      state.cancel key now = .ok (.alreadyCancelled, state)) ∨
    ∃ entry, state.entries.lookup key = some entry ∧ entry.cancelled = false ∧
      entry.attempts = 0 ∧
      state.cancel key now =
        .ok (.cancelled, state.updateEntry key (cancelledEntry now)) := by
  unfold InboxState.cancel
  cases found : state.entries.lookup key with
  | none =>
    dsimp only
    split_ifs
    · exact .inl ⟨_, rfl⟩
    · exact .inr (.inl rfl)
  | some entry =>
    dsimp only
    split_ifs with already delivered
    · exact .inr (.inr (.inl ⟨entry, rfl, already, rfl⟩))
    · exact .inl ⟨_, rfl⟩
    · refine .inr (.inr (.inr ⟨entry, rfl, by simpa using already, ?_, rfl⟩))
      rw [UInt32.not_lt] at delivered
      exact UInt32.le_antisymm delivered UInt32.zero_le

/-- What a poll does once its records are written. -/
theorem claim_eq_ok {target allows policy now} (scan : Scan InboxKey UInt64)
    (ok : inbox.appendBatch (claimRecords inbox.state
      (inbox.state.deliverable target allows policy now) now) = .ok appended) :
    inbox.claim target allows policy now scan =
      (.ok (markAll now (inbox.state.deliverable target allows policy now) inbox.state).1,
        compactIfNeeded
          { appended with
            state := (markAll now (inbox.state.deliverable target allows policy now)
              inbox.state).2
            deliveryRecordsSinceCompaction := appended.deliveryRecordsSinceCompaction +
              (inbox.state.deliverable target allows policy now).length } scan) := by
  have same : appended.state = inbox.state := by rw [(appendBatch_eq_ok ok).1]
  simp only [claim, ok, same]

/-- A sweep leaves the inbox, or rewrites its journal to the swept state. -/
theorem maintain_cases (inbox : FileCommandInbox) (now retention : UInt64) (maxAttempts : UInt32)
    (scan : Scan InboxKey UInt64) :
    (inbox.maintain now retention maxAttempts scan).2 = inbox ∨
      compact { inbox with state := swept inbox.state now (sub64 now retention) maxAttempts } scan =
        .ok (inbox.maintain now retention maxAttempts scan).2 := by
  unfold maintain
  dsimp only
  split_ifs
  · exact .inl rfl
  · cases compacts : compact { inbox with
        state := swept inbox.state now (sub64 now retention) maxAttempts } scan with
    | error e =>
      unfold swept at compacts
      rw [compacts]
      exact .inl rfl
    | ok compacted =>
      unfold swept at compacts
      rw [compacts]
      exact .inr rfl

/-- An append looks at the file only. -/
theorem appendBatch_withState (inbox : FileCommandInbox) (state : InboxState)
    (records : List InboxRecord) :
    appendBatch { inbox with state } records =
      (inbox.appendBatch records).map fun appended => { appended with state } := by
  unfold appendBatch
  split_ifs
  · rfl
  · cases encodeRecords records with
    | error e => rfl
    | ok encoded =>
      rw [ok_bind, ok_bind]
      generalize ensure _ CommandError.inboxCapacity = fits
      cases fits <;> rfl

theorem compactIfNeeded_rewritten (inbox : FileCommandInbox) (count : Nat)
    (scan : Scan InboxKey UInt64) :
    Rewritten inbox
      (compactIfNeeded { inbox with deliveryRecordsSinceCompaction := count } scan) := by
  unfold compactIfNeeded
  split_ifs
  · exact .counted count
  · cases ok : compact { inbox with deliveryRecordsSinceCompaction := count } scan with
    | error e => exact .counted count
    | ok compacted => exact .compacted ok

/-- What an operation on an inbox does. -/
theorem turn (inbox : FileCommandInbox) (op : InboxOp) :
    Turn inbox op (answers inbox op) (handedOut inbox op) (inbox.served op) := by
  cases op with
  | record command =>
    simp only [answers, handedOut, served, FileCommandInbox.record]
    split_ifs with refused
    · exact .still .refused
    · have recordable : isRecordable command = true := by simpa using refused
      cases admitted : inbox.state.checkRecordable command with
      | error e => exact .still .refused
      | ok known =>
        cases known with
        | some result =>
          obtain rfl := checkRecordable_some admitted
          exact .still (.known admitted)
        | none =>
          cases ok : inbox.appendBatch [.command command] with
          | error e => exact .still .refused
          | ok appended =>
            have same : appended.state = inbox.state := by rw [(appendBatch_eq_ok ok).1]
            simp only [same]
            exact .written (.record recordable admitted) ok (.counted _)
  | claim target allows policy now scan =>
    cases ok : inbox.appendBatch (claimRecords inbox.state
        (inbox.state.deliverable target allows policy now) now) with
    | error e =>
      simp only [answers, handedOut, served, claim, ok]
      exact .still .refused
    | ok appended =>
      simp only [answers, handedOut, served, claim_eq_ok scan ok]
      exact .written .claim ok (compactIfNeeded_rewritten _ _ scan)
  | acknowledge target key deliveryAttempt now =>
    rcases acknowledge_cases inbox.state target key deliveryAttempt with
      is | ⟨entry, found, already, is⟩ | ⟨entry, found, fresh, ⟨own, delivered⟩, is⟩
    · simp only [answers, handedOut, served, FileCommandInbox.acknowledge, is]
      exact .still .refused
    · simp only [answers, handedOut, served, FileCommandInbox.acknowledge, is]
      exact .still (.acknowledged found already)
    · simp only [answers, handedOut, served, FileCommandInbox.acknowledge, is, if_true,
        appendBatch_withState]
      cases ok : inbox.appendBatch [.acknowledged key now] with
      | error e => exact .restored (.acknowledge found fresh own)
      | ok appended => exact .written (.acknowledge found own delivered) ok (.counted _)
  | cancel key now =>
    rcases cancel_cases inbox.state key now with
      ⟨e, is⟩ | is | ⟨entry, found, already, is⟩ | ⟨entry, found, fresh, undelivered, is⟩
    · simp only [answers, handedOut, served, FileCommandInbox.cancel, is]
      exact .still .refused
    · simp only [answers, handedOut, served, FileCommandInbox.cancel, is]
      exact .still .refused
    · simp only [answers, handedOut, served, FileCommandInbox.cancel, is]
      exact .still (.cancelled found already)
    · simp only [answers, handedOut, served, FileCommandInbox.cancel, is, if_true,
        appendBatch_withState]
      cases ok : inbox.appendBatch [.cancelled key now] with
      | error e => exact .restored (.cancel found fresh)
      | ok appended => exact .written (.cancel found undelivered) ok (.counted _)
  | maintain now retention maxAttempts scan =>
    rcases maintain_cases inbox now retention maxAttempts scan with same | compacts
    · rw [served, same]
      exact .still .refused
    · exact .swept compacts
  | reopen => exact .still .refused

/-- What an operation appends and what it leaves where that fails. -/
theorem attempt (inbox : FileCommandInbox) (op : InboxOp) :
    (appends inbox op = [] ∨
      ∃ given handed changed, Writes inbox.state op (appends inbox op) given handed changed) ∧
    (undone inbox op = inbox.state ∨ Restored inbox.state op (undone inbox op)) := by
  cases op with
  | record command =>
    refine ⟨?_, .inl rfl⟩
    simp only [appends]
    cases admitted : inbox.state.checkRecordable command with
    | error e => exact .inl rfl
    | ok known =>
      cases known with
      | some result => exact .inl rfl
      | none =>
        dsimp only
        split_ifs with recordable
        · exact .inr ⟨_, _, _, .record recordable admitted⟩
        · exact .inl rfl
  | claim target allows policy now scan => exact ⟨.inr ⟨_, _, _, .claim⟩, .inl rfl⟩
  | acknowledge target key deliveryAttempt now =>
    rcases acknowledge_cases inbox.state target key deliveryAttempt with
      is | ⟨_, -, -, is⟩ | ⟨entry, found, fresh, ⟨own, delivered⟩, is⟩
    · simp [appends, undone, is]
    · simp [appends, undone, is]
    · simp only [appends, undone, is]
      exact ⟨.inr ⟨_, _, _, .acknowledge found own delivered⟩, .inr (.acknowledge found fresh own)⟩
  | cancel key now =>
    rcases cancel_cases inbox.state key now with
      ⟨e, is⟩ | is | ⟨_, -, -, is⟩ | ⟨entry, found, fresh, undelivered, is⟩
    · simp [appends, undone, is]
    · simp [appends, undone, is]
    · simp [appends, undone, is]
    · simp only [appends, undone, is]
      exact ⟨.inr ⟨_, _, _, .cancel found undelivered⟩, .inr (.cancel found fresh)⟩
  | maintain | reopen => exact ⟨.inl rfl, .inl rfl⟩

/-! ### The commands and tombstones -/

variable {op : InboxOp} {records : List InboxRecord} {given : List Answer}
  {handed : List PendingCommand} {before changed : InboxState} {after : FileCommandInbox}

theorem Restored.dataOnly (restored : Restored before op changed) :
    InboxState.DataOnly before changed := by
  cases restored with
  | acknowledge | cancel =>
    refine .trans (dataOnly_updateEntry before _ ?_)
      (dataOnly_updateEntry _ _ ?_) <;> intro entry <;> rfl

theorem undone_dataOnly (inbox : FileCommandInbox) (op : InboxOp) :
    InboxState.DataOnly inbox.state (undone inbox op) := by
  rcases (attempt inbox op).2 with same | restored
  · rw [same]
    exact .refl _
  · exact restored.dataOnly

/-- Records other than those of a new command note delivery data. -/
theorem Writes.kind (writes : Writes before op records given handed changed) :
    (∃ command, records = [.command command] ∧ isRecordable command = true ∧
      before.checkRecordable command = .ok none ∧ changed = before.insertRecorded command) ∨
    InboxState.DataOnly before changed ∧ commandKeys records = [] ∧ retiredKeys records = [] := by
  cases writes with
  | record recordable admitted => exact .inl ⟨_, rfl, recordable, admitted, rfl⟩
  | claim =>
    refine .inr ⟨dataOnly_markAll _ _ before, ?_⟩
    simp [claimRecords, commandKeys, retiredKeys, List.filterMap_map]
  | acknowledge | cancel =>
    exact .inr ⟨dataOnly_updateEntry before _ fun _ => rfl, rfl, rfl⟩

theorem Writes.wellFormed (writes : Writes before op records given handed changed)
    (wf : before.WellFormed) : changed.WellFormed := by
  rcases writes.kind with ⟨command, -, recordable, admitted, rfl⟩ | ⟨data, -⟩
  · exact wf.insertRecorded recordable admitted
  · exact data.wellFormed wf

/-- An admitted command and its record. -/
theorem Sound.recorded (sound : Sound inbox) {command} (recordable : isRecordable command = true)
    (admitted : inbox.state.checkRecordable command = .ok none)
    (ok : inbox.appendBatch [.command command] = .ok appended) :
    Sound { appended with state := inbox.state.insertRecorded command } := by
  obtain ⟨fresh, -⟩ := checkRecordable_eq_none admitted
  refine ⟨sound.wellFormed.insertRecorded recordable admitted, sound.journaled.append ok ?_
    (liveOrder_insertRecorded fresh) rfl rfl⟩
  intro stored mem
  obtain rfl : stored = command := by simpa using mem
  exact recordable

theorem Rewritten.sound (rewritten : Rewritten inbox after) (sound : Sound inbox) :
    Sound after := by
  cases rewritten with
  | counted count => exact ⟨sound.wellFormed, sound.journaled⟩
  | compacted ok => exact (compact_sound sound.wellFormed ok).1

/-- What an operation does to the commands and tombstones of an inbox. -/
inductive Change (before after : InboxState) : Prop where
  | same (same : InboxState.SameKeys before after)
  | recorded (command : PendingCommand)
      (admitted : before.checkRecordable command = .ok none)
      (same : InboxState.SameKeys (before.insertRecorded command) after)
  | swept (now cutoff : UInt64) (maxAttempts : UInt32)
      (same : InboxState.SameKeys (swept before now cutoff maxAttempts) after)

theorem swept_limits (state : InboxState) (now cutoff : UInt64) (maxAttempts : UInt32) :
    (swept state now cutoff maxAttempts).capacity = state.capacity ∧
      (swept state now cutoff maxAttempts).scopeQuota = state.scopeQuota :=
  retireSettled_induction (P := fun after =>
    after.capacity = state.capacity ∧ after.scopeQuota = state.scopeQuota)
    (fun _ _ _ limits _ => limits) ⟨rfl, rfl⟩ now cutoff maxAttempts

theorem Change.limits {before after} (change : Change before after) :
    after.capacity = before.capacity ∧ after.scopeQuota = before.scopeQuota := by
  cases change with
  | same same | recorded _ _ same => exact ⟨same.capacity, same.scopeQuota⟩
  | swept now cutoff maxAttempts same =>
    obtain ⟨capacity, scopeQuota⟩ := swept_limits before now cutoff maxAttempts
    exact ⟨same.capacity.trans capacity, same.scopeQuota.trans scopeQuota⟩

theorem InboxState.DataOnly.change (data : InboxState.DataOnly before changed)
    (wf : before.WellFormed) : changed.WellFormed ∧ Change before changed :=
  ⟨data.wellFormed wf, .same data.toSameKeys⟩

theorem Rewritten.wellFormed (rewritten : Rewritten inbox after) (wf : inbox.state.WellFormed) :
    after.state.WellFormed ∧ InboxState.SameKeys inbox.state after.state := by
  cases rewritten with
  | counted count => exact ⟨wf, .refl _⟩
  | compacted ok =>
    obtain ⟨sound, same⟩ := compact_sound wf ok
    exact ⟨sound.wellFormed, same⟩

/-- An operation keeps the state well formed, whatever its file holds. -/
theorem Turn.change (turn : Turn inbox op given handed after) (wf : inbox.state.WellFormed) :
    after.state.WellFormed ∧ Change inbox.state after.state := by
  cases turn with
  | still => exact ⟨wf, .same (.refl _)⟩
  | restored restored => exact restored.dataOnly.change wf
  | written writes ok rewritten =>
    obtain ⟨wf', same⟩ := rewritten.wellFormed (writes.wellFormed wf)
    refine ⟨wf', ?_⟩
    rcases writes.kind with ⟨command, -, -, admitted, rfl⟩ | ⟨data, -⟩
    · exact .recorded command admitted same
    · exact .same (data.toSameKeys.trans same)
  | @swept now retention maxAttempts _ _ ok =>
    have swept := wf.swept now (sub64 now retention) maxAttempts
    obtain ⟨sound, same⟩ := @compact_sound { inbox with
      state := Inbox.swept inbox.state now (sub64 now retention) maxAttempts } _ _ swept ok
    exact ⟨sound.wellFormed, .swept now _ maxAttempts same⟩

theorem Turn.sound (turn : Turn inbox op given handed after) (sound : Sound inbox) :
    Sound after := by
  cases turn with
  | still => exact sound
  | restored restored => exact sound.dataOnly restored.dataOnly
  | written writes ok rewritten =>
    rcases writes.kind with ⟨command, rfl, recordable, admitted, rfl⟩ | ⟨data, notes⟩
    · exact rewritten.sound (sound.recorded recordable admitted ok)
    · exact rewritten.sound (sound.note data ok notes)
  | @swept now retention maxAttempts _ _ ok =>
    have wf := sound.wellFormed.swept now (sub64 now retention) maxAttempts
    exact (@compact_sound { inbox with
      state := Inbox.swept inbox.state now (sub64 now retention) maxAttempts } _ _ wf ok).1

end Apex.Inbox
