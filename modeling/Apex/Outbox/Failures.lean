import Apex.Outbox.Recovery

/-!
Operations of the file-backed outbox whose I/O fails.

An append can fail before it writes, after any number of bytes, or when it is
synced; a compaction can fail at each of its file operations, and can lose the file
handle. The in-memory state that an operation leaves behind is the plan's `failure`
in the one case and the state that `maintain` restores in the other.
`call_keeps_iff` says which calls leave the state alone whatever fails.
-/

namespace Apex.Outbox

open Checked Domain Lines Saturating

/-- Where an append stops. -/
inductive AppendFault where
  | metadata
  /-- `write_all` stops after `reached` bytes. -/
  | write (reached : Nat)
  | sync
  deriving DecidableEq, Repr

/-- Where a compaction stops. -/
inductive CompactFault where
  | fileName
  | create
  /-- Writing or syncing the temporary file. -/
  | write
  /-- The rename, and whether the journal can be opened again after it. -/
  | rename (reopens : Bool)
  /-- Opening the renamed file. -/
  | reopen
  deriving DecidableEq, Repr

/-- What goes wrong during one call. -/
structure Faults where
  append : Option AppendFault
  compact : Option CompactFault

def Faults.none : Faults :=
  ⟨.none, .none⟩

/-- The outbox with its file handle, which a failed compaction leaves closed. -/
structure HeldOutbox extends FileOutbox where
  file : Bool

namespace HeldOutbox

variable (held : HeldOutbox)

/-- The checks of `append_batch`, the file's size read between them. -/
def checkBatch (fault : Option AppendFault) (records : List FileOutboxRecord) :
    Except GatewayError Unit := do
  forM records fun record =>
    ensure (byteLength (record.encode ++ ['\n']) ≤ maxOutboxRecordBytes)
      GatewayError.payloadTooLarge
  ensure held.file GatewayError.invalidOutboxConfiguration
  ensure (fault ≠ some .metadata) GatewayError.invalidOutboxConfiguration
  ensure (byteLength held.journal + byteLength (FileOutbox.encodeBatch records) ≤
    maxOutboxFileBytes) GatewayError.idempotencyCapacity

/-- `append_batch`, with what is in the file after it. -/
def appendBatch (fault : Option AppendFault) (records : List FileOutboxRecord) :
    Except GatewayError Unit × HeldOutbox :=
  if records.isEmpty then (.ok (), held)
  else
    let encoded := FileOutbox.encodeBatch records
    match held.checkBatch fault records, fault with
    | .error e, _ => (.error e, held)
    | .ok _, some (.write reached) =>
        (.error .internal, { held with journal := held.journal ++ takeBytes reached encoded })
    | .ok _, some .sync => (.error .internal, { held with journal := held.journal ++ encoded })
    | .ok _, _ => (.ok (), { held with journal := held.journal ++ encoded })

/-- Carries out a planned operation. -/
def commit {α : Type} (fault : Option AppendFault) (plan : Except GatewayError (Plan α)) :
    Except GatewayError α × HeldOutbox :=
  match plan with
  | .error e => (.error e, held)
  | .ok plan =>
      match held.appendBatch fault plan.records with
      | (.error e, after) => (.error e, { after with state := plan.failure })
      | (.ok _, after) => (.ok plan.answer, { after with state := plan.success })

/-- `compact_journal`. The handle is given up before the rename. -/
def compactJournal (fault : Option CompactFault) (scan : OutboxState.OutboxScan)
    (clock : Nat → UInt64) : Except GatewayError Unit × HeldOutbox :=
  let encoded := FileOutbox.encodeBatch (held.state.snapshotRecords scan clock)
  if maxOutboxFileBytes < byteLength encoded then (.error .idempotencyCapacity, held)
  else
    match fault with
    | some .fileName => (.error .invalidOutboxConfiguration, held)
    | some .create => (.error .internal, held)
    | some .write => (.error .internal, held)
    | fault =>
        if !held.file then (.error .invalidOutboxConfiguration, held)
        else
          match fault with
          | some (.rename true) => (.error .internal, held)
          | some (.rename false) =>
              (.error .invalidOutboxConfiguration, { held with file := false })
          | some .reopen =>
              (.error .invalidOutboxConfiguration, { held with journal := encoded, file := false })
          | _ => (.ok (), { held with journal := encoded })

/-- `maintain`. What the sweep removed is put back when the journal could not be
rewritten. -/
def maintain (fault : Option CompactFault) (now retention : UInt64)
    (scan : OutboxState.OutboxScan) (clock : Nat → UInt64) :
    Except GatewayError Unit × HeldOutbox :=
  let expired := held.state.expired (sub64 now retention)
  if expired.isEmpty then (.ok (), held)
  else
    match compactJournal { held with state := expired.foldl OutboxState.removeCompleted held.state }
      fault scan clock with
    | (.error e, after) =>
        (.error e, { after with
          state := { after.state with
            complete := held.state.complete
            completeEvents := held.state.completeEvents
            completedAtMillis := held.state.completedAtMillis } })
    | (.ok _, after) => (.ok (), after)

end HeldOutbox

/-- A planned operation carried out over a file that may fail. -/
def FileOutbox.commitWith {α : Type} (outbox : FileOutbox) (fault : Option AppendFault)
    (plan : Except GatewayError (Plan α)) : Except GatewayError α × FileOutbox :=
  ((HeldOutbox.mk outbox true).commit fault plan).map id HeldOutbox.toFileOutbox

/-- An operation that writes, with the clock readings it takes. -/
inductive OutboxCall where
  | enqueue (event : IngestRequest) (now : UInt64)
  | markComplete (key : OutboxKey) (now : UInt64)
  | markCompleteMany (keys : List OutboxKey) (clock : Nat → UInt64)
  | reschedule (keys : List OutboxKey) (afterMillis now : UInt64)
  | quarantine (keys : List OutboxKey) (reason : String) (now : UInt64)
  | requeueQuarantined (keys : List OutboxKey) (now : UInt64)
  | maintain (now retention : UInt64) (scan : OutboxState.OutboxScan) (clock : Nat → UInt64)

/-- A call; what `enqueue` answers besides an error is left out. -/
def HeldOutbox.call (codec : EnvelopeCodec) (faults : Faults) (held : HeldOutbox) :
    OutboxCall → Except GatewayError Unit × HeldOutbox
  | .enqueue event now =>
      let outcome := held.commit faults.append (held.state.enqueue codec event now)
      (outcome.1.map fun _ => (), outcome.2)
  | .markComplete key now => held.commit faults.append (held.state.markComplete codec key now)
  | .markCompleteMany keys clock =>
      held.commit faults.append (held.state.markCompleteMany codec keys clock)
  | .reschedule keys afterMillis now =>
      held.commit faults.append (.ok (held.state.reschedule keys afterMillis now))
  | .quarantine keys reason now =>
      held.commit faults.append (.ok (held.state.quarantine keys reason now))
  | .requeueQuarantined keys now =>
      held.commit faults.append (.ok (held.state.requeueQuarantined keys now))
  | .maintain now retention scan clock => held.maintain faults.compact now retention scan clock

/-! ### Without faults -/

variable {codec : EnvelopeCodec} {held : HeldOutbox} {faults : Faults} {state : OutboxState}
  {keys : List OutboxKey} {e : GatewayError}

namespace HeldOutbox

theorem checkBatch_none (opened : held.file = true) (records : List FileOutboxRecord) :
    held.checkBatch none records = held.toFileOutbox.checkBatch records := by
  simp [checkBatch, FileOutbox.checkBatch, opened, ensure]

theorem appendBatch_none (opened : held.file = true) (records : List FileOutboxRecord) :
    held.appendBatch none records =
      match held.toFileOutbox.appendBatch records with
      | .error e => (.error e, held)
      | .ok after => (.ok (), { held with toFileOutbox := after }) := by
  unfold appendBatch FileOutbox.appendBatch
  split
  · rfl
  · rw [checkBatch_none opened]
    cases held.toFileOutbox.checkBatch records with
    | error e => rfl
    | ok _ => rfl

/-- A call that nothing goes wrong in is the outbox's own. -/
theorem commit_none {α : Type} (opened : held.file = true) (plan : Except GatewayError (Plan α)) :
    held.commit none plan =
      ((held.toFileOutbox.commit plan).1,
        { held with toFileOutbox := (held.toFileOutbox.commit plan).2 }) := by
  cases plan with
  | error e => rfl
  | ok plan =>
    simp only [commit, FileOutbox.commit, appendBatch_none opened]
    cases held.toFileOutbox.appendBatch plan.records with
    | error e => rfl
    | ok after => rfl

/-- A compaction, whatever fails in it, reads the state only. -/
theorem compactJournal_state (fault : Option CompactFault) (scan : OutboxState.OutboxScan)
    (clock : Nat → UInt64) : (held.compactJournal fault scan clock).2.state = held.state := by
  unfold compactJournal
  dsimp only
  repeat' split
  all_goals rfl

end HeldOutbox

/-- Putting the completed rows back undoes a sweep. -/
theorem OutboxState.restore_removeCompleted (state : OutboxState) (keys : List OutboxKey) :
    { keys.foldl removeCompleted state with
      complete := state.complete
      completeEvents := state.completeEvents
      completedAtMillis := state.completedAtMillis } = state := by
  let restored (swept : OutboxState) := { swept with
    complete := state.complete
    completeEvents := state.completeEvents
    completedAtMillis := state.completedAtMillis }
  exact List.foldlRecOn (motive := (restored · = state)) keys _ rfl fun _ kept _ _ => kept

namespace HeldOutbox

variable {fault : Option CompactFault} {now retention : UInt64} {scan : OutboxState.OutboxScan}
  {clock : Nat → UInt64}

/-- A sweep changes nothing in memory, or is answered and leaves the swept state. -/
theorem maintain_cases :
    (held.maintain fault now retention scan clock).2.state = held.state ∨
      (held.maintain fault now retention scan clock).1 = .ok () ∧
        (held.maintain fault now retention scan clock).2.state =
          (held.state.expired (sub64 now retention)).foldl OutboxState.removeCompleted
            held.state := by
  unfold maintain
  dsimp only
  split_ifs
  · exact .inl rfl
  · split
    all_goals
      rename_i after compacted
      have state := congrArg (fun outcome => outcome.2.state) compacted
      rw [compactJournal_state] at state
      dsimp only at state ⊢
      rw [← state]
    · exact .inl (held.state.restore_removeCompleted _)
    · exact .inr ⟨rfl, rfl⟩

theorem maintain_error (failed : (held.maintain fault now retention scan clock).1 = .error e) :
    (held.maintain fault now retention scan clock).2.state = held.state := by
  rcases maintain_cases with same | ⟨answered, -⟩
  · exact same
  · rw [answered] at failed
    cases failed

end HeldOutbox

/-! ### Failures that leave nothing behind -/

/-- The append fails before it writes a byte. -/
def AppendFault.Clean : AppendFault → Prop
  | .metadata => True
  | .write reached => reached = 0
  | .sync => False

/-- The compaction does not fail between the rename and the end. -/
def CompactFault.Clean (fault : CompactFault) : Prop :=
  fault ≠ .reopen

def Faults.Clean (faults : Faults) : Prop :=
  (∀ fault ∈ faults.append, fault.Clean) ∧ ∀ fault ∈ faults.compact, fault.Clean

namespace HeldOutbox

/-- A plan that was carried out, or failed and left the file as it was. -/
inductive Carried {α : Type} (held : HeldOutbox) (plan : Plan α) :
    Except GatewayError α × HeldOutbox → Prop where
  | failed (e : GatewayError) : Carried held plan (.error e, { held with state := plan.failure })
  | done : Carried held plan (.ok plan.answer, { held with
      journal := held.journal ++ FileOutbox.encodeBatch plan.records, state := plan.success })

theorem commit_carried {α : Type} {fault} (clean : ∀ f ∈ fault, f.Clean) (held : HeldOutbox)
    (plan : Plan α) : held.Carried plan (held.commit fault (.ok plan)) := by
  unfold commit appendBatch
  dsimp only
  by_cases nothing : plan.records = []
  · have same : held.journal ++ FileOutbox.encodeBatch plan.records = held.journal := by
      simp [nothing, FileOutbox.encodeBatch]
    rw [if_pos (by simp [nothing])]
    simpa only [same] using @Carried.done _ held plan
  · rw [if_neg (by simpa using nothing)]
    rcases held.checkBatch fault plan.records with e | -
    · exact .failed e
    · rcases fault with _ | (_ | reached | _)
      · exact .done
      · exact .done
      · obtain rfl : reached = 0 := clean _ rfl
        have none : takeBytes 0 (FileOutbox.encodeBatch plan.records) = [] := takeBytes_append [] _
        simpa only [none, List.append_nil] using Carried.failed .internal
      · exact (clean _ rfl).elim

theorem compactJournal_clean (clean : ∀ f ∈ fault, f.Clean) :
    (∃ e file, held.compactJournal fault scan clock = (.error e, { held with file })) ∨
      held.compactJournal fault scan clock = (.ok (), { held with
        journal := FileOutbox.encodeBatch (held.state.snapshotRecords scan clock) }) := by
  unfold compactJournal
  dsimp only
  repeat' split
  all_goals first
    | exact .inl ⟨_, _, rfl⟩
    | exact .inr rfl
    | exact absurd rfl (clean _ rfl)

/-- A sweep whose compaction fails before the rename leaves the outbox as it was. -/
theorem maintain_clean (clean : ∀ f ∈ fault, f.Clean) :
    (held.maintain fault now retention scan clock).2.toFileOutbox = held.toFileOutbox ∨
      (held.maintain fault now retention scan clock).2.toFileOutbox =
        ⟨FileOutbox.encodeBatch ((held.swept (sub64 now retention)).snapshotRecords scan clock),
          held.swept (sub64 now retention)⟩ := by
  unfold maintain
  dsimp only
  split_ifs
  · exact .inl rfl
  · rcases @compactJournal_clean { held with state := held.swept (sub64 now retention) }
      fault scan clock clean with ⟨e, file, is⟩ | is
    all_goals
      unfold FileOutbox.swept at is
      rw [is]
    · exact .inl (congrArg (FileOutbox.mk held.journal) (held.state.restore_removeCompleted _))
    · exact .inr rfl

end HeldOutbox

/-! ### What a failed call keeps -/

/-- The rows and their retry data are as they were. -/
structure OutboxState.Keeps (before after : OutboxState) : Prop where
  pending : after.pending = before.pending
  complete : after.complete = before.complete
  quarantined : after.quarantined = before.quarantined
  attempts : after.attempts = before.attempts
  nextAttemptAtMillis : after.nextAttemptAtMillis = before.nextAttemptAtMillis

theorem OutboxState.Keeps.refl (state : OutboxState) : state.Keeps state :=
  ⟨rfl, rfl, rfl, rfl, rfl⟩

/-- Rescheduling the key would write a retry. -/
def OutboxState.retries (state : OutboxState) (key : OutboxKey) : Bool :=
  (state.pending.lookup key).isSome &&
    next32 ((state.attempts.lookup key).getD 0) < maxPersistedAttempts

/-- No key of a rescheduling is retried. -/
def OutboxCall.NoRetry (state : OutboxState) : OutboxCall → Prop
  | .reschedule keys _ _ => ∀ key ∈ keys, state.retries key = false
  | _ => True

namespace HeldOutbox

theorem commit_error {α : Type} {fault} {plan : Except GatewayError (Plan α)}
    (rolls : ∀ made, plan = .ok made → made.failure = held.state)
    (failed : (held.commit fault plan).1 = .error e) :
    (held.commit fault plan).2.state = held.state := by
  cases plan with
  | error e => rfl
  | ok made =>
    unfold commit at failed ⊢
    dsimp only at failed ⊢
    split at failed
    next appended => simpa [appended] using rolls made rfl
    next => cases failed

theorem commit_append_error {α : Type} {fault} {plan : Plan α}
    (failed : (held.appendBatch fault plan.records).1 = .error e) :
    (held.commit fault (.ok plan)).1 = .error e ∧
      (held.commit fault (.ok plan)).2.state = plan.failure := by
  unfold commit
  dsimp only
  split
  next appended =>
    rw [appended] at failed
    cases failed
    exact ⟨rfl, rfl⟩
  next appended =>
    rw [appended] at failed
    cases failed

/-- A fault stops every append that has something to write. -/
theorem appendBatch_fault (fault : AppendFault) {records} (nonempty : records ≠ []) :
    ∃ e, (held.appendBatch (some fault) records).1 = .error e := by
  unfold appendBatch
  rw [if_neg (by simpa using nonempty)]
  dsimp only
  split
  next e _ => exact ⟨e, rfl⟩
  next => exact ⟨_, rfl⟩
  next => exact ⟨_, rfl⟩
  next checked other other' =>
    -- The size is read before anything is written.
    cases fault with
    | metadata =>
      simp only [checkBatch, bind_eq_ok, ensure_eq_ok] at checked
      obtain ⟨-, -, -, -, -, read, -⟩ := checked
      exact absurd read (by simp)
    | write reached => exact absurd rfl (other reached)
    | sync => exact absurd rfl other'

end HeldOutbox

/-! ### Rescheduling changes the state first -/

namespace OutboxState

variable {next : UInt64} {work : Rescheduling} {key : OutboxKey}

theorem rescheduleKey_not_retries (no : work.state.retries key = false) :
    (rescheduleKey next work key).state = work.state := by
  unfold rescheduleKey retries at *
  split
  · rfl
  next event pending =>
    have out : maxPersistedAttempts ≤ next32 ((work.state.attempts.lookup key).getD 0) := by
      simpa [pending] using no
    dsimp only
    rw [if_pos out]

/-- The retry data of a key that is tried once more. -/
def raise (next : UInt64) (state : OutboxState) (key : OutboxKey) : OutboxState :=
  { state with
    nextAttemptAtMillis := AList.insert key next state.nextAttemptAtMillis
    attempts := AList.insert key (next32 ((state.attempts.lookup key).getD 0)) state.attempts }

theorem rescheduleKey_retries (retried : work.state.retries key = true) :
    (rescheduleKey next work key).state = work.state.raise next key ∧
      (rescheduleKey next work key).records ≠ [] := by
  rw [retries, Bool.and_eq_true, decide_eq_true_eq] at retried
  obtain ⟨event, pending⟩ := Option.isSome_iff_exists.mp retried.1
  unfold rescheduleKey
  rw [pending]
  dsimp only
  rw [if_neg (UInt32.not_le.mpr retried.2)]
  constructor
  · rfl
  · simp

theorem rescheduleKeys_not_retries (no : ∀ key ∈ keys, work.state.retries key = false) :
    (keys.foldl (rescheduleKey next) work).state = work.state := by
  refine List.foldlRecOn (motive := (Rescheduling.state · = work.state)) keys _ rfl ?_
  intro kept same key mem
  have unretried := no key mem
  rw [← same] at unretried
  exact (rescheduleKey_not_retries unretried).trans same

/-- The attempts a key has made. -/
def made (state : OutboxState) (key : OutboxKey) : Nat :=
  ((state.attempts.lookup key).getD 0).toNat

theorem made_rescheduleKey (key other : OutboxKey) :
    (rescheduleKey next work key).state.made other =
      if key = other ∧ work.state.retries key = true then work.state.made other + 1
      else work.state.made other := by
  cases retried : work.state.retries key with
  | false => simp [rescheduleKey_not_retries retried]
  | true =>
    rw [(rescheduleKey_retries retried).1]
    rw [retries, Bool.and_eq_true, decide_eq_true_eq] at retried
    by_cases same : key = other
    · subst same
      simp [made, raise, toNat_next32_of_lt retried.2]
    · simp [made, raise, same, AList.lookup_insert_ne (Ne.symm same)]

theorem made_le_rescheduleKeys (next : UInt64) (keys : List OutboxKey) (work : Rescheduling)
    (key : OutboxKey) :
    work.state.made key ≤ (keys.foldl (rescheduleKey next) work).state.made key := by
  refine List.foldlRecOn (motive := fun walked : Rescheduling => _ ≤ walked.state.made key) keys _
    (Nat.le_refl _) fun walked grows first _ => ?_
  rw [made_rescheduleKey]
  split <;> omega

theorem records_ne_nil_rescheduleKeys (keys : List OutboxKey) (work : Rescheduling)
    (nonempty : work.records ≠ []) : (keys.foldl (rescheduleKey next) work).records ≠ [] := by
  refine List.foldlRecOn (motive := (Rescheduling.records · ≠ [])) keys _ nonempty ?_
  intro walked nonempty key _
  unfold rescheduleKey
  dsimp only
  repeat' split
  all_goals simp [nonempty]

/-- A key that is retried has made more attempts once the keys are walked, and there
is something to write. -/
theorem rescheduleKeys_retries (mem : key ∈ keys) (retried : work.state.retries key = true) :
    (∃ other, work.state.made other < (keys.foldl (rescheduleKey next) work).state.made other) ∧
      (keys.foldl (rescheduleKey next) work).records ≠ [] := by
  induction keys generalizing work with
  | nil => cases mem
  | cons first rest ih =>
    rw [List.foldl_cons]
    by_cases here : work.state.retries first = true
    · -- The first retried key is the one whose attempts grow.
      have grows := made_le_rescheduleKeys next rest (rescheduleKey next work first) first
      rw [made_rescheduleKey, if_pos ⟨rfl, here⟩] at grows
      refine ⟨⟨first, by omega⟩, ?_⟩
      exact records_ne_nil_rescheduleKeys rest _ (rescheduleKey_retries here).2
    · have same := @rescheduleKey_not_retries next work first (Bool.eq_false_iff.mpr here)
      rcases List.mem_cons.mp mem with rfl | mem
      · exact absurd retried here
      · have walked := @ih (rescheduleKey next work first) mem (by rw [same]; exact retried)
        rwa [same] at walked

end OutboxState

/-! ### Calls that keep the state -/

open OutboxState

theorem enqueue_failure {event now plan} (ok : state.enqueue codec event now = .ok plan) :
    plan.failure = state := by
  unfold OutboxState.enqueue at ok
  repeat' split at ok
  all_goals cases ok
  all_goals rfl

theorem markComplete_failure {key now plan} (ok : state.markComplete codec key now = .ok plan) :
    plan.failure = state := by
  unfold OutboxState.markComplete at ok
  split at ok
  all_goals cases ok
  all_goals rfl

theorem markCompleteMany_failure {clock plan}
    (ok : state.markCompleteMany codec keys clock = .ok plan) : plan.failure = state := by
  obtain ⟨completions, -, is⟩ := bind_eq_ok.mp ok
  cases is
  rfl

/-- A call that retries no key leaves the state as it was when it fails. -/
theorem call_keeps {call : OutboxCall} (noRetry : call.NoRetry held.state)
    (failed : (held.call codec faults call).1 = .error e) :
    (held.call codec faults call).2.state = held.state := by
  cases call with
  | enqueue event now =>
    cases outcome : (held.commit faults.append (held.state.enqueue codec event now)).1 with
    | error e => exact HeldOutbox.commit_error (fun _ ok => enqueue_failure ok) outcome
    | ok answer => simp [HeldOutbox.call, outcome, Except.map] at failed
  | markComplete key now =>
    exact HeldOutbox.commit_error (fun _ ok => markComplete_failure ok) failed
  | markCompleteMany keys clock =>
    exact HeldOutbox.commit_error (fun _ ok => markCompleteMany_failure ok) failed
  | reschedule keys afterMillis now =>
    apply HeldOutbox.commit_error _ failed
    intro plan ok
    cases ok
    exact rescheduleKeys_not_retries noRetry
  | quarantine | requeueQuarantined =>
    apply HeldOutbox.commit_error _ failed
    intro plan ok
    cases ok
    rfl
  | maintain now retention scan clock => exact HeldOutbox.maintain_error failed

/-- **What a failed call changes.** A call that fails leaves the rows, the attempt
counts and the times of the next attempts as they were, whatever fails, exactly when
it is not a rescheduling that retries a key. -/
theorem call_keeps_iff (codec : EnvelopeCodec) (held : HeldOutbox) (call : OutboxCall) :
    (∀ faults e, (held.call codec faults call).1 = .error e →
      held.state.Keeps (held.call codec faults call).2.state) ↔ call.NoRetry held.state := by
  constructor
  · intro keeps
    cases call with
    | reschedule keys afterMillis now =>
      intro key mem
      by_contra retried
      rw [Bool.not_eq_false] at retried
      obtain ⟨⟨other, grows⟩, nonempty⟩ :=
        @rescheduleKeys_retries keys (add64 now afterMillis) ⟨held.state, [], []⟩ key mem retried
      -- Let the append fail: the new attempts are in memory already.
      have written : (held.state.reschedule keys afterMillis now).records ≠ [] := by
        simp [reschedule, nonempty]
      obtain ⟨e, failed⟩ := @HeldOutbox.appendBatch_fault held .sync _ written
      obtain ⟨failed, left⟩ := HeldOutbox.commit_append_error failed
      have attempts := (keeps ⟨some .sync, none⟩ e failed).attempts
      have changed : (held.state.reschedule keys afterMillis now).failure.made other =
          held.state.made other := by
        rw [← left, made, made]
        exact congrArg (fun attempts : KeyMap OutboxKey UInt32 =>
          ((attempts.lookup other).getD 0).toNat) attempts
      exact Nat.ne_of_gt grows changed
    | _ => exact trivial
  · intro noRetry faults e failed
    rw [call_keeps noRetry failed]
    exact .refl _

/-- An outbox that waits for one event. -/
def sampleHeld : HeldOutbox where
  toFileOutbox := ((FileOutbox.fresh 8).commit
    ((OutboxState.empty 8).enqueue sampleCodec (sampleEvent 1) 0)).2
  file := true

/-- The disk is full when the event is put back: the call fails, and the event has
made an attempt that the journal knows nothing of. -/
theorem sampleHeld_reschedule :
    let outcome := sampleHeld.call sampleCodec ⟨some (.write 0), none⟩
      (.reschedule [(sampleEvent 1).key] 1000 5)
    outcome.1.toOption = none ∧
      sampleHeld.state.attempts.lookup (sampleEvent 1).key = none ∧
      outcome.2.state.attempts.lookup (sampleEvent 1).key = some 1 ∧
      outcome.2.state.nextAttemptAtMillis.lookup (sampleEvent 1).key = some 1005 ∧
      outcome.2.journal = sampleHeld.journal := by
  decide +kernel

end Apex.Outbox
