import Apex.Fanout.Worker
import Apex.Lib.Lockstep
import Apex.Outbox.Tracking

/-!
What callers can see of the file-backed outbox.

A request is one call of the outbox, or closing and reopening it; the answer is
what the caller gets back. Two outboxes with the same journal and the same rows
answer every list of requests alike (`answers_eq`): no answer depends on how a
state holds its rows, where the order of a scan depends on the entries only.
-/

namespace Apex.Outbox

open Checked Domain Lines Lockstep Saturating OutboxState List KeyMap

/-! ### Reading -/

namespace OutboxState

variable (state : OutboxState)

/-- `pending`. -/
def pendingEvents (scan : Scan OutboxKey IngestRequest) : List IngestRequest :=
  (scan.order state.pending).map Prod.snd

def recentCompletedBatch (scan : Scan OutboxKey UInt64) (sinceMillis : UInt64) (limit : Nat) :
    List IngestRequest :=
  (((scan.order state.completedAtMillis).filter fun (_, completedAt) =>
      sinceMillis ≤ completedAt).filterMap fun (key, _) =>
    state.completeEvents.lookup key).take limit

def pendingReconciliationBatch (scan : Scan OutboxKey IngestRequest) (limit : Nat) :
    List IngestRequest :=
  ((scan.order state.pending).map Prod.snd).take limit

def quarantinedBatch (scan : Scan OutboxKey IngestRequest) (limit : Nat) : List OutboxKey :=
  ((scan.order state.quarantined).map Prod.fst).take limit

/-- How long the oldest pending event has been waiting. -/
def oldestPendingMillis (scan : Scan OutboxKey UInt64) (now : UInt64) : Option UInt64 :=
  ((scan.order state.pendingSinceMillis).map Prod.snd).min?.map (sub64 now)

end OutboxState

def FileOutbox.checkAdmissionReadiness (outbox : FileOutbox) (workspaceId namespaceId : String) :
    Except GatewayError Unit := do
  ensure (isScopeIdentifier workspaceId && isScopeIdentifier namespaceId) GatewayError.scopeDenied
  ensure (outbox.state.size < outbox.state.capacity) GatewayError.idempotencyCapacity
  ensure (byteLength outbox.journal < maxOutboxFileBytes) GatewayError.internal

/-! ### Requests -/

/-- A scan whose order depends on the entries of the map only. -/
abbrev SteadyScan (ν : Type) : Type := { scan : Scan OutboxKey ν // scan.Extensional }

/-- The scans of a compaction. -/
structure SteadyScans where
  pending : SteadyScan IngestRequest
  complete : SteadyScan (Option Fingerprint)
  quarantined : SteadyScan IngestRequest

def SteadyScans.scan (scans : SteadyScans) : OutboxState.OutboxScan :=
  ⟨scans.pending.1, scans.complete.1, scans.quarantined.1⟩

/-- A call that only reads, with the clock reading and the scan order it meets. -/
inductive Query where
  | checkAdmissionReadiness (workspaceId namespaceId : String)
  | pending (scan : SteadyScan IngestRequest)
  | pendingBatch (scan : SteadyScan IngestRequest) (limit : Nat) (now : UInt64)
  | pendingCount
  | recentCompletedBatch (scan : SteadyScan UInt64) (sinceMillis : UInt64) (limit : Nat)
  | pendingReconciliationBatch (scan : SteadyScan IngestRequest) (limit : Nat)
  | quarantinedBatch (scan : SteadyScan IngestRequest) (limit : Nat)
  | quarantinedCount
  | oldestPendingMillis (scan : SteadyScan UInt64) (now : UInt64)

/-- A call of the outbox, or a restart. -/
inductive Request (codec : EnvelopeCodec) where
  | call (op : AppendOp codec)
  | maintain (now retention : UInt64) (scans : SteadyScans) (clock : Nat → UInt64)
  | read (query : Query)
  | reopen (now : UInt64)

inductive Answer where
  | enqueued (result : Except GatewayError EnqueueResult)
  | done (result : Except GatewayError Unit)
  | events (events : List IngestRequest)
  | keys (keys : List OutboxKey)
  | count (count : Nat)
  | age (age : Option UInt64)
  /-- There is no outbox: a reopen has failed. -/
  | closed
  deriving DecidableEq

variable {codec : EnvelopeCodec}

/-- An operation that appends, with its answer. -/
def AppendOp.serve (outbox : FileOutbox) : AppendOp codec → Answer × FileOutbox
  | .enqueue event _ now =>
      let (result, after) := outbox.commit (outbox.state.enqueue codec event now)
      (.enqueued result, after)
  | op =>
      let (result, after) := outbox.commit (op.plan outbox.state)
      (.done result, after)

def FileOutbox.read (outbox : FileOutbox) : Query → Answer
  | .checkAdmissionReadiness workspaceId namespaceId =>
      .done (outbox.checkAdmissionReadiness workspaceId namespaceId)
  | .pending scan => .events (outbox.state.pendingEvents scan.1)
  | .pendingBatch scan limit now => .events (Fanout.pendingBatch outbox.state scan.1 limit now)
  | .pendingCount => .count outbox.state.pending.keys.length
  | .recentCompletedBatch scan sinceMillis limit =>
      .events (outbox.state.recentCompletedBatch scan.1 sinceMillis limit)
  | .pendingReconciliationBatch scan limit =>
      .events (outbox.state.pendingReconciliationBatch scan.1 limit)
  | .quarantinedBatch scan limit => .keys (outbox.state.quarantinedBatch scan.1 limit)
  | .quarantinedCount => .count outbox.state.quarantined.keys.length
  | .oldestPendingMillis scan now => .age (outbox.state.oldestPendingMillis scan.1 now)

/-- One request to an open outbox. -/
def FileOutbox.serve (capacity : Nat) (outbox : FileOutbox) :
    Request codec → Answer × Option FileOutbox
  | .call op => (op.serve outbox).map id some
  | .maintain now retention scans clock =>
      (outbox.maintain now retention scans.scan clock).map .done some
  | .read query => (outbox.read query, some outbox)
  | .reopen now =>
      match FileOutbox.open codec capacity now outbox.journal with
      | .error e => (.done (.error e), none)
      | .ok reopened => (.done (.ok ()), some reopened)

/-- One request; after a reopen that failed there is no outbox. -/
def serveOutbox (codec : EnvelopeCodec) (capacity : Nat) :
    Option FileOutbox → Request codec → Answer × Option FileOutbox
  | none, _ => (.closed, none)
  | some outbox, request => outbox.serve capacity request

/-- What a request leaves. -/
def outboxAfter (codec : EnvelopeCodec) (capacity : Nat) (world : Option FileOutbox)
    (request : Request codec) : Option FileOutbox :=
  (serveOutbox codec capacity world request).2

/-! ### States with the same rows -/

namespace SameRowViews

variable {a b : OutboxState} (same : SameRowViews a b)

include same

theorem pending (key : OutboxKey) : a.pending.lookup key = b.pending.lookup key :=
  congrArg RowView.pending (same.row key)

theorem complete (key : OutboxKey) : a.complete.lookup key = b.complete.lookup key :=
  congrArg RowView.complete (same.row key)

theorem completeEvents (key : OutboxKey) :
    a.completeEvents.lookup key = b.completeEvents.lookup key :=
  congrArg RowView.completeEvents (same.row key)

theorem completedAtMillis (key : OutboxKey) :
    a.completedAtMillis.lookup key = b.completedAtMillis.lookup key :=
  congrArg RowView.completedAtMillis (same.row key)

theorem nextAttemptAtMillis (key : OutboxKey) :
    a.nextAttemptAtMillis.lookup key = b.nextAttemptAtMillis.lookup key :=
  congrArg RowView.nextAttemptAtMillis (same.row key)

theorem attempts (key : OutboxKey) : a.attempts.lookup key = b.attempts.lookup key :=
  congrArg RowView.attempts (same.row key)

theorem quarantined (key : OutboxKey) : a.quarantined.lookup key = b.quarantined.lookup key :=
  congrArg RowView.quarantined (same.row key)

theorem pendingSinceMillis (key : OutboxKey) :
    a.pendingSinceMillis.lookup key = b.pendingSinceMillis.lookup key :=
  congrArg RowView.pendingSinceMillis (same.row key)

theorem size : a.size = b.size := by
  rw [OutboxState.size, OutboxState.size, length_keys_eq_of_lookup same.pending,
    length_keys_eq_of_lookup same.complete,
    length_keys_eq_of_lookup same.quarantined]

omit same in
theorem refl (state : OutboxState) : SameRowViews state state :=
  ⟨rfl, fun _ => rfl⟩

theorem insertQuarantined (keys : List OutboxKey) :
    SameRowViews (keys.foldl OutboxState.insertQuarantined a)
      (keys.foldl OutboxState.insertQuarantined b) :=
  foldl_rel same fun key _ a b same =>
    (a.insertQuarantined_row key).congr (b.insertQuarantined_row key) same

theorem quarantineRecords (keys : List OutboxKey) (reason : String) (now : UInt64) :
    a.quarantineRecords keys reason now = b.quarantineRecords keys reason now := by
  simp only [OutboxState.quarantineRecords, same.pending]

theorem completions (clock : Nat → UInt64) (keys : List OutboxKey) :
    a.completions clock keys = b.completions clock keys := by
  induction keys generalizing clock with
  | nil => rfl
  | cons key rest ih =>
    rw [OutboxState.completions, OutboxState.completions, ih, same.complete, same.pending]

theorem snapshotRecords (scans : SteadyScans) (clock : Nat → UInt64) :
    a.snapshotRecords scans.scan clock = b.snapshotRecords scans.scan clock := by
  have pending : scans.scan.pending.order a.pending = scans.scan.pending.order b.pending :=
    scans.pending.2 _ _ same.pending
  have complete : scans.scan.complete.order a.complete = scans.scan.complete.order b.complete :=
    scans.complete.2 _ _ same.complete
  have quarantined :
      scans.scan.quarantined.order a.quarantined = scans.scan.quarantined.order b.quarantined :=
    scans.quarantined.2 _ _ same.quarantined
  simp only [OutboxState.snapshotRecords, pending, complete, quarantined, same.nextAttemptAtMillis,
    same.attempts, same.pendingSinceMillis, same.completedAtMillis, same.completeEvents]

end SameRowViews

/-! ### Plans -/

/-- The two plans write and answer the same, and leave states with the same
rows. -/
structure Plan.Same {α : Type} (p q : Plan α) : Prop where
  records : p.records = q.records
  answer : p.answer = q.answer
  success : SameRowViews p.success q.success
  failure : SameRowViews p.failure q.failure

/-- The same refusal, or plans that are the same. -/
inductive SamePlanned {α : Type} :
    Except GatewayError (Plan α) → Except GatewayError (Plan α) → Prop where
  | error (e : GatewayError) : SamePlanned (.error e) (.error e)
  | ok {p q : Plan α} (same : p.Same q) : SamePlanned (.ok p) (.ok q)

namespace OutboxState

variable {a b : OutboxState}

theorem nothing_same {α : Type} (same : SameRowViews a b) (answer : α) :
    (a.nothing answer).Same (b.nothing answer) :=
  ⟨rfl, rfl, same, same⟩

variable (codec) in
theorem enqueue_same (same : SameRowViews a b) (event : IngestRequest) (now : UInt64) :
    SamePlanned (a.enqueue codec event now) (b.enqueue codec event now) := by
  unfold enqueue
  rw [same.complete, same.quarantined, same.pending, same.size, same.capacity]
  cases b.complete.lookup event.key with
  | some complete =>
    cases complete with
    | some stored =>
      dsimp only
      split_ifs
      · exact .ok (nothing_same same _)
      · exact .error _
    | none => exact .ok (nothing_same same _)
  | none =>
    cases b.quarantined.lookup event.key with
    | some existing =>
      dsimp only
      split_ifs
      · exact .ok (nothing_same same _)
      · exact .error _
    | none =>
      cases b.pending.lookup event.key with
      | some existing =>
        dsimp only
        split_ifs
        · exact .ok (nothing_same same _)
        · exact .error _
      | none =>
        dsimp only
        split_ifs
        · exact .error _
        · exact .ok ⟨rfl, rfl, (a.insertPending_row event now).congr
            (b.insertPending_row event now) same, same⟩

theorem insertComplete_same (same : SameRowViews a b) (completions : List Completion) :
    SameRowViews
      (completions.foldl (fun state completion => state.insertComplete codec completion) a)
      (completions.foldl (fun state completion => state.insertComplete codec completion) b) :=
  foldl_rel same fun completion _ a b same =>
    (a.insertComplete_row completion).congr (b.insertComplete_row completion) same

variable (codec) in
theorem markComplete_same (same : SameRowViews a b) (key : OutboxKey) (now : UInt64) :
    SamePlanned (a.markComplete codec key now) (b.markComplete codec key now) := by
  unfold markComplete
  rw [same.complete, same.pending]
  cases b.complete.lookup key with
  | some fingerprint => exact .ok (nothing_same same _)
  | none =>
    cases b.pending.lookup key with
    | none => exact .error _
    | some event => exact .ok ⟨rfl, rfl, insertComplete_same same [⟨key, event, now⟩], same⟩

variable (codec) in
theorem markCompleteMany_same (same : SameRowViews a b) (keys : List OutboxKey)
    (clock : Nat → UInt64) :
    SamePlanned (a.markCompleteMany codec keys clock) (b.markCompleteMany codec keys clock) := by
  unfold markCompleteMany
  rw [same.completions]
  cases b.completions clock keys with
  | error e => exact .error e
  | ok completions => exact .ok ⟨rfl, rfl, insertComplete_same same completions, same⟩

theorem quarantine_same (same : SameRowViews a b) (keys : List OutboxKey) (reason : String)
    (now : UInt64) : (a.quarantine keys reason now).Same (b.quarantine keys reason now) :=
  ⟨same.quarantineRecords keys reason now, rfl, same.insertQuarantined keys, same⟩

theorem requeueQuarantined_same (same : SameRowViews a b) (keys : List OutboxKey) (now : UInt64) :
    (a.requeueQuarantined keys now).Same (b.requeueQuarantined keys now) where
  records := by simp only [requeueQuarantined, same.quarantined]
  answer := rfl
  success := foldl_rel same fun key _ a b same =>
    (a.insertRequeued_row now key).congr (b.insertRequeued_row now key) same
  failure := same

/-- The two walks have collected the same. -/
structure Rescheduling.Same (work work' : Rescheduling) : Prop where
  state : SameRowViews work.state work'.state
  records : work.records = work'.records
  quarantineKeys : work.quarantineKeys = work'.quarantineKeys

theorem rescheduleKey_same {work work' : Rescheduling} (same : work.Same work') (next : UInt64)
    (key : OutboxKey) : (rescheduleKey next work key).Same (rescheduleKey next work' key) := by
  unfold rescheduleKey
  rw [same.state.pending, same.state.attempts, same.state.pendingSinceMillis]
  cases work'.state.pending.lookup key with
  | none => exact same
  | some event =>
    dsimp only
    split_ifs
    · exact ⟨same.state, same.records, by rw [same.quarantineKeys]⟩
    · refine ⟨?_, by rw [same.records], same.quarantineKeys⟩
      exact (retried_row next _ work.state key).congr
        (retried_row next _ work'.state key) same.state

theorem reschedule_same (same : SameRowViews a b) (keys : List OutboxKey)
    (afterMillis now : UInt64) :
    (a.reschedule keys afterMillis now).Same (b.reschedule keys afterMillis now) := by
  have start : Rescheduling.Same ⟨a, [], []⟩ ⟨b, [], []⟩ := ⟨same, rfl, rfl⟩
  have walked := foldl_rel start fun key (_ : key ∈ keys) _ _ same =>
    rescheduleKey_same same (add64 now afterMillis) key
  constructor
  · simp only [reschedule]
    rw [walked.records, walked.quarantineKeys, walked.state.quarantineRecords]
  · rfl
  · simp only [reschedule]
    rw [walked.quarantineKeys]
    exact walked.state.insertQuarantined _
  · exact walked.state

/-- A sweep drops the rows that are past retention, in whatever order. -/
theorem removeCompleted_foldl_row (state : OutboxState) (keys : List OutboxKey) (key : OutboxKey) :
    (keys.foldl removeCompleted state).row key =
      if key ∈ keys then (state.row key).forget else state.row key :=
  row_foldl removeCompleted_row (fun _ => rfl) keys state key

theorem mem_expired {state : OutboxState} {cutoff key} :
    key ∈ state.expired cutoff ↔
      ∃ completedAt ≤ cutoff, state.completedAtMillis.lookup key = some completedAt := by
  simp only [expired, mem_map, mem_filter, decide_eq_true_eq, Prod.exists,
    exists_and_right, exists_eq_right]
  constructor
  · rintro ⟨completedAt, mem, past⟩
    exact ⟨completedAt, past, (Scan.stored _ _).mem_order _ |>.mp mem⟩
  · rintro ⟨completedAt, past, found⟩
    exact ⟨completedAt, (Scan.stored _ _).mem_order _ |>.mpr found, past⟩

theorem mem_expired_same (same : SameRowViews a b) (cutoff : UInt64) (key : OutboxKey) :
    key ∈ a.expired cutoff ↔ key ∈ b.expired cutoff := by
  rw [mem_expired, mem_expired, same.completedAtMillis]

theorem swept_same (same : SameRowViews a b) (cutoff : UInt64) :
    SameRowViews ((a.expired cutoff).foldl removeCompleted a)
      ((b.expired cutoff).foldl removeCompleted b) := by
  have capacity (state : OutboxState) (keys : List OutboxKey) :
      (keys.foldl removeCompleted state).capacity = state.capacity :=
    List.foldlRecOn (motive := (OutboxState.capacity · = _)) keys _ rfl fun _ kept _ _ => kept
  refine ⟨?_, fun key => ?_⟩
  · rw [capacity, capacity, same.capacity]
  · simp only [removeCompleted_foldl_row, mem_expired_same same cutoff key, same.row]

end OutboxState

/-! ### Outboxes that cannot be told apart -/

/-- The same journal and the same rows. -/
structure FileOutbox.Same (a b : FileOutbox) : Prop where
  journal : a.journal = b.journal
  state : SameRowViews a.state b.state

namespace FileOutbox

variable {a b : FileOutbox}

theorem commit_same {α : Type} (same : a.Same b) {plan plan' : Except GatewayError (Plan α)}
    (planned : SamePlanned plan plan') :
    (a.commit plan).1 = (b.commit plan').1 ∧ (a.commit plan).2.Same (b.commit plan').2 := by
  cases planned with
  | error e => exact ⟨rfl, same⟩
  | @ok p q planned =>
    have checked : a.checkBatch p.records = b.checkBatch q.records := by
      rw [checkBatch, checkBatch, same.journal, planned.records]
    cases empty : q.records.isEmpty with
    | true =>
      have nil := isEmpty_iff.mp empty
      simp only [commit, appendBatch, planned.records, nil]
      exact ⟨congrArg Except.ok planned.answer, same.journal, planned.success⟩
    | false =>
      simp only [commit, appendBatch, planned.records, empty] at checked ⊢
      cases accepted : b.checkBatch q.records with
      | error e =>
        rw [accepted] at checked
        simp only [checked]
        exact ⟨rfl, same.journal, planned.failure⟩
      | ok _ =>
        rw [accepted] at checked
        simp only [checked]
        refine ⟨congrArg Except.ok planned.answer, ?_, planned.success⟩
        exact congrArg (· ++ encodeBatch q.records) same.journal

theorem maintain_same (same : a.Same b) (now retention : UInt64) (scans : SteadyScans)
    (clock : Nat → UInt64) :
    (a.maintain now retention scans.scan clock).1 = (b.maintain now retention scans.scan clock).1 ∧
      (a.maintain now retention scans.scan clock).2.Same
        (b.maintain now retention scans.scan clock).2 := by
  have swept := swept_same same.state (sub64 now retention)
  have empty : (a.state.expired (sub64 now retention)).isEmpty =
      (b.state.expired (sub64 now retention)).isEmpty := by
    rw [Bool.eq_iff_iff, List.isEmpty_iff, List.isEmpty_iff, List.eq_nil_iff_forall_not_mem,
      List.eq_nil_iff_forall_not_mem]
    simp only [mem_expired_same same.state]
  unfold maintain
  dsimp only
  rw [empty]
  split_ifs
  · exact ⟨rfl, same⟩
  · simp only [compactJournal, swept.snapshotRecords]
    by_cases small : byteLength (encodeBatch (((b.state.expired (sub64 now retention)).foldl
        removeCompleted b.state).snapshotRecords scans.scan clock)) ≤ maxOutboxFileBytes
    · simp only [small, decide_true, ensure_true]
      exact ⟨rfl, rfl, swept⟩
    · simp only [small, decide_false, ensure, Bool.false_eq_true, if_false]
      exact ⟨rfl, same⟩

theorem serve_op_same (same : a.Same b) (op : AppendOp codec) :
    (op.serve a).1 = (op.serve b).1 ∧ (op.serve a).2.Same (op.serve b).2 := by
  have done {plan plan' : Except GatewayError (Plan Unit)} (planned : SamePlanned plan plan') :
      Answer.done (a.commit plan).1 = .done (b.commit plan').1 ∧
        (a.commit plan).2.Same (b.commit plan').2 :=
    (commit_same same planned).imp_left (congrArg Answer.done)
  cases op with
  | enqueue event admitted now =>
    have committed := commit_same same (enqueue_same codec same.state event now)
    exact ⟨congrArg Answer.enqueued committed.1, committed.2⟩
  | markComplete key now => exact done (markComplete_same codec same.state key now)
  | markCompleteMany keys clock =>
    exact done (markCompleteMany_same codec same.state keys clock)
  | reschedule keys afterMillis now =>
    exact done (.ok (reschedule_same same.state keys afterMillis now))
  | quarantine keys reason now =>
    exact done (.ok (quarantine_same same.state keys reason now))
  | requeueQuarantined keys now =>
    exact done (.ok (requeueQuarantined_same same.state keys now))

end FileOutbox

theorem FileOutbox.read_same {a b : FileOutbox} (same : a.Same b) (query : Query) :
    a.read query = b.read query := by
  have state := same.state
  cases query with
  | checkAdmissionReadiness workspaceId namespaceId =>
    simp only [read, checkAdmissionReadiness, state.size, state.capacity, same.journal]
  | pending scan => simp only [read, pendingEvents, scan.2 _ _ state.pending]
  | pendingBatch scan limit now =>
    simp only [read, Fanout.pendingBatch, scan.2 _ _ state.pending, state.nextAttemptAtMillis]
  | pendingCount => simp only [read, length_keys_eq_of_lookup state.pending]
  | recentCompletedBatch scan sinceMillis limit =>
    simp only [read, OutboxState.recentCompletedBatch, scan.2 _ _ state.completedAtMillis,
      state.completeEvents]
  | pendingReconciliationBatch scan limit =>
    simp only [read, OutboxState.pendingReconciliationBatch, scan.2 _ _ state.pending]
  | quarantinedBatch scan limit =>
    simp only [read, OutboxState.quarantinedBatch, scan.2 _ _ state.quarantined]
  | quarantinedCount => simp only [read, length_keys_eq_of_lookup state.quarantined]
  | oldestPendingMillis scan now =>
    simp only [read, OutboxState.oldestPendingMillis, scan.2 _ _ state.pendingSinceMillis]

/-- A request keeps outboxes that are the same so, and answers alike. -/
theorem serveOutbox_bisimulation (codec : EnvelopeCodec) (capacity : Nat) :
    IsBisimulation (serveOutbox codec capacity) (serveOutbox codec capacity)
      (Option.Rel FileOutbox.Same) := by
  intro world world' request related
  cases related with
  | none => exact ⟨rfl, .none⟩
  | @some a b same =>
    cases request with
    | call op =>
      have served := FileOutbox.serve_op_same same op
      exact ⟨served.1, .some served.2⟩
    | maintain now retention scans clock =>
      have served := FileOutbox.maintain_same same now retention scans clock
      exact ⟨congrArg Answer.done served.1, .some served.2⟩
    | read query => exact ⟨FileOutbox.read_same same query, .some same⟩
    | reopen now =>
      simp only [serveOutbox, FileOutbox.serve, same.journal]
      -- Both read the same file.
      split
      · exact ⟨trivial, .none⟩
      · exact ⟨trivial, .some ⟨rfl, .refl _⟩⟩

end Apex.Outbox
