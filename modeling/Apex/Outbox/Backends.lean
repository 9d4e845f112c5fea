import Apex.Outbox.Failures
import Apex.Outbox.Memory
import Apex.Outbox.Requests

/-!
One law for the three outboxes.

An event whose key is held with other bytes is a conflict, and a key that
`mark_complete` accepts is complete. `lawful_iff` says where each of the outboxes
keeps the law, in every state that calls of the trait lead to. Two places do not: the
in-memory outbox answers for a quarantined key before it looks at the bytes, and the
PostgreSQL outbox accepts the completion of a quarantined row.
-/

namespace Apex.Outbox

open Checked Domain Lines OutboxState Option KeyMap

/-! ### The file-backed outbox as an outbox -/

/-- What a call on the file-backed outbox finds beside it: what goes wrong, the clock,
and the orders in which its maps are scanned. -/
structure FileCall where
  faults : Faults
  now : UInt64
  clock : Nat → UInt64
  scan : OutboxState.OutboxScan
  times : Scan OutboxKey UInt64

namespace HeldOutbox

variable (codec : EnvelopeCodec) (call : FileCall)

/-- The milliseconds of a duration, at most `u64::MAX`. -/
def millis (nanos : Nat) : UInt64 :=
  UInt64.ofNat (min (nanos / 1000000) (UInt64.size - 1))

def checkAdmissionReadiness (workspaceId namespaceId : String) (held : HeldOutbox) :
    Except GatewayError Unit := do
  ensure (isScopeIdentifier workspaceId && isScopeIdentifier namespaceId) GatewayError.scopeDenied
  ensure (held.state.size < held.state.capacity) GatewayError.idempotencyCapacity
  ensure (held.file && call.faults.append ≠ some .metadata) GatewayError.internal
  ensure (byteLength held.journal < maxOutboxFileBytes) GatewayError.internal
  ensure (call.faults.append ≠ some .sync) GatewayError.internal

/-- A call that appends. -/
def append {α : Type} (plan : OutboxState → Except GatewayError (Plan α)) :
    Raising HeldOutbox GatewayError α :=
  fun held => (held.commit call.faults.append (plan held.state)).swap

/-- `FileOutbox` as an outbox. -/
def eventOutbox : EventOutbox HeldOutbox where
  checkAdmissionReadiness workspaceId namespaceId held :=
    (held, checkAdmissionReadiness call workspaceId namespaceId held)
  enqueue event := append call fun state => state.enqueue codec event call.now
  markComplete key := append call fun state => state.markComplete codec key call.now
  markCompleteMany keys := append call fun state => state.markCompleteMany codec keys call.clock
  pending held := (held, held.state.pendingEvents call.scan.pending)
  pendingBatch limit held :=
    (held, .ok (Fanout.pendingBatch held.state call.scan.pending limit call.now))
  pendingCount held := (held, .ok held.state.pending.keys.length)
  recentCompletedBatch sinceMillis limit held :=
    (held, .ok (held.state.recentCompletedBatch call.times sinceMillis limit))
  pendingReconciliationBatch limit held :=
    (held, .ok (held.state.pendingReconciliationBatch call.scan.pending limit))
  reschedule keys after :=
    append call fun state => .ok (state.reschedule keys (millis after) call.now)
  quarantine keys reason := append call fun state => .ok (state.quarantine keys reason call.now)
  quarantinedBatch limit held :=
    (held, .ok (held.state.quarantinedBatch call.scan.quarantined limit))
  quarantinedCount held := (held, .ok held.state.quarantined.keys.length)
  oldestPendingMillis held := (held, .ok (held.state.oldestPendingMillis call.times call.now))
  requeueQuarantined keys :=
    append call fun state => .ok (state.requeueQuarantined keys call.now)
  maintain nowMillis retentionMillis held :=
    (held.maintain call.faults.compact nowMillis retentionMillis call.scan call.clock).swap

/-- The outbox over a fresh file. -/
def fresh (capacity : Nat) : HeldOutbox where
  toFileOutbox := FileOutbox.fresh capacity
  file := true

end HeldOutbox

/-! ### Every call keeps an event in one place -/

/-- Both outcomes of the plan are exclusive. -/
structure Plan.Exclusive {α : Type} (codec : EnvelopeCodec) (plan : Plan α) : Prop where
  success : plan.success.Exclusive codec
  failure : plan.failure.Exclusive codec

section

variable {codec : EnvelopeCodec} {inputs : Inputs} {state after : OutboxState}

theorem Step.exclusive {record} (step : Step inputs codec state record after)
    (exclusive : state.Exclusive codec) : after.Exclusive codec := by
  cases step with
  | arrive _ _ fresh _ now => exact exclusive.insertPending fresh now
  | settle stands =>
    apply exclusive.insertComplete
    rcases stands with pending | ⟨complete, -⟩
    · exact ((exclusive _).pendingOnly (by simp [OutboxState.holding, pending])).2
    · exact (exclusive _).completeOnly complete
  | isolate => exact exclusive.insertQuarantined _
  | release => exact exclusive.insertRequeued _ _
  -- Retry data is no part of a holding.
  | retry => exact exclusive

theorem Steps.exclusive {records} (steps : Steps inputs codec state records after)
    (exclusive : state.Exclusive codec) :
    after.Exclusive codec := by
  induction steps with
  | refl => exact exclusive
  | step first _ ih => exact ih (first.exclusive exclusive)

theorem Plan.Stepped.exclusive {α : Type} {plan : Plan α}
    (stepped : plan.Stepped Inputs.any codec state) (exclusive : state.Exclusive codec) :
    plan.Exclusive codec :=
  ⟨stepped.success.exclusive exclusive,
    stepped.failure.elim fun _ steps => steps.exclusive exclusive⟩

/-- An event need not be admitted for that. -/
theorem OutboxState.Exclusive.enqueue (exclusive : state.Exclusive codec) {event now plan}
    (ok : state.enqueue codec event now = .ok plan) :
    plan.Exclusive codec := by
  rcases enqueue_cases ok with ⟨answer, rfl⟩ | ⟨fresh, -, rfl⟩
  · exact ⟨exclusive, exclusive⟩
  · exact ⟨exclusive.insertPending fresh now, exclusive⟩

end

namespace HeldOutbox

variable {codec : EnvelopeCodec} {call : FileCall} {held : HeldOutbox}

theorem exclusive_commit {α : Type} {plan : Except GatewayError (Plan α)}
    (exclusive : held.state.Exclusive codec)
    (keeps : ∀ made, plan = .ok made → made.Exclusive codec) (fault : Option AppendFault) :
    (held.commit fault plan).2.state.Exclusive codec := by
  cases plan with
  | error e => exact exclusive
  | ok made =>
    unfold commit
    dsimp only
    split
    · exact (keeps made rfl).failure
    · exact (keeps made rfl).success

theorem exclusive_maintain (exclusive : held.state.Exclusive codec)
    (fault : Option CompactFault) (now retention : UInt64) (scan : OutboxState.OutboxScan)
    (clock : Nat → UInt64) :
    (held.maintain fault now retention scan clock).2.state.Exclusive codec := by
  rcases maintain_cases with same | ⟨-, swept⟩
  · rw [same]
    exact exclusive
  · rw [swept]
    exact List.foldlRecOn _ _ exclusive fun _ kept key _ => kept.removeCompleted key

theorem exclusive_call (exclusive : held.state.Exclusive codec) (method : Method) :
    ((eventOutbox codec call).call method held).1.state.Exclusive codec := by
  have planned {plan : Except GatewayError (Plan Unit)}
      (stepped : ∀ made, plan = .ok made → made.Stepped .any codec held.state) :
      (held.commit call.faults.append plan).2.state.Exclusive codec :=
    exclusive_commit exclusive (fun made ok => (stepped made ok).exclusive exclusive) _
  cases method with
  | enqueue event =>
    show (held.commit _ (held.state.enqueue codec event call.now)).2.state.Exclusive codec
    exact exclusive_commit exclusive (fun _ ok => exclusive.enqueue ok) _
  | markComplete key => exact planned fun _ ok => markComplete_stepped ok
  | markCompleteMany keys => exact planned fun _ ok => markCompleteMany_stepped ok
  | reschedule keys after =>
    refine planned ?_
    rintro _ ⟨⟩
    exact reschedule_stepped keys _ _ trivial
  | quarantine keys reason =>
    refine planned ?_
    rintro _ ⟨⟩
    exact quarantine_stepped keys trivial _
  | requeueQuarantined keys =>
    refine planned ?_
    rintro _ ⟨⟩
    exact requeueQuarantined_stepped keys _ fun _ _ => trivial
  | maintain nowMillis retentionMillis => exact exclusive_maintain exclusive _ _ _ _ _
  | _ => exact exclusive

end HeldOutbox

/-! ### Three outboxes -/

/-- The backends of the trait. -/
inductive Store where
  | inMemory
  | file
  | postgres (server : Postgres.Server)

namespace Store

def State : Store → Type
  | .inMemory => InMemoryOutbox
  | .file => HeldOutbox
  | .postgres _ => Postgres.Table

/-- What a call finds beside the state. -/
def Call : Store → Type
  | .inMemory => MemoryCall
  | .file => FileCall
  | .postgres _ => Postgres.Session

def outbox (codec : EnvelopeCodec) (capacity : Nat) :
    (store : Store) → store.Call → EventOutbox store.State
  | .inMemory, call => InMemoryOutbox.eventOutbox codec call
  | .file, call => HeldOutbox.eventOutbox codec call
  | .postgres server, session => Postgres.postgresOutbox server codec capacity session

def start (capacity : Nat) : (store : Store) → store.State
  | .inMemory => InMemoryOutbox.empty capacity
  | .file => HeldOutbox.fresh capacity
  | .postgres _ => (∅ : Postgres.Table)

/-- The state a sequence of calls leads to. -/
def after (codec : EnvelopeCodec) (capacity : Nat) (store : Store)
    (calls : List (store.Call × Method)) : store.State :=
  calls.foldl (fun state call => ((store.outbox codec capacity call.1).call call.2 state).1)
    (store.start capacity)

/-- The row of a key, under which only keys of the form that is enqueued are held. -/
def rowOf (server : Postgres.Server) (table : Postgres.Table) (key : OutboxKey) :
    Option Postgres.Row :=
  if Postgres.validKey key then (Postgres.rowKey server key).bind table.lookup else none

/-- The key is held with the bytes: pending, quarantined, or complete with a stored
fingerprint. -/
def Holds : (store : Store) → store.State → OutboxKey → List UInt8 → Prop
  | .inMemory, (outbox : InMemoryOutbox), key, bytes => (outbox.holding key).Holds bytes
  | .file, (held : HeldOutbox), key, bytes => (held.state.holding key).Holds bytes
  | .postgres server, table, key, bytes =>
      ∃ row, rowOf server table key = some row ∧ row.envelope = bytes

def IsComplete : (store : Store) → store.State → OutboxKey → Prop
  | .inMemory, (outbox : InMemoryOutbox), key => key ∈ outbox.complete
  | .file, (held : HeldOutbox), key => key ∈ held.state.complete
  | .postgres server, table, key =>
      ∃ row completedAt, rowOf server table key = some row ∧ row.state = .complete completedAt

/-- The law: other bytes under a key that is held are a conflict, and a key whose
completion is accepted is complete. -/
structure Lawful (codec : EnvelopeCodec) (capacity : Nat) (store : Store) (state : store.State)
    (call : store.Call) (event : IngestRequest) (key : OutboxKey) : Prop where
  conflicts : ∀ bytes, store.Holds state event.key bytes → bytes ≠ event.envelope →
    ((store.outbox codec capacity call).enqueue event state).2 = .error .idempotencyConflict
  completes : ((store.outbox codec capacity call).markComplete key state).2 = .ok () →
    store.IsComplete ((store.outbox codec capacity call).markComplete key state).1 key

/-- Where the outbox keeps the law: in memory no event is quarantined under the key
with other bytes, and the row to complete in the database is not quarantined. -/
def Clear : (store : Store) → store.State → IngestRequest → OutboxKey → Prop
  | .inMemory, (outbox : InMemoryOutbox), event, _ =>
      ∀ held, outbox.quarantined.lookup event.key = some held → held.envelope = event.envelope
  | .file, _, _, _ => True
  | .postgres server, table, _, key =>
      ∀ row, rowOf server table key = some row → row.quarantined = false

variable {codec : EnvelopeCodec} {capacity : Nat}

/-- What every call keeps, a sequence of calls keeps. -/
theorem after_keeps {store : Store} {kept : store.State → Prop}
    (initial : kept (store.start capacity))
    (step : ∀ call method state, kept state →
      kept ((store.outbox codec capacity call).call method state).1)
    (calls : List (store.Call × Method)) : kept (store.after codec capacity calls) := by
  unfold after
  generalize store.start capacity = state at initial
  induction calls generalizing state with
  | nil => exact initial
  | cons call rest ih => exact ih _ (step call.1 call.2 state initial)

theorem exclusive_memory (calls : List (Store.inMemory.Call × Method)) :
    InMemoryOutbox.Exclusive codec (after codec capacity .inMemory calls) := by
  have initial : InMemoryOutbox.Exclusive codec (InMemoryOutbox.empty capacity) :=
    InMemoryOutbox.exclusive_empty capacity
  apply after_keeps initial
  intro call method outbox kept
  exact InMemoryOutbox.Exclusive.after kept method

theorem exclusive_file (calls : List (Store.file.Call × Method)) :
    (HeldOutbox.toFileOutbox (after codec capacity .file calls)).state.Exclusive codec := by
  have initial : (HeldOutbox.fresh capacity).state.Exclusive codec :=
    exclusive_empty capacity
  apply @after_keeps codec capacity .file
    (fun held : HeldOutbox => held.state.Exclusive codec) initial
  intro call method held kept
  exact HeldOutbox.exclusive_call kept method

end Store

/-! ### The in-memory outbox -/

namespace InMemoryOutbox

variable {codec : EnvelopeCodec} {call : MemoryCall} {outbox : InMemoryOutbox}
  {event : IngestRequest}

theorem enqueue_conflicts_iff (call : MemoryCall) (exclusive : outbox.Exclusive codec)
    (noCollision : ∀ bytes, (outbox.holding event.key).Holds bytes →
      codec.fingerprint bytes = codec.fingerprint event.envelope → bytes = event.envelope) :
    (∀ bytes, (outbox.holding event.key).Holds bytes → bytes ≠ event.envelope →
      (enqueue codec call event outbox).2 = .error .idempotencyConflict) ↔
      ∀ held, outbox.quarantined.lookup event.key = some held → held.envelope = event.envelope := by
  constructor
  · intro conflicts held quarantined
    by_contra other
    have answer := conflicts held.envelope (.inr (.inl ⟨held, quarantined, rfl⟩)) other
    -- A quarantined key is not complete, and its bytes are not looked at.
    have complete := (exclusive event.key).notComplete quarantined
    simp only [holding, map_eq_none_iff] at complete
    simp [enqueue, complete, quarantined] at answer
  · intro clear bytes holds other
    have cases := (exclusive event.key).holds_cases holds
    simp only [holding, map_eq_none_iff, map_eq_some_iff, Option.some.injEq,
      exists_eq_right] at cases
    rcases cases with ⟨held, pending, complete, quarantined, rfl⟩ | ⟨held, quarantined, -, rfl⟩ |
      complete
    · simp [enqueue, complete, quarantined, pending, other]
    · exact absurd (clear held quarantined) other
    · have differs : ¬ codec.fingerprint bytes = codec.fingerprint event.envelope :=
        fun same => other (noCollision bytes holds same)
      simp [enqueue, complete, differs]

theorem markComplete_complete {key} (ok : (markComplete codec call key outbox).2 = .ok ()) :
    key ∈ (markComplete codec call key outbox).1.complete := by
  unfold markComplete at ok ⊢
  split
  · exact AList.mem_insert _ |>.mpr (.inl rfl)
  next pending =>
    rw [pending] at ok
    dsimp only at ok
    split at ok
    next held =>
      rw [if_pos held]
      exact mem_iff_isSome.mpr held
    next => cases ok

end InMemoryOutbox

/-! ### The file-backed outbox -/

namespace OutboxState

variable {codec : EnvelopeCodec} {state : OutboxState} {event : IngestRequest}

theorem enqueue_conflicts (exclusive : state.Exclusive codec)
    (noCollision : ∀ bytes, (state.holding event.key).Holds bytes →
      codec.fingerprint bytes = codec.fingerprint event.envelope → bytes = event.envelope) {bytes}
    (holds : (state.holding event.key).Holds bytes) (other : bytes ≠ event.envelope) (now : UInt64)
    :
    state.enqueue codec event now = .error .idempotencyConflict := by
  have cases := (exclusive event.key).holds_cases holds
  simp only [holding] at cases
  rcases cases with ⟨held, pending, complete, quarantined, rfl⟩ |
    ⟨held, quarantined, complete, rfl⟩ | complete
  · simp [enqueue, complete, quarantined, pending, other]
  · simp [enqueue, complete, quarantined, other]
  · have differs : ¬ codec.fingerprint bytes = codec.fingerprint event.envelope :=
      fun same => other (noCollision bytes holds same)
    simp [enqueue, complete, differs]

end OutboxState

theorem HeldOutbox.enqueue_refused {codec} {call : FileCall} {held : HeldOutbox} {event e}
    (refused : held.state.enqueue codec event call.now = .error e) :
    ((eventOutbox codec call).enqueue event held).2 = .error e := by
  show (held.commit _ (held.state.enqueue codec event call.now)).1 = .error e
  rw [refused]
  rfl

theorem HeldOutbox.markComplete_complete {codec} {held : HeldOutbox} {fault key now}
    (ok : (held.commit fault (held.state.markComplete codec key now)).1 = .ok ()) :
    key ∈ (held.commit fault (held.state.markComplete codec key now)).2.state.complete := by
  cases planned : held.state.markComplete codec key now with
  | error e =>
    rw [planned] at ok
    cases ok
  | ok plan =>
    have complete : key ∈ plan.success.complete := by
      unfold markComplete at planned
      split at planned
      next found =>
        cases planned
        exact mem_of_lookup found
      · cases planned
      · cases planned
        exact AList.mem_insert _ |>.mpr (.inl rfl)
    rw [planned] at ok
    unfold commit at ok ⊢
    dsimp only at ok ⊢
    split at ok
    · cases ok
    · exact complete

/-! ### The database -/

namespace Postgres

open Store

variable {server : Server} {codec : EnvelopeCodec} {capacity : Nat} {session : Session}
  {table : Table} {event : IngestRequest} {key : OutboxKey} {row : Row}

/-- An event that passed validation has a key and an envelope of the form the database
asks for. -/
structure Validated (event : IngestRequest) : Prop where
  key : validKey event.key = true
  nonempty : event.envelope ≠ []
  size : event.envelope.length ≤ maxEnvelopeBytes

theorem rowOf_eq_some :
    rowOf server table key = some row ↔
      validKey key = true ∧ ∃ column, rowKey server key = some column ∧
        table.lookup column = some row := by
  unfold rowOf
  split
  next valid => simp [valid, bind_eq_some_iff]
  next invalid => simp [invalid]

theorem enqueue_row (validated : Validated event)
    (found : rowOf server table event.key = some row) :
    (enqueue server codec capacity session event table).2 = existingResult event row := by
  obtain ⟨valid, column, parsed, held⟩ := rowOf_eq_some.mp found
  have nonempty : event.envelope.isEmpty = false := by simpa using validated.nonempty
  simp only [enqueue, valid, nonempty, validated.size, parsed, ensure, require, decide_true,
    Bool.not_false, Bool.and_self, if_true, Raising.ok_bind_run, Raising.transaction,
    Raising.read_bind_run, held, Raising.ofExcept_run]
  cases existingResult event row <;> rfl

theorem existingResult_conflict (other : row.envelope ≠ event.envelope) :
    existingResult event row = .error .idempotencyConflict := by
  unfold existingResult
  split <;> rw [if_neg other]

/-- A key with no row is not completed. -/
theorem markComplete_none (none : rowOf server table key = none) :
    (markComplete server session key table).2 ≠ .ok () := by
  unfold rowOf at none
  by_cases valid : validKey key = true
  · rw [if_pos valid] at none
    cases parsed : rowKey server key with
    | none => simp [markComplete, valid, parsed, ensure, require]
    | some column =>
      have missing : table.lookup column = Option.none := by simpa [parsed] using none
      simp [markComplete, valid, parsed, ensure, require, missing]
  · simp [markComplete, valid, ensure]

/-- A key with a row is accepted, and only a row that waits is changed. -/
theorem markComplete_row (session : Session) (found : rowOf server table key = some row) :
    (markComplete server session key table).2 = .ok () ∧
      rowOf server (markComplete server session key table).1 key =
        some (if row.waiting then row.completed session else row) := by
  obtain ⟨valid, column, parsed, held⟩ := rowOf_eq_some.mp found
  have run : markComplete server session key table =
      (table.update (fun other row => other = column && row.waiting) (Row.completed session),
        .ok ()) := by
    simp [markComplete, valid, parsed, ensure, require, held]
  rw [run]
  refine ⟨rfl, rowOf_eq_some.mpr ⟨valid, column, parsed, ?_⟩⟩
  rw [lookup_update, held]
  simp

/-- A row that is not quarantined is complete once it was completed. -/
theorem completed_iff :
    (∃ completedAt, (if row.waiting then row.completed session else row).state =
      .complete completedAt) ↔ row.quarantined = false := by
  unfold Row.waiting Row.quarantined
  cases state : row.state with
  | complete completedAt => simp [state]
  | pending =>
    cases row.quarantine with
    | none => simp [Row.completed]
    | some quarantine => simp [state]

theorem markComplete_completes_iff :
    ((markComplete server session key table).2 = .ok () →
      ∃ row completedAt, rowOf server (markComplete server session key table).1 key = some row ∧
        row.state = .complete completedAt) ↔
      ∀ row, rowOf server table key = some row → row.quarantined = false := by
  cases found : rowOf server table key with
  | none => simp [markComplete_none found]
  | some row =>
    obtain ⟨accepted, after⟩ := markComplete_row session found
    constructor
    · intro completes row' is
      cases is
      obtain ⟨done, completedAt, is, complete⟩ := completes accepted
      cases Option.some.inj (after.symm.trans is)
      exact completed_iff.mp ⟨completedAt, complete⟩
    · intro clear _
      obtain ⟨completedAt, complete⟩ := (@completed_iff session row).mpr (clear row rfl)
      exact ⟨_, completedAt, after, complete⟩

end Postgres

/-! ### The law -/

/-- **Where the outboxes keep the law.** In every state that calls lead to, a
validated event whose key is held with other bytes is refused as a conflict and a key
whose completion is accepted is complete, exactly where the state is clear of the
quarantined event or row in question. The fingerprints of the event's bytes and of
the bytes held under its key do not collide. -/
theorem Store.lawful_iff (store : Store) (codec : EnvelopeCodec) (capacity : Nat)
    (calls : List (store.Call × Method)) (call : store.Call) (event : IngestRequest)
    (key : OutboxKey) (validated : Postgres.Validated event)
    (noCollision : ∀ bytes, store.Holds (store.after codec capacity calls) event.key bytes →
      codec.fingerprint bytes = codec.fingerprint event.envelope → bytes = event.envelope) :
    store.Lawful codec capacity (store.after codec capacity calls) call event key ↔
      store.Clear (store.after codec capacity calls) event key := by
  cases store with
  | inMemory =>
    have conflicts := InMemoryOutbox.enqueue_conflicts_iff call (exclusive_memory calls) noCollision
    constructor
    · intro lawful
      exact conflicts.mp lawful.conflicts
    · intro clear
      exact ⟨conflicts.mpr clear, InMemoryOutbox.markComplete_complete⟩
  | file =>
    have exclusive : (HeldOutbox.toFileOutbox (after codec capacity .file calls)).state.Exclusive
        codec := exclusive_file calls
    constructor
    · intro _
      trivial
    · intro _
      constructor
      · intro bytes holds other
        have refused := enqueue_conflicts exclusive noCollision holds other
        exact HeldOutbox.enqueue_refused (refused _)
      · exact HeldOutbox.markComplete_complete
  | postgres server =>
    constructor
    · intro lawful
      exact Postgres.markComplete_completes_iff.mp lawful.completes
    · intro clear
      constructor
      · rintro bytes ⟨row, found, rfl⟩ other
        exact (Postgres.enqueue_row validated found).trans (Postgres.existingResult_conflict other)
      · exact Postgres.markComplete_completes_iff.mpr clear

/-! ### A quarantined event -/

/-- Events under one key. -/
def heldEvent (bytes : List UInt8) : IngestRequest where
  eventId := "0190a000-0000-7000-8000-000000000001"
  workspaceId := "w"
  namespaceId := "n"
  scopeKey := "w/n"
  envelope := bytes

/-- A codec whose fingerprints are the first bytes of an envelope. -/
def heldCodec : EnvelopeCodec where
  rebuild bytes := some (heldEvent bytes)
  fingerprint bytes := ⟨(bytes ++ List.replicate 32 0).take 32, by simp⟩

/-- A server that reads UUIDs with and without hyphens. -/
def hyphenServer : Postgres.Server where
  parseUuid text := do
    let bytes ← (parseHexPairs text.toList).or (parseHexPairs (text.toList.filter (· ≠ '-')))
    if length_eq : bytes.length = 16 then return ⟨bytes, length_eq⟩ else none
  uuidText uuid := String.ofList (uuid.bytes.flatMap hexByte)
  parse_text uuid := by simp [parseHexPairs_flatMap, uuid.length_eq]
  makeInterval nanos := some (nanos / 1000)
  toTimestamp millis := some (millis.toNat * 1000)
  cutoff now retention := some (now.toNat * 1000 - retention.toNat * 1000)
  epochMillis micros := UInt64.ofNat (micros / 1000).toNat

def quietCall : MemoryCall :=
  ⟨0, fun _ => 0, .stored _ _, .stored _ _⟩

def quietSession : Postgres.Session :=
  ⟨0, some 0, true, .stored _ _⟩

/-- Other bytes under the key of a pending event are refused in memory, and the
event can be completed. -/
theorem lawful_pendingHeld :
    Store.inMemory.Lawful heldCodec 8
      (Store.inMemory.after heldCodec 8 [(quietCall, .enqueue (heldEvent [1]))])
      quietCall (heldEvent [2]) (heldEvent [1]).key := by
  have held : ∀ bytes, Store.inMemory.Holds
      (Store.inMemory.after heldCodec 8 [(quietCall, .enqueue (heldEvent [1]))])
      (heldEvent [2]).key bytes → bytes = [1] := by
    rintro bytes (⟨event, is, rfl⟩ | ⟨event, is, rfl⟩ | ⟨fingerprint, event, is, -, rfl⟩)
    · cases is
      rfl
    · cases is
    · cases is
  apply (Store.lawful_iff .inMemory heldCodec 8 _ quietCall (heldEvent [2]) _
    ⟨by decide +kernel, by decide, by decide⟩ fun bytes holds same => ?_).mpr
  · intro event quarantined
    cases quarantined
  · rw [held bytes holds] at same
    exact absurd same (by decide)

/-- An event is enqueued and quarantined. -/
def quarantineHeld : List Method :=
  [.enqueue (heldEvent [1]), .quarantine [(heldEvent [1]).key] "replay_attempts_exhausted"]

/-- Other bytes under the quarantined key are taken for the event itself in memory, and
the database accepts a completion that it does not make. -/
theorem quarantineHeld_not_lawful :
    ¬ Store.inMemory.Lawful heldCodec 8
        (Store.inMemory.after heldCodec 8 (quarantineHeld.map fun method => (quietCall, method)))
        quietCall (heldEvent [2]) (heldEvent [2]).key ∧
      ¬ (Store.postgres hyphenServer).Lawful heldCodec 8
        ((Store.postgres hyphenServer).after heldCodec 8
          (quarantineHeld.map fun method => (quietSession, method)))
        quietSession (heldEvent [1]) (heldEvent [1]).key := by
  constructor
  · intro lawful
    have answer := lawful.conflicts [1] (.inr (.inl ⟨heldEvent [1], rfl, rfl⟩)) (by decide)
    exact absurd answer (by decide +kernel)
  · intro lawful
    obtain ⟨row, completedAt, found, complete⟩ := lawful.completes (by decide +kernel)
    have left : (Store.rowOf hyphenServer (((Store.postgres hyphenServer).outbox heldCodec 8
        quietSession).markComplete (heldEvent [1]).key
          ((Store.postgres hyphenServer).after heldCodec
          8 (quarantineHeld.map fun method => (quietSession, method)))).1 (heldEvent [1]).key).map
            Postgres.Row.state = some .pending := by
      decide +kernel
    rw [found, Option.map_some, complete] at left
    cases left

end Apex.Outbox
