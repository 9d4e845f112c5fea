import Apex.Outbox.Postgres

/-!
The control plane's wrapper around the PostgreSQL outbox, and where it answers
as the outbox it wraps.

The wrapper reconnects and tries again when a method fails with an internal
error. It implements ten of the trait's methods and inherits the default bodies
of the other six, which do not ask the database.
-/

namespace Apex.Outbox.Postgres

open Checked Domain List KeyMap Raising Option

/-- What a call on the wrapper finds: the session of its connection, the session
of the connection that replaces it, and whether that one can be opened. -/
structure Recovery where
  session : Session
  again : Session
  reconnects : Bool

/-- `with_retry`. -/
def withRetry {α : Type} (recovery : Recovery)
    (operation : Session → Raising Table GatewayError α) : Raising Table GatewayError α :=
  fun table =>
    match operation recovery.session table with
    | (after, .error .internal) =>
        if recovery.reconnects then operation recovery.again after
        else (after, .error .invalidOutboxConfiguration)
    | outcome => outcome

section Operations

variable (server : Server) (codec : EnvelopeCodec) (capacity : Nat) (recovery : Recovery)

/-- `RecoveringPostgresOutbox`. The methods that are not listed keep the trait's
default bodies. -/
def recoveringPostgresOutbox : EventOutbox Table where
  enqueue event := withRetry recovery fun session => enqueue server codec capacity session event
  markComplete key := withRetry recovery fun session => markComplete server session key
  markCompleteMany keys := withRetry recovery fun session => markCompleteMany server session keys
  pendingBatch limit := withRetry recovery fun session => pendingBatch server codec session limit
  recentCompletedBatch sinceMillis limit := withRetry recovery fun session =>
    recentCompletedBatch server codec session sinceMillis limit
  pendingReconciliationBatch limit := withRetry recovery fun session =>
    pendingReconciliationBatch codec session limit
  reschedule keys after := withRetry recovery fun session => reschedule server session keys after
  quarantine keys reason := withRetry recovery fun session => quarantine server session keys reason
  maintain nowMillis retentionMillis := withRetry recovery fun _ =>
    maintain server nowMillis retentionMillis
  pending := fun table =>
    match withRetry recovery (fun session table => ((pending server codec session table).1,
      .ok (pending server codec session table).2)) table with
    | (after, .ok events) => (after, events)
    | (after, .error _) => (after, [])

/-- Whether a method that is passed on fails with an internal error although its
connection works: a key that does not parse or has no row, a stored row that is
malformed, a text or number the database cannot represent. -/
def Interrupted (session : Session) (table : Table) : Method → Prop
  | .enqueue event =>
      validKey event.key ∧ !event.envelope.isEmpty ∧ event.envelope.length ≤ maxEnvelopeBytes ∧
        rowKey server event.key = none
  | .markComplete key =>
      validKey key ∧ ∀ column, rowKey server key = some column → table.lookup column = none
  | .markCompleteMany keys =>
      keys ≠ [] ∧ (checkedRowKeys server keys = .error .internal ∨
        ∃ columns, checkedRowKeys server keys = .ok columns ∧
          (table.countRows fun key row => columns.contains key && row.waiting) < keys.length ∧
          (table.countRows fun key _ => columns.contains key) ≠ keys.length)
  | .pendingBatch limit => claimFits session limit table = false
  | .recentCompletedBatch sinceMillis limit =>
      fitsI64 sinceMillis = false ∨ server.toTimestamp sinceMillis = none ∨
        ∃ since, server.toTimestamp sinceMillis = some since ∧
          ∃ entry ∈ select session table (Row.completedSince since) Row.completedAt
            (batchLimit limit), readRow codec entry.1 entry.2 = none
  | .pendingReconciliationBatch limit =>
      ∃ entry ∈ select session table Row.waiting Row.createdAt (batchLimit limit),
        readRow codec entry.1 entry.2 = none
  | .reschedule keys after =>
      keys ≠ [] ∧ (rowKeys server keys = none ∨ server.makeInterval after = none)
  | .quarantine keys reason =>
      keys ≠ [] ∧ (rowKeys server keys = none ∨ isStorable reason = false)
  | .maintain nowMillis retentionMillis =>
      fitsI64 nowMillis = false ∨ fitsI64 retentionMillis = false ∨
        server.cutoff nowMillis retentionMillis = none
  | _ => False

/-- When the wrapper answers as the outbox it wraps. A method with a default body
does where the database has nothing to tell; a method that is passed on does
unless an internal error makes the wrapper reconnect in vain, or to another
answer. -/
def Agrees (table : Table) : Method → Prop
  | .checkAdmissionReadiness workspaceId namespaceId =>
      isScopeIdentifier workspaceId ∧ isScopeIdentifier namespaceId ∧
        recovery.session.usable = false
  | .pendingCount | .oldestPendingMillis =>
      ∀ key row, table.lookup key = some row → row.waiting = false
  | .quarantinedCount => ∀ key row, table.lookup key = some row → row.quarantined = false
  | .quarantinedBatch limit =>
      limit = 0 ∨ ∀ key row, table.lookup key = some row → row.quarantined = false
  | .requeueQuarantined keys =>
      ∃ columns, rowKeys server keys = some columns ∧
        ∀ key ∈ columns, ∀ row, table.lookup key = some row → row.quarantined = false
  | method =>
      ¬ Interrupted server codec recovery.session table method ∨
        recovery.reconnects ∧ Interrupted server codec recovery.again table method

end Operations

/-- The same answer and the same rows. -/
def SameOutcome {α : Type} (a b : Table × α) : Prop :=
  a.2 = b.2 ∧ ∀ key, a.1.lookup key = b.1.lookup key

theorem SameOutcome.refl {α : Type} (a : Table × α) : SameOutcome a a :=
  ⟨rfl, fun _ => rfl⟩

/-! ### Internal errors -/

/-- `operation` fails with an internal error exactly under `condition`, and then
has changed nothing. -/
def FailsWhen {α : Type} (operation : Raising Table GatewayError α) (table : Table)
    (condition : Prop) : Prop :=
  (condition → operation table = (table, .error .internal)) ∧
    (¬ condition → (operation table).2 ≠ .error .internal)

section FailsWhen

variable {α β : Type} {operation : Raising Table GatewayError α} {table : Table}
  {condition condition' : Prop}

theorem FailsWhen.congr (fails : FailsWhen operation table condition)
    (same : condition' ↔ condition) : FailsWhen operation table condition' := by
  rwa [propext same]

theorem FailsWhen.never (answers : (operation table).2 ≠ .error .internal) :
    FailsWhen operation table False :=
  ⟨False.elim, fun _ => answers⟩

theorem FailsWhen.read {next : Table → Raising Table GatewayError α}
    (rest : FailsWhen (next table) table condition) :
    FailsWhen (Raising.read >>= next) table condition :=
  rest

/-- A check that changes nothing, and what follows it. -/
theorem FailsWhen.check {x} {next : β → Raising Table GatewayError α} {later : β → Prop}
    (rest : ∀ b, x = .ok b → FailsWhen (next b) table (later b)) :
    FailsWhen (Raising.ofExcept x >>= next) table
      (x = .error .internal ∨ ∃ b, x = .ok b ∧ later b) := by
  cases x with
  | error e =>
    constructor
    · rintro (⟨⟨⟩⟩ | ⟨b, ⟨⟩, -⟩)
      rfl
    · intro other same
      cases same
      exact other (.inl rfl)
  | ok b =>
    obtain ⟨failing, working⟩ := rest b rfl
    constructor
    · rintro (⟨⟨⟩⟩ | ⟨b', ⟨⟩, fails⟩)
      exact failing fails
    · intro other
      exact working fun fails => other (.inr ⟨b, rfl, fails⟩)

/-- A check as the last step. -/
theorem FailsWhen.answer {x : Except GatewayError α} :
    FailsWhen (Raising.ofExcept x) table (x = .error .internal) :=
  ⟨fun fails => by rw [ofExcept_run, fails], fun other => other⟩

/-- An error inside a transaction changes nothing. -/
theorem FailsWhen.transaction (body : (operation table).2 = .error .internal ↔ condition) :
    FailsWhen operation.transaction table condition := by
  rw [← body, FailsWhen, Raising.transaction]
  constructor
  · intro fails
    split
    next ran => simp [ran] at fails
    next ran =>
        rw [ran] at fails
        cases fails
        rfl
  · intro other
    split
    next => exact nofun
    next ran =>
        rw [ran] at other
        exact other

end FailsWhen

open FailsWhen

/-- The retry shows exactly where an internal error is not met again. -/
theorem withRetry_same_iff {α : Type} {recovery}
    {operation : Session → Raising Table GatewayError α} {table} {fails : Session → Prop}
    (spec : ∀ session, FailsWhen (operation session) table (fails session)) :
    SameOutcome (withRetry recovery operation table) (operation recovery.session table) ↔
      ¬ fails recovery.session ∨ recovery.reconnects ∧ fails recovery.again := by
  obtain ⟨failing, working⟩ := spec recovery.session
  by_cases first : fails recovery.session
  · rw [withRetry, failing first]
    obtain ⟨failing', working'⟩ := spec recovery.again
    cases reconnects : recovery.reconnects with
    | false => simp [SameOutcome, first]
    | true =>
      by_cases second : fails recovery.again
      · simp [failing' second, SameOutcome, second]
      · simp [SameOutcome, first, second, working' second]
  · have same : withRetry recovery operation table = operation recovery.session table := by
      have answered := working first
      rw [withRetry]
      split
      next after ran => simp [ran] at answered
      next => rfl
    rw [same]
    exact iff_of_true (.refl _) (.inl first)

/-! ### The methods that are passed on -/

section PassedOn

variable (server : Server) (codec : EnvelopeCodec) (capacity : Nat) (session : Session)
  (table : Table)

theorem existingResult_ne_internal (event : IngestRequest) (row : Row) :
    existingResult event row ≠ .error .internal := by
  unfold existingResult
  split <;> split <;> exact nofun

theorem enqueue_failsWhen (event : IngestRequest) :
    FailsWhen (enqueue server codec capacity session event) table
      (Interrupted server codec session table (.enqueue event)) := by
  refine congr (.check fun _ valid => .check fun _ sized => .check fun key parsed =>
    .transaction (iff_of_false ?_ id)) ?_
  · rw [read_bind_run]
    cases table.lookup key with
    | some row => exact existingResult_ne_internal event row
    | none =>
      cases admitted : admits capacity session table with
      | false => simp [ensure]
      | true => simp
  · simp [Interrupted, ensure_eq_error, require_eq_error, and_assoc]

theorem markComplete_failsWhen (key : OutboxKey) :
    FailsWhen (markComplete server session key) table
      (Interrupted server codec session table (.markComplete key)) := by
  refine congr (.check fun _ valid => @check _ _ _ _ _ (fun column =>
    table.lookup column = none) fun column parsed => ⟨fun missing => ?_, fun found => ?_⟩) ?_
  · have unchanged : (table.update (fun other row => decide (other = column) && row.waiting)
        (Row.completed session)) = table := by
      refine update_eq_self fun entry mem => ?_
      have known := mem_lookup_iff.mpr mem
      have differs : entry.1 ≠ column := by
        rintro rfl
        rw [missing] at known
        cases known
      simp [differs]
    simp [unchanged, missing, ensure]
  · simpa [ensure_eq_error] using found
  · simp only [Interrupted, ensure_eq_error, require_eq_error]
    cases rowKey server key <;> simp

theorem markCompleteMany_failsWhen (keys : List OutboxKey) :
    FailsWhen (markCompleteMany server session keys) table
      (Interrupted server codec session table (.markCompleteMany keys)) := by
  unfold markCompleteMany
  split
  next empty => exact congr (.never nofun) (by simp_all [Interrupted])
  next nonempty =>
    refine congr (.check fun columns checked => .transaction .rfl) ?_
    have some : keys ≠ [] := by simpa using nonempty
    simp [Interrupted, ensure_eq_error, some]

theorem rowKeys_outboxKey (keys : List RowKey) :
    rowKeys server (keys.map (outboxKey server)) = some keys := by
  refine mapM_map_some (fun key => ?_) keys
  simp [rowKey, outboxKey, server.parse_text, key.storable]

theorem quarantine_outboxKey_run (keys : List RowKey) {reason} (storable : isStorable reason = true)
    :
    quarantine server session (keys.map (outboxKey server)) reason table =
      (table.update (fun key row => keys.contains key && row.waiting) (Row.isolated session reason),
        .ok ()) := by
  unfold quarantine
  split
  next empty =>
    obtain rfl : keys = [] := by simpa using empty
    have unchanged : table.update (fun key row => [].contains key && row.waiting)
        (Row.isolated session reason) = table :=
      update_eq_self fun _ _ => rfl
    rw [unchanged]
    rfl
  next => simp [rowKeys_outboxKey, storable]

/-- A claim leases the rows it takes; the malformed ones among them leave
replay. -/
theorem pendingBatch_run {limit} (fits : claimFits session limit table = true) :
    pendingBatch server codec session limit table =
      ((leaseClaimed session limit table).update
          (fun key row => (poison codec (returned session limit table)).contains key && row.waiting)
          (Row.isolated session "malformed_durable_event"),
        .ok ((returned session limit table).filterMap fun (key, row) =>
          readRow codec key row)) := by
  simp only [pendingBatch, read_bind_run, fits, ensure_true, ok_bind_run, modify_bind_run]
  have storable : isStorable "malformed_durable_event" = true := by decide +kernel
  simp only [bind, quarantine_outboxKey_run server session _ _ storable]
  rfl

theorem quarantine_failsWhen (keys : List OutboxKey) (reason : String) :
    FailsWhen (quarantine server session keys reason) table
      (Interrupted server codec session table (.quarantine keys reason)) := by
  unfold quarantine
  split
  next empty => exact congr (.never nofun) (by simp_all [Interrupted])
  next nonempty =>
    refine congr (.check fun columns parsed => .check fun _ stored => .never nofun) ?_
    have some : keys ≠ [] := by simpa using nonempty
    simp only [Interrupted, require_eq_error, require_eq_ok, ensure_eq_error]
    cases rowKeys server keys <;> simp [some]

theorem reschedule_failsWhen (keys : List OutboxKey) (after : Nat) :
    FailsWhen (reschedule server session keys after) table
      (Interrupted server codec session table (.reschedule keys after)) := by
  unfold reschedule
  split
  next empty => exact congr (.never nofun) (by simp_all [Interrupted])
  next nonempty =>
    refine congr (.check fun columns parsed => .check fun interval made =>
      .never nofun) ?_
    have some : keys ≠ [] := by simpa using nonempty
    simp only [Interrupted, require_eq_error, require_eq_ok]
    cases rowKeys server keys <;> simp [some]

theorem maintain_failsWhen (nowMillis retentionMillis : UInt64) :
    FailsWhen (maintain server nowMillis retentionMillis) table
      (Interrupted server codec session table (.maintain nowMillis retentionMillis)) := by
  refine congr (.check fun _ fits => .check fun cutoff made => .never nofun) ?_
  simp only [Interrupted, ensure_eq_error, require_eq_error]
  cases fitsI64 nowMillis <;> cases fitsI64 retentionMillis <;> simp

/-- One malformed row fails a batch that only reads. -/
theorem readRows_eq_internal (rows : List (RowKey × Row)) :
    readRows codec rows = .error .internal ↔
      ∃ entry ∈ rows, readRow codec entry.1 entry.2 = none := by
  induction rows with
  | nil => simp [readRows, pure, Except.pure]
  | cons entry rest ih =>
    rw [readRows] at ih ⊢
    rw [mapM_cons]
    cases first : readRow codec entry.1 entry.2 with
    | none => simp [first, require, bind, Except.bind]
    | some event =>
      simp only [require_some, ok_bind, mem_cons, exists_eq_or_imp, first, ← ih]
      cases rest.mapM fun (key, row) =>
          require (readRow codec key row) GatewayError.internal with
      | error e => simp [bind, Except.bind]
      | ok events => simp [bind, Except.bind, pure, Except.pure]

theorem recentCompletedBatch_failsWhen (sinceMillis : UInt64) (limit : Nat) :
    FailsWhen (recentCompletedBatch server codec session sinceMillis limit) table
      (Interrupted server codec session table (.recentCompletedBatch sinceMillis limit)) := by
  refine congr (.check fun _ fits => .check fun since made => .read .answer) ?_
  simp only [Interrupted, ensure_eq_error, require_eq_error, readRows_eq_internal]
  cases fitsI64 sinceMillis <;> cases server.toTimestamp sinceMillis <;> simp

theorem pendingReconciliationBatch_failsWhen (limit : Nat) :
    FailsWhen (pendingReconciliationBatch codec session limit) table
      (Interrupted server codec session table (.pendingReconciliationBatch limit)) :=
  congr (.read .answer) (readRows_eq_internal codec _).symm

theorem pendingBatch_failsWhen (limit : Nat) :
    FailsWhen (pendingBatch server codec session limit) table
      (Interrupted server codec session table (.pendingBatch limit)) := by
  simp only [Interrupted]
  cases fits : claimFits session limit table with
  | false => exact ⟨fun _ => by simp [pendingBatch, fits, ensure], fun other => absurd rfl other⟩
  | true =>
    refine congr (.never ?_) (by simp)
    rw [pendingBatch_run server codec session table fits]
    rintro ⟨⟩

end PassedOn

/-! ### The methods with default bodies -/

section Defaults

variable (server : Server) (codec : EnvelopeCodec) (capacity : Nat) (recovery : Recovery)
  (table : Table)

theorem checkAdmissionReadiness_same_iff (workspaceId namespaceId : String) :
    SameOutcome (table, .error .internal)
        (checkAdmissionReadiness capacity recovery.session workspaceId namespaceId table) ↔
      Agrees server codec recovery table (.checkAdmissionReadiness workspaceId namespaceId) := by
  simp only [checkAdmissionReadiness, Agrees]
  cases isScopeIdentifier workspaceId <;> cases isScopeIdentifier namespaceId <;>
    cases recovery.session.usable <;> simp [SameOutcome, ensure]
  split <;> simp

theorem quarantinedCount_same_iff :
    SameOutcome (table, .ok 0) (quarantinedCount table) ↔
      Agrees server codec recovery table .quarantinedCount := by
  simp only [quarantinedCount, Agrees, read_bind_run, pure_run, SameOutcome,
    Except.ok.injEq, ← countRows_eq_zero]
  simp [eq_comm]

theorem oldestPendingMillis_same_iff :
    SameOutcome (table, .ok none) (oldestPendingMillis server recovery.session table) ↔
      Agrees server codec recovery table .oldestPendingMillis := by
  simp only [oldestPendingMillis, Agrees, read_bind_run, pure_run, SameOutcome,
    Except.ok.injEq, implies_true, and_true, @eq_comm _ none, map_eq_none_iff,
    List.min?_eq_none_iff, map_eq_nil_iff, filter_eq_nil_iff, Prod.forall,
    mem_toPairs, Bool.not_eq_true]

theorem quarantinedBatch_same_iff (limit : Nat) :
    SameOutcome (table, .ok []) (quarantinedBatch server recovery.session limit table) ↔
      Agrees server codec recovery table (.quarantinedBatch limit) := by
  have sorted : ∀ rows : List (RowKey × Row),
      rows.insertionSort (fun a b => a.2.quarantinedAt ≤ b.2.quarantinedAt) = [] ↔ rows = [] := by
    intro rows
    rw [← length_eq_zero_iff, length_insertionSort, length_eq_zero_iff]
  have none : batchLimit limit = 0 ↔ limit = 0 := by
    unfold batchLimit
    omega
  simp only [quarantinedBatch, Agrees, read_bind_run, pure_run, SameOutcome,
    Except.ok.injEq, select, implies_true, and_true, @eq_comm _ [], map_eq_nil_iff,
    take_eq_nil_iff, sorted, none, filter_eq_nil_iff, Prod.forall,
    recovery.session.scan.mem_order, Bool.not_eq_true]

theorem requeueQuarantined_same_iff (keys : List OutboxKey) :
    SameOutcome (table, .ok ()) (requeueQuarantined server recovery.session keys table) ↔
      Agrees server codec recovery table (.requeueQuarantined keys) := by
  simp only [Agrees]
  unfold requeueQuarantined
  split
  next empty =>
    rw [isEmpty_iff.mp empty]
    exact iff_of_true (.refl _) ⟨[], rfl, nofun⟩
  next =>
    cases parsed : rowKeys server keys with
    | none => simp [SameOutcome, require]
    | some columns =>
      simp only [require_some, ok_bind_run, modify_run, SameOutcome, true_and,
        Option.some.injEq, exists_eq_left', lookup_update]
      constructor
      · intro same key mem row found
        have unchanged := same key
        -- A requeued row is not quarantined any more.
        cases quarantined : row.quarantined with
        | false => rfl
        | true =>
          simp only [found, map_some, contains_iff_mem.mpr mem, quarantined,
            Bool.and_self, if_true, Option.some.injEq] at unchanged
          rw [unchanged] at quarantined
          simp [Row.quarantined, Row.requeued] at quarantined
      · intro untouched key
        cases found : table.lookup key with
        | none => rfl
        | some row =>
          by_cases mem : key ∈ columns
          · simp [untouched key mem row found]
          · simp [mem]

/-- The rows of a claim are waiting rows of the table. -/
theorem mem_claimed {session limit entry} (mem : entry ∈ claimed session limit table) :
    table.lookup entry.1 = some entry.2 ∧ entry.2.waiting = true := by
  have selected := (mem_insertionSort _).mp (mem_of_mem_take mem)
  obtain ⟨known, meets⟩ := mem_filter.mp selected
  exact ⟨(session.scan.mem_order table).mp known, (Bool.and_eq_true_iff.mp meets).1⟩

/-- A claim that takes a row changes it. -/
theorem pending_claims {session entry} (fits : claimFits session 10000 table = true)
    (mem : entry ∈ claimed session 10000 table) :
    (pending server codec session table).1.lookup entry.1 ≠ table.lookup entry.1 := by
  have known := (mem_claimed table mem).1
  have leased : ((claimed session 10000 table).map Prod.fst).contains entry.1 = true :=
    contains_iff_mem.mpr (mem_map_of_mem mem)
  rw [pending, pendingBatch_run server codec session table fits]
  simp only [leaseClaimed, lookup_update, known, map_some, leased, if_true]
  intro same
  have attempts := congrArg Row.attempts (Option.some.inj same)
  split at attempts <;> simp [Row.leased, Row.isolated] at attempts

/-- A claim that takes no row returns none. -/
theorem pending_nothing {session} (nothing : claimed session 10000 table = []) :
    SameOutcome (pending server codec session table) (table, []) := by
  have fits : claimFits session 10000 table = true := by simp [claimFits, nothing]
  rw [pending, pendingBatch_run server codec session table fits]
  simp [SameOutcome, returned, leaseClaimed, nothing, poison, lookup_update]

theorem pendingCount_same_iff :
    SameOutcome ((pending server codec recovery.session table).1,
        .ok (pending server codec recovery.session table).2.length) (pendingCount table) ↔
      Agrees server codec recovery table .pendingCount := by
  have counted : pendingCount table =
      (table, .ok (table.countRows fun _ row => row.waiting)) := rfl
  rw [counted]
  simp only [Agrees, ← countRows_eq_zero, SameOutcome, Except.ok.injEq]
  constructor
  · rintro ⟨count, unchanged⟩
    rw [← count, length_eq_zero_iff]
    cases fits : claimFits recovery.session 10000 table with
    | false => simp [pending, pendingBatch, fits, ensure]
    | true =>
      cases taken : claimed recovery.session 10000 table with
      | nil => exact (pending_nothing server codec table taken).1
      | cons entry rest =>
        have mem : entry ∈ claimed recovery.session 10000 table := by simp [taken]
        exact absurd (unchanged entry.1) (pending_claims server codec table fits mem)
  · intro none
    have nothing : claimed recovery.session 10000 table = [] := by
      refine eq_nil_iff_forall_not_mem.mpr fun entry mem => ?_
      obtain ⟨known, waiting⟩ := mem_claimed table mem
      have missed := countRows_eq_zero.mp none entry.1 entry.2 known
      rw [waiting] at missed
      cases missed
    obtain ⟨events, unchanged⟩ := pending_nothing server codec table nothing
    refine ⟨?_, unchanged⟩
    rw [events, none, length_nil]

end Defaults

/-- On a working connection the wrapper gives the answer and the rows of the
outbox it wraps exactly where `Agrees` holds. -/
theorem recovering_same_iff (server : Server) (codec : EnvelopeCodec) (capacity : Nat)
    (recovery : Recovery) (table : Table) (method : Method) :
    SameOutcome ((recoveringPostgresOutbox server codec capacity recovery).call method table)
        ((postgresOutbox server codec capacity recovery.session).call method table) ↔
      Agrees server codec recovery table method := by
  cases method with
  | checkAdmissionReadiness => exact checkAdmissionReadiness_same_iff ..
  | enqueue event =>
    exact withRetry_same_iff fun session =>
      enqueue_failsWhen server codec capacity session table event
  | markComplete key =>
    exact withRetry_same_iff fun session => markComplete_failsWhen server codec session table key
  | markCompleteMany keys =>
    exact withRetry_same_iff fun session =>
      markCompleteMany_failsWhen server codec session table keys
  | pendingBatch limit =>
    exact withRetry_same_iff fun session => pendingBatch_failsWhen server codec session table limit
  | pendingCount => exact pendingCount_same_iff ..
  | recentCompletedBatch sinceMillis limit =>
    exact withRetry_same_iff fun session =>
      recentCompletedBatch_failsWhen server codec session table sinceMillis limit
  | pendingReconciliationBatch limit =>
    exact withRetry_same_iff fun session =>
      pendingReconciliationBatch_failsWhen server codec session table limit
  | reschedule keys after =>
    exact withRetry_same_iff fun session =>
      reschedule_failsWhen server codec session table keys after
  | quarantine keys reason =>
    exact withRetry_same_iff fun session =>
      quarantine_failsWhen server codec session table keys reason
  | quarantinedBatch => exact quarantinedBatch_same_iff ..
  | quarantinedCount => exact quarantinedCount_same_iff ..
  | oldestPendingMillis => exact oldestPendingMillis_same_iff ..
  | requeueQuarantined => exact requeueQuarantined_same_iff ..
  | maintain nowMillis retentionMillis =>
    exact withRetry_same_iff fun session =>
      maintain_failsWhen server codec session table nowMillis retentionMillis
  | pending => exact iff_of_true (.refl _) (.inl id)

/-! ### A requeue that does nothing -/

/-- A server whose UUIDs are written as plain hexadecimal digits. -/
def plainServer : Server where
  parseUuid text := do
    let bytes ← parseHexPairs text.toList
    if length_eq : bytes.length = 16 then return ⟨bytes, length_eq⟩ else none
  uuidText uuid := String.ofList (uuid.bytes.flatMap hexByte)
  parse_text uuid := by simp [parseHexPairs_flatMap, uuid.length_eq]
  makeInterval nanos := some (nanos / 1000)
  toTimestamp millis := some (millis.toNat * 1000)
  cutoff now retention := some (now.toNat * 1000 - retention.toNat * 1000)
  epochMillis micros := UInt64.ofNat (micros / 1000).toNat

/-- A codec that rebuilds nothing. -/
def emptyCodec : EnvelopeCodec where
  rebuild _ := none
  fingerprint _ := .zero

/-- A connection that works, to a server that accepts another one. -/
def steady : Recovery where
  session := ⟨0, some 1, true, .stored _ _⟩
  again := ⟨0, some 1, true, .stored _ _⟩
  reconnects := true

def poisonKey : RowKey := ⟨"w", "n", ⟨List.replicate 16 0, rfl⟩, by decide⟩

/-- A row that ran out of attempts. -/
def exhaustedRow : Row where
  envelope := [0]
  payloadHash := .zero
  state := .pending
  attempts := 8
  nextAttemptAt := 0
  createdAt := 0
  quarantine := some ⟨0, "replay_attempts_exhausted"⟩

/-- The wrapper answers a requeue with success and leaves the row in quarantine;
the outbox it wraps requeues it. -/
theorem recovering_drops_requeue :
    let table : Table := AList.singleton poisonKey exhaustedRow
    let requeue := Method.requeueQuarantined [outboxKey plainServer poisonKey]
    let wrapped := (recoveringPostgresOutbox plainServer emptyCodec 10 steady).call requeue table
    let inner := (postgresOutbox plainServer emptyCodec 10 steady.session).call requeue table
    ((wrapped.2 : Except GatewayError Unit) = .ok () ∧
        wrapped.1.lookup poisonKey = some exhaustedRow) ∧
      (inner.2 : Except GatewayError Unit) = .ok () ∧
        inner.1.lookup poisonKey = some (exhaustedRow.requeued steady.session) := by
  have run : requeueQuarantined plainServer steady.session [outboxKey plainServer poisonKey]
      (AList.singleton poisonKey exhaustedRow) =
        (KeyMap.update (AList.singleton poisonKey exhaustedRow)
          (fun key row => [poisonKey].contains key && row.quarantined)
          (Row.requeued steady.session), .ok ()) := by
    have parsed := rowKeys_outboxKey plainServer [poisonKey]
    rw [List.map_cons, List.map_nil] at parsed
    simp [requeueQuarantined, parsed]
  exact ⟨⟨rfl, rfl⟩, congrArg Prod.snd run, congrArg (fun after => after.1.lookup poisonKey) run⟩

end Apex.Outbox.Postgres
