import Apex.Outbox.Plans

/-!
Retention: the completed rows it drops, and the journal it writes anew.

A rewritten journal holds one record for each row, in any order of the rows. It
comes to the account of the state it was written from (`snapshot_recorded`), so
the outbox stays sound where every line of it is within the record limit. That
limit is checked for appended records only; the rewrite does not check it.
-/

namespace Apex.Outbox

open Checked Domain Lines List AList KeyMap Account

variable {codec : EnvelopeCodec} {state : OutboxState}

/-! ### Records of distinct new keys -/

/-- A record that gives a key nothing is known of the standing. -/
def Introduces (codec : EnvelopeCodec) (record : FileOutboxRecord) (standing : Standing) : Prop :=
  ∀ ledger : Ledger, ledger record.key = none →
    Fits codec ledger record ∧
      effect codec ledger record = Function.update ledger record.key (some standing)

/-- The records of distinct keys that are all new form a chain, and enter the
standing of each. -/
theorem chain_of_introduces {capacity} {entries : List (FileOutboxRecord × Standing)}
    {account : Account} (distinct : (entries.map fun entry => entry.1.key).Nodup)
    (introduces : ∀ entry ∈ entries, Introduces codec entry.1 entry.2)
    (fresh : ∀ entry ∈ entries, account.ledger entry.1.key = none)
    (room : account.rows + entries.length ≤ capacity) :
    Chain codec capacity account (entries.map Prod.fst) ∧
      ((entries.map Prod.fst).foldl (Account.enter codec) account).rows =
        account.rows + entries.length ∧
      ∀ key standing,
        ((entries.map Prod.fst).foldl (Account.enter codec) account).ledger key = some standing ↔
          account.ledger key = some standing ∨
            ∃ entry ∈ entries, entry.1.key = key ∧ entry.2 = standing := by
  induction entries generalizing account with
  | nil => simp [Chain]
  | cons entry rest ih =>
    obtain ⟨new, distinct⟩ := nodup_cons.mp distinct
    obtain ⟨introducesHere, introduces⟩ := forall_mem_cons.mp introduces
    obtain ⟨freshHere, fresh⟩ := forall_mem_cons.mp fresh
    obtain ⟨fits, effect_eq⟩ := introducesHere account.ledger freshHere
    rw [length_cons] at room
    have rows : (account.enter codec entry.1).rows = account.rows + 1 := by
      simp [enter, freshHere]
    have entered : (account.enter codec entry.1).ledger =
        Function.update account.ledger entry.1.key (some entry.2) := effect_eq
    have freshLater : ∀ other ∈ rest, (account.enter codec entry.1).ledger other.1.key = none := by
      intro other mem
      have apart : other.1.key ≠ entry.1.key := fun same =>
        new (mem_map.mpr ⟨other, mem, same⟩)
      rw [entered, Function.update_of_ne apart]
      exact fresh other mem
    obtain ⟨chain, rows', ledger⟩ := ih distinct introduces freshLater (by omega)
    refine ⟨⟨fits, fun _ => by omega, chain⟩, ?_, fun key standing => ?_⟩
    · rw [map_cons, foldl_cons, rows', rows, length_cons]
      omega
    · rw [map_cons, foldl_cons, ledger, entered]
      by_cases same : key = entry.1.key
      · subst same
        rw [Function.update_self, freshHere]
        simp [eq_comm]
      · rw [Function.update_of_ne same]
        simp [Ne.symm same]

namespace OutboxState

/-! ### The rewritten journal -/

/-- The records of a snapshot with the standing each of them stands for. -/
def snapshotEntries (state : OutboxState) (scan : OutboxScan) (clock : Nat → UInt64) :
    List (FileOutboxRecord × Standing) :=
  (scan.pending.order state.pending).map (fun (key, event) =>
      (.pending key event.envelope (state.nextAttemptAtMillis.lookup key)
        (state.attempts.lookup key) (state.pendingSinceMillis.lookup key), .pending event)) ++
    (scan.complete.order state.complete).map (fun (key, fingerprint) =>
      (.complete key (fingerprint.map hexFingerprint) (state.completedAtMillis.lookup key)
        ((state.completeEvents.lookup key).map IngestRequest.envelope), .complete fingerprint)) ++
    (scan.quarantined.order state.quarantined).zipIdx.map fun ((key, event), index) =>
      (.quarantined key event.envelope replayAttemptsExhausted (clock index), .quarantined event)

theorem snapshotEntries_records (scan : OutboxScan) (clock : Nat → UInt64) :
    (state.snapshotEntries scan clock).map Prod.fst = state.snapshotRecords scan clock := by
  simp [snapshotEntries, snapshotRecords, Function.comp_def]

theorem snapshotEntries_keys (scan : OutboxScan) (clock : Nat → UInt64) :
    (state.snapshotEntries scan clock).map (fun entry => entry.1.key) =
      (scan.pending.order state.pending).map Prod.fst ++
        (scan.complete.order state.complete).map Prod.fst ++
        (scan.quarantined.order state.quarantined).map Prod.fst := by
  have indexed : (scan.quarantined.order state.quarantined).zipIdx.map (fun entry => entry.1.1) =
      (scan.quarantined.order state.quarantined).map Prod.fst := by
    change List.map (Prod.fst ∘ Prod.fst) _ = _
    rw [← map_map, zipIdx_map_fst]
  simp [snapshotEntries, Function.comp_def, FileOutboxRecord.key, indexed]

theorem mem_snapshotEntries {scan clock entry} (mem : entry ∈ state.snapshotEntries scan clock)
    :
    (∃ key event, state.pending.lookup key = some event ∧
        entry = (.pending key event.envelope (state.nextAttemptAtMillis.lookup key)
          (state.attempts.lookup key) (state.pendingSinceMillis.lookup key), .pending event)) ∨
      (∃ key fingerprint, state.complete.lookup key = some fingerprint ∧
        entry = (.complete key (fingerprint.map hexFingerprint)
          (state.completedAtMillis.lookup key)
          ((state.completeEvents.lookup key).map IngestRequest.envelope),
          .complete fingerprint)) ∨
      ∃ key event now, state.quarantined.lookup key = some event ∧
        entry = (.quarantined key event.envelope replayAttemptsExhausted now,
          .quarantined event) := by
  simp only [snapshotEntries, mem_append, mem_map] at mem
  rcases mem with (⟨⟨key, event⟩, mem, rfl⟩ | ⟨⟨key, fingerprint⟩, mem, rfl⟩) |
    ⟨⟨⟨key, event⟩, index⟩, mem, rfl⟩
  · exact .inl ⟨key, event, (scan.pending.mem_order _).mp mem, rfl⟩
  · exact .inr (.inl ⟨key, fingerprint, (scan.complete.mem_order _).mp mem, rfl⟩)
  · have mem := (mem_zipIdx' mem).2 ▸ getElem_mem _
    exact .inr (.inr ⟨key, event, clock index, (scan.quarantined.mem_order _).mp mem, rfl⟩)

/-- Every entry of a snapshot introduces the standing of its row. -/
theorem introduces_snapshot (valid : state.Valid codec) {scan clock entry}
    (mem : entry ∈ state.snapshotEntries scan clock) :
    Introduces codec entry.1 entry.2 ∧ state.ledger entry.1.key = some entry.2 := by
  rcases mem_snapshotEntries mem with ⟨key, event, found, rfl⟩ | ⟨key, fingerprint, found, rfl⟩ |
    ⟨key, event, now, found, rfl⟩
  · obtain ⟨admitted, rfl⟩ := valid.pendingEvent key event found
    refine ⟨fun ledger fresh => ?_, valid.ledger_pending.mpr found⟩
    exact ⟨⟨event, ⟨admitted, rfl, rfl⟩, .inl fresh⟩,
      effect_pending admitted fun other stands => by
        rw [FileOutboxRecord.key] at fresh
        rw [fresh] at stands
        cases stands⟩
  · refine ⟨fun ledger fresh => ⟨⟨?_, ?_, ?_⟩, ?_⟩, Valid.ledger_complete.mpr found⟩
    · intro hex is
      obtain ⟨bytes, -, rfl⟩ := Option.map_eq_some_iff.mp is
      simp
    · intro bytes is
      obtain ⟨event, kept, rfl⟩ := Option.map_eq_some_iff.mp is
      obtain ⟨admitted, own⟩ := valid.completeEvent key event kept
      exact ⟨event, admitted, own, rfl⟩
    · intro event stands
      rw [FileOutboxRecord.key] at fresh
      rw [fresh] at stands
      cases stands
    · cases fingerprint with
      | some bytes => simp [effect, FileOutboxRecord.key]
      | none =>
        rw [FileOutboxRecord.key] at fresh
        simp [effect, FileOutboxRecord.key, fresh, Standing.pendingPart]
  · obtain ⟨admitted, rfl⟩ := valid.quarantinedEvent key event found
    refine ⟨fun ledger fresh => ⟨⟨⟨event, admitted, rfl, rfl⟩, fun fingerprint stands => ?_⟩,
      effect_quarantined admitted⟩, valid.ledger_quarantined.mpr found⟩
    rw [FileOutboxRecord.key] at fresh
    rw [fresh] at stands
    cases stands

/-- Every row of the state has an entry. -/
theorem exists_snapshotEntry (valid : state.Valid codec) (scan : OutboxScan) (clock : Nat → UInt64)
    {key standing} (stands : state.ledger key = some standing) :
    ∃ entry ∈ state.snapshotEntries scan clock, entry.1.key = key ∧ entry.2 = standing := by
  simp only [snapshotEntries, mem_append, mem_map]
  cases standing with
  | pending event =>
    have mem := (scan.pending.mem_order _).mpr (valid.ledger_pending.mp stands)
    exact ⟨_, .inl (.inl ⟨_, mem, rfl⟩), rfl, rfl⟩
  | complete fingerprint =>
    have mem := (scan.complete.mem_order _).mpr (Valid.ledger_complete.mp stands)
    exact ⟨_, .inl (.inr ⟨_, mem, rfl⟩), rfl, rfl⟩
  | quarantined event =>
    have mem := (scan.quarantined.mem_order _).mpr (valid.ledger_quarantined.mp stands)
    obtain ⟨index, bound, is⟩ := getElem_of_mem mem
    refine ⟨_, .inr ⟨((key, event), index), ?_, rfl⟩, rfl, rfl⟩
    rw [← is]
    exact mk_mem_zipIdx_iff_getElem?.mpr (List.getElem?_eq_getElem bound)

theorem nodup_snapshotEntries (valid : state.Valid codec) (scan : OutboxScan)
    (clock : Nat → UInt64) :
    ((state.snapshotEntries scan clock).map fun entry => entry.1.key).Nodup := by
  have isPending {key : OutboxKey} (mem : key ∈ (scan.pending.order state.pending).map Prod.fst) :
      key ∈ state.pending := mem_keys.mpr ((scan.pending.keys_order_perm _).mem_iff.mp mem)
  have isComplete {key : OutboxKey}
      (mem : key ∈ (scan.complete.order state.complete).map Prod.fst) : key ∈ state.complete :=
    mem_keys.mpr ((scan.complete.keys_order_perm _).mem_iff.mp mem)
  have isQuarantined {key : OutboxKey}
      (mem : key ∈ (scan.quarantined.order state.quarantined).map Prod.fst) :
      key ∈ state.quarantined :=
    mem_keys.mpr ((scan.quarantined.keys_order_perm _).mem_iff.mp mem)
  rw [snapshotEntries_keys]
  refine List.Nodup.append (List.Nodup.append (scan.pending.nodup_keys_order _)
    (scan.complete.nodup_keys_order _) ?_) (scan.quarantined.nodup_keys_order _) ?_
  · intro key pending complete
    exact (valid.pendingOnly key (isPending pending)).1 (isComplete complete)
  · intro key others quarantined
    rcases mem_append.mp others with pending | complete
    · exact (valid.pendingOnly key (isPending pending)).2 (isQuarantined quarantined)
    · exact valid.completeOnly key (isComplete complete) (isQuarantined quarantined)

/-- A snapshot comes to the account of the state. -/
theorem snapshot_chain (valid : state.Valid codec) (scan : OutboxScan) (clock : Nat → UInt64) :
    Chain codec state.capacity .blank (state.snapshotRecords scan clock) ∧
      (state.snapshotRecords scan clock).foldl (Account.enter codec) .blank = state.account := by
  have length : (state.snapshotEntries scan clock).length = state.size := by
    simp [snapshotEntries, Scan.length_order, size, Nat.add_assoc]
  have room : blank.rows + (state.snapshotEntries scan clock).length ≤ state.capacity := by
    rw [length]
    simpa [blank] using valid.withinCapacity
  have fresh : ∀ entry ∈ state.snapshotEntries scan clock,
      blank.ledger entry.1.key = none := fun _ _ => rfl
  obtain ⟨chain, rows, ledger⟩ := chain_of_introduces (nodup_snapshotEntries valid scan clock)
    (fun entry mem => (introduces_snapshot valid mem).1) fresh room
  rw [snapshotEntries_records] at chain rows ledger
  refine ⟨chain, Account.ext (funext fun key => Option.ext fun standing => ?_) ?_⟩
  · rw [ledger]
    constructor
    · rintro (impossible | ⟨entry, mem, rfl, rfl⟩)
      · cases impossible
      · exact (introduces_snapshot valid mem).2
    · intro stands
      exact .inr (exists_snapshotEntry valid scan clock stands)
  · rw [rows, length]
    simp [blank, account]

/-! ### Dropping completed rows -/

/-- What dropping completed rows does to a state: it stays valid, and the rows
that are gone were complete and among the dropped keys. -/
structure Dropped (codec : EnvelopeCodec) (keys : List OutboxKey) (before after : OutboxState) :
    Prop where
  valid : after.Valid codec
  capacity : after.capacity = before.capacity
  ledger : ∀ key, after.ledger key = before.ledger key ∨
    key ∈ keys ∧ after.ledger key = none ∧
      ∃ fingerprint, before.ledger key = some (.complete fingerprint)

theorem removeCompleted_dropped (valid : state.Valid codec) (key : OutboxKey) :
    Dropped codec [key] state (removeCompleted state key) := by
  have complete (other : OutboxKey) : (removeCompleted state key).complete.lookup other =
      if other = key then none else state.complete.lookup other := lookup_erase_eq _ _ _
  have memComplete {other : OutboxKey} (mem : other ∈ (removeCompleted state key).complete) :
      other ∈ state.complete := (mem_erase.mp mem).2
  refine ⟨⟨?_, ?_, valid.pendingEvent, ?_, valid.quarantinedEvent, ?_⟩, rfl, fun other => ?_⟩
  · intro other pending
    exact ⟨fun mem => (valid.pendingOnly other pending).1 (memComplete mem),
      (valid.pendingOnly other pending).2⟩
  · intro other mem
    exact valid.completeOnly other (memComplete mem)
  · intro other event found
    rw [removeCompleted, lookup_erase_eq] at found
    split_ifs at found
    exact valid.completeEvent other event found
  · have fewer : (removeCompleted state key).complete.keys.length ≤ state.complete.keys.length := by
      rw [removeCompleted, length_keys_erase]
      split_ifs <;> omega
    have within := valid.withinCapacity
    unfold size at within ⊢
    exact le_trans (by simpa [removeCompleted] using fewer) within
  · by_cases same : other = key
    · subst same
      cases found : state.complete.lookup other with
      | none =>
        refine .inl ?_
        rw [ledger, complete, if_pos rfl, ledger, found]
        rfl
      | some fingerprint =>
        have mem := mem_of_lookup found
        refine .inr ⟨mem_singleton_self _, ?_, fingerprint, Valid.ledger_complete.mpr found⟩
        have notPending : other ∉ state.pending := fun pending =>
          (valid.pendingOnly other pending).1 mem
        refine ledger_eq_none.mpr ⟨notPending, ?_, valid.completeOnly other mem⟩
        rw [← lookup_eq_none, complete, if_pos rfl]
    · refine .inl ?_
      rw [ledger, complete, if_neg same, ledger]
      rfl

theorem removeCompleted_foldl (valid : state.Valid codec) (keys : List OutboxKey) :
    Dropped codec keys state (keys.foldl removeCompleted state) := by
  induction keys generalizing state with
  | nil => exact ⟨valid, rfl, fun _ => .inl rfl⟩
  | cons key rest ih =>
    have one := removeCompleted_dropped valid key
    have later := ih one.valid
    refine ⟨later.valid, later.capacity.trans one.capacity, fun other => ?_⟩
    rw [foldl_cons]
    rcases later.ledger other with same | ⟨mem, gone, fingerprint, stood⟩
    · rw [same]
      rcases one.ledger other with same | ⟨mem, gone, stood⟩
      · exact .inl same
      · exact .inr ⟨mem_cons.mpr (.inl (mem_singleton.mp mem)), gone, stood⟩
    · refine .inr ⟨mem_cons_of_mem _ mem, gone, ?_⟩
      rcases one.ledger other with same | ⟨-, gone, -⟩
      · exact ⟨fingerprint, same ▸ stood⟩
      · rw [gone] at stood
        cases stood

end OutboxState

namespace FileOutbox

variable {capacity : Nat} {outbox : FileOutbox}

/-- The state a sweep leaves, before its journal is written. -/
def swept (outbox : FileOutbox) (cutoff : UInt64) : OutboxState :=
  (outbox.state.expired cutoff).foldl OutboxState.removeCompleted outbox.state

/-- A sweep changes nothing, or leaves the swept state and its snapshot. -/
theorem maintain_cases (outbox : FileOutbox) (now retention : UInt64)
    (scan : OutboxState.OutboxScan) (clock : Nat → UInt64) :
    (outbox.maintain now retention scan clock).2 = outbox ∨
      ∃ journal, journal = encodeBatch
          ((outbox.swept (Saturating.sub64 now retention)).snapshotRecords scan clock) ∧
        byteLength journal ≤ maxOutboxFileBytes ∧
        (outbox.maintain now retention scan clock).2 =
          ⟨journal, outbox.swept (Saturating.sub64 now retention)⟩ := by
  unfold maintain
  dsimp only
  split_ifs
  · exact .inl rfl
  · split
    · exact .inl rfl
    · next compacted written =>
        obtain ⟨_, small, is⟩ := bind_eq_ok.mp written
        obtain rfl := pure_eq_ok.mp is
        exact .inr ⟨_, rfl, of_decide_eq_true (ensure_eq_ok.mp small), rfl⟩

/-- A sweep that rewrites the journal within the record limit keeps the outbox
sound, and drops nothing but completed rows past retention. -/
theorem maintain_sound (sound : Sound codec capacity outbox) {now retention scan clock}
    (short : ∀ record ∈
      (outbox.swept (Saturating.sub64 now retention)).snapshotRecords scan clock,
      byteLength record.encode ≤ maxOutboxRecordBytes) :
    Sound codec capacity (outbox.maintain now retention scan clock).2 ∧
      ∀ key, (outbox.maintain now retention scan clock).2.state.ledger key =
          outbox.state.ledger key ∨
        key ∈ outbox.state.expired (Saturating.sub64 now retention) ∧
          ∃ fingerprint, outbox.state.ledger key = some (.complete fingerprint) := by
  have dropped := OutboxState.removeCompleted_foldl sound.valid
    (outbox.state.expired (Saturating.sub64 now retention))
  rcases outbox.maintain_cases now retention scan clock with same | ⟨journal, rfl, small, is⟩
  · rw [same]
    exact ⟨sound, fun _ => .inl rfl⟩
  · rw [is]
    obtain ⟨chain, account⟩ := OutboxState.snapshot_chain dropped.valid scan clock
    refine ⟨⟨dropped.valid, dropped.capacity.trans sound.capacity_eq, _, rfl, ?_, account,
      short, small⟩, fun key => ?_⟩
    · rw [← sound.capacity_eq, ← dropped.capacity]
      exact chain
    · rcases dropped.ledger key with same | ⟨mem, -, stood⟩
      · exact .inl same
      · exact .inr ⟨mem, stood⟩

end FileOutbox

end Apex.Outbox
