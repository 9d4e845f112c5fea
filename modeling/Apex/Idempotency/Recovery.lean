import Apex.Idempotency.File
import Apex.Lib.Runs

/-!
Reopening the idempotency store.

`Stored` is the invariant of an open store: the journal is the text of one
record a committed key. From it follow what a plain reopen finds
(`Stored.open_journal`) and what a reopen finds after a crash in the middle of a
commit (`Stored.crashed`). The loader drops nothing, so that the write must have
stopped before its first byte or behind its newline.
-/

namespace Apex.Idempotency

open Checked Domain Lines Outbox Runs Saturating FileIdempotencyStore List KeyMap

variable {capacity : Nat}

/-! ### The invariant -/

/-- The records of a journal that fits a store of this capacity. -/
structure Replayable (capacity : Nat) (records : List IdempotencyRecord) : Prop where
  nodup : (records.map IdempotencyRecord.key).Nodup
  valid : ∀ record ∈ records, validKey record.key = true
  fits : ∀ record ∈ records, byteLength (recordCodec.text [record]) ≤ maxIdempotencyRecordBytes
  room : records.length ≤ capacity

/-- The committed keys are those of the records. -/
def Shows (records : List IdempotencyRecord) (committed : KeyMap OutboxKey Fingerprint) : Prop :=
  (records.map fun record => (record.key, record.payloadHash)).Perm committed.toPairs

/-- The reservations of a store: their keys are well formed and not committed, a
key has one reservation at most, and tokens are not handed out twice. -/
structure Reserving (store : FileIdempotencyStore) : Prop where
  free : ∀ token key hash, store.pending.lookup token = some (key, hash) →
    validKey key = true ∧ key ∉ store.committed
  exclusive : ∀ token token' key hash hash', store.pending.lookup token = some (key, hash) →
    store.pending.lookup token' = some (key, hash') → token = token'
  tokens : ∀ token value, store.pending.lookup token = some value → token < store.nextToken

/-- What holds of an open store. -/
structure Stored (store : FileIdempotencyStore) : Prop where
  text : ∃ records, store.journal = recordCodec.text records ∧
    Replayable store.capacity records ∧ Shows records store.committed
  size : byteLength store.journal ≤ maxIdempotencyFileBytes
  reserving : Reserving store
  room : store.committed.keys.length + store.pending.keys.length ≤ store.capacity

/-- Reservations may go while no key of the others is committed. -/
theorem Reserving.fewer {store after : FileIdempotencyStore} (reserving : Reserving store)
    (kept : ∀ token key hash, after.pending.lookup token = some (key, hash) →
      store.pending.lookup token = some (key, hash) ∧ key ∉ after.committed)
    (next : after.nextToken = store.nextToken) : Reserving after where
  free token key hash found :=
    ⟨(reserving.free token key hash (kept token key hash found).1).1,
      (kept token key hash found).2⟩
  exclusive token token' key hash hash' found found' :=
    reserving.exclusive token token' key hash hash' (kept token key hash found).1
      (kept token' key hash' found').1
  tokens token value found := by
    rw [next]
    exact reserving.tokens token value (kept token value.1 value.2 found).1

theorem reserving_of_empty {store : FileIdempotencyStore} (none_ : store.pending = ∅) :
    Reserving store := by
  have nothing (token : UInt64) (value : OutboxKey × Fingerprint) :
      store.pending.lookup token ≠ some value := by
    simp [none_]
  exact ⟨fun token key hash found => absurd found (nothing token _),
    fun token _ key hash _ found => absurd found (nothing token _),
    fun token value found => absurd found (nothing token value)⟩

/-! ### Replay -/

section Replay

variable {store : FileIdempotencyStore} {records : List IdempotencyRecord}

variable {record : IdempotencyRecord} {committed : KeyMap OutboxKey Fingerprint}

/-- A journal can be followed by the record of a new key. -/
theorem Replayable.concat (replayable : Replayable capacity records)
    (valid : validKey record.key = true) (fresh : record.key ∉ records.map IdempotencyRecord.key)
    (fit : byteLength (recordCodec.text [record]) ≤ maxIdempotencyRecordBytes)
    (room : records.length < capacity) : Replayable capacity (records ++ [record]) where
  nodup := by
    rw [map_append, map_singleton, ← concat_eq_append]
    exact replayable.nodup.concat fresh
  valid := forall_mem_append.mpr ⟨replayable.valid, by simpa using valid⟩
  fits := forall_mem_append.mpr ⟨replayable.fits, by simpa using fit⟩
  room := by
    rw [length_append, length_singleton]
    omega

theorem Replayable.of_prefix {later landed} (replayable : Replayable capacity (records ++ later))
    (start : landed <+: later) :
    Replayable capacity (records ++ landed) := by
  have sublist : (records ++ landed).Sublist (records ++ later) :=
    List.Sublist.append_left start.sublist records
  refine ⟨replayable.nodup.sublist (sublist.map _), ?_, ?_, ?_⟩
  · intro record mem
    exact replayable.valid record (sublist.subset mem)
  · intro record mem
    exact replayable.fits record (sublist.subset mem)
  · exact Nat.le_trans sublist.length_le replayable.room

theorem Shows.lookup (shown : Shows records committed) {key hash} :
    committed.lookup key = some hash ↔
      (key, hash) ∈ records.map fun record => (record.key, record.payloadHash) := by
  rw [shown.mem_iff]
  exact ((Scan.stored _ _).mem_order committed).symm

theorem Shows.keys (shown : Shows records committed) :
    (records.map IdempotencyRecord.key).Perm committed.keys := by
  have keys := (shown.map Prod.fst).trans ((Scan.stored _ _).keys_order_perm committed)
  rwa [map_map] at keys

theorem Shows.length (shown : Shows records committed) :
    committed.keys.length = records.length := by
  rw [← shown.keys.length_eq, length_map]

/-- A new key committed is one record more. -/
theorem Shows.concat (shown : Shows records committed) (fresh : record.key ∉ committed) :
    Shows (records ++ [record]) (AList.insert record.key record.payloadHash committed) := by
  rw [Shows, KeyMap.toPairs, AList.entries_insert_of_notMem fresh, map_append]
  exact (perm_append_singleton _ _).trans (shown.cons _)

/-- A record of a new key is accepted while there is room. -/
theorem applyRecord_new (valid : validKey record.key = true)
    (fresh : record.key ∉ store.committed)
    (room : store.committed.keys.length < store.capacity) :
    store.applyRecord record = .ok { store with
      committed := AList.insert record.key record.payloadHash store.committed
      committedAtMillis :=
        AList.insert record.key record.committedAtMillis store.committedAtMillis } := by
  have size : (AList.insert record.key record.payloadHash store.committed).keys.length ≤
      store.capacity := by
    rw [keys_insert_of_notMem fresh]
    exact room
  simp only [applyRecord, valid, AList.lookup_eq_none.mpr fresh, Option.all_none, ensure_true,
    ok_bind, if_neg fresh, decide_eq_true size]
  rfl

theorem foldlM_applyRecord {before later} (shown : Shows before store.committed)
    (replayable : Replayable store.capacity (before ++ later)) :
    ∃ committed times, later.foldlM applyRecord store =
        .ok { store with committed := committed, committedAtMillis := times } ∧
      Shows (before ++ later) committed := by
  induction later generalizing before store with
  | nil => exact ⟨_, _, rfl, by rwa [append_nil]⟩
  | cons record rest ih =>
    have split : before ++ record :: rest = before ++ [record] ++ rest := by simp
    have nodup := replayable.nodup
    rw [map_append, nodup_append] at nodup
    have fresh : record.key ∉ store.committed := by
      intro mem
      have old := shown.keys.mem_iff.mpr (AList.mem_keys.mp mem)
      exact nodup.2.2 _ old _ mem_cons_self rfl
    have room := replayable.room
    rw [length_append, length_cons, ← shown.length] at room
    have applied := applyRecord_new (replayable.valid record (by simp)) fresh (by omega)
    rw [split] at replayable ⊢
    rw [foldlM_cons, applied, ok_bind]
    exact @ih _ _ (shown.concat fresh) replayable

/-- The lines of whole records are replayed as the records. -/
theorem foldlM_loadLine
    (fits : ∀ record ∈ records,
      byteLength (recordCodec.text [record]) ≤ maxIdempotencyRecordBytes) :
    (records.map recordCodec.encode).foldlM loadLine store = records.foldlM applyRecord store := by
  induction records generalizing store with
  | nil => rfl
  | cons record rest ih =>
    obtain ⟨fit, others⟩ := forall_mem_cons.mp fits
    have short : byteLength (recordCodec.encode record) ≤ maxIdempotencyRecordBytes := by
      rw [LineCodec.text_cons, byteLength_append] at fit
      omega
    have line : store.loadLine (recordCodec.encode record) = store.applyRecord record := by
      simp [loadLine, short, recordCodec.decode_encode]
    rw [map_cons, foldlM_cons, foldlM_cons, line]
    exact congrArg _ (funext fun next => ih others)

end Replay

/-! ### Reopening -/

/-- The record a commit has under way, none where there is nothing to write. -/
def inFlight (store : FileIdempotencyStore) (token now : UInt64) : List IdempotencyRecord :=
  match store.commitRecord token now with
  | none => []
  | some record =>
      match store.checkAppend record with
      | .error _ => []
      | .ok _ => [record]

/-- The file after a crash `reached` bytes into the write of a commit, opened
again. Bytes that end inside a character are no text, and the loader refuses
them. -/
def openCrashed (store : FileIdempotencyStore) (token now : UInt64) (reached : Nat) :
    Except GatewayError FileIdempotencyStore :=
  match cutBytes reached (recordCodec.text (inFlight store token now)) with
  | none => .error .invalidIdempotencyConfiguration
  | some tail => FileIdempotencyStore.open store.capacity (store.journal ++ tail)

/-- Every committed key is committed with the same hash. -/
def Keeps (before after : FileIdempotencyStore) : Prop :=
  ∀ key hash, before.committed.lookup key = some hash → after.committed.lookup key = some hash

/-- A capacity a store may be opened with. -/
def ValidCapacity (capacity : Nat) : Prop :=
  capacity ≠ 0 ∧ capacity ≤ 1000000

section Reopen

variable {store : FileIdempotencyStore}

theorem open_eq {journal} (valid : ValidCapacity capacity)
    (size : byteLength journal ≤ maxIdempotencyFileBytes) :
    FileIdempotencyStore.open capacity journal =
      (lines journal).foldlM loadLine { empty capacity with journal } := by
  have limits : (decide (capacity ≠ 0) && decide (capacity ≤ 1000000)) = true := by
    simp [valid.1, valid.2]
  simp only [FileIdempotencyStore.open, limits, decide_eq_true size, ensure_true, ok_bind]

/-- The text of fitting records is accepted, and shows their keys. -/
theorem open_text {records} (valid : ValidCapacity capacity)
    (replayable : Replayable capacity records)
    (size : byteLength (recordCodec.text records) ≤ maxIdempotencyFileBytes) :
    ∃ reopened, FileIdempotencyStore.open capacity (recordCodec.text records) = .ok reopened ∧
      Stored reopened ∧ reopened.capacity = capacity ∧ Shows records reopened.committed := by
  have read : lines (recordCodec.text records) = records.map recordCodec.encode :=
    lines_unlines (recordCodec.isLines records)
  obtain ⟨committed, times, opened, shown⟩ := @foldlM_applyRecord
    { empty capacity with journal := recordCodec.text records } [] records (.refl _) replayable
  rw [open_eq valid size, read, foldlM_loadLine replayable.fits]
  refine ⟨_, opened, ⟨⟨records, rfl, replayable, shown⟩, size, reserving_of_empty rfl, ?_⟩, rfl,
    shown⟩
  change committed.keys.length + 0 ≤ capacity
  rw [shown.length]
  exact replayable.room

/-- A plain reopen finds every committed key. -/
theorem Stored.open_journal (stored : Stored store) (valid : ValidCapacity store.capacity) :
    ∃ reopened, FileIdempotencyStore.open store.capacity store.journal = .ok reopened ∧
      Stored reopened ∧ Keeps store reopened ∧ reopened.capacity = store.capacity := by
  obtain ⟨records, text, replayable, shown⟩ := stored.text
  obtain ⟨reopened, opened, stored', capacity, shown'⟩ :=
    open_text valid replayable (text ▸ stored.size)
  refine ⟨reopened, text ▸ opened, stored', fun key hash found => ?_, capacity⟩
  exact shown'.lookup.mpr (shown.lookup.mp found)

variable {token now : UInt64} {record : IdempotencyRecord}

theorem commitRecord_pending (reserved : store.commitRecord token now = some record) :
    store.pending.lookup token = some (record.key, record.payloadHash) := by
  obtain ⟨⟨key, hash⟩, found, rfl⟩ := Option.map_eq_some_iff.mp reserved
  exact found

/-- The record of a reservation fits behind the journal. -/
theorem Stored.replayable_commit (stored : Stored store)
    (reserved : store.commitRecord token now = some record)
    (checked : store.checkAppend record = .ok ()) :
    ∃ records, store.journal = recordCodec.text records ∧ Shows records store.committed ∧
      Replayable store.capacity (records ++ [record]) ∧
      byteLength store.journal + byteLength (recordCodec.text [record]) ≤
        maxIdempotencyFileBytes := by
  obtain ⟨records, text, replayable, shown⟩ := stored.text
  have found := commitRecord_pending reserved
  obtain ⟨valid, notCommitted⟩ := stored.reserving.free token _ _ found
  simp only [checkAppend, bind_eq_ok, ensure_eq_ok, decide_eq_true_eq] at checked
  obtain ⟨_, fit, size⟩ := checked
  have fresh : record.key ∉ records.map IdempotencyRecord.key := fun mem =>
    notCommitted (AList.mem_keys.mpr (shown.keys.mem_iff.mp mem))
  have room : records.length < store.capacity := by
    have held := length_pos_of_mem (AList.mem_keys.mp
      (mem_of_lookup found))
    have within := stored.room
    rw [shown.length] at within
    omega
  exact ⟨records, text, shown, replayable.concat valid fresh fit room, size⟩

/-- What landed of a commit's write can be replayed. -/
theorem Stored.landed (stored : Stored store) {landed} (start : landed <+: inFlight store token now)
    :
    ∃ records, store.journal = recordCodec.text records ∧ Shows records store.committed ∧
      Replayable store.capacity (records ++ landed) ∧
      byteLength (recordCodec.text (records ++ landed)) ≤ maxIdempotencyFileBytes := by
  have nothing : ∃ records, store.journal = recordCodec.text records ∧
      Shows records store.committed ∧ Replayable store.capacity (records ++ []) ∧
      byteLength (recordCodec.text (records ++ [])) ≤ maxIdempotencyFileBytes := by
    obtain ⟨records, text, replayable, shown⟩ := stored.text
    rw [← append_nil records] at replayable
    exact ⟨records, text, shown, replayable, by rw [append_nil, ← text]; exact stored.size⟩
  unfold inFlight at start
  split at start
  · exact prefix_nil.mp start ▸ nothing
  · next record reserved =>
      split at start
      · exact prefix_nil.mp start ▸ nothing
      · next checked =>
          obtain ⟨records, text, shown, replayable, size⟩ :=
            stored.replayable_commit reserved checked
          refine ⟨records, text, shown, replayable.of_prefix start, ?_⟩
          obtain ⟨rest, is⟩ := start
          rw [← is, recordCodec.text_append, byteLength_append, text] at size
          rw [recordCodec.text_append, byteLength_append]
          omega

/-- After a crash that stopped the write of a commit before its first byte or behind
its newline the store opens again with every committed key. -/
theorem Stored.crashed (stored : Stored store) (valid : ValidCapacity store.capacity)
    {reached landed} (stops : recordCodec.Stops reached (inFlight store token now) landed) :
    ∃ reopened, openCrashed store token now reached = .ok reopened ∧ Stored reopened ∧
      Keeps store reopened ∧ reopened.capacity = store.capacity := by
  obtain ⟨records, text, shown, replayable, size⟩ := stored.landed stops.1
  obtain ⟨reopened, opened, stored', capacity, shown'⟩ := open_text valid replayable size
  rw [recordCodec.text_append, ← text] at opened
  refine ⟨reopened, by simpa only [openCrashed, stops.2] using opened, stored', ?_, capacity⟩
  intro key hash found
  refine shown'.lookup.mpr ?_
  rw [map_append]
  exact mem_append_left _ (shown.lookup.mp found)

end Reopen

/-! ### Runs -/

/-- One operation on the store, with all it depends on. -/
inductive IdempotencyOp where
  | reserve (key : OutboxKey) (payloadHash : Fingerprint)
  | commit (token now : UInt64)
  /-- A commit whose write stops after `reached` bytes with an error. -/
  | commitFails (token now : UInt64) (reached : Nat)
  | abort (token : UInt64)
  | maintain (now retention : UInt64) (scan : Scan OutboxKey Fingerprint)
  /-- A commit whose write a crash stops after `reached` bytes; the file is opened
  again. -/
  | crash (token now : UInt64) (reached : Nat)
  | reopen

/-- The file a failed write leaves; the reservation stays. -/
def failedCommit (store : FileIdempotencyStore) (token now : UInt64) (reached : Nat) :
    FileIdempotencyStore :=
  { store with
    journal := store.journal ++ takeBytes reached (recordCodec.text (inFlight store token now)) }

/-- After a reopen that failed there is no store. -/
def idempotencyStep : Option FileIdempotencyStore → IdempotencyOp → Option FileIdempotencyStore
  | none, _ => none
  | some store, .reserve key payloadHash =>
      match store.reserve key payloadHash with
      | .ok (_, after) => some after
      | .error _ => some store
  | some store, .commit token now =>
      match store.commit token now with
      | .ok after => some after
      | .error _ => some store
  | some store, .commitFails token now reached => some (failedCommit store token now reached)
  | some store, .abort token => some (store.abort token)
  | some store, .maintain now retention scan => some (store.maintain now retention scan).2
  | some store, .crash token now reached => (openCrashed store token now reached).toOption
  | some store, .reopen =>
      (FileIdempotencyStore.open store.capacity store.journal).toOption

/-- Reservations are for keys admission lets through, a write that fails leaves no
byte behind, and one that a crash stops leaves its whole line or nothing. -/
def Careful : Option FileIdempotencyStore → IdempotencyOp → Prop
  | _, .reserve key _ => validKey key = true
  | _, .commitFails _ _ reached => reached = 0
  | some store, .crash token now reached =>
      ∃ landed, recordCodec.Stops reached (inFlight store token now) landed
  | _, _ => True

/-- No sweep drops the key. -/
def Retains (key : OutboxKey) : Option FileIdempotencyStore → IdempotencyOp → Prop
  | some store, .maintain now retention _ => key ∉ store.expired (sub64 now retention)
  | _, _ => True

/-- An operation leaves an open store of the same capacity with the keys it
retains. -/
structure Follows (store : FileIdempotencyStore) (op : IdempotencyOp)
    (after : FileIdempotencyStore) : Prop where
  stored : Stored after
  capacity : after.capacity = store.capacity
  keeps : ∀ key hash, Retains key (some store) op → store.committed.lookup key = some hash →
    after.committed.lookup key = some hash

section Steps

variable {store : FileIdempotencyStore}

theorem stored_empty (capacity : Nat) : Stored (empty capacity) where
  text := ⟨[], rfl, ⟨nodup_nil, forall_mem_nil _, forall_mem_nil _, Nat.zero_le _⟩, .refl _⟩
  size := Nat.zero_le _
  reserving := reserving_of_empty rfl
  room := Nat.zero_le _

theorem Stored.follows (stored : Stored store) (op : IdempotencyOp) : Follows store op store :=
  ⟨stored, rfl, fun _ _ _ present => present⟩

variable {key : OutboxKey} {token : UInt64} {after : FileIdempotencyStore}

/-- A key without a reservation is the key of none. -/
theorem pendingHash_eq_none (none_ : store.pendingHash key = none) {hash} :
    store.pending.lookup token ≠ some (key, hash) := by
  intro found
  rw [pendingHash, Option.map_eq_none_iff, List.find?_eq_none] at none_
  exact none_ _ (mem_lookup_iff.mp found) (by simp)

theorem Stored.reserve (stored : Stored store) (valid : validKey key = true) {payloadHash reply}
    (reserved : store.reserve key payloadHash = .ok reply) :
    Follows store (.reserve key payloadHash) reply.2 := by
  unfold FileIdempotencyStore.reserve at reserved
  cases committed : store.committed.lookup key with
  | some existing =>
    simp only [committed, Except.ok.injEq] at reserved
    rw [← reserved]
    exact stored.follows _
  | none =>
    cases pending : store.pendingHash key with
    | some existing =>
      simp only [committed, pending, Except.ok.injEq] at reserved
      rw [← reserved]
      exact stored.follows _
    | none =>
      simp only [committed, pending, bind_eq_ok, ensure_eq_ok, Bool.and_eq_true,
        decide_eq_true_eq, pure_eq_ok] at reserved
      obtain ⟨_, ⟨-, room⟩, _, tokens, rfl⟩ := reserved
      have unused : store.nextToken ∉ store.pending := by
        intro mem
        obtain ⟨value, found⟩ := Option.isSome_iff_exists.mp (mem_iff_isSome.mp mem)
        exact absurd (stored.reserving.tokens _ value found) (UInt64.lt_irrefl _)
      have above : store.nextToken < store.nextToken + 1 := by
        have := store.nextToken.toNat_lt
        rw [UInt64.lt_iff_toNat_lt, UInt64.toNat_add]
        simp only [UInt64.size] at tokens
        have one : (1 : UInt64).toNat = 1 := rfl
        omega
      refine ⟨⟨stored.text, stored.size, ⟨?_, ?_, ?_⟩, ?_⟩, rfl, fun _ _ _ present => present⟩
      · intro token other hash found
        rw [lookup_insert_eq] at found
        split_ifs at found
        · obtain ⟨rfl, rfl⟩ := Prod.mk.inj (Option.some.inj found)
          exact ⟨valid, AList.lookup_eq_none.mp committed⟩
        · exact stored.reserving.free token other hash found
      · intro token token' other hash hash' found found'
        rw [lookup_insert_eq] at found found'
        split_ifs at found with new <;> split_ifs at found' with new'
        · rw [new, new']
        · obtain ⟨rfl, -⟩ := Prod.mk.inj (Option.some.inj found)
          exact absurd found' (pendingHash_eq_none pending)
        · obtain ⟨rfl, -⟩ := Prod.mk.inj (Option.some.inj found')
          exact absurd found (pendingHash_eq_none pending)
        · exact stored.reserving.exclusive token token' other hash hash' found found'
      · intro token value found
        rw [lookup_insert_eq] at found
        split_ifs at found with new
        · rw [new]
          exact above
        · exact UInt64.lt_trans (stored.reserving.tokens token value found) above
      · change store.committed.keys.length +
          (AList.insert store.nextToken (key, payloadHash) store.pending).keys.length ≤ _
        rw [keys_insert_of_notMem unused, length_cons]
        change _ ≤ store.capacity
        omega

theorem Stored.abort (stored : Stored store) (token : UInt64) :
    Follows store (.abort token) (store.abort token) := by
  refine ⟨⟨stored.text, stored.size, stored.reserving.fewer ?_ rfl, ?_⟩, rfl,
    fun _ _ _ present => present⟩
  · intro other key hash found
    rw [FileIdempotencyStore.abort, lookup_erase_eq] at found
    split_ifs at found
    exact ⟨found, (stored.reserving.free other key hash found).2⟩
  · have room := stored.room
    change store.committed.keys.length + (AList.erase token store.pending).keys.length ≤
      store.capacity
    rw [length_keys_erase]
    split_ifs <;> omega

/-- What a successful commit writes and leaves. -/
theorem commit_eq_ok {now} :
    store.commit token now = .ok after ↔
      ∃ record, store.commitRecord token now = some record ∧ store.checkAppend record = .ok () ∧
        store.committedStore token record = after := by
  simp only [commit, bind_eq_ok, require_eq_ok, pure_eq_ok]
  constructor
  · rintro ⟨record, reserved, _, checked, done⟩
    exact ⟨record, reserved, checked, done⟩
  · rintro ⟨record, reserved, checked, done⟩
    exact ⟨record, reserved, (), checked, done⟩

theorem Stored.commit (stored : Stored store) {now} (committed : store.commit token now = .ok after)
    :
    Follows store (.commit token now) after := by
  obtain ⟨record, reserved, checked, rfl⟩ := commit_eq_ok.mp committed
  obtain ⟨records, text, shown, replayable, size⟩ := stored.replayable_commit reserved checked
  have found := commitRecord_pending reserved
  have fresh : record.key ∉ store.committed := (stored.reserving.free token _ _ found).2
  have present : token ∈ store.pending := mem_of_lookup found
  refine ⟨⟨⟨records ++ [record], ?_, replayable, shown.concat fresh⟩, ?_,
    stored.reserving.fewer ?_ rfl, ?_⟩, rfl, ?_⟩
  · change store.journal ++ _ = _
    rw [text]
    simp [LineCodec.text, unlines]
  · change byteLength (store.journal ++ _) ≤ _
    rw [byteLength_append]
    exact size
  · intro other key hash held
    simp only [committedStore, lookup_erase_eq] at held
    split_ifs at held with same
    refine ⟨held, fun mem => ?_⟩
    rcases (AList.mem_insert _).mp mem with rfl | old
    · exact same (stored.reserving.exclusive other token _ hash _ held found)
    · exact (stored.reserving.free other key hash held).2 old
  · have room := stored.room
    have positive := length_pos_of_mem (AList.mem_keys.mp present)
    change (AList.insert record.key record.payloadHash store.committed).keys.length +
      (AList.erase token store.pending).keys.length ≤ store.capacity
    rw [length_keys_insert, length_keys_erase, if_neg fresh, if_pos present]
    omega
  · intro key hash _ present
    have other : key ≠ record.key := by
      rintro rfl
      exact fresh (mem_of_lookup present)
    exact (AList.lookup_insert_ne other).trans present

theorem lookup_forget (keys : List OutboxKey) (key : OutboxKey) :
    (store.forget keys).committed.lookup key =
      if key ∈ keys then none else store.committed.lookup key := by
  rw [forget, lookup_retain]
  cases store.committed.lookup key <;> by_cases mem : key ∈ keys <;> simp [mem]

theorem Stored.maintain (stored : Stored store) (now retention : UInt64)
    (scan : Scan OutboxKey Fingerprint) :
    Follows store (.maintain now retention scan) (store.maintain now retention scan).2 := by
  simp only [FileIdempotencyStore.maintain]
  set keys := store.expired (sub64 now retention) with expired
  split_ifs
  · exact stored.follows _
  cases compacted : (store.forget keys).compactJournal scan with
  | error e => exact stored.follows _
  | ok after =>
    simp only [compactJournal, bind_eq_ok, ensure_eq_ok, all_eq_true, decide_eq_true_eq,
      pure_eq_ok] at compacted
    obtain ⟨_, fits, _, size, rfl⟩ := compacted
    obtain ⟨records, -, replayable, shown⟩ := stored.text
    have subset : ∀ key hash, (store.forget keys).committed.lookup key = some hash →
        store.committed.lookup key = some hash := by
      intro key hash found
      rw [lookup_forget] at found
      split_ifs at found
      exact found
    have members : ∀ key ∈ (store.forget keys).committed, key ∈ store.committed := by
      intro key mem
      obtain ⟨hash, found⟩ := Option.isSome_iff_exists.mp (mem_iff_isSome.mp mem)
      exact mem_of_lookup (subset key hash found)
    have fewer : (store.forget keys).committed.keys.length ≤ store.committed.keys.length :=
      (subperm_of_subset (AList.keys_nodup _) members).length_le
    have shown' : Shows ((store.forget keys).snapshotRecords scan)
        (store.forget keys).committed := by
      rw [Shows, snapshotRecords, map_map]
      exact (map_id _).symm ▸ scan.perm _
    have room := stored.room
    refine ⟨⟨⟨_, rfl, ⟨?_, ?_, fits, ?_⟩, shown'⟩, size, stored.reserving.fewer ?_ rfl, ?_⟩,
      rfl, ?_⟩
    · exact shown'.keys.nodup_iff.mpr (AList.keys_nodup _)
    · intro record mem
      have kept := members record.key (AList.mem_keys.mpr
        (shown'.keys.mem_iff.mp (mem_map_of_mem mem)))
      obtain ⟨old, present, named⟩ :=
        mem_map.mp (shown.keys.mem_iff.mpr (AList.mem_keys.mp kept))
      rw [← named]
      exact replayable.valid old present
    · rw [← shown'.length]
      change _ ≤ store.capacity
      omega
    · intro token key hash found
      exact ⟨found, fun mem => (stored.reserving.free token key hash found).2 (members key mem)⟩
    · change (store.forget keys).committed.keys.length + store.pending.keys.length ≤ store.capacity
      omega
    · intro key hash retained present
      change (store.forget keys).committed.lookup key = _
      rw [lookup_forget, if_neg retained]
      exact present

/-- A write that left no byte leaves the store as it was. -/
theorem failedCommit_zero (token now : UInt64) : failedCommit store token now 0 = store := by
  have nothing : takeBytes 0 (recordCodec.text (inFlight store token now)) = [] :=
    takeBytes_append [] _
  rw [failedCommit, nothing, append_nil]

/-- What a careful operation keeps. -/
theorem Stored.step (stored : Stored store) (valid : ValidCapacity store.capacity) {op}
    (careful : Careful (some store) op) :
    ∃ after, idempotencyStep (some store) op = some after ∧ Follows store op after := by
  cases op with
  | reserve key payloadHash =>
    simp only [idempotencyStep]
    cases reserved : store.reserve key payloadHash with
    | error e => exact ⟨store, rfl, stored.follows _⟩
    | ok reply => exact ⟨_, rfl, stored.reserve careful reserved⟩
  | commit token now =>
    simp only [idempotencyStep]
    cases committed : store.commit token now with
    | error e => exact ⟨store, rfl, stored.follows _⟩
    | ok after => exact ⟨_, rfl, stored.commit committed⟩
  | commitFails token now reached =>
    cases careful
    exact ⟨store, congrArg some (failedCommit_zero token now), stored.follows _⟩
  | abort token => exact ⟨_, rfl, stored.abort token⟩
  | maintain now retention scan => exact ⟨_, rfl, stored.maintain now retention scan⟩
  | crash token now reached =>
    obtain ⟨landed, stops⟩ := careful
    obtain ⟨reopened, opened, stored', keeps, capacity⟩ := stored.crashed valid stops
    exact ⟨reopened, by simp [idempotencyStep, opened, Except.toOption], stored', capacity,
      fun key hash _ => keeps key hash⟩
  | reopen =>
    obtain ⟨reopened, opened, stored', keeps, capacity⟩ := stored.open_journal valid
    exact ⟨reopened, by simp [idempotencyStep, opened, Except.toOption], stored', capacity,
      fun key hash _ => keeps key hash⟩

end Steps

/-- A commit of the run answered that it was done, and its key was not swept
since. -/
def Committed (start : FileIdempotencyStore) (ops : List IdempotencyOp) (key : OutboxKey)
    (hash : Fingerprint) : Prop :=
  ∃ before token now rest store after, ops = before ++ .commit token now :: rest ∧
    run idempotencyStep (some start) before = some store ∧ store.commit token now = .ok after ∧
    store.pending.lookup token = some (key, hash) ∧
    AllSteps idempotencyStep (Retains key) (some after) rest

/-- Every commit that answered and was not swept is there. -/
def HoldsCommits (start : FileIdempotencyStore) (ops : List IdempotencyOp)
    (store : FileIdempotencyStore) : Prop :=
  ∀ key hash, Committed start ops key hash → store.committed.lookup key = some hash

/-- There is an open store. -/
def InUse (world : Option FileIdempotencyStore) : Prop :=
  ∃ store, world = some store ∧ Stored store ∧ ValidCapacity store.capacity

theorem inUse_step (world : Option FileIdempotencyStore) (op : IdempotencyOp)
    (inUse : InUse world) (careful : Careful world op) : InUse (idempotencyStep world op) := by
  obtain ⟨store, rfl, stored, valid⟩ := inUse
  obtain ⟨after, is, stored', capacity, -⟩ := stored.step valid careful
  exact ⟨after, is, stored', capacity ▸ valid⟩

/-- A careful run has a store at its end, and its commits are there. -/
theorem holdsCommits_run {ops} (valid : ValidCapacity capacity)
    (careful : AllSteps idempotencyStep Careful (some (empty capacity)) ops) :
    ∃ store, run idempotencyStep (some (empty capacity)) ops = some store ∧
      HoldsCommits (empty capacity) ops store := by
  have start : InUse (some (empty capacity)) := ⟨_, rfl, stored_empty capacity, valid⟩
  obtain ⟨last, ends, -⟩ := run_of_allSteps inUse_step start careful
  refine ⟨last, ends, ?_⟩
  rintro key hash ⟨before, token, now, rest, store, after, rfl, reached, committed, reserved,
    retained⟩
  obtain ⟨carefulBefore, carefulCommit, carefulRest⟩ := (allSteps_append.mp careful).imp_right id
  have inUse := run_of_allSteps inUse_step start carefulBefore
  have taken : idempotencyStep (some store) (.commit token now) = some after := by
    simp only [idempotencyStep, committed]
  rw [reached] at inUse carefulRest
  rw [taken] at carefulRest
  have shown : after.committed.lookup key = some hash := by
    obtain ⟨record, made, -, rfl⟩ := commit_eq_ok.mp committed
    rw [commitRecord, reserved, Option.map_some, Option.some.injEq] at made
    change (AList.insert record.key record.payloadHash store.committed).lookup key = _
    rw [← made, lookup_insert_eq, if_pos rfl]
  -- The key survives each of the remaining operations.
  have keep : ∀ world op,
      (InUse world ∧ ∀ store, world = some store → store.committed.lookup key = some hash) →
      Careful world op ∧ Retains key world op →
      InUse (idempotencyStep world op) ∧ ∀ store, idempotencyStep world op = some store →
        store.committed.lookup key = some hash := by
    rintro _ op ⟨⟨store, rfl, stored, valid⟩, present⟩ ⟨careful, retained⟩
    obtain ⟨after, is, stored', capacity, keeps⟩ := stored.step valid careful
    refine ⟨⟨after, is, stored', capacity ▸ valid⟩, fun next isNext => ?_⟩
    obtain rfl := Option.some.inj (is.symm.trans isNext)
    exact keeps key hash retained (present store rfl)
  have here : InUse (some after) := taken ▸ inUse_step _ (.commit token now) inUse trivial
  rw [run_append, run_cons, reached, taken] at ends
  refine (run_of_allSteps keep ⟨here, ?_⟩ (carefulRest.and retained)).2 last ends
  rintro _ ⟨⟩
  exact shown

end Apex.Idempotency
