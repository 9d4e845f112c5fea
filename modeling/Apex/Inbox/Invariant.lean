import Apex.Inbox.File

/-!
The invariant of an open inbox.

`InboxState.WellFormed` and `Journaled` are its two halves: the delivery state
is consistent in itself, and the journal holds the live commands in their order
and the tombstones. Every operation keeps both (`Sound`), and says which
commands are live and retired after it: the same ones, one more, or those a
sweep leaves. The per-scope counters are no part of the invariant, as they are
not in the journal.
-/

namespace Apex.Inbox

open Checked Control Lines Saturating FileCommandInbox List KeyMap

/-! ### Well-formed states -/

/-- The live commands in the order they were recorded. -/
def InboxState.liveOrder (state : InboxState) : List InboxKey :=
  state.order.filter (· ∈ state.entries)

/-- What holds of the delivery state of an open inbox. -/
structure InboxState.WellFormed (state : InboxState) : Prop where
  orderNodup : state.order.Nodup
  orderComplete : ∀ key ∈ state.entries, key ∈ state.order
  ownKey : ∀ key entry, state.entries.lookup key = some entry →
    entry.command.key = key ∧ isRecordable entry.command = true
  disjoint : ∀ key ∈ state.entries, key ∉ state.retired
  withinCapacity : state.entries.keys.length + state.retired.keys.length ≤ state.capacity

/-- The same commands are live and retired, and the counters are the same. -/
structure InboxState.SameKeys (before after : InboxState) : Prop where
  entries : after.entries.keys = before.entries.keys
  retired : after.retired = before.retired
  scopeCounts : after.scopeCounts = before.scopeCounts
  capacity : after.capacity = before.capacity
  scopeQuota : after.scopeQuota = before.scopeQuota

namespace InboxState

variable {state before middle after : InboxState} {key : InboxKey}

theorem SameKeys.refl (state : InboxState) : SameKeys state state :=
  ⟨rfl, rfl, rfl, rfl, rfl⟩

theorem SameKeys.trans (first : SameKeys before middle) (second : SameKeys middle after) :
    SameKeys before after :=
  ⟨second.entries.trans first.entries, second.retired.trans first.retired,
    second.scopeCounts.trans first.scopeCounts, second.capacity.trans first.capacity,
    second.scopeQuota.trans first.scopeQuota⟩

theorem SameKeys.mem_entries (same : SameKeys before after) :
    key ∈ after.entries ↔ key ∈ before.entries := by
  rw [AList.mem_keys, same.entries, ← AList.mem_keys]

theorem wellFormed_new (capacity scopeQuota : Nat) : (new capacity scopeQuota).WellFormed where
  orderNodup := nodup_nil
  orderComplete := by simp [new]
  ownKey := by simp [new]
  disjoint := by simp [new]
  withinCapacity := Nat.zero_le _

theorem updateEntry_sameKeys (state : InboxState) (key : InboxKey) (f : Entry → Entry) :
    SameKeys state (state.updateEntry key f) :=
  ⟨keys_modify _ _ _, rfl, rfl, rfl, rfl⟩

theorem ownKey_updateEntry (own : ∀ key entry, state.entries.lookup key = some entry →
      entry.command.key = key ∧ isRecordable entry.command = true) (key : InboxKey) {f}
    (command : ∀ entry, (f entry).command = entry.command) :
    ∀ other entry, (state.updateEntry key f).entries.lookup other = some entry →
      entry.command.key = other ∧ isRecordable entry.command = true := by
  refine KeyMap.Each.modify own fun entry found => ?_
  rw [command]
  exact own key entry found

/-- Changing delivery data in place keeps a state well formed. -/
theorem WellFormed.updateEntry (wf : state.WellFormed) (key : InboxKey) {f}
    (command : ∀ entry, (f entry).command = entry.command) :
    (state.updateEntry key f).WellFormed where
  orderNodup := wf.orderNodup
  orderComplete := fun other mem => wf.orderComplete other (mem_modify.mp mem)
  ownKey := ownKey_updateEntry wf.ownKey key command
  disjoint := fun other mem => wf.disjoint other (mem_modify.mp mem)
  withinCapacity := by
    rw [(updateEntry_sameKeys state key f).entries]
    exact wf.withinCapacity

theorem liveOrder_updateEntry (state : InboxState) (key : InboxKey) (f : Entry → Entry) :
    (state.updateEntry key f).liveOrder = state.liveOrder := by
  refine filter_congr fun other _ => ?_
  rw [decide_eq_decide]
  exact (updateEntry_sameKeys state key f).mem_entries

variable {command : PendingCommand}

/-- An admitted command is new, and there is room for it. -/
theorem checkRecordable_eq_none (admitted : state.checkRecordable command = .ok none) :
    command.key ∉ state.entries ∧ command.key ∉ state.retired ∧
      state.entries.keys.length + state.retired.keys.length < state.capacity ∧
      state.scopeCount command.scope < state.scopeQuota := by
  unfold checkRecordable at admitted
  split_ifs at admitted with known full spent
  · simp at admitted
  · rw [not_or] at known
    exact ⟨known.1, known.2, Nat.lt_of_not_le full, Nat.lt_of_not_le spent⟩

/-- A recorded command comes last among the live ones. -/
theorem liveOrder_insertRecorded (fresh : command.key ∉ state.entries) :
    (state.insertRecorded command).liveOrder = state.liveOrder ++ [command.key] := by
  have old : ∀ key ∈ state.order.filter (· ≠ command.key),
      decide (key ∈ AList.insert command.key (freshEntry command state.nextSequence)
        state.entries) = decide (key ∈ state.entries) := by
    intro key mem
    have differs : key ≠ command.key := by simpa using (mem_filter.mp mem).2
    simp [differs]
  have kept : (state.order.filter (· ≠ command.key)).filter (· ∈ state.entries) =
      state.order.filter (· ∈ state.entries) := by
    rw [filter_filter]
    refine filter_congr fun key _ => ?_
    by_cases same : key = command.key
    · simp [same, fresh]
    · simp [same]
  rw [liveOrder, insertRecorded, filter_append, filter_congr old, kept, liveOrder]
  simp

theorem WellFormed.insertRecorded (wf : state.WellFormed) (recordable : isRecordable command = true)
    (admitted : state.checkRecordable command = .ok none) :
    (state.insertRecorded command).WellFormed := by
  obtain ⟨fresh, notRetired, room, -⟩ := checkRecordable_eq_none admitted
  refine ⟨?_, ?_, ?_, ?_, ?_⟩
  · refine nodup_append.mpr ⟨wf.orderNodup.filter _, nodup_singleton _, ?_⟩
    intro key mem other last
    obtain rfl := mem_singleton.mp last
    simpa using (mem_filter.mp mem).2
  · intro key mem
    rw [InboxState.insertRecorded, mem_append, mem_filter, mem_singleton]
    rcases (AList.mem_insert _).mp mem with rfl | mem
    · exact .inr rfl
    · by_cases same : key = command.key
      · exact .inr same
      · exact .inl ⟨wf.orderComplete key mem, by simp [same]⟩
  · exact KeyMap.Each.insert wf.ownKey ⟨rfl, recordable⟩
  · intro key mem
    rcases (AList.mem_insert _).mp mem with rfl | mem
    · exact notRetired
    · exact wf.disjoint key mem
  · change (AList.insert _ _ state.entries).keys.length + state.retired.keys.length ≤ _
    rw [keys_insert_of_notMem fresh, length_cons]
    change _ ≤ state.capacity
    omega

/-- Retiring a live command turns it into a tombstone. -/
theorem WellFormed.retire (wf : state.WellFormed) (live : key ∈ state.entries) (at_ : UInt64) :
    (state.retire key at_).WellFormed := by
  refine ⟨wf.orderNodup, ?_, ?_, ?_, ?_⟩
  · intro other mem
    exact wf.orderComplete other (AList.mem_erase.mp mem).2
  · exact KeyMap.Each.erase wf.ownKey key
  · intro other mem
    obtain ⟨differs, mem⟩ := AList.mem_erase.mp mem
    rw [InboxState.retire, AList.mem_insert, not_or]
    exact ⟨differs, wf.disjoint other mem⟩
  · have fresh := wf.disjoint key live
    have positive : 0 < state.entries.keys.length :=
      length_pos_of_mem (AList.mem_keys.mp live)
    have within := wf.withinCapacity
    change (AList.erase key state.entries).keys.length +
      (AList.insert key at_ state.retired).keys.length ≤ state.capacity
    rw [AList.keys_erase, length_erase_of_mem (AList.mem_keys.mp live),
      keys_insert_of_notMem fresh, length_cons]
    omega

/-- Dropping tombstones keeps a state well formed. -/
theorem WellFormed.removeExpiredRetired (wf : state.WellFormed) (cutoff : UInt64) :
    (state.removeExpiredRetired cutoff).2.WellFormed := by
  refine ⟨wf.orderNodup, wf.orderComplete, wf.ownKey, ?_, ?_⟩
  · intro other mem retained
    obtain ⟨value, found, -⟩ := mem_retain.mp retained
    exact wf.disjoint other mem (mem_of_lookup found)
  · have fewer : ((state.retired.retain fun _ at_ => !(at_ ≤ cutoff)).keys).length ≤
        state.retired.keys.length := by
      simpa [AList.keys, KeyMap.retain, List.keys] using
        length_filter_le (fun entry => !decide (entry.2 ≤ cutoff)) state.retired.entries
    exact le_trans (Nat.add_le_add_left fewer _) wf.withinCapacity

end InboxState

/-! ### Sweeps -/

variable {state : InboxState} {inbox : FileCommandInbox}

/-- What retiring one live command keeps, retiring a list of them keeps. -/
theorem retireAll_induction {P : InboxState → Prop}
    (keep : ∀ state key at_, P state → key ∈ state.entries → P (state.retire key at_))
    (retirements : List (InboxKey × UInt64)) (holds : P state)
    (nodup : (retirements.map Prod.fst).Nodup)
    (live : ∀ key ∈ retirements.map Prod.fst, key ∈ state.entries) :
    P (retireAll state retirements) := by
  induction retirements generalizing state with
  | nil => exact holds
  | cons retirement rest ih =>
    obtain ⟨key, at_⟩ := retirement
    obtain ⟨notLater, nodupRest⟩ := nodup_cons.mp nodup
    refine ih (keep state key at_ holds (live key mem_cons_self)) nodupRest ?_
    intro other mem
    refine AList.mem_erase.mpr ⟨?_, live other (mem_cons_of_mem _ mem)⟩
    rintro rfl
    exact notLater mem

theorem settled_sublist (state : InboxState) (now cutoff : UInt64) (maxAttempts : UInt32) :
    ((settled state now cutoff maxAttempts).map Prod.fst).Sublist state.entries.keys := by
  change ((state.entries.toPairs.filterMap _).map Prod.fst).Sublist
    (state.entries.entries.map Sigma.fst)
  unfold KeyMap.toPairs
  induction state.entries.entries with
  | nil => exact .slnil
  | cons entry rest ih =>
    simp only [map_cons, filterMap_cons]
    cases settledAt now cutoff maxAttempts entry.2 with
    | none => exact ih.cons _
    | some at_ => exact ih.cons_cons _

/-- What retiring a live command keeps, the retirements of a sweep keep. -/
theorem retireSettled_induction {P : InboxState → Prop}
    (keep : ∀ state key at_, P state → key ∈ state.entries → P (state.retire key at_))
    (holds : P state) (now cutoff : UInt64) (maxAttempts : UInt32) :
    P (retireAll state (settled state now cutoff maxAttempts)) := by
  have sublist := settled_sublist state now cutoff maxAttempts
  refine retireAll_induction keep _ holds (state.entries.keys_nodup.sublist sublist) ?_
  exact fun key mem => AList.mem_keys.mpr (sublist.subset mem)

/-- The state a sweep leaves, before the journal is rewritten. -/
def swept (state : InboxState) (now cutoff : UInt64) (maxAttempts : UInt32) : InboxState :=
  ((retireAll state (settled state now cutoff maxAttempts)).removeExpiredRetired cutoff).2

theorem InboxState.WellFormed.swept (wf : state.WellFormed) (now cutoff : UInt64)
    (maxAttempts : UInt32) : (swept state now cutoff maxAttempts).WellFormed :=
  (retireSettled_induction (fun _ _ at_ wf live => wf.retire live at_) wf now cutoff
    maxAttempts).removeExpiredRetired cutoff

/-! ### What the journal holds -/

/-- The keys of the command records. -/
def commandKeys (records : List InboxRecord) : List InboxKey :=
  records.filterMap fun
    | .command stored => some stored.key
    | _ => none

/-- The keys of the tombstone records. -/
def retiredKeys (records : List InboxRecord) : List InboxKey :=
  records.filterMap fun
    | .retired key _ => some key
    | _ => none

@[simp] theorem commandKeys_append (first second : List InboxRecord) :
    commandKeys (first ++ second) = commandKeys first ++ commandKeys second :=
  filterMap_append

@[simp] theorem retiredKeys_append (first second : List InboxRecord) :
    retiredKeys (first ++ second) = retiredKeys first ++ retiredKeys second :=
  filterMap_append

/-- A record that fits a line of the journal. -/
def FitsLine (record : InboxRecord) : Prop :=
  byteLength (record.encode ++ ['\n']) ≤ maxInboxRecordBytes

/-- Journal records from which a state's commands and tombstones are read
back. -/
structure Represents (records : List InboxRecord) (state : InboxState) : Prop where
  fits : ∀ record ∈ records, FitsLine record
  recordable : ∀ stored, .command stored ∈ records → isRecordable stored = true
  commands : commandKeys records = state.liveOrder
  tombstones : (retiredKeys records).Perm state.retired.keys

/-- The journal of an inbox represents its state and is within its limits. -/
def Journaled (inbox : FileCommandInbox) : Prop :=
  byteLength inbox.journal ≤ maxInboxFileBytes ∧
    ∃ records, inbox.journal = unlines (records.map InboxRecord.encode) ∧
      Represents records inbox.state

/-- What holds of an open inbox. -/
structure Sound (inbox : FileCommandInbox) : Prop where
  wellFormed : inbox.state.WellFormed
  journaled : Journaled inbox

variable {records : List InboxRecord} {appended : FileCommandInbox} {after : InboxState}

theorem encodeRecords_eq_ok {encoded} :
    encodeRecords records = .ok encoded ↔
      (∀ record ∈ records, FitsLine record) ∧ byteLength encoded ≤ maxInboxFileBytes ∧
        encoded = unlines (records.map InboxRecord.encode) := by
  simp only [encodeRecords, bind_eq_ok, forM_eq_ok, ensure_eq_ok, pure_eq_ok, decide_eq_true_eq]
  constructor
  · rintro ⟨_, fits, _, size, rfl⟩
    exact ⟨fits, size, rfl⟩
  · rintro ⟨fits, size, rfl⟩
    exact ⟨(), fits, (), size, rfl⟩

theorem appendBatch_eq_ok (ok : inbox.appendBatch records = .ok appended) :
    appended = { inbox with journal := inbox.journal ++ unlines (records.map InboxRecord.encode) } ∧
      (∀ record ∈ records, FitsLine record) ∧
      (byteLength inbox.journal ≤ maxInboxFileBytes →
        byteLength appended.journal ≤ maxInboxFileBytes) := by
  unfold appendBatch at ok
  by_cases empty : records.isEmpty
  · obtain rfl := isEmpty_iff.mp empty
    obtain rfl : inbox = appended := by simpa [pure_eq_ok] using ok
    simp
  · rw [if_neg empty] at ok
    simp only [bind_eq_ok, encodeRecords_eq_ok, ensure_eq_ok, pure_eq_ok, decide_eq_true_eq] at ok
    obtain ⟨_, ⟨fits, -, rfl⟩, _, size, rfl⟩ := ok
    exact ⟨rfl, fits, fun _ => by simpa using size⟩

/-- Appending keeps the journal in step with the state, where the records say
which commands the state gained. -/
theorem Journaled.append (journaled : Journaled inbox)
    (ok : inbox.appendBatch records = .ok appended)
    (recordable : ∀ stored, .command stored ∈ records → isRecordable stored = true)
    (commands : after.liveOrder = inbox.state.liveOrder ++ commandKeys records)
    (tombstones : retiredKeys records = []) (retired : after.retired = inbox.state.retired) :
    Journaled { appended with state := after } := by
  obtain ⟨size, old, text, represents⟩ := journaled
  obtain ⟨is, fits, grown⟩ := appendBatch_eq_ok ok
  refine ⟨grown size, old ++ records, ?_, ?_, ?_, ?_, ?_⟩
  · rw [is, text, map_append, unlines_append]
  · intro record mem
    rcases mem_append.mp mem with mem | mem
    · exact represents.fits record mem
    · exact fits record mem
  · intro stored mem
    rcases mem_append.mp mem with mem | mem
    · exact represents.recordable stored mem
    · exact recordable stored mem
  · rw [commandKeys_append, represents.commands, commands]
  · rw [retiredKeys_append, tombstones, append_nil, retired]
    exact represents.tombstones

/-! ### Compaction -/

theorem commandKeys_entryRecords (key : InboxKey) (entry : Entry) :
    commandKeys (entryRecords key entry) = [entry.command.key] := by
  unfold entryRecords
  split_ifs <;> rfl

theorem retiredKeys_entryRecords (key : InboxKey) (entry : Entry) :
    retiredKeys (entryRecords key entry) = [] := by
  unfold entryRecords
  split_ifs <;> rfl

theorem command_mem_entryRecords {key entry stored}
    (mem : InboxRecord.command stored ∈ entryRecords key entry) : stored = entry.command := by
  unfold entryRecords at mem
  split_ifs at mem <;> simpa using mem

/-- A snapshot holds the live commands in their order. -/
theorem commandKeys_snapshot (wf : state.WellFormed) (scan : Scan InboxKey UInt64) :
    commandKeys (snapshotRecords state scan) = state.liveOrder := by
  have tombstones (pairs : List (InboxKey × UInt64)) :
      commandKeys (pairs.map fun pair => .retired pair.1 pair.2) = [] := by
    rw [commandKeys, filterMap_map]
    exact filterMap_eq_nil_iff.mpr fun _ _ => rfl
  rw [snapshotRecords, commandKeys_append]
  change _ ++ commandKeys ((scan.order _).map fun pair => .retired pair.1 pair.2) = _
  rw [tombstones, append_nil, InboxState.liveOrder]
  induction state.order with
  | nil => rfl
  | cons key rest ih =>
    rw [flatMap_cons, commandKeys_append, ih, filter_cons]
    cases found : state.entries.lookup key with
    | none =>
      have absent : key ∉ state.entries := AList.lookup_eq_none.mp found
      simp [absent, commandKeys]
    | some entry =>
      have present := mem_of_lookup found
      simp [present, commandKeys_entryRecords, (wf.ownKey key entry found).1]

/-- A snapshot holds the tombstones, in the order they were scanned. -/
theorem retiredKeys_snapshot (state : InboxState) (scan : Scan InboxKey UInt64) :
    (retiredKeys (snapshotRecords state scan)).Perm state.retired.keys := by
  have live : retiredKeys (state.order.flatMap fun key =>
      (state.entries.lookup key).elim [] (entryRecords key)) = [] := by
    induction state.order with
    | nil => rfl
    | cons key rest ih =>
      rw [flatMap_cons, retiredKeys_append, ih]
      cases state.entries.lookup key with
      | none => rfl
      | some entry => simp [retiredKeys_entryRecords]
  have scanned (pairs : List (InboxKey × UInt64)) :
      retiredKeys (pairs.map fun pair => .retired pair.1 pair.2) = pairs.map Prod.fst := by
    rw [retiredKeys, filterMap_map, ← filterMap_eq_map]
    rfl
  rw [snapshotRecords, retiredKeys_append, live, nil_append]
  change (retiredKeys ((scan.order _).map fun pair => .retired pair.1 pair.2)).Perm _
  rw [scanned]
  exact scan.keys_order_perm state.retired

theorem recordable_snapshot (wf : state.WellFormed) (scan : Scan InboxKey UInt64) {stored}
    (mem : InboxRecord.command stored ∈ snapshotRecords state scan) :
    isRecordable stored = true := by
  rcases mem_append.mp mem with live | tombstone
  · obtain ⟨key, -, mem⟩ := mem_flatMap.mp live
    cases found : state.entries.lookup key with
    | none => simp [found] at mem
    | some entry =>
      rw [found] at mem
      rw [command_mem_entryRecords mem]
      exact (wf.ownKey key entry found).2
  · obtain ⟨pair, -, impossible⟩ := mem_map.mp tombstone
    cases impossible

/-- A rewritten journal represents the state it was taken from. -/
theorem compact_sound {compacted scan} (wf : inbox.state.WellFormed)
    (ok : inbox.compact scan = .ok compacted) :
    Sound compacted ∧ InboxState.SameKeys inbox.state compacted.state := by
  simp only [compact, bind_eq_ok, encodeRecords_eq_ok, pure_eq_ok] at ok
  obtain ⟨encoded, ⟨fits, size, text⟩, rfl⟩ := ok
  have live : ({ inbox.state with
      order := inbox.state.order.filter (· ∈ inbox.state.entries) } : InboxState).liveOrder =
        inbox.state.liveOrder := by
    simp [InboxState.liveOrder]
  refine ⟨⟨?_, size, _, text, ?_⟩, ⟨rfl, rfl, rfl, rfl, rfl⟩⟩
  · refine ⟨wf.orderNodup.filter _, fun key mem => ?_, wf.ownKey, wf.disjoint, wf.withinCapacity⟩
    exact mem_filter.mpr ⟨wf.orderComplete key mem, by simpa using mem⟩
  · refine ⟨fits, fun stored mem => recordable_snapshot wf scan mem, ?_, ?_⟩
    · rw [commandKeys_snapshot wf, live]
    · exact retiredKeys_snapshot inbox.state scan

/-! ### The operations -/

/-- The live commands, in their order, and the tombstones are those of before;
only delivery data changed. -/
structure InboxState.DataOnly (before after : InboxState) : Prop extends
    SameKeys before after where
  wellFormed : before.WellFormed → after.WellFormed
  liveOrder : after.liveOrder = before.liveOrder

namespace InboxState

theorem DataOnly.refl (state : InboxState) : DataOnly state state :=
  ⟨.refl state, id, rfl⟩

theorem DataOnly.trans {before middle after} (first : DataOnly before middle)
    (second : DataOnly middle after) : DataOnly before after :=
  ⟨first.toSameKeys.trans second.toSameKeys, fun wf => second.wellFormed (first.wellFormed wf),
    second.liveOrder.trans first.liveOrder⟩

theorem dataOnly_updateEntry (state : InboxState) (key : InboxKey) {f}
    (command : ∀ entry, (f entry).command = entry.command) :
    DataOnly state (state.updateEntry key f) :=
  ⟨updateEntry_sameKeys state key f, fun wf => wf.updateEntry key command,
    liveOrder_updateEntry state key f⟩

theorem dataOnly_markDelivered (state : InboxState) (key : InboxKey) (now : UInt64) :
    DataOnly state (state.markDelivered key now).2 := by
  unfold markDelivered
  split
  · exact .refl state
  · exact dataOnly_updateEntry state key fun _ => rfl

theorem dataOnly_markAll (now : UInt64) (keys : List InboxKey) (state : InboxState) :
    DataOnly state (markAll now keys state).2 := by
  induction keys generalizing state with
  | nil => exact .refl state
  | cons key rest ih => exact (dataOnly_markDelivered state key now).trans (ih _)

end InboxState

/-- Records that note delivery data leave the commands and tombstones of a
journal alone. -/
theorem Sound.note (sound : Sound inbox) (change : InboxState.DataOnly inbox.state after)
    (ok : inbox.appendBatch records = .ok appended)
    (notes : commandKeys records = [] ∧ retiredKeys records = []) :
    Sound { appended with state := after } := by
  refine ⟨change.wellFormed sound.wellFormed, ?_⟩
  refine sound.journaled.append ok ?_ ?_ notes.2 change.retired
  · intro stored mem
    have key : stored.key ∈ commandKeys records := mem_filterMap.mpr ⟨_, mem, rfl⟩
    rw [notes.1] at key
    cases key
  · rw [notes.1, append_nil, change.liveOrder]

/-- An inbox whose delivery data alone changed, with nothing appended. -/
theorem Sound.dataOnly (sound : Sound inbox) (change : InboxState.DataOnly inbox.state after) :
    Sound { inbox with state := after } := by
  have nothing : inbox.appendBatch [] = .ok inbox := rfl
  exact sound.note change nothing ⟨rfl, rfl⟩

end Apex.Inbox
