import Apex.Inbox.Quota

/-!
All that the journal tells of a command.

`Detail` is a command's entry but for its place in the listing, or the time its
tombstone was made. A record acts on it by `Detail.note`, and the loader acts as
the record says (`detail_replay`). Of a snapshot only one group of records is about
a key (`ownRecords_snapshot`), and of a poll at most one record
(`ownRecords_claimRecords`).
-/

namespace Apex.Inbox

open Checked Control FileCommandInbox Lines Saturating InboxState List AList KeyMap

/-! ### The commands of a poll -/

/-- The command as a poll hands it out. -/
def Entry.handedOut (entry : Entry) : PendingCommand :=
  { entry.command with deliveryAttempt := next32 entry.attempts }

section Poll

variable {state : InboxState} {key other : InboxKey}

theorem lookup_markDelivered (now : UInt64) :
    (state.markDelivered key now).2.entries.lookup other =
      if other = key then (state.entries.lookup other).map (deliveredEntry now)
      else state.entries.lookup other := by
  unfold markDelivered
  cases found : state.entries.lookup key with
  | none =>
    dsimp only
    split_ifs with same
    · rw [same, found]
      rfl
    · rfl
  | some entry =>
    dsimp only [updateEntry]
    rw [lookup_modify]
    split_ifs with same
    · rw [same]
    · rfl

/-- A poll marks its commands, each once. -/
theorem lookup_markAll (now : UInt64) {keys : List InboxKey} (nodup : keys.Nodup) :
    (markAll now keys state).2.entries.lookup other =
      if other ∈ keys then (state.entries.lookup other).map (deliveredEntry now)
      else state.entries.lookup other := by
  induction keys generalizing state with
  | nil => rfl
  | cons key rest ih =>
    obtain ⟨notLater, nodupRest⟩ := nodup_cons.mp nodup
    change (markAll now rest (state.markDelivered key now).2).2.entries.lookup other = _
    rw [ih nodupRest, lookup_markDelivered]
    by_cases same : other = key
    · subst same
      rw [if_neg notLater, if_pos rfl, if_pos mem_cons_self]
    · simp only [same, if_false, mem_cons, false_or]

theorem commands_markAll (now : UInt64) {keys : List InboxKey} (nodup : keys.Nodup) :
    (markAll now keys state).1 =
      keys.filterMap fun key => (state.entries.lookup key).map Entry.handedOut := by
  induction keys generalizing state with
  | nil => rfl
  | cons key rest ih =>
    obtain ⟨notLater, nodupRest⟩ := nodup_cons.mp nodup
    have command : (state.markDelivered key now).1 =
        (state.entries.lookup key).map Entry.handedOut := by
      unfold markDelivered
      cases state.entries.lookup key <;> rfl
    have later : (markAll now rest (state.markDelivered key now).2).1 =
        rest.filterMap fun key => (state.entries.lookup key).map Entry.handedOut := by
      rw [ih nodupRest]
      refine filterMap_congr fun other mem => ?_
      rw [lookup_markDelivered, if_neg]
      rintro rfl
      exact notLater mem
    change (state.markDelivered key now).1.toList ++
      (markAll now rest (state.markDelivered key now).2).1 = _
    rw [command, later, filterMap_cons]
    cases state.entries.lookup key <;> rfl

end Poll

/-! ### Details -/

/-- An entry without its place in the listing, which a poll does not read. -/
def Entry.unnumbered (entry : Entry) : Entry :=
  { entry with sequence := 0 }

inductive Detail where
  | unknown
  | live (entry : Entry)
  | retired (at_ : UInt64)
  deriving DecidableEq, Repr

/-- What a state holds under a key. -/
def InboxState.detail (state : InboxState) (key : InboxKey) : Detail :=
  match state.entries.lookup key with
  | some entry => .live entry.unnumbered
  | none => (state.retired.lookup key).elim .unknown .retired

/-- A delivery as the loader applies it to an entry. -/
def replayedDelivery (attempt : UInt32) (atMillis : UInt64) (entry : Entry) : Entry :=
  { entry with
    attempts := max entry.attempts attempt
    lastDeliveredMillis :=
      some (entry.lastDeliveredMillis.elim atMillis fun previous => max previous atMillis) }

namespace Detail

/-- What a record of its own says about a command. -/
def note : Detail → InboxRecord → Detail
  | .unknown, .command stored => .live (freshEntry stored 0)
  | .live entry, .delivered _ attempt atMillis => .live (replayedDelivery attempt atMillis entry)
  | .live entry, .acknowledged _ _ => .live { entry with acknowledged := true }
  | .live entry, .cancelled _ atMillis => .live (cancelledEntry atMillis entry)
  | _, .retired _ at_ => .retired at_
  | detail, _ => detail

/-- The records about a key. -/
def ownRecords (key : InboxKey) (records : List InboxRecord) : List InboxRecord :=
  records.filter fun record => record.key = key

/-- What records say about a key, all in all. -/
def after (key : InboxKey) (detail : Detail) (records : List InboxRecord) : Detail :=
  (ownRecords key records).foldl note detail

variable {key : InboxKey} {detail : Detail} {records : List InboxRecord}

theorem after_append (key : InboxKey) (detail : Detail) (first second : List InboxRecord) :
    after key detail (first ++ second) = after key (after key detail first) second := by
  rw [after, ownRecords, filter_append, foldl_append]
  rfl

theorem after_own (record : InboxRecord) (own : record.key = key) (detail : Detail) :
    after key detail [record] = detail.note record := by
  rw [after, ownRecords, filter_cons_of_pos (by simpa using own)]
  rfl

theorem after_other (record : InboxRecord) (other : record.key ≠ key) (detail : Detail) :
    after key detail [record] = detail := by
  rw [after, ownRecords, filter_cons_of_neg (by simpa using other)]
  rfl

end Detail

open Detail

/-! ### The loader -/

namespace InboxState

variable {state : InboxState} {key : InboxKey}

theorem detail_of_lookup {entry} (found : state.entries.lookup key = some entry) :
    state.detail key = .live entry.unnumbered := by
  simp only [detail, found]

theorem detail_of_notMem (absent : state.entries.lookup key = none) :
    state.detail key = (state.retired.lookup key).elim .unknown .retired := by
  simp only [detail, absent]

/-- An entry changed as a record of its command says. -/
theorem detail_updateEntry {f} (record : InboxRecord) (own : record.key = key)
    (notes : ∀ entry, state.entries.lookup key = some entry →
      Detail.note (.live entry.unnumbered) record = .live (f entry).unnumbered)
    (inert : Detail.note .unknown record = .unknown ∧
      ∀ at_, Detail.note (.retired at_) record = .retired at_) (other : InboxKey) :
    (state.updateEntry key f).detail other = Detail.after other (state.detail other) [record] := by
  by_cases same : other = key
  · subst same
    rw [after_own _ own]
    cases found : state.entries.lookup other with
    | some entry =>
      rw [detail_of_lookup found, notes entry found]
      refine detail_of_lookup ?_
      rw [updateEntry, lookup_modify, if_pos rfl, found]
      rfl
    | none =>
      have still : (state.updateEntry other f).entries.lookup other = none := by
        rw [updateEntry, lookup_modify, if_pos rfl, found]
        rfl
      rw [detail_of_notMem found, detail_of_notMem still]
      change (state.retired.lookup other).elim unknown .retired = _
      cases state.retired.lookup other with
      | none => exact inert.1.symm
      | some at_ => exact (inert.2 at_).symm
  · rw [after_other record (by rw [own]; exact Ne.symm same)]
    simp only [detail, updateEntry, lookup_modify, if_neg same]

theorem detail_insertRecorded {command : PendingCommand} (notLive : command.key ∉ state.entries)
    (notRetired : command.key ∉ state.retired) (other : InboxKey) :
    (state.insertRecorded command).detail other =
      Detail.after other (state.detail other) [.command command] := by
  by_cases same : other = command.key
  · subst same
    have unknown : state.detail command.key = .unknown := by
      rw [detail_of_notMem (lookup_eq_none.mpr notLive),
        lookup_eq_none.mpr notRetired]
      rfl
    have own : InboxRecord.key (.command command) = command.key := rfl
    rw [after_own _ own, unknown]
    have stored : (state.insertRecorded command).entries.lookup command.key =
        some (freshEntry command state.nextSequence) := by
      rw [insertRecorded, lookup_insert_eq, if_pos rfl]
    exact detail_of_lookup stored
  · rw [after_other (.command command) (Ne.symm same)]
    simp only [detail, insertRecorded, lookup_insert_eq, if_neg same]

theorem detail_retire (at_ : UInt64) (other : InboxKey) :
    (state.retire key at_).detail other =
      Detail.after other (state.detail other) [.retired key at_] := by
  by_cases same : other = key
  · subst same
    have own : InboxRecord.key (.retired other at_) = other := rfl
    have said (detail : Detail) : detail.note (.retired other at_) = .retired at_ := by
      cases detail <;> rfl
    rw [after_own _ own, said]
    simp only [detail, retire, lookup_erase_eq, lookup_insert_eq, if_true, Option.elim_some]
  · rw [after_other (.retired key at_) (Ne.symm same)]
    simp only [detail, retire, lookup_erase_eq, lookup_insert_eq, if_neg same]

/-- The loader acts as the record says. -/
theorem detail_applyRecord {record after} (applied : state.applyRecord record = .ok after)
    (other : InboxKey) :
    after.detail other = Detail.after other (state.detail other) [record] := by
  cases record with
  | command stored =>
    simp only [applyRecord, InboxState.record, bind_eq_ok, ensure_eq_ok, pure_eq_ok] at applied
    obtain ⟨_, -, ⟨result, next⟩, ⟨known, checked, continued⟩, rfl⟩ := applied
    cases known with
    | none =>
      obtain ⟨rfl, rfl⟩ := Prod.mk.inj (pure_eq_ok.mp continued)
      obtain ⟨notLive, notRetired, -⟩ := checkRecordable_eq_none checked
      exact detail_insertRecorded notLive notRetired other
    | some known =>
      -- Already known: live or retired, so the record says nothing.
      obtain ⟨rfl, rfl⟩ := Prod.mk.inj (pure_eq_ok.mp continued)
      by_cases same : other = stored.key
      · subst same
        have own : InboxRecord.key (.command stored) = stored.key := rfl
        rw [after_own _ own]
        cases found : state.entries.lookup stored.key with
        | some entry =>
          rw [detail_of_lookup found]
          rfl
        | none =>
          rw [detail_of_notMem found]
          cases gone : state.retired.lookup stored.key with
          | some at_ => rfl
          | none =>
            exfalso
            have notLive := lookup_eq_none.mp found
            have notRetired := lookup_eq_none.mp gone
            rw [checkRecordable, if_neg (not_or.mpr ⟨notLive, notRetired⟩)] at checked
            split_ifs at checked
            cases checked
      · rw [after_other (.command stored) (Ne.symm same)]
  | delivered key attempt atMillis =>
    obtain rfl := pure_eq_ok.mp applied
    exact detail_updateEntry (.delivered key attempt atMillis) rfl (fun _ _ => rfl)
      ⟨rfl, fun _ => rfl⟩ other
  | acknowledged key atMillis =>
    obtain rfl := pure_eq_ok.mp applied
    exact detail_updateEntry (.acknowledged key atMillis) rfl (fun _ _ => rfl)
      ⟨rfl, fun _ => rfl⟩ other
  | retired key retiredAtMillis =>
    obtain rfl := pure_eq_ok.mp applied
    exact detail_retire retiredAtMillis other
  | cancelled key atMillis =>
    obtain rfl := pure_eq_ok.mp applied
    exact detail_updateEntry (.cancelled key atMillis) rfl (fun _ _ => rfl)
      ⟨rfl, fun _ => rfl⟩ other

end InboxState

/-- A replay holds of every command what its records say. -/
theorem detail_replay {capacity scopeQuota records state}
    (replayed : replay capacity scopeQuota records = .ok state) (key : InboxKey) :
    state.detail key = Detail.after key .unknown records := by
  induction records using List.reverseRecOn generalizing state with
  | nil =>
    obtain rfl := Except.ok.inj replayed
    simp [InboxState.detail, InboxState.new, Detail.after, Detail.ownRecords]
  | append_singleton records record ih =>
    rw [replay_append] at replayed
    obtain ⟨middle, first, last⟩ := bind_eq_ok.mp replayed
    rw [InboxState.detail_applyRecord last, ih first, Detail.after_append]

/-! ### Snapshots -/

section Snapshots

variable {state : InboxState} {key : InboxKey}

theorem key_entryRecords {entry : Entry} (own : entry.command.key = key) {record}
    (mem : record ∈ entryRecords key entry) : record.key = key := by
  unfold entryRecords at mem
  split_ifs at mem <;>
    simp only [mem_append, mem_singleton, not_mem_nil, or_false] at mem <;>
    rcases mem with ((rfl | rfl) | rfl) | rfl <;> first | exact own | rfl

theorem ownRecords_live (own : ∀ key entry, state.entries.lookup key = some entry →
      entry.command.key = key) {order : List InboxKey} (nodup : order.Nodup) :
    Detail.ownRecords key (order.flatMap fun key =>
        (state.entries.lookup key).elim [] (entryRecords key)) =
      if key ∈ order then (state.entries.lookup key).elim [] (entryRecords key) else [] := by
  have group (first : InboxKey) : ownRecords key
      ((state.entries.lookup first).elim [] (entryRecords first)) =
        if first = key then (state.entries.lookup key).elim [] (entryRecords key) else [] := by
    cases found : state.entries.lookup first with
    | none =>
      split_ifs with same
      · rw [← same, found]
        rfl
      · rfl
    | some entry =>
      have keyed : ∀ record ∈ entryRecords first entry, record.key = first :=
        fun record mem => key_entryRecords (own first entry found) mem
      split_ifs with same
      · rw [← same, found]
        exact filter_eq_self.mpr fun record mem => by simpa using keyed record mem
      · refine filter_eq_nil_iff.mpr fun record mem => ?_
        rw [keyed record mem]
        simpa using same
  induction order with
  | nil => rfl
  | cons first rest ih =>
    obtain ⟨notLater, nodupRest⟩ := nodup_cons.mp nodup
    rw [flatMap_cons]
    change ownRecords key (_ ++ _) = _
    rw [ownRecords, filter_append]
    change ownRecords key _ ++ ownRecords key _ = _
    rw [group, ih nodupRest]
    by_cases same : first = key
    · subst same
      rw [if_pos rfl, if_neg notLater, if_pos mem_cons_self, append_nil]
    · rw [if_neg same, nil_append]
      simp only [mem_cons, Ne.symm same, false_or]

/-- A snapshot holds one group of records for each key. -/
theorem ownRecords_snapshot (wf : state.WellFormed) (scan : Scan InboxKey UInt64)
    (key : InboxKey) :
    Detail.ownRecords key (snapshotRecords state scan) =
      (state.entries.lookup key).elim
        ((state.retired.lookup key).toList.map fun at_ => .retired key at_) (entryRecords key) := by
  have own : ∀ key entry, state.entries.lookup key = some entry → entry.command.key = key :=
    fun key entry found => (wf.ownKey key entry found).1
  have tombstones : ownRecords key ((scan.order state.retired).map
      fun pair => .retired pair.1 pair.2) =
        (state.retired.lookup key).toList.map fun at_ => .retired key at_ := by
    rw [ownRecords, filter_map]
    change List.map _ ((scan.order state.retired).filter fun pair => pair.1 = key) = _
    rw [scan.filter_order, map_map]
    rfl
  rw [snapshotRecords, ownRecords, filter_append]
  change ownRecords key _ ++ ownRecords key
    ((scan.order state.retired).map fun pair => .retired pair.1 pair.2) = _
  rw [tombstones, ownRecords_live own wf.orderNodup]
  cases found : state.entries.lookup key with
  | none => rw [Option.elim_none, ite_self, nil_append, Option.elim_none]
  | some entry =>
    have live := mem_of_lookup found
    rw [if_pos (wf.orderComplete key live), lookup_eq_none.mpr (wf.disjoint key live)]
    exact append_nil _

end Snapshots

/-! ### Deliveries -/

theorem max_next32 (n : UInt32) : max n (next32 n) = next32 n := by
  have le : n ≤ next32 n := by
    unfold next32
    split_ifs with room
    · rw [UInt32.le_iff_toNat_le, UInt32.toNat_add]
      have one : (1 : UInt32).toNat = 1 := rfl
      rw [one, Nat.mod_eq_of_lt room]
      exact Nat.le_succ _
    · exact UInt32.le_refl n
  simp only [Max.max, if_pos le]

/-- The record of one delivery. -/
def deliveryRecord (state : InboxState) (now : UInt64) (key : InboxKey) : InboxRecord :=
  .delivered key (next32 ((state.entries.lookup key).elim 0 Entry.attempts)) now

theorem ownRecords_claimRecords {state now} {keys : List InboxKey} (nodup : keys.Nodup)
    (key : InboxKey) :
    Detail.ownRecords key (claimRecords state keys now) =
      if key ∈ keys then [deliveryRecord state now key] else [] := by
  change ((keys.map (deliveryRecord state now)).filter _) = _
  rw [filter_map]
  change (keys.filter (· == key)).map (deliveryRecord state now) = _
  rw [filter_beq]
  split_ifs with mem
  · rw [count_eq_one_of_mem nodup mem]
    rfl
  · rw [count_eq_zero_of_not_mem mem]
    rfl

end Apex.Inbox
