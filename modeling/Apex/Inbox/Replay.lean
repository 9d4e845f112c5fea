import Apex.Inbox.Invariant

/-!
What a replay of the journal does.

`replay_spec` follows the replay record by record: it rebuilds the live
commands and the tombstones, counts the live commands of each scope only, and
stops exactly when a scope has more live commands than its quota.
`open_eq_ok_iff` reads this off for the journal of a sound inbox.
-/

namespace Apex.Inbox

open Checked Control Lines FileCommandInbox InboxState List AList KeyMap

/-- The state a list of records is replayed into. -/
def replay (capacity scopeQuota : Nat) (records : List InboxRecord) :
    Except CommandError InboxState :=
  records.foldlM InboxState.applyRecord (InboxState.new capacity scopeQuota)

theorem replay_append (capacity scopeQuota : Nat) (records : List InboxRecord)
    (record : InboxRecord) :
    replay capacity scopeQuota (records ++ [record]) =
      replay capacity scopeQuota records >>= fun state => state.applyRecord record := by
  simp [replay, foldlM_append]

variable {records : List InboxRecord} {state : InboxState}

/-- Lines that hold encoded records are replayed as those records. -/
theorem foldlM_loadLine (fits : ∀ record ∈ records, FitsLine record) (state : InboxState) :
    (records.map InboxRecord.encode).foldlM InboxState.loadLine state =
      records.foldlM applyRecord state := by
  induction records generalizing state with
  | nil => rfl
  | cons record rest ih =>
    obtain ⟨fit, others⟩ := forall_mem_cons.mp fits
    have short : byteLength record.encode ≤ maxInboxRecordBytes := by
      have whole : byteLength (record.encode ++ ['\n']) ≤ maxInboxRecordBytes := fit
      rw [byteLength_append] at whole
      exact le_trans (Nat.le_add_right _ _) whole
    have line : state.loadLine record.encode = state.applyRecord record := by
      simp [InboxState.loadLine, short]
    rw [map_cons, foldlM_cons, foldlM_cons, line]
    exact congrArg _ (funext fun next => ih others next)

theorem load_unlines (fits : ∀ record ∈ records, FitsLine record) (capacity scopeQuota : Nat) :
    load capacity scopeQuota (unlines (records.map InboxRecord.encode)) =
      replay capacity scopeQuota records := by
  have isLines : ∀ line ∈ records.map InboxRecord.encode, IsLine line := by
    intro line mem
    obtain ⟨record, -, rfl⟩ := mem_map.mp mem
    exact JsonFields.isLine_render record.toJson
  rw [load, lines_unlines isLines, foldlM_loadLine fits]
  rfl

/-- Records that could be a journal: no key occurs twice, every command has the
stored form, and all keys fit the capacity together. -/
structure Replayable (capacity : Nat) (records : List InboxRecord) : Prop where
  nodup : (commandKeys records ++ retiredKeys records).Nodup
  recordable : ∀ stored, .command stored ∈ records → isRecordable stored = true
  room : (commandKeys records).length + (retiredKeys records).length ≤ capacity

theorem Replayable.init {capacity record} (replayable : Replayable capacity (records ++ [record])) :
    Replayable capacity records where
  nodup := by
    have nodup := replayable.nodup
    rw [commandKeys_append, retiredKeys_append] at nodup
    refine nodup.sublist ?_
    exact (sublist_append_left _ _).append (sublist_append_left _ _)
  recordable := fun stored mem => replayable.recordable stored (mem_append_left _ mem)
  room := by
    have room := replayable.room
    rw [commandKeys_append, retiredKeys_append, length_append, length_append] at room
    omega

/-- How many live commands of a scope the records hold. -/
def commandsIn (scope : ExactScope) (records : List InboxRecord) : Nat :=
  (commandKeys records).countP fun key => key.scope = scope

/-- The state a replay has reached. -/
structure Replayed (capacity scopeQuota : Nat) (records : List InboxRecord) (state : InboxState) :
    Prop where
  order : state.order = commandKeys records
  live : ∀ key, key ∈ state.entries ↔ key ∈ commandKeys records
  ownKey : ∀ key entry, state.entries.lookup key = some entry →
    entry.command.key = key ∧ isRecordable entry.command = true
  tombstones : (retiredKeys records).Perm state.retired.keys
  counts : ∀ scope, state.scopeCount scope = commandsIn scope records
  capacity : state.capacity = capacity
  scopeQuota : state.scopeQuota = scopeQuota

namespace Replayed

variable {capacity scopeQuota : Nat} {records : List InboxRecord} {state after : InboxState}

theorem new (capacity scopeQuota : Nat) :
    Replayed capacity scopeQuota [] (InboxState.new capacity scopeQuota) where
  order := rfl
  live := by simp [InboxState.new, commandKeys]
  ownKey := by simp [InboxState.new]
  tombstones := .refl _
  counts := fun _ => rfl
  capacity := rfl
  scopeQuota := rfl

/-- As many commands are live as there are command records. -/
theorem length_entries (replayed : Replayed capacity scopeQuota records state)
    (replayable : Replayable capacity records) :
    state.entries.keys.length = (commandKeys records).length := by
  have perm : state.entries.keys.Perm (commandKeys records) := by
    rw [List.perm_ext_iff_of_nodup state.entries.keys_nodup
      (List.nodup_append.mp replayable.nodup).1]
    intro key
    rw [← AList.mem_keys, replayed.live]
  exact perm.length_eq

/-- A record of delivery data changes neither commands nor tombstones. -/
theorem note (replayed : Replayed capacity scopeQuota records state) {record}
    (notes : commandKeys [record] = [] ∧ retiredKeys [record] = []) (key : InboxKey) {f}
    (command : ∀ entry, (f entry).command = entry.command) :
    Replayed capacity scopeQuota (records ++ [record]) (state.updateEntry key f) := by
  have commands : commandKeys (records ++ [record]) = commandKeys records := by
    rw [commandKeys_append, notes.1, append_nil]
  refine ⟨?_, ?_, ?_, ?_, ?_, replayed.capacity, replayed.scopeQuota⟩
  · rw [commands]
    exact replayed.order
  · intro other
    rw [commands, ← replayed.live]
    exact mem_modify
  · exact ownKey_updateEntry replayed.ownKey key command
  · rw [retiredKeys_append, notes.2, append_nil]
    exact replayed.tombstones
  · intro scope
    rw [commandsIn, commands]
    exact replayed.counts scope

/-- A tombstone record names a key that is neither live nor retired, and leaves
the counters alone. -/
theorem tombstone (replayed : Replayed capacity scopeQuota records state) {key at_}
    (replayable : Replayable capacity (records ++ [.retired key at_])) :
    Replayed capacity scopeQuota (records ++ [.retired key at_]) (state.retire key at_) := by
  have nodup := replayable.nodup
  have commands : commandKeys (records ++ [.retired key at_]) = commandKeys records := by
    simp [commandKeys]
  have tombstones : retiredKeys (records ++ [.retired key at_]) = retiredKeys records ++ [key] := by
    simp [retiredKeys]
  rw [commands, tombstones, ← append_assoc] at nodup
  obtain ⟨-, -, apart⟩ := nodup_append.mp nodup
  have notLive : key ∉ commandKeys records := fun mem =>
    apart key (mem_append_left _ mem) key (mem_singleton_self _) rfl
  have fresh : key ∉ state.retired := fun mem =>
    apart key (mem_append_right _ (replayed.tombstones.mem_iff.mpr (mem_keys.mp mem)))
      key (mem_singleton_self _) rfl
  refine ⟨?_, ?_, ?_, ?_, ?_, replayed.capacity, replayed.scopeQuota⟩
  · rw [commands]
    exact replayed.order
  · intro other
    rw [InboxState.retire, mem_erase, replayed.live, commands]
    refine ⟨And.right, fun mem => ⟨?_, mem⟩⟩
    rintro rfl
    exact notLive mem
  · exact KeyMap.Each.erase replayed.ownKey key
  · rw [tombstones, InboxState.retire, keys_insert_of_notMem fresh]
    exact (perm_append_singleton key _).trans (replayed.tombstones.cons key)
  · intro scope
    rw [commandsIn, commands]
    exact replayed.counts scope

variable {stored : PendingCommand}

/-- Where a command record may stand, its command is new and there is room. -/
theorem fresh (replayed : Replayed capacity scopeQuota records state)
    (replayable : Replayable capacity (records ++ [.command stored])) :
    stored.key ∉ state.entries ∧ stored.key ∉ state.retired ∧
      state.entries.keys.length + state.retired.keys.length < state.capacity := by
  have commands : commandKeys (records ++ [.command stored]) =
      commandKeys records ++ [stored.key] := by
    simp [commandKeys]
  have tombstones : retiredKeys (records ++ [.command stored]) = retiredKeys records := by
    simp [retiredKeys]
  have nodup := replayable.nodup
  have room := replayable.room
  rw [commands, tombstones] at nodup room
  obtain ⟨live, -, apart⟩ := nodup_append.mp nodup
  refine ⟨fun mem => ?_, fun mem => ?_, ?_⟩
  · have again := (replayed.live _).mp mem
    exact (nodup_append.mp live).2.2 _ again _ (mem_singleton_self _) rfl
  · have dead := replayed.tombstones.mem_iff.mpr (mem_keys.mp mem)
    exact apart _ (mem_append_right _ (mem_singleton_self _)) _ dead rfl
  · rw [replayed.length_entries replayable.init, ← replayed.tombstones.length_eq,
      replayed.capacity]
    rw [length_append, length_singleton] at room
    omega

/-- A replayed command is admitted exactly when its scope has room for one more
live command. -/
theorem applyRecord_command (replayed : Replayed capacity scopeQuota records state)
    (replayable : Replayable capacity (records ++ [.command stored])) :
    state.applyRecord (.command stored) =
      if commandsIn stored.scope records < scopeQuota then .ok (state.insertRecorded stored)
      else .error .inboxScopeQuota := by
  obtain ⟨notLive, notRetired, room⟩ := replayed.fresh replayable
  have valid : isRecordable stored = true :=
    replayable.recordable stored (mem_append_right _ (mem_singleton_self _))
  have checked : state.checkRecordable stored =
      if commandsIn stored.scope records < scopeQuota then .ok none
      else .error .inboxScopeQuota := by
    rw [checkRecordable, if_neg (not_or.mpr ⟨notLive, notRetired⟩),
      if_neg (Nat.not_le.mpr room), replayed.counts, replayed.scopeQuota]
    by_cases share : commandsIn stored.scope records < scopeQuota
    · rw [if_neg (Nat.not_le.mpr share), if_pos share]
    · rw [if_pos (Nat.le_of_not_lt share), if_neg share]
  simp only [applyRecord, valid, ensure_true, ok_bind, InboxState.record, checked]
  split_ifs <;> rfl

theorem command (replayed : Replayed capacity scopeQuota records state)
    (replayable : Replayable capacity (records ++ [.command stored])) :
    Replayed capacity scopeQuota (records ++ [.command stored]) (state.insertRecorded stored) := by
  obtain ⟨notLive, -, -⟩ := replayed.fresh replayable
  have commands : commandKeys (records ++ [.command stored]) =
      commandKeys records ++ [stored.key] := by
    simp [commandKeys]
  refine ⟨?_, ?_, ?_, ?_, ?_, replayed.capacity, replayed.scopeQuota⟩
  · have others : ∀ key ∈ commandKeys records, decide (key ≠ stored.key) = true := by
      intro key mem
      refine decide_eq_true ?_
      rintro rfl
      exact notLive ((replayed.live _).mpr mem)
    rw [insertRecorded, replayed.order, commands, filter_eq_self.mpr others]
  · intro key
    rw [insertRecorded, mem_insert, replayed.live, commands, mem_append, mem_singleton, or_comm]
  · exact KeyMap.Each.insert replayed.ownKey ⟨rfl, replayable.recordable stored
      (mem_append_right _ (mem_singleton_self _))⟩
  · have tombstones : retiredKeys (records ++ [.command stored]) = retiredKeys records := by
      simp [retiredKeys]
    rw [tombstones]
    exact replayed.tombstones
  · intro scope
    rw [insertRecorded, scopeCount, lookup_insert_eq, commandsIn,
      commands, countP_append, countP_singleton]
    by_cases same : scope = stored.scope
    · subst same
      rw [if_pos rfl, Option.getD_some, replayed.counts]
      simp [commandsIn, PendingCommand.key, PendingCommand.scope, InboxKey.scope]
    · have other : stored.key.scope ≠ scope := fun is => same is.symm
      have counted := replayed.counts scope
      rw [scopeCount, commandsIn] at counted
      rw [if_neg same, counted]
      simp [other]

/-- A replayed state is well formed. -/
theorem wellFormed (replayed : Replayed capacity scopeQuota records state)
    (replayable : Replayable capacity records) : state.WellFormed := by
  obtain ⟨live, -, apart⟩ := nodup_append.mp replayable.nodup
  refine ⟨?_, ?_, replayed.ownKey, ?_, ?_⟩
  · rw [replayed.order]
    exact live
  · intro key mem
    rw [replayed.order]
    exact (replayed.live key).mp mem
  · intro key mem retired
    have dead := replayed.tombstones.mem_iff.mpr (mem_keys.mp retired)
    exact apart key ((replayed.live key).mp mem) key dead rfl
  · rw [replayed.length_entries replayable, ← replayed.tombstones.length_eq, replayed.capacity]
    exact replayable.room

theorem liveOrder (replayed : Replayed capacity scopeQuota records state) :
    state.liveOrder = commandKeys records := by
  rw [InboxState.liveOrder, replayed.order]
  exact filter_eq_self.mpr fun key mem => decide_eq_true ((replayed.live key).mpr mem)

end Replayed

/-- The replay of the records rebuilds the commands and tombstones, and stops
exactly when a scope has more live commands than its quota. -/
def ReplaysWithinQuota (capacity scopeQuota : Nat) (records : List InboxRecord) : Prop :=
  (∀ state, replay capacity scopeQuota records = .ok state →
      Replayed capacity scopeQuota records state ∧
        ∀ scope, commandsIn scope records ≤ scopeQuota) ∧
    ((∀ scope, commandsIn scope records ≤ scopeQuota) →
      ∃ state, replay capacity scopeQuota records = .ok state)

namespace ReplaysWithinQuota

variable {capacity scopeQuota : Nat} {records : List InboxRecord} {record : InboxRecord}

/-- A record that is no command is always accepted. -/
theorem append_other (spec : ReplaysWithinQuota capacity scopeQuota records)
    (noCommand : commandKeys [record] = [])
    (applies : ∀ state, Replayed capacity scopeQuota records state →
      ∃ after, state.applyRecord record = .ok after ∧
        Replayed capacity scopeQuota (records ++ [record]) after) :
    ReplaysWithinQuota capacity scopeQuota (records ++ [record]) := by
  obtain ⟨sound, complete⟩ := spec
  have count (scope : ExactScope) :
      commandsIn scope (records ++ [record]) = commandsIn scope records := by
    rw [commandsIn, commandKeys_append, noCommand, append_nil, commandsIn]
  constructor
  · intro state ok
    rw [replay_append] at ok
    obtain ⟨middle, first, last⟩ := bind_eq_ok.mp ok
    obtain ⟨replayed, within⟩ := sound middle first
    obtain ⟨after, applied, replayed'⟩ := applies middle replayed
    obtain rfl := Except.ok.inj (applied.symm.trans last)
    exact ⟨replayed', fun scope => (count scope).trans_le (within scope)⟩
  · intro within
    obtain ⟨middle, first⟩ := complete fun scope => (count scope).symm.trans_le (within scope)
    obtain ⟨after, applied, -⟩ := applies middle (sound middle first).1
    exact ⟨after, by rw [replay_append]; exact bind_eq_ok.mpr ⟨middle, first, applied⟩⟩

/-- A command record is accepted while its scope has room. -/
theorem append_command {stored} (spec : ReplaysWithinQuota capacity scopeQuota records)
    (replayable : Replayable capacity (records ++ [.command stored])) :
    ReplaysWithinQuota capacity scopeQuota (records ++ [.command stored]) := by
  obtain ⟨sound, complete⟩ := spec
  have count (scope : ExactScope) : commandsIn scope (records ++ [.command stored]) =
      commandsIn scope records + if stored.scope = scope then 1 else 0 := by
    have one : commandKeys [.command stored] = [stored.key] := rfl
    rw [commandsIn, commandKeys_append, countP_append, one, countP_singleton]
    simp only [decide_eq_true_eq]
    rfl
  constructor
  · intro state ok
    rw [replay_append] at ok
    obtain ⟨middle, first, last⟩ := bind_eq_ok.mp ok
    obtain ⟨replayed, within⟩ := sound middle first
    rw [replayed.applyRecord_command replayable] at last
    split_ifs at last with share
    obtain rfl := Except.ok.inj last
    refine ⟨replayed.command replayable, fun scope => ?_⟩
    rw [count]
    split_ifs with same
    · exact same ▸ share
    · exact within scope
  · intro within
    have before (scope : ExactScope) : commandsIn scope records ≤ scopeQuota := by
      have whole := within scope
      rw [count] at whole
      omega
    have share : commandsIn stored.scope records < scopeQuota := by
      have whole := within stored.scope
      rwa [count, if_pos rfl] at whole
    obtain ⟨middle, first⟩ := complete before
    refine ⟨middle.insertRecorded stored, ?_⟩
    rw [replay_append]
    refine bind_eq_ok.mpr ⟨middle, first, ?_⟩
    rw [(sound middle first).1.applyRecord_command replayable, if_pos share]

end ReplaysWithinQuota

theorem replay_spec {capacity} (scopeQuota : Nat) (replayable : Replayable capacity records) :
    ReplaysWithinQuota capacity scopeQuota records := by
  induction records using List.reverseRecOn with
  | nil =>
    refine ⟨fun state ok => ?_, fun _ => ⟨_, rfl⟩⟩
    obtain rfl := Except.ok.inj ok
    exact ⟨.new capacity scopeQuota, fun _ => Nat.zero_le _⟩
  | append_singleton records record ih =>
    have spec := ih replayable.init
    cases record with
    | command stored => exact spec.append_command replayable
    | retired key retiredAtMillis =>
      refine spec.append_other rfl fun state replayed => ⟨_, rfl, ?_⟩
      exact replayed.tombstone replayable
    | delivered key | acknowledged key | cancelled key =>
      refine spec.append_other rfl fun state replayed => ⟨_, rfl, ?_⟩
      exact replayed.note ⟨rfl, rfl⟩ key fun _ => rfl

/-! ### Opening a journal again -/

/-- How many live commands a scope has. -/
def InboxState.liveCount (state : InboxState) (scope : ExactScope) : Nat :=
  state.entries.countKeys fun key => key.scope = scope

/-- How many tombstones a scope has. -/
def InboxState.retiredCount (state : InboxState) (scope : ExactScope) : Nat :=
  state.retired.countKeys fun key => key.scope = scope

theorem InboxState.WellFormed.liveOrder_perm (wf : state.WellFormed) :
    state.liveOrder.Perm state.entries.keys := by
  refine (List.perm_ext_iff_of_nodup (wf.orderNodup.filter _) state.entries.keys_nodup).mpr ?_
  intro key
  rw [List.mem_filter, decide_eq_true_eq, ← AList.mem_keys]
  exact ⟨And.right, fun mem => ⟨wf.orderComplete key mem, mem⟩⟩

/-- The journal of a sound inbox can be replayed. -/
theorem Represents.replayable (represents : Represents records state) (wf : state.WellFormed) :
    Replayable state.capacity records := by
  have live := wf.liveOrder_perm
  refine ⟨?_, represents.recordable, ?_⟩
  · rw [represents.commands]
    refine nodup_append.mpr ⟨wf.orderNodup.filter _, ?_, ?_⟩
    · exact represents.tombstones.nodup_iff.mpr state.retired.keys_nodup
    · rintro key isLive other isDead rfl
      have mem := mem_keys.mpr (live.mem_iff.mp isLive)
      exact wf.disjoint key mem (mem_keys.mpr (represents.tombstones.mem_iff.mp isDead))
  · rw [represents.commands, live.length_eq, represents.tombstones.length_eq]
    exact wf.withinCapacity

theorem Represents.commandsIn_eq (represents : Represents records state) (wf : state.WellFormed)
    (scope : ExactScope) :
    commandsIn scope records = state.liveCount scope := by
  rw [commandsIn, represents.commands, liveCount, KeyMap.countKeys]
  exact wf.liveOrder_perm.countP_eq _

/-- The limits an inbox is opened with. -/
structure InboxConfig where
  capacity : Nat
  scopeQuota : Nat
  capacity_pos : 0 < capacity
  capacity_le : capacity ≤ defaultInboxCapacity
  scopeQuota_pos : 0 < scopeQuota
  scopeQuota_le : scopeQuota ≤ capacity

/-- Opens an inbox with these limits over what its file holds. -/
def InboxConfig.open (config : InboxConfig) (journal : List Char) :
    Except CommandError FileCommandInbox :=
  FileCommandInbox.open config.capacity config.scopeQuota journal

/-- An open inbox with these limits. -/
structure OpenWith (config : InboxConfig) (inbox : FileCommandInbox) : Prop extends
    Sound inbox where
  capacity : inbox.state.capacity = config.capacity
  scopeQuota : inbox.state.scopeQuota = config.scopeQuota

/-- What closing an inbox and opening it again keeps. The counters are those of
the live commands alone. -/
structure Reopened (before after : InboxState) : Prop where
  live : after.liveOrder = before.liveOrder
  tombstones : after.retired.keys.Perm before.retired.keys
  counts : ∀ scope, after.scopeCount scope = before.liveCount scope

variable {config : InboxConfig} {inbox reopened : FileCommandInbox}

theorem InboxConfig.open_eq_ok {journal} (size : byteLength journal ≤ maxInboxFileBytes) :
    config.open journal = .ok reopened ↔
      ∃ state, load config.capacity config.scopeQuota journal = .ok state ∧
        { journal, state, deliveryRecordsSinceCompaction := 0 } = reopened := by
  have capacity : (decide (0 < config.capacity) &&
      decide (config.capacity ≤ defaultInboxCapacity)) = true := by
    simp [config.capacity_pos, config.capacity_le]
  have quota : (decide (0 < config.scopeQuota) &&
      decide (config.scopeQuota ≤ config.capacity)) = true := by
    simp [config.scopeQuota_pos, config.scopeQuota_le]
  simp only [InboxConfig.open, FileCommandInbox.open, capacity, quota, size, decide_true,
    ensure_true, ok_bind, bind_eq_ok, pure_eq_ok]

/-- The journal of an open inbox is accepted again exactly when no scope has
more live commands than its quota. -/
theorem OpenWith.reopen (opened : OpenWith config inbox) :
    (∀ reopened, config.open inbox.journal = .ok reopened →
        OpenWith config reopened ∧ Reopened inbox.state reopened.state) ∧
      ((∃ reopened, config.open inbox.journal = .ok reopened) ↔
        ∀ scope, inbox.state.liveCount scope ≤ config.scopeQuota) := by
  obtain ⟨size, records, text, represents⟩ := opened.journaled
  have wf := opened.wellFormed
  have replayable := represents.replayable wf
  rw [opened.capacity] at replayable
  obtain ⟨sound, complete⟩ := replay_spec config.scopeQuota replayable
  have loads : load config.capacity config.scopeQuota inbox.journal =
      replay config.capacity config.scopeQuota records := by
    rw [text, load_unlines represents.fits]
  have counts (scope : ExactScope) := represents.commandsIn_eq wf scope
  refine ⟨fun reopened ok => ?_, ?_, fun within => ?_⟩
  · obtain ⟨state, loaded, rfl⟩ := (InboxConfig.open_eq_ok size).mp ok
    obtain ⟨replayed, -⟩ := sound state (loads ▸ loaded)
    have represents' : Represents records state :=
      ⟨represents.fits, represents.recordable, replayed.liveOrder.symm, replayed.tombstones⟩
    refine ⟨⟨⟨replayed.wellFormed replayable, size, records, text, represents'⟩,
      replayed.capacity, replayed.scopeQuota⟩, ?_, ?_, ?_⟩
    · exact replayed.liveOrder.trans represents.commands
    · exact replayed.tombstones.symm.trans represents.tombstones
    · exact fun scope => (replayed.counts scope).trans (counts scope)
  · rintro ⟨reopened, ok⟩ scope
    obtain ⟨state, loaded, -⟩ := (InboxConfig.open_eq_ok size).mp ok
    exact (counts scope).symm.trans_le ((sound state (loads ▸ loaded)).2 scope)
  · obtain ⟨state, replayed⟩ := complete fun scope => (counts scope).trans_le (within scope)
    exact ⟨_, (InboxConfig.open_eq_ok size).mpr ⟨state, loads.trans replayed, rfl⟩⟩

/-- A fresh inbox: its file does not exist yet or is empty. -/
def InboxConfig.fresh (config : InboxConfig) : FileCommandInbox where
  journal := []
  state := InboxState.new config.capacity config.scopeQuota
  deliveryRecordsSinceCompaction := 0

theorem InboxConfig.fresh_openWith (config : InboxConfig) : OpenWith config config.fresh where
  wellFormed := wellFormed_new _ _
  journaled := ⟨Nat.zero_le _, [], rfl, nofun, nofun, rfl, .refl _⟩
  capacity := rfl
  scopeQuota := rfl

end Apex.Inbox
