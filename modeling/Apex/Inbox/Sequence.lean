import Apex.Inbox.Effects
import Apex.TornWrites

/-!
The sequence numbers of the stored commands.

A number is drawn when a command is recorded, and the journal does not hold it:
the loader draws numbers anew, one, two, three, in the order of the live commands
(`numbered_replay`). In between, an operation either records one command with the
next number or leaves the numbers of what stays as they were (`Growth`). So the
numbers grow along the order (`Sequenced`), and one number stays with one command
(`Settled`), over every run in which a reopen finds the commands numbered as the
loader would number them.
-/

namespace Apex.Inbox

open Checked Control FileCommandInbox Lines Runs Saturating InboxState List KeyMap Option

/-! ### What the loader draws -/

/-- The commands of an order are numbered from one. -/
structure InboxState.NumberedBy (order : List InboxKey) (state : InboxState) : Prop where
  next : state.nextSequence.toNat = order.length + 1
  number : ∀ key entry, state.entries.lookup key = some entry →
    entry.sequence.toNat = order.idxOf key + 1

/-- It is enough to look at the keys. -/
theorem InboxState.numberedBy_iff {order} {state : InboxState} :
    state.NumberedBy order ↔ state.nextSequence.toNat = order.length + 1 ∧
      ∀ key ∈ state.entries.keys, ((state.entries.lookup key).all fun entry =>
        entry.sequence.toNat = order.idxOf key + 1) = true := by
  constructor
  · intro numbered
    refine ⟨numbered.next, fun key _ => all_eq_true _ _ |>.mpr fun entry found => ?_⟩
    exact decide_eq_true (numbered.number key entry found)
  · rintro ⟨next, number⟩
    refine ⟨next, fun key entry found => ?_⟩
    have mem : key ∈ state.entries.keys := mem_of_lookup found
    exact of_decide_eq_true (all_eq_true _ _ |>.mp (number key mem) entry found)

instance (order : List InboxKey) (state : InboxState) : Decidable (state.NumberedBy order) :=
  decidable_of_iff _ numberedBy_iff.symm

section Replay

variable {capacity scopeQuota : Nat} {records : List InboxRecord} {state after : InboxState}

theorem numberedBy_updateEntry {order} (numbered : state.NumberedBy order) (key : InboxKey) {f}
    (same : ∀ entry, (f entry).sequence = entry.sequence) :
    (state.updateEntry key f).NumberedBy order := by
  refine ⟨numbered.next, KeyMap.Each.modify numbered.number fun entry held => ?_⟩
  rw [same]
  exact numbered.number key entry held

theorem dated_updateEntry (dated : state.Dated) (key : InboxKey) {f}
    (same : ∀ entry, (entry.cancelled = false → entry.cancelledAtMillis = none) →
      (f entry).cancelled = false → (f entry).cancelledAtMillis = none) :
    (state.updateEntry key f).Dated :=
  KeyMap.Each.modify dated fun entry held => same entry (dated key entry held)

theorem toNat_next64_of_lt {n : UInt64} (room : n.toNat + 1 < UInt64.size) :
    (next64 n).toNat = n.toNat + 1 := by
  rw [next64, if_pos room, UInt64.toNat_add]
  exact Nat.mod_eq_of_lt room

/-- A replay numbers the commands in the order it meets them. -/
theorem numbered_replay (replayable : Replayable capacity records)
    (small : capacity ≤ defaultInboxCapacity)
    (replayed : replay capacity scopeQuota records = .ok state) :
    state.NumberedBy (commandKeys records) ∧ state.Dated := by
  induction records using List.reverseRecOn generalizing state with
  | nil =>
    obtain rfl := Except.ok.inj replayed
    exact ⟨⟨rfl, each_empty⟩, each_empty⟩
  | append_singleton records record ih =>
    rw [replay_append] at replayed
    obtain ⟨middle, first, last⟩ := bind_eq_ok.mp replayed
    obtain ⟨numbered, dated⟩ := ih replayable.init first
    have reached := ((replay_spec scopeQuota replayable.init).1 middle first).1
    have noted (noCommand : commandKeys [record] = []) :
        commandKeys (records ++ [record]) = commandKeys records := by
      rw [commandKeys_append, noCommand, append_nil]
    cases record with
    | command stored =>
      rw [reached.applyRecord_command replayable] at last
      split_ifs at last with share
      obtain rfl := Except.ok.inj last
      have keys : commandKeys (records ++ [.command stored]) =
          commandKeys records ++ [stored.key] := by
        rw [commandKeys_append]
        rfl
      have distinct := (nodup_append.mp replayable.nodup).1
      rw [keys] at distinct
      have fresh : stored.key ∉ commandKeys records :=
        fun mem => (nodup_append.mp distinct).2.2 _ mem _ mem_cons_self rfl
      have room : (commandKeys records).length + 1 ≤ defaultInboxCapacity := by
        have whole := replayable.room
        rw [keys, length_append, length_singleton] at whole
        omega
      have size : defaultInboxCapacity + 2 < UInt64.size := by decide
      rw [keys]
      refine ⟨⟨?_, KeyMap.Each.insert (fun key entry found => ?_) ?_⟩,
        KeyMap.Each.insert dated fun _ => rfl⟩
      · change (next64 middle.nextSequence).toNat = _
        rw [toNat_next64_of_lt (by rw [numbered.next]; omega), numbered.next,
          length_append, length_singleton]
      · have mem : key ∈ commandKeys records :=
          (reached.live key).mp (mem_of_lookup found)
        rw [idxOf_append_of_mem mem]
        exact numbered.number key entry found
      · change middle.nextSequence.toNat = _
        rw [numbered.next, idxOf_append_of_notMem fresh]
        simp
    | delivered key | acknowledged key =>
      obtain rfl := pure_eq_ok.mp last
      rw [noted rfl]
      exact ⟨numberedBy_updateEntry numbered key fun _ => rfl,
        dated_updateEntry dated key fun _ holds => holds⟩
    | cancelled key atMillis =>
      obtain rfl := pure_eq_ok.mp last
      rw [noted rfl]
      exact ⟨numberedBy_updateEntry numbered key fun _ => rfl,
        dated_updateEntry dated key fun _ _ => nofun⟩
    | retired key retiredAtMillis =>
      obtain rfl := pure_eq_ok.mp last
      rw [noted rfl]
      exact ⟨⟨numbered.next, KeyMap.Each.erase numbered.number key⟩, KeyMap.Each.erase dated key⟩

end Replay

/-! ### What an operation does to the numbers -/

/-- Nothing new: what stays keeps its command, its number and its place. -/
structure Stays (before after : InboxState) : Prop where
  order : after.liveOrder.Sublist before.liveOrder
  entries : ∀ key entry, after.entries.lookup key = some entry →
    ∃ stored, before.entries.lookup key = some stored ∧ stored.command = entry.command ∧
      stored.sequence = entry.sequence
  next : after.nextSequence = before.nextSequence

/-- Nothing new, or one command with the next number. -/
inductive Growth (before after : InboxState) : Prop where
  | stays (stays : Stays before after)
  | grows (command : PendingCommand) (admitted : before.checkRecordable command = .ok none)
      (room : before.nextSequence.toNat + 1 < UInt64.size)
      (alike : Alike (before.insertRecorded command) after)

variable {before after : InboxState} {config : InboxConfig} {inbox : FileCommandInbox}

theorem Alike.stays (alike : Alike before after) : Stays before after where
  order := by rw [alike.order]
  entries key entry found := ⟨entry, (alike.entries key).symm.trans found, rfl, rfl⟩
  next := alike.nextSequence

theorem Stays.trans {middle} (first : Stays before middle) (second : Stays middle after) :
    Stays before after where
  order := second.order.trans first.order
  entries key entry found := by
    obtain ⟨stored, held, command, number⟩ := second.entries key entry found
    obtain ⟨original, was, command', number'⟩ := first.entries key stored held
    exact ⟨original, was, command'.trans command, number'.trans number⟩
  next := second.next.trans first.next

theorem stays_updateEntry (state : InboxState) (key : InboxKey) {f}
    (same : ∀ entry, (f entry).command = entry.command ∧ (f entry).sequence = entry.sequence) :
    Stays state (state.updateEntry key f) where
  order := by rw [liveOrder_updateEntry]
  entries := by
    refine KeyMap.Each.modify (fun _ entry found => ⟨entry, found, rfl, rfl⟩) fun stored held => ?_
    exact ⟨stored, held, (same stored).1.symm, (same stored).2.symm⟩
  next := rfl

theorem stays_markDelivered (state : InboxState) (key : InboxKey) (now : UInt64) :
    Stays state (state.markDelivered key now).2 := by
  unfold markDelivered
  split
  · exact (Alike.refl state).stays
  · exact stays_updateEntry state key fun _ => ⟨rfl, rfl⟩

theorem stays_markAll (now : UInt64) (keys : List InboxKey) (state : InboxState) :
    Stays state (markAll now keys state).2 := by
  induction keys generalizing state with
  | nil => exact (Alike.refl state).stays
  | cons key rest ih => exact (stays_markDelivered state key now).trans (ih _)

theorem stays_swept (state : InboxState) (now cutoff : UInt64) (maxAttempts : UInt32) :
    Stays state (swept state now cutoff maxAttempts) := by
  have untouched : (swept state now cutoff maxAttempts).order = state.order ∧
      (swept state now cutoff maxAttempts).nextSequence = state.nextSequence :=
    retireSettled_induction (P := fun after => after.order = state.order ∧
      after.nextSequence = state.nextSequence) (fun _ _ _ same _ => same) ⟨rfl, rfl⟩ now cutoff
      maxAttempts
  refine ⟨?_, fun key entry found => ⟨entry, lookup_swept found, rfl, rfl⟩, untouched.2⟩
  rw [liveOrder, liveOrder, untouched.1]
  refine monotone_filter_right state.order fun key live => ?_
  obtain ⟨entry, found⟩ := isSome_iff_exists.mp (mem_iff_isSome.mp (of_decide_eq_true live))
  exact decide_eq_true (mem_of_lookup (lookup_swept found))

theorem Effect.growth {op handed} (effect : Effect before op handed after)
    (room : ∀ command, op = .record command → before.nextSequence.toNat + 1 < UInt64.size) :
    Growth before after := by
  cases effect with
  | nothing alike => exact .stays alike.stays
  | recorded admitted alike => exact .grows _ admitted (room _ rfl) alike
  | delivered alike => exact .stays ((stays_markAll _ _ _).trans alike.stays)
  | acknowledged _ _ alike | cancelled _ _ alike =>
    refine .stays (Stays.trans ?_ alike.stays)
    exact stays_updateEntry before _ fun _ => ⟨rfl, rfl⟩
  | swept alike => exact .stays ((stays_swept _ _ _ _).trans alike.stays)

theorem dated_markAll (now : UInt64) (keys : List InboxKey) {state : InboxState}
    (dated : state.Dated) : (markAll now keys state).2.Dated := by
  induction keys generalizing state with
  | nil => exact dated
  | cons key rest ih =>
    refine ih ?_
    split
    · exact dated
    · exact dated_updateEntry dated key fun _ holds => holds

theorem InboxState.Dated.alike (dated : before.Dated) (alike : Alike before after) : after.Dated :=
  fun key entry found => dated key entry ((alike.entries key).symm.trans found)

theorem Effect.dated {op handed} (effect : Effect before op handed after) (dated : before.Dated) :
    after.Dated := by
  cases effect with
  | nothing alike => exact dated.alike alike
  | recorded admitted alike =>
    refine InboxState.Dated.alike ?_ alike
    exact KeyMap.Each.insert dated fun _ => rfl
  | delivered alike => exact (dated_markAll _ _ dated).alike alike
  | acknowledged _ _ alike =>
    refine InboxState.Dated.alike ?_ alike
    exact dated_updateEntry dated _ fun _ holds => holds
  | cancelled _ _ alike =>
    refine InboxState.Dated.alike ?_ alike
    exact dated_updateEntry dated _ fun _ _ => nofun
  | swept alike =>
    refine InboxState.Dated.alike (fun key entry found => ?_) alike
    exact dated key entry (lookup_swept found)

/-! ### Calls that keep the numbers -/

/-- A reopen finds the commands numbered as the loader numbers them, a command is
recorded while there are numbers left, and a write that failed or was cut off left
no byte. -/
def KeepsNumbers : Option FileCommandInbox → InboxCall → Prop
  | some inbox, .done .reopen => inbox.state.NumberedBy inbox.state.liveOrder
  | some inbox, .done (.record _) => inbox.state.nextSequence.toNat + 1 < UInt64.size
  | some inbox, .crash _ reached =>
      reached = 0 ∧ inbox.state.NumberedBy inbox.state.liveOrder
  | _, .fails _ reached => reached = 0
  | _, _ => True

instance : ∀ world call, Decidable (KeepsNumbers world call)
  | some inbox, .done .reopen =>
    inferInstanceAs (Decidable (inbox.state.NumberedBy inbox.state.liveOrder))
  | some inbox, .done (.record _) =>
    inferInstanceAs (Decidable (inbox.state.nextSequence.toNat + 1 < UInt64.size))
  | some inbox, .crash _ reached =>
    inferInstanceAs (Decidable (reached = 0 ∧ inbox.state.NumberedBy inbox.state.liveOrder))
  | none, .fails _ reached | some _, .fails _ reached => inferInstanceAs (Decidable (reached = 0))
  | none, .done _ | none, .crash .. | some _, .done (.claim ..) | some _, .done (.acknowledge ..)
  | some _, .done (.cancel ..) | some _, .done (.maintain ..) => .isTrue trivial

/-- An open inbox in which numbers can be followed. -/
structure Followed (config : InboxConfig) (inbox : FileCommandInbox) : Prop extends
    Durable config inbox where
  dated : inbox.state.Dated

theorem Followed.reopened (followed : Followed config inbox)
    (numbered : inbox.state.NumberedBy inbox.state.liveOrder) {reopened}
    (ok : config.open inbox.journal = .ok reopened) :
    Followed config reopened ∧ Stays inbox.state reopened.state := by
  obtain ⟨-, kept⟩ := followed.toOpenWith.reopen.1 reopened ok
  have within := followed.toOpenWith.reopen.2.mp ⟨reopened, ok⟩
  obtain ⟨reopened', ok', durable, standing⟩ := followed.toDurable.reopen within
  obtain rfl := Except.ok.inj (ok.symm.trans ok')
  obtain ⟨size, records, text, represents⟩ := followed.journaled
  have replayable := represents.replayable followed.wellFormed
  rw [followed.capacity] at replayable
  obtain ⟨state, loaded, rfl⟩ := (InboxConfig.open_eq_ok size).mp ok
  rw [text, load_unlines represents.fits] at loaded
  obtain ⟨numbered', dated⟩ := numbered_replay replayable config.capacity_le loaded
  rw [represents.commands] at numbered'
  refine ⟨⟨durable, dated⟩, ?_, fun key entry found => ?_, ?_⟩
  · rw [kept.live]
  · -- The journal tells the command, and both number it by its place.
    have stands := standing key
    rw [InboxState.standing_of_lookup found] at stands
    cases held : inbox.state.entries.lookup key with
    | none =>
      rw [InboxState.standing_of_notMem held] at stands
      split_ifs at stands
    | some stored =>
      rw [InboxState.standing_of_lookup held] at stands
      have command := congrArg Progress.command (Standing.live.inj stands)
      refine ⟨stored, rfl, command.symm, UInt64.toNat_inj.mp ?_⟩
      rw [numbered.number key stored held, numbered'.number key entry found]
  · refine UInt64.toNat_inj.mp ?_
    rw [numbered'.next, numbered.next]

/-- One call that keeps the numbers. -/
theorem Followed.step (followed : Followed config inbox) {call}
    (keeps : KeepsNumbers (some inbox) call) {after}
    (stepped : callStep config (some inbox) call = some after) :
    Followed config after ∧ Growth inbox.state after.state := by
  have durable {careful : CarefulCall config (some inbox) call} : Durable config after := by
    obtain ⟨after', stepped', carries⟩ := callStep_carries followed.toDurable careful
    obtain rfl := Option.some.inj (stepped.symm.trans stepped')
    exact carries.durable
  have reopens (keeps : inbox.state.NumberedBy inbox.state.liveOrder)
      (stepped : callStep config (some inbox) (.done .reopen) = some after) :
      Followed config after ∧ Growth inbox.state after.state := by
    cases ok : config.open inbox.journal with
    | error e => simp [callStep, inboxStep, ok, Except.toOption] at stepped
    | ok reopened =>
      obtain rfl : reopened = after := by
        simpa [callStep, inboxStep, ok, Except.toOption] using stepped
      obtain ⟨followed', stays⟩ := followed.reopened keeps ok
      exact ⟨followed', .stays stays⟩
  cases call with
  | crash op reached =>
    obtain ⟨rfl, numbered⟩ := keeps
    exact reopens numbered ((callStep_crash_zero config _ op).symm.trans stepped)
  | fails op reached =>
    obtain rfl : reached = 0 := by cases op <;> exact keeps
    have is : { inbox with state := undone inbox op } = after := by
      rw [callStep, failedWrite_zero] at stepped
      exact Option.some.inj stepped
    have durable' := @durable rfl
    subst is
    have alike := alike_undone followed.dated op
    exact ⟨⟨durable', followed.dated.alike alike⟩, .stays alike.stays⟩
  | done op =>
    by_cases isReopen : op = .reopen
    · subst isReopen
      exact reopens keeps stepped
    · have careful : CarefulCall config (some inbox) (.done op) := by
        cases op <;> trivial
      have effect := inboxStep_effect config followed.dated isReopen stepped
      refine ⟨⟨@durable careful, effect.dated followed.dated⟩, effect.growth ?_⟩
      rintro command rfl
      exact keeps

/-! ### Numbers along a run -/

/-- The numbers of the live commands grow along their order, from one up to the
next number. -/
structure InboxState.Sequenced (state : InboxState) : Prop where
  increasing : state.liveOrder.Pairwise fun earlier later => ∀ first second,
    state.entries.lookup earlier = some first → state.entries.lookup later = some second →
      first.sequence < second.sequence
  positive : ∀ key entry, state.entries.lookup key = some entry → 0 < entry.sequence
  below : ∀ key entry, state.entries.lookup key = some entry →
    entry.sequence < state.nextSequence
  next : 0 < state.nextSequence

theorem InboxState.Sequenced.stays (sequenced : before.Sequenced) (stays : Stays before after) :
    after.Sequenced where
  increasing := by
    refine (sequenced.increasing.sublist stays.order).imp ?_
    intro earlier later grows first second found found'
    obtain ⟨stored, held, -, number⟩ := stays.entries earlier first found
    obtain ⟨stored', held', -, number'⟩ := stays.entries later second found'
    rw [← number, ← number']
    exact grows stored stored' held held'
  positive key entry found := by
    obtain ⟨stored, held, -, number⟩ := stays.entries key entry found
    rw [← number]
    exact sequenced.positive key stored held
  below key entry found := by
    obtain ⟨stored, held, -, number⟩ := stays.entries key entry found
    rw [← number, stays.next]
    exact sequenced.below key stored held
  next := stays.next ▸ sequenced.next

theorem lt_next64 {n : UInt64} (room : n.toNat + 1 < UInt64.size) : n < next64 n := by
  rw [UInt64.lt_iff_toNat_lt, toNat_next64_of_lt room]
  exact Nat.lt_succ_self _

/-- A new command gets the next number, at the end of the order. -/
theorem InboxState.Sequenced.grows (sequenced : before.Sequenced) {command}
    (admitted : before.checkRecordable command = .ok none)
    (room : before.nextSequence.toNat + 1 < UInt64.size) :
    (before.insertRecorded command).Sequenced := by
  obtain ⟨fresh, -⟩ := checkRecordable_eq_none admitted
  have higher := lt_next64 room
  have looked : ∀ key entry, (before.insertRecorded command).entries.lookup key = some entry →
      key = command.key ∧ entry.sequence = before.nextSequence ∨
        before.entries.lookup key = some entry :=
    KeyMap.Each.insert (fun _ _ found => .inr found) (.inl ⟨rfl, rfl⟩)
  have old {key : InboxKey} (mem : key ∈ before.liveOrder) : key ≠ command.key := by
    rintro rfl
    exact fresh (of_decide_eq_true (mem_filter.mp mem).2)
  refine ⟨?_, KeyMap.Each.insert sequenced.positive sequenced.next,
    KeyMap.Each.insert (fun key entry found => ?_) higher, ?_⟩
  · rw [liveOrder_insertRecorded fresh]
    refine pairwise_append.mpr ⟨?_, pairwise_singleton _ _, ?_⟩
    · refine sequenced.increasing.imp_of_mem ?_
      intro earlier later mem mem' grows first second found found'
      have held := (looked _ _ found).resolve_left fun is => old mem is.1
      have held' := (looked _ _ found').resolve_left fun is => old mem' is.1
      exact grows first second held held'
    · intro earlier mem later is first second found found'
      obtain rfl := mem_singleton.mp is
      have held := (looked _ _ found).resolve_left fun is => old mem is.1
      rcases looked _ _ found' with ⟨-, number⟩ | held'
      · rw [number]
        exact sequenced.below earlier first held
      · exact absurd (mem_of_lookup held') fresh
  · exact UInt64.lt_trans (sequenced.below key entry found) higher
  · exact UInt64.lt_trans sequenced.next higher

/-- The number was drawn, and is nobody else's. -/
structure InboxState.Settled (number : UInt64) (command : PendingCommand) (state : InboxState) :
    Prop where
  drawn : number < state.nextSequence
  only : ∀ key entry, state.entries.lookup key = some entry → entry.sequence = number →
    entry.command = command

theorem InboxState.Settled.growth {number command} (settled : before.Settled number command)
    (growth : Growth before after) :
    after.Settled number command := by
  cases growth with
  | stays stays =>
    refine ⟨stays.next ▸ settled.drawn, fun key entry found is => ?_⟩
    obtain ⟨stored, held, same, number⟩ := stays.entries key entry found
    rw [← same]
    exact settled.only key stored held (number.trans is)
  | grows recorded admitted room alike =>
    refine ⟨?_, fun key entry found is => ?_⟩
    · rw [alike.nextSequence]
      exact UInt64.lt_trans settled.drawn (lt_next64 room)
    · rw [alike.entries] at found
      refine KeyMap.Each.insert settled.only (fun is => ?_) key entry found is
      -- The next number was not drawn before.
      obtain rfl : before.nextSequence = number := is
      exact absurd settled.drawn (UInt64.lt_irrefl _)

theorem InboxState.Sequenced.growth (sequenced : before.Sequenced) (growth : Growth before after) :
    after.Sequenced := by
  cases growth with
  | stays stays => exact sequenced.stays stays
  | grows command admitted room alike => exact (sequenced.grows admitted room).stays alike.stays

/-- Two live commands have two numbers. -/
theorem InboxState.Sequenced.number_injective {state : InboxState} (sequenced : state.Sequenced)
    (wf : state.WellFormed) {key other entry entry'} (found : state.entries.lookup key = some entry)
    (found' : state.entries.lookup other = some entry') (same : entry.sequence = entry'.sequence) :
    key = other := by
  have live {key : InboxKey} {entry : Entry} (found : state.entries.lookup key = some entry) :
      key ∈ state.liveOrder := by
    have mem := mem_of_lookup found
    exact mem_filter.mpr ⟨wf.orderComplete key mem, decide_eq_true mem⟩
  let Apart (a b : InboxKey) : Prop := ∀ first second, state.entries.lookup a = some first →
    state.entries.lookup b = some second → first.sequence ≠ second.sequence
  have symmetric : Std.Symm Apart :=
    ⟨fun _ _ apart first second found found' => (apart second first found' found).symm⟩
  have apart : state.liveOrder.Pairwise Apart := by
    refine sequenced.increasing.imp fun grows first second found found' => ?_
    exact UInt64.ne_of_lt (grows first second found found')
  by_contra different
  exact apart.forall (live found) (live found') different entry entry' found found' same

/-! ### One number, one command -/

/-- The inbox of the world has a live command with this number. -/
def Designates (world : Option FileCommandInbox) (number : UInt64) (command : PendingCommand) :
    Prop :=
  ∃ inbox key entry, world = some inbox ∧ inbox.state.entries.lookup key = some entry ∧
    entry.sequence = number ∧ entry.command = command

/-- In no two states of the run does a number designate two commands. -/
def OneCommandEach (config : InboxConfig) (calls : List InboxCall) : Prop :=
  ∀ early later rest, calls = early ++ later ++ rest → ∀ number command command',
    Designates (run (callStep config) (some config.fresh) early) number command →
    Designates (run (callStep config) (some config.fresh) (early ++ later)) number command' →
      command' = command

/-- The inbox of the world, if there is one, can be followed. -/
def FollowedWorld (config : InboxConfig) (world : Option FileCommandInbox) : Prop :=
  ∀ inbox, world = some inbox → Followed config inbox ∧ inbox.state.Sequenced

theorem followedWorld_fresh (config : InboxConfig) : FollowedWorld config (some config.fresh) := by
  rintro _ ⟨⟩
  refine ⟨⟨durable_fresh config, each_empty⟩, List.Pairwise.nil, each_empty, each_empty, ?_⟩
  change (0 : UInt64) < 1
  decide

theorem FollowedWorld.step {world call} (followed : FollowedWorld config world)
    (keeps : KeepsNumbers world call) :
    FollowedWorld config (callStep config world call) := by
  intro after stepped
  cases world with
  | none => cases call <;> cases stepped
  | some inbox =>
    obtain ⟨here, sequenced⟩ := followed inbox rfl
    obtain ⟨followed', growth⟩ := here.step keeps stepped
    exact ⟨followed', sequenced.growth growth⟩

theorem oneCommandEach {calls}
    (keeps : AllSteps (callStep config) KeepsNumbers (some config.fresh) calls) :
    OneCommandEach config calls := by
  rintro early later rest rfl number command command' ⟨inbox, key, entry, is, found, rfl, rfl⟩
    ⟨inbox', key', entry', is', found', number', rfl⟩
  rw [append_assoc, allSteps_append, allSteps_append] at keeps
  have followed := run_of_allSteps (fun _ _ => FollowedWorld.step) (followedWorld_fresh config)
    keeps.1
  obtain ⟨here, sequenced⟩ := followed inbox is
  have settled : inbox.state.Settled entry.sequence entry.command := by
    refine ⟨sequenced.below key entry found, fun other stored held same => ?_⟩
    obtain rfl := sequenced.number_injective here.wellFormed held found same
    obtain rfl := Option.some.inj (held.symm.trans found)
    rfl
  -- A number that was drawn stays with its command through the later calls.
  have keep : ∀ (world : Option FileCommandInbox) (call : InboxCall),
      (FollowedWorld config world ∧ ∀ inbox, world = some inbox →
        inbox.state.Settled entry.sequence entry.command) → KeepsNumbers world call →
      FollowedWorld config (callStep config world call) ∧
        ∀ inbox, callStep config world call = some inbox →
          inbox.state.Settled entry.sequence entry.command := by
    rintro world call ⟨followed, settled⟩ keeps
    refine ⟨followed.step keeps, fun after stepped => ?_⟩
    cases world with
    | none => cases call <;> cases stepped
    | some inbox =>
      exact (settled inbox rfl).growth ((followed inbox rfl).1.step keeps stepped).2
  have start : FollowedWorld config (run (callStep config) (some config.fresh) early) ∧
      ∀ inbox, run (callStep config) (some config.fresh) early = some inbox →
        inbox.state.Settled entry.sequence entry.command := by
    refine ⟨followed, fun other is' => ?_⟩
    obtain rfl := Option.some.inj (is.symm.trans is')
    exact settled
  obtain ⟨-, still⟩ := run_of_allSteps keep start keeps.2.1
  rw [run_append] at is'
  exact (still inbox' is').only key' entry' found' number'

end Apex.Inbox
