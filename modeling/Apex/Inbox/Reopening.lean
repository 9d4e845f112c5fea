import Apex.Inbox.Effects
import Apex.TornWrites

/-!
Closing an inbox and opening it again, at any point of a run.

Between two compactions the journal is a snapshot followed by the records of
every operation since. Either part is read back to the state it tells of
(`Tells`), so while the clock does not go back, `Exact` holds all along: the
journal tells everything of the state but the sequence numbers and the counters
of the scopes. What a reopened inbox may still lack is the room it had: the loader
admits the commands anew, and `reopens_same_iff` says that it fails exactly where
a scope holds more commands than its quota.
-/

namespace Apex.Inbox

open Checked Control FileCommandInbox Lines Runs Saturating InboxState List Option Detail

/-! ### Reading back

A snapshot is read back to the state it was taken of. Of the operations the same is
true while the clock does not go back: a replayed delivery keeps the later of two
times, a delivery the last one. -/

section ReadingBack

variable {state : InboxState} {key : InboxKey} {clock now : UInt64}

/-- The records of a coherent entry rebuild it. -/
theorem note_entryRecords {entry : Entry} (coherent : entry.Coherent clock) :
    (entryRecords key entry).foldl Detail.note .unknown = .live entry.unnumbered := by
  obtain ⟨command, attempts, last, acknowledged, sequence, cancelled, at_⟩ := entry
  have delivered : ((if 0 < attempts then
      [.delivered key attempts (last.getD 0)] else []).foldl note (.live (freshEntry command 0))) =
      .live { freshEntry command 0 with attempts, lastDeliveredMillis := last } := by
    have timed : attempts = 0 ↔ last = none := coherent.delivered
    split_ifs with some_
    · have larger : max 0 attempts = attempts := by
        simp only [Max.max, if_pos (UInt32.le_of_lt some_)]
      have nonzero : attempts ≠ 0 := (UInt32.ne_of_lt some_).symm
      obtain ⟨at_, rfl⟩ := ne_none_iff_exists'.mp (fun is => nonzero (timed.mpr is))
      change live (replayedDelivery attempts at_ (freshEntry command 0)) = _
      simp only [replayedDelivery, freshEntry, larger, elim_none]
    · have none_ : attempts = 0 :=
        UInt32.le_antisymm (UInt32.not_lt.mp some_) UInt32.zero_le
      rw [timed.mp none_, none_]
      rfl
  have settled (entry : Entry) : ((if acknowledged then
      [.acknowledged key (last.getD 0)] else []).foldl note (.live entry)) =
      .live { entry with acknowledged := entry.acknowledged || acknowledged } := by
    cases acknowledged
    · simp
    · simp [note]
  have retracted (entry : Entry) (fresh : entry.cancelled = false)
      (untimed : entry.cancelledAtMillis = none) : ((if cancelled then
      [.cancelled key (at_.getD 0)] else []).foldl note (.live entry)) =
      .live { entry with cancelled, cancelledAtMillis := at_ } := by
    have timed : cancelled = false ↔ at_ = none := coherent.cancelledAt
    cases cancelled with
    | false =>
      rw [timed.mp rfl, if_neg Bool.false_ne_true, ← fresh, ← untimed]
      rfl
    | true =>
      obtain ⟨time, rfl⟩ := ne_none_iff_exists'.mp fun is => nomatch timed.mpr is
      rfl
  simp only [entryRecords, foldl_append, foldl_cons, foldl_nil]
  change List.foldl note (List.foldl note (List.foldl note
    (.live (freshEntry command 0)) _) _) _ = _
  rw [delivered, settled, retracted _ rfl rfl]
  rfl

/-- A snapshot is read back to the state it was taken of. -/
theorem after_snapshotRecords (wf : state.WellFormed)
    (coherent : state.Coherent clock) (scan : Scan InboxKey UInt64) (key : InboxKey) :
    Detail.after key .unknown (snapshotRecords state scan) = state.detail key := by
  rw [Detail.after, ownRecords_snapshot wf]
  cases found : state.entries.lookup key with
  | some entry =>
    rw [InboxState.detail_of_lookup found]
    exact note_entryRecords (coherent key entry found)
  | none =>
    rw [InboxState.detail_of_notMem found]
    cases state.retired.lookup key <;> rfl

/-- A delivery is replayed as it was made, while the clock does not go back. -/
theorem replayedDelivery_eq {entry : Entry} (coherent : entry.Coherent clock)
    (later : clock ≤ now) :
    replayedDelivery (next32 entry.attempts) now entry.unnumbered =
      (deliveredEntry now entry).unnumbered := by
  have time : some (entry.lastDeliveredMillis.elim now fun previous => max previous now) =
      some now := by
    cases last : entry.lastDeliveredMillis with
    | none => rfl
    | some previous =>
      have le := UInt64.le_trans (coherent.past previous last) later
      simp only [elim_some, Max.max, if_pos le]
  have attempts : max entry.attempts (next32 entry.attempts) = next32 entry.attempts :=
    max_next32 entry.attempts
  simp only [replayedDelivery, Entry.unnumbered, deliveredEntry, time, attempts]

/-- A poll is replayed as it was made, while the clock does not go back. -/
theorem detail_markAll (coherent : state.Coherent clock) (later : clock ≤ now)
    {keys : List InboxKey} (nodup : keys.Nodup) (key : InboxKey) :
    (markAll now keys state).2.detail key =
      Detail.after key (state.detail key) (claimRecords state keys now) := by
  have retired : (markAll now keys state).2.retired = state.retired :=
    (dataOnly_markAll now keys state).retired
  have looked := @lookup_markAll state key now keys nodup
  rw [Detail.after, ownRecords_claimRecords nodup]
  split_ifs at looked ⊢ with mem
  · cases found : state.entries.lookup key with
    | none =>
      rw [found] at looked
      rw [detail_of_notMem looked, detail_of_notMem found, retired]
      cases state.retired.lookup key <;> rfl
    | some entry =>
      rw [found] at looked
      rw [detail_of_lookup looked, detail_of_lookup found]
      change _ = Detail.note (.live entry.unnumbered) (deliveryRecord state now key)
      rw [deliveryRecord, found]
      exact congrArg Detail.live (replayedDelivery_eq (coherent key entry found) later).symm
  · simp only [detail, looked, retired, foldl_nil]

end ReadingBack

/-- The journal tells all of every command. -/
def Tells (inbox : FileCommandInbox) : Prop :=
  ∃ records, inbox.journal = inboxCodec.text records ∧
    ∀ key, inbox.state.detail key = Detail.after key .unknown records

/-- An open inbox whose journal tells its state. -/
structure Exact (config : InboxConfig) (clock : UInt64) (inbox : FileCommandInbox) : Prop extends
    OpenWith config inbox where
  tells : Tells inbox
  coherent : inbox.state.Coherent clock

variable {config : InboxConfig} {clock : UInt64} {inbox : FileCommandInbox}

/-! ### What is written is told -/

theorem Alike.detail {before after} (alike : Alike before after) (key : InboxKey) :
    after.detail key = before.detail key := by
  simp only [InboxState.detail, alike.entries, alike.retired]

theorem Tells.alike {after} (tells : Tells inbox) (alike : Alike inbox.state after) :
    Tells { inbox with state := after } := by
  obtain ⟨records, text, said⟩ := tells
  exact ⟨records, text, fun key => (alike.detail key).trans (said key)⟩

/-- Appended records tell what they did. -/
theorem Tells.append {batch appended} {after : InboxState} (tells : Tells inbox)
    (ok : inbox.appendBatch batch = .ok appended)
    (noted : ∀ key, after.detail key = Detail.after key (inbox.state.detail key) batch) :
    Tells { appended with state := after } := by
  obtain ⟨records, text, said⟩ := tells
  refine ⟨records ++ batch, ?_, fun key => ?_⟩
  · rw [(appendBatch_eq_ok ok).1, inboxCodec.text_append, ← text]
    rfl
  · rw [noted, said, after_append]

theorem Tells.compact {compacted scan} (wf : inbox.state.WellFormed)
    (coherent : inbox.state.Coherent clock) (ok : inbox.compact scan = .ok compacted) :
    Tells compacted := by
  simp only [FileCommandInbox.compact, bind_eq_ok, encodeRecords_eq_ok, pure_eq_ok] at ok
  obtain ⟨encoded, ⟨-, -, text⟩, rfl⟩ := ok
  exact ⟨_, text, fun key => (after_snapshotRecords wf coherent scan key).symm⟩

theorem Rewritten.tells {after} (rewritten : Rewritten inbox after) (tells : Tells inbox)
    (wf : inbox.state.WellFormed) (coherent : inbox.state.Coherent clock) :
    Tells after := by
  cases rewritten with
  | counted count => exact tells
  | compacted ok => exact .compact wf coherent ok

/-! ### The operations -/

variable {op : InboxOp} {given : List Answer} {handed : List PendingCommand}
  {after : FileCommandInbox}

theorem Exact.coherent_after {state} (exact_ : Exact config clock inbox) (onTime : op.OnTime clock)
    (effect : Effect inbox.state op handed state) :
    state.Coherent (op.clockAfter clock) :=
  effect.coherent exact_.wellFormed.orderNodup exact_.coherent onTime

theorem Turn.tells (turn : Turn inbox op given handed after) (exact_ : Exact config clock inbox)
    (onTime : op.OnTime clock) : Tells after := by
  cases turn with
  | still => exact exact_.tells
  | restored restored => exact exact_.tells.alike (restored.alike exact_.coherent.dated)
  | written writes ok rewritten =>
    -- The records tell what the state became before the journal is rewritten.
    have written := (Turn.written writes ok (.counted 0)).effect exact_.coherent.dated
    refine rewritten.tells (exact_.tells.append ok fun key => ?_)
      (writes.wellFormed exact_.wellFormed) (exact_.coherent_after onTime written)
    rcases writes.detail with ⟨target, allows, policy, now, _, rfl, rfl, rfl⟩ | details
    · exact detail_markAll exact_.coherent (onTime now rfl)
        (deliverable_nodup exact_.wellFormed target allows policy now) key
    · exact details key
  | @swept now retention maxAttempts _ _ ok =>
    exact @Tells.compact _ { inbox with
      state := Inbox.swept inbox.state now (sub64 now retention) maxAttempts } _ _
      (exact_.wellFormed.swept now (sub64 now retention) maxAttempts)
      (exact_.coherent_after onTime (.swept (.refl _))) ok

/-- An operation on time other than a reopen. -/
theorem Exact.step (exact_ : Exact config clock inbox) (notReopen : op ≠ .reopen)
    (onTime : op.OnTime clock) :
    ∃ after, inboxStep config (some inbox) op = some after ∧
      Exact config (op.clockAfter clock) after := by
  obtain ⟨_, stepped, opened⟩ := inboxStep_open exact_.toOpenWith notReopen
  obtain rfl := Option.some.inj ((inboxStep_eq notReopen).symm.trans stepped)
  have turn := turn inbox op
  exact ⟨_, stepped, opened, turn.tells exact_ onTime,
    exact_.coherent_after onTime (turn.effect exact_.coherent.dated)⟩

/-! ### Opening the journal again -/

/-- The same live commands in the same order, with the same delivery data, and
the same tombstones with the same times. -/
structure SameInbox (before after : InboxState) : Prop where
  order : after.liveOrder = before.liveOrder
  entries : ∀ key, (after.entries.lookup key).map Entry.unnumbered =
    (before.entries.lookup key).map Entry.unnumbered
  retired : ∀ key, after.retired.lookup key = before.retired.lookup key

/-- Where no key is both live and retired, the details are all there is. -/
theorem sameInbox_of_detail {before after : InboxState} (wf : before.WellFormed)
    (wf' : after.WellFormed) (order : after.liveOrder = before.liveOrder)
    (same : ∀ key, after.detail key = before.detail key) : SameInbox before after := by
  have both (key : InboxKey) : (after.entries.lookup key).map Entry.unnumbered =
      (before.entries.lookup key).map Entry.unnumbered ∧
        after.retired.lookup key = before.retired.lookup key := by
    have here := same key
    cases found : before.entries.lookup key with
    | some entry =>
      have notRetired := AList.lookup_eq_none.mpr
        (wf.disjoint key (KeyMap.mem_of_lookup found))
      rw [detail_of_lookup found] at here
      cases found' : after.entries.lookup key with
      | none =>
        rw [detail_of_notMem found'] at here
        cases gone : after.retired.lookup key <;> simp [gone] at here
      | some entry' =>
        have notRetired' := AList.lookup_eq_none.mpr
          (wf'.disjoint key (KeyMap.mem_of_lookup found'))
        rw [detail_of_lookup found'] at here
        rw [notRetired, notRetired', map_some, map_some]
        exact ⟨congrArg some (live.inj here), rfl⟩
    | none =>
      rw [detail_of_notMem found] at here
      cases found' : after.entries.lookup key with
      | some entry' =>
        rw [detail_of_lookup found'] at here
        cases gone : before.retired.lookup key <;> simp [gone] at here
      | none =>
        rw [detail_of_notMem found'] at here
        refine ⟨rfl, ?_⟩
        cases gone : before.retired.lookup key <;>
          cases gone' : after.retired.lookup key <;> simp_all
  exact ⟨order, fun key => (both key).1, fun key => (both key).2⟩

theorem Exact.reopened (exact_ : Exact config clock inbox) {reopened}
    (ok : config.open inbox.journal = .ok reopened) :
    Exact config clock reopened ∧ SameInbox inbox.state reopened.state := by
  obtain ⟨opened, kept⟩ := exact_.toOpenWith.reopen.1 reopened ok
  obtain ⟨size, others, othersText, represents⟩ := exact_.journaled
  obtain ⟨records, text, said⟩ := exact_.tells
  obtain rfl : others = records := inboxCodec.text_injective (othersText.symm.trans text)
  have read : lines inbox.journal = others.map InboxRecord.encode :=
    othersText ▸ lines_unlines (inboxCodec.isLines _)
  obtain ⟨state, loaded, rfl⟩ := (InboxConfig.open_eq_ok size).mp ok
  rw [load, read, foldlM_loadLine represents.fits] at loaded
  have details := detail_replay loaded
  have same : SameInbox inbox.state state :=
    sameInbox_of_detail exact_.wellFormed opened.wellFormed kept.live fun key => by
      rw [details, said]
  refine ⟨⟨opened, ⟨others, text, details⟩, fun key entry found => ?_⟩, same⟩
  -- The loaded entry differs from the one before in its place in the listing only.
  have entries := same.entries key
  change (state.entries.lookup key).map _ = _ at entries
  rw [show state.entries.lookup key = some entry from found] at entries
  obtain ⟨stored, held, alike⟩ := map_eq_some_iff.mp entries.symm
  obtain ⟨delivered, past, cancelledAt, acknowledged, cancelled⟩ := exact_.coherent key stored held
  obtain ⟨_, _, _, _, _, _, _⟩ := stored
  obtain ⟨_, _, _, _, _, _, _⟩ := entry
  simp only [Entry.unnumbered, Entry.mk.injEq] at alike
  obtain ⟨rfl, rfl, rfl, rfl, -, rfl, rfl⟩ := alike
  exact ⟨delivered, past, cancelledAt, acknowledged, cancelled⟩

/-! ### Runs -/

/-- An inbox and the latest reading of its clock. -/
structure TimedInbox where
  inbox : Option FileCommandInbox
  clock : UInt64

def timedStep (config : InboxConfig) (world : TimedInbox) (op : InboxOp) : TimedInbox where
  inbox := inboxStep config world.inbox op
  clock := op.clockAfter world.clock

/-- A fresh inbox, before its clock was read. -/
def InboxConfig.timed (config : InboxConfig) : TimedInbox :=
  ⟨some config.fresh, 0⟩

/-- The operation does not read an earlier time than those before it. -/
def OnTime (world : TimedInbox) (op : InboxOp) : Prop :=
  op.OnTime world.clock

/-- A reopen gives the same inbox. -/
def ReopensSame (config : InboxConfig) (world : TimedInbox) (op : InboxOp) : Prop :=
  ∀ inbox, world.inbox = some inbox → op = .reopen →
    ∃ reopened, config.open inbox.journal = .ok reopened ∧
      SameInbox inbox.state reopened.state

/-- A reopen is taken only while no scope has more live commands than its
quota. -/
def TimedWithinQuota (config : InboxConfig) (world : TimedInbox) (op : InboxOp) : Prop :=
  ReopensWithinQuota config world.inbox op

instance instDecidableOnTime (world : TimedInbox) (op : InboxOp) : Decidable (OnTime world op) :=
  decidable_of_iff (op.now?.all fun now => world.clock ≤ now)
    (by simp [OnTime, InboxOp.OnTime, Option.all_eq_true])

theorem exact_fresh (config : InboxConfig) : Exact config 0 config.fresh where
  toOpenWith := config.fresh_openWith
  tells := ⟨[], rfl, fun key => by
    simp [InboxConfig.fresh, InboxState.detail, InboxState.new, Detail.after, Detail.ownRecords]⟩
  coherent key entry found := by
    simp [InboxConfig.fresh, InboxState.new] at found

/-- The inbox of the world, if there is one, is told by its journal. -/
def ExactWorld (config : InboxConfig) (world : TimedInbox) : Prop :=
  ∀ inbox, world.inbox = some inbox → Exact config world.clock inbox

theorem ExactWorld.step {world op} (exact_ : ExactWorld config world) (onTime : OnTime world op) :
    ExactWorld config (timedStep config world op) := by
  intro after is
  obtain ⟨inbox, clock⟩ := world
  cases inbox with
  | none => cases is
  | some inbox =>
    have here := exact_ inbox rfl
    by_cases isReopen : op = .reopen
    · subst isReopen
      cases ok : config.open inbox.journal with
      | error e => simp [timedStep, inboxStep, ok, Except.toOption] at is
      | ok reopened =>
        obtain rfl : reopened = after := by
          simpa [timedStep, inboxStep, ok, Except.toOption] using is
        exact (here.reopened ok).1
    · obtain ⟨after', stepped, exact'⟩ := here.step isReopen onTime
      obtain rfl := Option.some.inj (stepped.symm.trans is)
      exact exact'

/-- Along every run whose clock does not go back, each reopen gives the inbox as
it was closed, exactly when each is taken with no more live commands in any scope
than its quota. -/
theorem reopens_same_iff (config : InboxConfig) (ops : List InboxOp)
    (onTime : AllSteps (timedStep config) OnTime config.timed ops) :
    AllSteps (timedStep config) (ReopensSame config) config.timed ops ↔
      AllSteps (timedStep config) (TimedWithinQuota config) config.timed ops := by
  have start : ExactWorld config config.timed := by
    rintro _ ⟨⟩
    exact exact_fresh config
  refine allSteps_iff_allSteps (fun _ _ exact_ onTime _ => exact_.step onTime) ?_ start onTime
  rintro ⟨inbox, clock⟩ op exact_ -
  cases inbox with
  | none => exact iff_of_true nofun trivial
  | some inbox =>
    have here := exact_ inbox rfl
    by_cases isReopen : op = .reopen
    · subst isReopen
      have accepted := here.toOpenWith.reopen.2
      constructor
      · intro same
        obtain ⟨reopened, ok, -⟩ := same inbox rfl rfl
        exact accepted.mp ⟨reopened, ok⟩
      · rintro within _ ⟨⟩ -
        obtain ⟨reopened, ok⟩ := accepted.mpr within
        exact ⟨reopened, ok, (here.reopened ok).2⟩
    · refine iff_of_true (fun _ _ is => absurd is isReopen) ?_
      cases op <;> trivial

/-- A command is stored, delivered, and found again. -/
def storedAndDelivered : List InboxOp :=
  [.record (quotaOverrunCommand "A"),
    .claim ⟨"a", 1⟩ (fun _ _ => true) ⟨1, 8⟩ 10 (Scan.stored _ _)]

theorem reopens_same_storedAndDelivered :
    AllSteps (timedStep quotaOverrunConfig) (ReopensSame quotaOverrunConfig)
      quotaOverrunConfig.timed (storedAndDelivered ++ [.reopen]) := by
  refine (reopens_same_iff quotaOverrunConfig _ (by decide +kernel)).mpr
    (allSteps_append.mpr ⟨⟨trivial, trivial, trivial⟩, ?_, trivial⟩)
  have one : ((run (timedStep quotaOverrunConfig) quotaOverrunConfig.timed
      storedAndDelivered).inbox.map fun inbox => inbox.state.entries.keys.length) = some 1 := by
    decide +kernel
  obtain ⟨inbox, is, length⟩ := Option.map_eq_some_iff.mp one
  rw [TimedWithinQuota, is]
  intro scope
  have counted : inbox.state.liveCount scope ≤ inbox.state.entries.keys.length :=
    List.countP_le_length
  change _ ≤ 1
  omega

/-- The counter of a scope, rebuilt without its tombstone, let one command too
many in. -/
theorem quotaOverrun_not_same :
    AllSteps (timedStep quotaOverrunConfig) OnTime quotaOverrunConfig.timed quotaOverrun ∧
      ¬ AllSteps (timedStep quotaOverrunConfig) (ReopensSame quotaOverrunConfig)
        quotaOverrunConfig.timed quotaOverrun := by
  refine ⟨by decide +kernel, fun same => ?_⟩
  have split : quotaOverrun = quotaOverrun.dropLast ++ [.reopen] := rfl
  rw [split] at same
  have opened : (run (timedStep quotaOverrunConfig) quotaOverrunConfig.timed
      quotaOverrun.dropLast).inbox.isSome = true := by decide +kernel
  have lost : (run (timedStep quotaOverrunConfig) quotaOverrunConfig.timed
      quotaOverrun).inbox = none := by
    rw [← Option.isNone_iff_eq_none]
    decide +kernel
  obtain ⟨inbox, is⟩ := Option.isSome_iff_exists.mp opened
  obtain ⟨reopened, ok, -⟩ := same.last inbox is rfl
  rw [split, run_append, run_cons, run_nil, timedStep, is] at lost
  simp [inboxStep, ok, Except.toOption] at lost

end Apex.Inbox
