import Apex.Inbox.Recovery

/-!
What one operation does to the delivery state of an open inbox.

`inboxStep_effect` is said once for all later invariants: apart from a reopen,
an operation leaves the state as it was, records one command, marks one poll's
deliveries, acknowledges or cancels one command, or sweeps. Undone changes and
compactions do not show (`Alike`). `Entry.Coherent` is the first such invariant:
the delivery data of an entry fit each other, and no delivery lies in the future.
-/

namespace Apex.Inbox

open Checked Control FileCommandInbox Lines Saturating InboxState List

/-! ### Effects -/

/-- The same commands in the same order, the same tombstones and the same next
sequence number. The keys of past commands in the order do not count. -/
structure Alike (before after : InboxState) : Prop where
  entries : ∀ key, after.entries.lookup key = before.entries.lookup key
  retired : ∀ key, after.retired.lookup key = before.retired.lookup key
  order : after.liveOrder = before.liveOrder
  nextSequence : after.nextSequence = before.nextSequence

namespace Alike

theorem refl (state : InboxState) : Alike state state :=
  ⟨fun _ => rfl, fun _ => rfl, rfl, rfl⟩

/-- An entry changed and changed back. -/
theorem undone {state : InboxState} {key entry f g}
    (found : state.entries.lookup key = some entry) (back : g (f entry) = entry) :
    Alike state ((state.updateEntry key f).updateEntry key g) where
  entries other := by
    simp only [updateEntry, KeyMap.lookup_modify]
    split_ifs with same
    · rw [same, found, Option.map_some, Option.map_some, back]
    · rfl
  retired _ := rfl
  order := by rw [liveOrder_updateEntry, liveOrder_updateEntry]
  nextSequence := rfl

theorem compacted (state : InboxState) :
    Alike state { state with order := state.order.filter (· ∈ state.entries) } where
  entries _ := rfl
  retired _ := rfl
  order := by
    simp only [liveOrder, filter_filter, Bool.and_self]
  nextSequence := rfl

end Alike

/-- The state after an operation, and the commands it handed out. -/
inductive Effect (before : InboxState) : InboxOp → List PendingCommand → InboxState → Prop where
  | nothing {op after} (alike : Alike before after) :
      Effect before op [] after
  | recorded {command after} (admitted : before.checkRecordable command = .ok none)
      (alike : Alike (before.insertRecorded command) after) :
      Effect before (.record command) [] after
  | delivered {target allows policy now scan after}
      (alike : Alike (markAll now (before.deliverable target allows policy now) before).2 after) :
      Effect before (.claim target allows policy now scan)
        (markAll now (before.deliverable target allows policy now) before).1 after
  | acknowledged {target key deliveryAttempt now entry after}
      (found : before.entries.lookup key = some entry) (delivered : entry.attempts ≠ 0)
      (alike : Alike (before.updateEntry key fun entry => { entry with acknowledged := true })
        after) :
      Effect before (.acknowledge target key deliveryAttempt now) [] after
  | cancelled {key now entry after} (found : before.entries.lookup key = some entry)
      (undelivered : entry.attempts = 0)
      (alike : Alike (before.updateEntry key (cancelledEntry now)) after) :
      Effect before (.cancel key now) [] after
  | swept {now retention maxAttempts scan after}
      (alike : Alike (swept before now (sub64 now retention) maxAttempts) after) :
      Effect before (.maintain now retention maxAttempts scan) [] after

/-- The data of an entry fit each other. A delivered entry has its last delivery
time, not after the clock; a cancelled one has its cancellation time. Only
delivered entries are acknowledged, only undelivered ones cancelled. -/
structure Entry.Coherent (clock : UInt64) (entry : Entry) : Prop where
  delivered : entry.attempts = 0 ↔ entry.lastDeliveredMillis = none
  past : ∀ last, entry.lastDeliveredMillis = some last → last ≤ clock
  cancelledAt : entry.cancelled = false ↔ entry.cancelledAtMillis = none
  acknowledged : entry.acknowledged = true → entry.attempts ≠ 0
  cancelled : entry.cancelled = true → entry.attempts = 0

/-- Every entry of the state is coherent. -/
def InboxState.Coherent (clock : UInt64) (state : InboxState) : Prop :=
  ∀ key entry, state.entries.lookup key = some entry → entry.Coherent clock

/-- An entry that is not cancelled has no cancellation time. -/
def InboxState.Dated (state : InboxState) : Prop :=
  ∀ key entry, state.entries.lookup key = some entry → entry.cancelled = false →
    entry.cancelledAtMillis = none

variable {clock : UInt64} {inbox : FileCommandInbox}

theorem InboxState.Coherent.dated {state : InboxState} (coherent : state.Coherent clock) :
    state.Dated :=
  fun key entry found => (coherent key entry found).cancelledAt.mp

theorem alike_compact {compacted scan} (ok : inbox.compact scan = .ok compacted) :
    Alike inbox.state compacted.state := by
  simp only [compact, bind_eq_ok, pure_eq_ok] at ok
  obtain ⟨_, -, rfl⟩ := ok
  exact .compacted inbox.state

theorem Rewritten.alike {after} (rewritten : Rewritten inbox after) :
    Alike inbox.state after.state := by
  cases rewritten with
  | counted count => exact .refl _
  | compacted ok => exact alike_compact ok

/-- A change that was taken back is none. -/
theorem Restored.alike {before after : InboxState} {op} (dated : before.Dated)
    (restored : Restored before op after) : Alike before after := by
  cases restored with
  | acknowledge found fresh => exact .undone found (by rw [← fresh])
  | @cancel key now entry found fresh =>
    have time := dated key entry found fresh
    refine .undone found ?_
    simp only [cancelledEntry, ← fresh, ← time]

theorem Turn.effect {op given handed after} (turn : Turn inbox op given handed after)
    (dated : inbox.state.Dated) : Effect inbox.state op handed after.state := by
  cases turn with
  | still => exact .nothing (.refl _)
  | restored restored => exact .nothing (restored.alike dated)
  | written writes ok rewritten =>
    have alike := rewritten.alike
    cases writes with
    | record recordable admitted => exact .recorded admitted alike
    | claim => exact .delivered alike
    | acknowledge found own delivered => exact .acknowledged found delivered alike
    | cancel found undelivered => exact .cancelled found undelivered alike
  | swept ok => exact .swept (alike_compact ok)

/-- What an operation other than a reopen does. -/
theorem inboxStep_effect (config : InboxConfig) (dated : inbox.state.Dated) {op}
    (notReopen : op ≠ .reopen) {after} (stepped : inboxStep config (some inbox) op = some after) :
    Effect inbox.state op (handedOut inbox op) after.state := by
  rw [inboxStep_eq notReopen] at stepped
  obtain rfl := Option.some.inj stepped
  exact (turn inbox op).effect dated

/-- An operation whose append fails does nothing. -/
theorem alike_undone (dated : inbox.state.Dated) (op : InboxOp) :
    Alike inbox.state (undone inbox op) := by
  rcases (attempt inbox op).2 with same | restored
  · rw [same]
    exact .refl _
  · exact restored.alike dated

/-! ### The clock -/

/-- The time an operation reads. -/
def InboxOp.now? : InboxOp → Option UInt64
  | .claim _ _ _ now _ | .acknowledge _ _ _ now | .cancel _ now | .maintain now _ _ _ => some now
  | .record _ | .reopen => none

/-- The clock after an operation. -/
def InboxOp.clockAfter (op : InboxOp) (clock : UInt64) : UInt64 :=
  op.now?.getD clock

/-- The clock does not go back. -/
def InboxOp.OnTime (op : InboxOp) (clock : UInt64) : Prop :=
  ∀ now, op.now? = some now → clock ≤ now

theorem InboxOp.OnTime.le_clockAfter {op : InboxOp} (onTime : op.OnTime clock) :
    clock ≤ op.clockAfter clock := by
  unfold InboxOp.clockAfter
  cases reads : op.now? with
  | none => exact UInt64.le_refl _
  | some now => exact onTime now reads

/-! ### Coherence -/

namespace Entry.Coherent

variable {entry : Entry} {now : UInt64}

theorem mono (coherent : entry.Coherent clock) (later : clock ≤ now) : entry.Coherent now :=
  { coherent with past := fun last is => UInt64.le_trans (coherent.past last is) later }

theorem fresh (clock : UInt64) (command : PendingCommand) (sequence : UInt64) :
    (freshEntry command sequence).Coherent clock :=
  ⟨iff_of_true rfl rfl, nofun, iff_of_true rfl rfl, nofun, nofun⟩

theorem markedDelivered (coherent : entry.Coherent clock) (live : entry.cancelled = false)
    (now : UInt64) : (deliveredEntry now entry).Coherent now where
  delivered := iff_of_false (next32_ne_zero _) nofun
  past last is := by
    obtain rfl := Option.some.inj is
    exact UInt64.le_refl _
  cancelledAt := coherent.cancelledAt
  acknowledged _ := next32_ne_zero _
  cancelled is := absurd (live.symm.trans is) nofun

theorem markedAcknowledged (coherent : entry.Coherent clock) (delivered : entry.attempts ≠ 0) :
    Coherent clock { entry with acknowledged := true } :=
  { coherent with acknowledged := fun _ => delivered }

theorem markedCancelled (coherent : entry.Coherent clock) (undelivered : entry.attempts = 0)
    (now : UInt64) : (cancelledEntry now entry).Coherent clock :=
  { coherent with
    cancelledAt := iff_of_false nofun nofun
    cancelled := fun _ => undelivered }

end Entry.Coherent

variable {before after : InboxState} {op : InboxOp} {handed : List PendingCommand}

theorem InboxState.Coherent.alike (coherent : before.Coherent clock)
    (alike : Alike before after) : after.Coherent clock :=
  fun key entry found => coherent key entry ((alike.entries key).symm.trans found)

theorem InboxState.Coherent.mono {now} (coherent : before.Coherent clock) (later : clock ≤ now) :
    before.Coherent now :=
  fun key entry found => (coherent key entry found).mono later

/-- What is removed leaves the rest as it was. -/
theorem lookup_swept {now cutoff maxAttempts key entry}
    (found : (swept before now cutoff maxAttempts).entries.lookup key = some entry) :
    before.entries.lookup key = some entry := by
  have kept : ∀ entry, (retireAll before (settled before now cutoff
      maxAttempts)).entries.lookup key = some entry → before.entries.lookup key = some entry := by
    refine retireSettled_induction (P := fun state => ∀ entry,
      state.entries.lookup key = some entry → before.entries.lookup key = some entry)
      ?_ (fun _ => id) now cutoff maxAttempts
    intro state other at_ holds _ entry found
    simp only [retire, KeyMap.lookup_erase_eq] at found
    split_ifs at found
    exact holds entry found
  exact kept entry found

theorem mem_deliverable {state : InboxState} {target allows policy now key}
    (mem : key ∈ state.deliverable target allows policy now) :
    ∃ entry, state.entries.lookup key = some entry ∧
      isDeliverable target allows policy now entry = true := by
  have chosen := (mem_filter.mp (mem_of_mem_take mem)).2
  simpa only [Option.any_eq_true] using chosen

/-- Every operation keeps the entries coherent. -/
theorem Effect.coherent (effect : Effect before op handed after) (nodup : before.order.Nodup)
    (coherent : before.Coherent clock) (onTime : op.OnTime clock) :
    after.Coherent (op.clockAfter clock) := by
  have later := coherent.mono onTime.le_clockAfter
  cases effect with
  | nothing alike => exact later.alike alike
  | recorded admitted alike =>
    refine InboxState.Coherent.alike ?_ alike
    exact KeyMap.Each.insert coherent (.fresh _ _ _)
  | @delivered target allows policy now scan _ alike =>
    refine InboxState.Coherent.alike (fun key entry found => ?_) alike
    have distinct : (before.deliverable target allows policy now).Nodup :=
      (nodup.filter _).sublist (take_sublist _ _)
    rw [lookup_markAll now distinct] at found
    split_ifs at found with chosen
    · obtain ⟨stored, held, rfl⟩ := Option.map_eq_some_iff.mp found
      obtain ⟨entry, held', may⟩ := mem_deliverable chosen
      obtain rfl := Option.some.inj (held.symm.trans held')
      simp only [isDeliverable, Bool.and_eq_true, Bool.not_eq_true'] at may
      exact (coherent key stored held).markedDelivered may.1.2 now
    · exact later key entry found
  | @acknowledged _ key _ now stored _ held delivered alike =>
    refine InboxState.Coherent.alike ?_ alike
    refine KeyMap.Each.modify later fun entry found => ?_
    obtain rfl := Option.some.inj (held.symm.trans found)
    exact (later key stored held).markedAcknowledged delivered
  | @cancelled key now stored _ held undelivered alike =>
    refine InboxState.Coherent.alike ?_ alike
    refine KeyMap.Each.modify later fun entry found => ?_
    obtain rfl := Option.some.inj (held.symm.trans found)
    exact (later key stored held).markedCancelled undelivered now
  | swept alike =>
    refine InboxState.Coherent.alike (fun key entry found => ?_) alike
    exact later key entry (lookup_swept found)

end Apex.Inbox
