import Apex.Inbox.Detail
import Apex.Lib.TornLines

/-!
How a command stands, in the state of an inbox and in its journal.

`Standing` is what an inbox owes to those it answered: that a command is there,
how often it was delivered, and whether it is acknowledged, cancelled or
retired. It is the part of a `Detail` without delivery times. A record of the
journal acts on it by `Standing.note`, which only ever moves forward, and the loader
and the operations act on it as their records do (`standing_replay`,
`standing_markAll`).
So the standing of every command is read back from the journal
(`Told`), whatever happens to the rest of the state.
-/

namespace Apex.Inbox

open Checked Control Lines Saturating FileCommandInbox Runs InboxState List KeyMap

/-- The delivery data an answer speaks of. -/
structure Progress where
  command : PendingCommand
  attempts : UInt32
  acknowledged : Bool
  cancelled : Bool
  deriving DecidableEq, Repr

inductive Standing where
  | unknown
  | live (progress : Progress)
  | retired
  deriving DecidableEq, Repr

def Entry.progress (entry : Entry) : Progress :=
  ⟨entry.command, entry.attempts, entry.acknowledged, entry.cancelled⟩

/-- How a key stands in a state. -/
def InboxState.standing (state : InboxState) (key : InboxKey) : Standing :=
  match state.entries.lookup key with
  | some entry => .live entry.progress
  | none => if key ∈ state.retired then .retired else .unknown

namespace Standing

/-- What a record of its own says about a command. -/
def noteOwn : Standing → InboxRecord → Standing
  | .unknown, .command stored => .live ⟨stored, 0, false, false⟩
  | .live progress, .delivered _ attempt _ =>
      .live { progress with attempts := max progress.attempts attempt }
  | .live progress, .acknowledged _ _ => .live { progress with acknowledged := true }
  | .live progress, .cancelled _ _ => .live { progress with cancelled := true }
  | _, .retired _ _ => .retired
  | standing, _ => standing

/-- What a record says about a command. -/
def note (key : InboxKey) (standing : Standing) (record : InboxRecord) : Standing :=
  if record.key = key then standing.noteOwn record else standing

/-- Nothing an answer speaks of is lost. -/
def Advances : Standing → Standing → Prop
  | .unknown, _ => True
  | .live before, .live after =>
      after.command = before.command ∧ before.attempts ≤ after.attempts ∧
        (before.acknowledged = true → after.acknowledged = true) ∧
        (before.cancelled = true → after.cancelled = true)
  | .live _, .retired => True
  | .retired, .retired => True
  | .live _, .unknown => False
  | .retired, _ => False

theorem Advances.refl (standing : Standing) : standing.Advances standing := by
  cases standing with
  | unknown => trivial
  | live progress => exact ⟨rfl, UInt32.le_refl _, id, id⟩
  | retired => trivial

theorem Advances.trans {first second third : Standing} (before : first.Advances second)
    (after : second.Advances third) : first.Advances third := by
  cases first with
  | unknown => trivial
  | live p =>
    cases second with
    | unknown => exact before.elim
    | retired =>
      cases third with
      | retired => trivial
      | unknown | live => exact after.elim
    | live q =>
      cases third with
      | unknown => exact after.elim
      | retired => trivial
      | live r =>
        exact ⟨after.1.trans before.1, UInt32.le_trans before.2.1 after.2.1,
          fun acked => after.2.2.1 (before.2.2.1 acked),
          fun gone => after.2.2.2 (before.2.2.2 gone)⟩
  | retired =>
    cases second with
    | retired => exact after
    | unknown | live => exact before.elim

/-- A record loses nothing. -/
theorem advances_note (key : InboxKey) (standing : Standing) (record : InboxRecord) :
    standing.Advances (standing.note key record) := by
  unfold note
  split_ifs
  · cases standing with
    | unknown => trivial
    | retired => cases record <;> trivial
    | live progress =>
      cases record with
      | command stored => exact .refl _
      | delivered _ attempt _ =>
        refine ⟨rfl, ?_, id, id⟩
        rw [UInt32.le_iff_toNat_le]
        change _ ≤ (max progress.attempts attempt).toNat
        simp only [Max.max]
        split_ifs with le
        · exact UInt32.le_iff_toNat_le.mp le
        · exact Nat.le_refl _
      | acknowledged _ _ => exact ⟨rfl, UInt32.le_refl _, fun _ => rfl, id⟩
      | retired _ _ => trivial
      | cancelled _ _ => exact ⟨rfl, UInt32.le_refl _, id, fun _ => rfl⟩
  · exact .refl standing

/-- How a command stands after records. -/
def after (key : InboxKey) (standing : Standing) (records : List InboxRecord) : Standing :=
  records.foldl (note key) standing

theorem after_append (key : InboxKey) (standing : Standing) (first second : List InboxRecord) :
    after key standing (first ++ second) = after key (after key standing first) second :=
  foldl_append

theorem advances_after (key : InboxKey) (standing : Standing) (records : List InboxRecord) :
    standing.Advances (after key standing records) := by
  induction records generalizing standing with
  | nil => exact .refl standing
  | cons record rest ih => exact (advances_note key standing record).trans (ih _)

/-- Only the records about a command say something about it. -/
theorem after_eq_own (key : InboxKey) (standing : Standing) (records : List InboxRecord) :
    after key standing records = (Detail.ownRecords key records).foldl noteOwn standing := by
  rw [after, Detail.ownRecords, foldl_filter]
  simp only [decide_eq_true_eq]
  rfl

end Standing

open Standing

/-! ### The state acts on standings as its records do -/

namespace InboxState

variable {state : InboxState} {key : InboxKey}

theorem standing_of_lookup {entry} (found : state.entries.lookup key = some entry) :
    state.standing key = .live entry.progress := by
  simp only [standing, found]

theorem standing_of_notMem (absent : state.entries.lookup key = none) :
    state.standing key = if key ∈ state.retired then .retired else .unknown := by
  simp only [standing, absent]

theorem standing_eq_unknown :
    state.standing key = .unknown ↔ key ∉ state.entries ∧ key ∉ state.retired := by
  cases found : state.entries.lookup key with
  | some entry =>
    rw [standing_of_lookup found]
    refine ⟨nofun, fun absent => absurd (mem_of_lookup found) absent.1⟩
  | none =>
    rw [standing_of_notMem found]
    have notLive : key ∉ state.entries := AList.lookup_eq_none.mp found
    split_ifs with retired
    · exact ⟨nofun, fun absent => absurd retired absent.2⟩
    · exact ⟨fun _ => ⟨notLive, retired⟩, fun _ => rfl⟩

end InboxState

/-! ### Standings and details -/

/-- What a detail says of the standing. -/
def Detail.standing : Detail → Standing
  | .unknown => .unknown
  | .live entry => .live entry.progress
  | .retired _ => .retired

theorem Detail.standing_note (detail : Detail) (record : InboxRecord) :
    (detail.note record).standing = detail.standing.noteOwn record := by
  cases detail <;> cases record <;> rfl

section Details

variable {state after : InboxState} {key : InboxKey} {records : List InboxRecord}

theorem standing_detail (state : InboxState) (key : InboxKey) :
    state.standing key = (state.detail key).standing := by
  cases found : state.entries.lookup key with
  | some entry =>
    rw [standing_of_lookup found, detail_of_lookup found]
    rfl
  | none =>
    rw [standing_of_notMem found, detail_of_notMem found]
    simp only [mem_iff_isSome]
    cases state.retired.lookup key <;> rfl

theorem Detail.standing_after (detail : Detail) :
    (Detail.after key detail records).standing = Standing.after key detail.standing records := by
  rw [after_eq_own, Detail.after]
  exact (foldl_hom Detail.standing fun detail record =>
    (detail.standing_note record).symm).symm

/-- A change of the detail that records tell of is one of the standing. -/
theorem standing_of_detail
    (told : after.detail key = Detail.after key (state.detail key) records) :
    after.standing key = Standing.after key (state.standing key) records := by
  rw [standing_detail, told, standing_detail, Detail.standing_after]

/-- A replay leaves every command where its records say. -/
theorem standing_replay {capacity scopeQuota}
    (replayed : replay capacity scopeQuota records = .ok state) (key : InboxKey) :
    state.standing key = Standing.after key .unknown records := by
  rw [standing_detail, detail_replay replayed, Detail.standing_after]
  rfl

/-- The deliveries of a poll act on standings as their records do. -/
theorem standing_markAll (now : UInt64) {keys : List InboxKey} (nodup : keys.Nodup)
    (key : InboxKey) :
    (markAll now keys state).2.standing key =
      Standing.after key (state.standing key) (claimRecords state keys now) := by
  have retired : (markAll now keys state).2.retired = state.retired :=
    (dataOnly_markAll now keys state).retired
  have looked := @lookup_markAll state key now keys nodup
  rw [after_eq_own, ownRecords_claimRecords nodup]
  split_ifs at looked ⊢ with mem
  · cases found : state.entries.lookup key with
    | none =>
      rw [found] at looked
      rw [standing_of_notMem looked, standing_of_notMem found, retired]
      split_ifs <;> rfl
    | some entry =>
      rw [found] at looked
      rw [standing_of_lookup looked, standing_of_lookup found]
      simp only [foldl_cons, foldl_nil, deliveryRecord, found, noteOwn,
        Entry.progress, deliveredEntry, Option.elim_some, max_next32]
  · simp only [InboxState.standing, looked, retired, foldl_nil]

/-- What a poll hands out, it has counted. -/
theorem markAll_delivered (now : UInt64) {keys : List InboxKey} (nodup : keys.Nodup)
    (own : ∀ key entry, state.entries.lookup key = some entry → entry.command.key = key) {command}
    (delivered : command ∈ (markAll now keys state).1) :
    ∃ progress, (markAll now keys state).2.standing command.key = .live progress ∧
      command.deliveryAttempt ≤ progress.attempts := by
  rw [commands_markAll now nodup] at delivered
  obtain ⟨key, mem, handed⟩ := mem_filterMap.mp delivered
  obtain ⟨entry, found, rfl⟩ := Option.map_eq_some_iff.mp handed
  have looked := @lookup_markAll state key now keys nodup
  rw [if_pos mem, found] at looked
  have keyed : entry.handedOut.key = key := own key entry found
  rw [keyed, standing_of_lookup looked]
  exact ⟨_, rfl, UInt32.le_refl _⟩

end Details

/-! ### Snapshots -/

section Snapshots

variable {state : InboxState} {key : InboxKey}

/-- The records of an entry rebuild its standing. -/
theorem note_entryRecords_progress (key : InboxKey) (entry : Entry) :
    (entryRecords key entry).foldl Standing.noteOwn .unknown = .live entry.progress := by
  have delivered : (if 0 < entry.attempts then
      [.delivered key entry.attempts (entry.lastDeliveredMillis.getD 0)] else []).foldl
        noteOwn (.live ⟨entry.command, 0, false, false⟩) =
      .live ⟨entry.command, entry.attempts, false, false⟩ := by
    split_ifs with some_
    · have larger : max 0 entry.attempts = entry.attempts := by
        simp only [Max.max, if_pos (UInt32.le_of_lt some_)]
      simp [noteOwn, larger]
    · have none_ : entry.attempts = 0 :=
        UInt32.le_antisymm (UInt32.not_lt.mp some_) UInt32.zero_le
      rw [none_]
      rfl
  have acknowledged (attempts : UInt32) : (if entry.acknowledged then
      [.acknowledged key (entry.lastDeliveredMillis.getD 0)] else []).foldl noteOwn
        (.live ⟨entry.command, attempts, false, false⟩) =
      .live ⟨entry.command, attempts, entry.acknowledged, false⟩ := by
    cases entry.acknowledged <;> simp [noteOwn]
  have cancelled (attempts : UInt32) (acknowledged : Bool) : (if entry.cancelled then
      [.cancelled key (entry.cancelledAtMillis.getD 0)] else []).foldl noteOwn
        (.live ⟨entry.command, attempts, acknowledged, false⟩) =
      .live ⟨entry.command, attempts, acknowledged, entry.cancelled⟩ := by
    cases entry.cancelled <;> simp [noteOwn]
  simp only [entryRecords, foldl_append, foldl_cons, foldl_nil]
  change List.foldl _ (List.foldl _ (List.foldl _
    (live ⟨entry.command, 0, false, false⟩) _) _) _ = _
  rw [delivered, acknowledged, cancelled]
  rfl

/-- A snapshot rebuilds every standing. -/
theorem after_snapshot (wf : state.WellFormed) (scan : Scan InboxKey UInt64) (key : InboxKey) :
    Standing.after key .unknown (snapshotRecords state scan) = state.standing key := by
  rw [after_eq_own, ownRecords_snapshot wf]
  cases found : state.entries.lookup key with
  | none =>
    rw [standing_of_notMem found]
    simp only [mem_iff_isSome]
    cases state.retired.lookup key <;> rfl
  | some entry =>
    rw [standing_of_lookup found]
    exact note_entryRecords_progress key entry

end Snapshots

end Apex.Inbox
