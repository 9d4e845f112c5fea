import Apex.Inbox.Recovery

/-!
An inbox whose writes and compactions fail, and the share of a scope in it.

A compaction writes a second file, gives up its handle, renames the second file
over the journal and opens it again, and may fail at each of these. A sweep whose
compaction failed puts the commands back in memory, also where the journal was
replaced already; without a handle nothing is written until the inbox is opened
again.

`always_balanced_of_untombstoned`: whatever fails, the counters are right and the
shares respected in every run that opens no file with a tombstone in it.
-/

namespace Apex.Inbox

open Checked Control Lines Saturating FileCommandInbox Runs InboxState List KeyMap

/-- Where a compaction stops. -/
inductive CompactFault where
  /-- Making, writing or syncing the second file. -/
  | write
  /-- The rename, and whether the journal can be opened again after it. -/
  | rename (reopens : Bool)
  /-- Opening the renamed file. -/
  | reopen
  deriving DecidableEq, Repr

/-- What goes wrong during one operation. An append that stops after `reached`
bytes leaves them in the file; where it reached the end, the sync failed. -/
inductive InboxFault where
  | append (reached : Nat)
  | compact (fault : CompactFault)
  deriving DecidableEq, Repr

/-- The inbox with its file handle, which a failed compaction leaves closed. -/
structure HeldInbox extends FileCommandInbox where
  file : Bool

/-- What `compact` leaves where it fails. -/
def failedCompact (inbox : FileCommandInbox) (scan : Scan InboxKey UInt64) (fault : CompactFault) :
    HeldInbox :=
  match encodeRecords (snapshotRecords inbox.state scan), fault with
  | .ok encoded, .reopen => ⟨{ inbox with journal := encoded }, false⟩
  | .ok _, .rename false => ⟨inbox, false⟩
  | _, _ => ⟨inbox, true⟩

/-- A poll whose compaction fails, if it comes to that. -/
def failedClaim (inbox : FileCommandInbox) (target : PollTarget)
    (allows : String → String → Bool) (policy : DeliveryPolicy) (now : UInt64)
    (scan : Scan InboxKey UInt64) (fault : CompactFault) : HeldInbox :=
  let keys := inbox.state.deliverable target allows policy now
  match inbox.appendBatch (claimRecords inbox.state keys now) with
  | .error _ => ⟨inbox, true⟩
  | .ok appended =>
      let claimed : FileCommandInbox :=
        { appended with
          state := (markAll now keys appended.state).2
          deliveryRecordsSinceCompaction :=
            appended.deliveryRecordsSinceCompaction + keys.length }
      if byteLength claimed.journal < inboxCompactionThresholdBytes ∨
          claimed.deliveryRecordsSinceCompaction < inboxCompactionDeliveryRecords then
        ⟨claimed, true⟩
      else failedCompact claimed scan fault

/-- A sweep whose compaction fails, if it comes to that. -/
def failedMaintain (inbox : FileCommandInbox) (now retention : UInt64) (maxAttempts : UInt32)
    (scan : Scan InboxKey UInt64) (fault : CompactFault) : HeldInbox :=
  let cutoff := sub64 now retention
  let retirements := settled inbox.state now cutoff maxAttempts
  let (expired, state) := (retireAll inbox.state retirements).removeExpiredRetired cutoff
  if retirements.isEmpty && !expired then ⟨inbox, true⟩
  else { failedCompact { inbox with state } scan fault with state := inbox.state }

/-- The inbox after an operation on it. Without a handle every append and every
compaction is refused. -/
def HeldInbox.served (held : HeldInbox) (op : InboxOp) (fault : Option InboxFault) : HeldInbox :=
  if !held.file then { held with state := undone held.toFileCommandInbox op }
  else
    match fault, op with
    | some (.append reached), op =>
        if (inFlight held.toFileCommandInbox op).isEmpty then
          ⟨held.toFileCommandInbox.served op, true⟩
        else ⟨failedWrite held.toFileCommandInbox op reached, true⟩
    | some (.compact fault), .claim target allows policy now scan =>
        failedClaim held.toFileCommandInbox target allows policy now scan fault
    | some (.compact fault), .maintain now retention maxAttempts scan =>
        failedMaintain held.toFileCommandInbox now retention maxAttempts scan fault
    | _, op => ⟨held.toFileCommandInbox.served op, true⟩

/-- One step of a run; after a reopen that failed there is no inbox. -/
def heldStep (config : InboxConfig) :
    Option HeldInbox → InboxOp × Option InboxFault → Option HeldInbox
  | none, _ => none
  | some held, (.reopen, _) => (config.open held.journal).toOption.map (⟨·, true⟩)
  | some held, (op, fault) => some (held.served op fault)

/-- The records a text is read as. -/
def journalRecords (journal : List Char) : List InboxRecord :=
  (lines journal).filterMap InboxRecord.decode

/-- A file that is opened again holds no record of a retired command. -/
def ReopensUntombstoned : Option HeldInbox → InboxOp × Option InboxFault → Prop
  | world, (.reopen, _) => ∀ held ∈ world, retiredKeys (journalRecords held.journal) = []
  | _, _ => True

/-- The shares are respected and the counters right in the open inbox. -/
def WorldBalanced (config : InboxConfig) (world : Option HeldInbox) : Prop :=
  ∀ held ∈ world, held.state.Balanced config.scopeQuota

/-! ### The operations -/

variable {config : InboxConfig} {inbox : FileCommandInbox} {held : HeldInbox}
  {state after : InboxState} {journal : List Char}

theorem failedCompact_state (inbox : FileCommandInbox) (scan : Scan InboxKey UInt64)
    (fault : CompactFault) : (failedCompact inbox scan fault).state = inbox.state := by
  unfold failedCompact
  split <;> rfl

theorem failedClaim_dataOnly (inbox : FileCommandInbox) (target : PollTarget)
    (allows : String → String → Bool) (policy : DeliveryPolicy) (now : UInt64)
    (scan : Scan InboxKey UInt64) (fault : CompactFault) :
    DataOnly inbox.state (failedClaim inbox target allows policy now scan fault).state := by
  unfold failedClaim
  dsimp only
  split
  · exact .refl _
  · next appended ok =>
      have same : appended.state = inbox.state := by rw [(appendBatch_eq_ok ok).1]
      have marked := dataOnly_markAll now (inbox.state.deliverable target allows policy now)
        inbox.state
      split_ifs
      · simpa only [same] using marked
      · simpa only [failedCompact_state, same] using marked

theorem failedMaintain_state (inbox : FileCommandInbox) (now retention : UInt64)
    (maxAttempts : UInt32) (scan : Scan InboxKey UInt64) (fault : CompactFault) :
    (failedMaintain inbox now retention maxAttempts scan fault).state = inbox.state := by
  unfold failedMaintain
  dsimp only
  split_ifs <;> rfl

/-- Whatever fails, an operation makes one of its changes to the memory or none. -/
theorem HeldInbox.served_change (wf : held.state.WellFormed) (op : InboxOp)
    (fault : Option InboxFault) :
    (held.served op fault).state.WellFormed ∧ Change held.state (held.served op fault).state := by
  have undone := undone_dataOnly held.toFileCommandInbox op
  have served := (turn held.toFileCommandInbox op).change wf
  unfold HeldInbox.served
  split_ifs
  · exact undone.change wf
  · split
    · split_ifs
      · exact served
      · exact undone.change wf
    · exact (failedClaim_dataOnly ..).change wf
    · rw [failedMaintain_state]
      exact ⟨wf, .same (.refl _)⟩
    · exact served

/-! ### The file -/

/-- A well-formed state with the configured share, respected and counted. -/
structure Shared (config : InboxConfig) (state : InboxState) : Prop where
  wellFormed : state.WellFormed
  scopeQuota : state.scopeQuota = config.scopeQuota
  balanced : state.Balanced config.scopeQuota

theorem Shared.new (config : InboxConfig) :
    Shared config (InboxState.new config.capacity config.scopeQuota) :=
  ⟨wellFormed_new _ _, rfl, fun _ => ⟨Nat.zero_le _, rfl⟩⟩

theorem Shared.change (shared : Shared config state)
    (change : after.WellFormed ∧ Change state after) : Shared config after :=
  ⟨change.1, change.2.limits.2.trans shared.scopeQuota,
    change.2.balanced shared.wellFormed shared.scopeQuota shared.balanced⟩

theorem Shared.applyRecord (shared : Shared config state) {record}
    (untombstoned : retiredKeys [record] = []) (ok : state.applyRecord record = .ok after) :
    Shared config after := by
  have data (key : InboxKey) {f : Entry → Entry} (command : ∀ entry,
      (f entry).command = entry.command) : Shared config (state.updateEntry key f) :=
    shared.change ((dataOnly_updateEntry state key command).change shared.wellFormed)
  cases record with
  | command stored =>
    simp only [InboxState.applyRecord, InboxState.record, bind_eq_ok, ensure_eq_ok] at ok
    obtain ⟨_, recordable, ⟨_, _⟩, ⟨known, checked, recorded⟩, is⟩ := ok
    cases known with
    | some result =>
      cases recorded
      cases is
      exact shared
    | none =>
      cases recorded
      cases is
      exact shared.change ⟨shared.wellFormed.insertRecorded recordable checked,
        .recorded stored checked (.refl _)⟩
  | delivered key attempt atMillis | acknowledged key _ | cancelled key atMillis =>
    cases ok
    exact data key fun _ => rfl
  | retired key at_ => cases untombstoned

/-- The loader takes a text without tombstones, whoever wrote it, into a state whose
shares are respected and counted. -/
theorem Shared.load (untombstoned : retiredKeys (journalRecords journal) = [])
    (ok : load config.capacity config.scopeQuota journal = .ok state) : Shared config state := by
  suffices replayed : ∀ (rows : List (List Char)) (before : InboxState), Shared config before →
      retiredKeys (rows.filterMap InboxRecord.decode) = [] →
      rows.foldlM InboxState.loadLine before = .ok state → Shared config state from
    replayed (lines journal) _ (.new config) untombstoned ok
  intro rows
  induction rows with
  | nil =>
    intro before shared _ ok
    cases ok
    exact shared
  | cons line rest ih =>
    intro before shared untombstoned ok
    rw [foldlM_cons, bind_eq_ok] at ok
    obtain ⟨next, first, others⟩ := ok
    simp only [InboxState.loadLine, bind_eq_ok, ensure_eq_ok, require_eq_ok] at first
    obtain ⟨_, -, record, decoded, applied⟩ := first
    rw [filterMap_cons_some decoded, ← singleton_append, retiredKeys_append,
      append_eq_nil_iff] at untombstoned
    exact ih next (shared.applyRecord untombstoned.1 applied) untombstoned.2 others

/-! ### Runs -/

theorem shared_step {world call} (shared : ∀ held ∈ world, Shared config held.state)
    (reopens : ReopensUntombstoned world call) :
    ∀ held ∈ heldStep config world call, Shared config held.state := by
  obtain ⟨op, fault⟩ := call
  intro after stepped
  cases world with
  | none => cases stepped
  | some held =>
    by_cases isReopen : op = .reopen
    · subst isReopen
      obtain ⟨reopened, opened, rfl⟩ := Option.map_eq_some_iff.mp stepped
      have ok : config.open held.journal = .ok reopened := by
        cases opens : config.open held.journal with
        | error e => simp [opens, Except.toOption] at opened
        | ok inbox => simpa [opens, Except.toOption] using opened
      simp only [InboxConfig.open, FileCommandInbox.open, bind_eq_ok, ensure_eq_ok,
        pure_eq_ok] at ok
      obtain ⟨_, -, _, -, _, -, state, loaded, rfl⟩ := ok
      exact .load (reopens held rfl) loaded
    · have served : heldStep config (some held) (op, fault) = some (held.served op fault) := by
        cases op with
        | reopen => exact absurd rfl isReopen
        | _ => rfl
      obtain rfl := Option.some.inj (served.symm.trans stepped)
      have here := shared held rfl
      exact here.change (held.served_change here.wellFormed op fault)

/-- In every state of a run each scope is within its share and its counter is
right, while no file that is opened again holds a tombstone. Any write may stop
anywhere and any compaction may fail. -/
theorem always_balanced_of_untombstoned (config : InboxConfig)
    (calls : List (InboxOp × Option InboxFault))
    (untombstoned : AllSteps (heldStep config) ReopensUntombstoned (some ⟨config.fresh, true⟩)
      calls) :
    Always (heldStep config) (WorldBalanced config) (some ⟨config.fresh, true⟩) calls := by
  have start : ∀ held ∈ some (HeldInbox.mk config.fresh true), Shared config held.state := by
    rintro _ ⟨⟩
    exact .new config
  have keep (world : Option HeldInbox) (call : InboxOp × Option InboxFault)
      (shared : ∀ held ∈ world, Shared config held.state) :=
    @shared_step config world call shared
  refine (always_of_allSteps keep start untombstoned).mono fun world shared held mem => ?_
  exact (shared held mem).balanced

/-- An append and two compactions fail; the tombstone is dropped before the file is
opened again. -/
def untombstonedCalls : List (InboxOp × Option InboxFault) :=
  [(.record (quotaOverrunCommand "A"), some (.append 0)),
    (.record (quotaOverrunCommand "A"), none),
    (.claim ⟨"a", 1⟩ (fun _ _ => true) ⟨1, 8⟩ 10 (Scan.stored _ _), some (.compact .write)),
    (.acknowledge ⟨"a", 1⟩ ⟨"w", "n", "A"⟩ 1 10, none),
    (.maintain 20 5 8 (Scan.stored _ _), some (.compact (.rename false))),
    (.reopen, none),
    (.maintain 20 5 8 (Scan.stored _ _), none),
    (.maintain 30 5 8 (Scan.stored _ _), none),
    (.reopen, none),
    (.record (quotaOverrunCommand "B"), none)]

theorem always_balanced_of_untombstoned_calls :
    Always (heldStep quotaOverrunConfig) (WorldBalanced quotaOverrunConfig)
      (some ⟨quotaOverrunConfig.fresh, true⟩) untombstonedCalls := by
  have untombstoned {world : Option HeldInbox} (none_ : (world.all fun held =>
      (retiredKeys (journalRecords held.journal)).isEmpty) = true) :
      ∀ held ∈ world, retiredKeys (journalRecords held.journal) = [] := by
    rintro held rfl
    simpa using none_
  refine always_balanced_of_untombstoned _ _ ⟨trivial, trivial, trivial, trivial, trivial,
    untombstoned ?_, trivial, trivial, untombstoned ?_, trivial, trivial⟩
  · decide +kernel
  · decide +kernel

/-- A sweep fails after the rename: the command is live in memory and retired in
the file. -/
def renamedOverrun : List (InboxOp × Option InboxFault) :=
  [(.record (quotaOverrunCommand "A"), none),
    (.claim ⟨"a", 1⟩ (fun _ _ => true) ⟨1, 8⟩ 10 (Scan.stored _ _), none),
    (.acknowledge ⟨"a", 1⟩ ⟨"w", "n", "A"⟩ 1 10, none),
    (.maintain 20 5 8 (Scan.stored _ _), some (.compact .reopen)),
    (.reopen, none),
    (.record (quotaOverrunCommand "B"), none)]

/-- After the restart and the second command the one share is used twice. -/
theorem quotaOverrun_not_balanced :
    ¬ Always (heldStep quotaOverrunConfig) (WorldBalanced quotaOverrunConfig)
        (some ⟨quotaOverrunConfig.fresh, true⟩) (quotaOverrun.map (·, none)) ∧
      ¬ Always (heldStep quotaOverrunConfig) (WorldBalanced quotaOverrunConfig)
        (some ⟨quotaOverrunConfig.fresh, true⟩) renamedOverrun := by
  have overruns {calls} (tracked : ((run (heldStep quotaOverrunConfig)
      (some ⟨quotaOverrunConfig.fresh, true⟩) (calls.take 6)).map fun held =>
        held.state.tracked ⟨"w", "n"⟩) = some 2) :
      ¬ Always (heldStep quotaOverrunConfig) (WorldBalanced quotaOverrunConfig)
        (some ⟨quotaOverrunConfig.fresh, true⟩) calls := by
    intro always
    obtain ⟨held, reached, two⟩ := Option.map_eq_some_iff.mp tracked
    have overrun := always (calls.take 6) (calls.drop 6) (take_append_drop 6 calls).symm
    have within : held.state.tracked ⟨"w", "n"⟩ ≤ 1 := (overrun held reached ⟨"w", "n"⟩).1
    omega
  constructor
  · exact overruns (by decide +kernel)
  · exact overruns (by decide +kernel)

end Apex.Inbox
