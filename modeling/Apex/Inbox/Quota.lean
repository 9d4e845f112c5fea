import Apex.Inbox.Replay
import Apex.Inbox.Turns
import Apex.Lib.Runs

/-!
Runs of one inbox over one file, and the share of a scope in it.

A run may record, deliver, acknowledge, cancel and sweep, and close the inbox
and open it again over the file it wrote. The quota of a scope is enforced by a
counter. The counter is rebuilt by the replay from the command records alone,
while the sweep that drops a tombstone takes one off it, so the two agree only
where no tombstone was carried over a restart.

* `reopens_succeed_iff`: every reopen succeeds exactly when no scope has more
  live commands than its quota at any of them.
* `Change.balanced`: the operations keep the counters right and the shares
  respected.
-/

namespace Apex.Inbox

open Control FileCommandInbox Runs List Option KeyMap

/-- One step of a run. A refused operation leaves what it left; after a reopen
that failed there is no inbox. -/
def inboxStep (config : InboxConfig) : Option FileCommandInbox → InboxOp → Option FileCommandInbox
  | none, _ => none
  | some inbox, .record command => some (inbox.record command).2
  | some inbox, .claim target allows policy now scan =>
      some (inbox.claim target allows policy now scan).2
  | some inbox, .acknowledge target key deliveryAttempt now =>
      some (inbox.acknowledge target key deliveryAttempt now).2
  | some inbox, .cancel key now => some (inbox.cancel key now).2
  | some inbox, .maintain now retention maxAttempts scan =>
      some (inbox.maintain now retention maxAttempts scan).2
  | some inbox, .reopen => (config.open inbox.journal).toOption

variable {config : InboxConfig} {inbox : FileCommandInbox}

theorem inboxStep_eq {op} (notReopen : op ≠ .reopen) :
    inboxStep config (some inbox) op = some (inbox.served op) := by
  cases op with
  | reopen => exact absurd rfl notReopen
  | _ => rfl

/-- The operations of an open inbox other than a reopen leave it open. -/
theorem inboxStep_open (opened : OpenWith config inbox) {op} (notReopen : op ≠ .reopen) :
    ∃ after, inboxStep config (some inbox) op = some after ∧ OpenWith config after := by
  have sound := (turn inbox op).sound opened.toSound
  obtain ⟨-, change⟩ := (turn inbox op).change opened.wellFormed
  exact ⟨_, inboxStep_eq notReopen, ⟨sound, change.limits.1.trans opened.capacity,
    change.limits.2.trans opened.scopeQuota⟩⟩

/-- There is an open inbox. -/
def Running (config : InboxConfig) (world : Option FileCommandInbox) : Prop :=
  ∃ inbox, world = some inbox ∧ OpenWith config inbox

/-! ### Every reopen succeeds -/

/-- A reopen is taken only while no scope has more live commands than its
quota. -/
def ReopensWithinQuota (config : InboxConfig) : Option FileCommandInbox → InboxOp → Prop
  | some inbox, .reopen => ∀ scope, inbox.state.liveCount scope ≤ config.scopeQuota
  | _, _ => True

/-- Every reopen of the journal the inbox wrote succeeds exactly when each of
them is taken with no more live commands in any scope than its quota. -/
theorem reopens_succeed_iff (config : InboxConfig) (ops : List InboxOp) :
    Always (inboxStep config) (fun world => world.isSome) (some config.fresh) ops ↔
      AllSteps (inboxStep config) (ReopensWithinQuota config) (some config.fresh) ops := by
  have start : Running config (some config.fresh) := ⟨_, rfl, config.fresh_openWith⟩
  refine always_iff_allSteps ?_ ?_ ?_ start (allSteps_of_forall fun _ _ => trivial)
  · rintro _ op ⟨inbox, rfl, opened⟩ - within
    by_cases isReopen : op = .reopen
    · subst isReopen
      obtain ⟨sound, accepted⟩ := opened.reopen
      obtain ⟨reopened, ok⟩ := accepted.mpr within
      exact ⟨reopened, by simp [inboxStep, ok, Except.toOption], (sound reopened ok).1⟩
    · obtain ⟨after, stepped, opened'⟩ := inboxStep_open opened isReopen
      exact ⟨after, stepped, opened'⟩
  · rintro _ ⟨inbox, rfl, -⟩
    rfl
  · rintro _ op ⟨inbox, rfl, opened⟩ - survives
    cases op with
    | reopen =>
      refine opened.reopen.2.mp ?_
      cases ok : config.open inbox.journal with
      | ok reopened => exact ⟨reopened, rfl⟩
      | error e => simp [inboxStep, ok, Except.toOption] at survives
    | _ => trivial

/-- One share, used up by a command that is settled, kept as a tombstone over a
restart and then dropped; two more commands enter in its place. -/
def quotaOverrunConfig : InboxConfig :=
  ⟨9, 1, by decide, by decide, by decide, by decide⟩

def quotaOverrunCommand (commandId : String) : PendingCommand where
  commandId := commandId
  workspaceId := "w"
  namespaceId := "n"
  agentId := "a"
  runId := "r"
  traceId := "t"
  action := "stop"
  reasonCode := none
  parameters := []
  issuedAt := "z"
  deliveryAttempt := 0

def quotaOverrun : List InboxOp :=
  [.record (quotaOverrunCommand "A"),
    .claim ⟨"a", 1⟩ (fun _ _ => true) ⟨1, 8⟩ 10 (Scan.stored _ _),
    .acknowledge ⟨"a", 1⟩ ⟨"w", "n", "A"⟩ 1 10,
    .maintain 20 5 8 (Scan.stored _ _),
    .reopen,
    .record (quotaOverrunCommand "B"),
    .maintain 30 5 8 (Scan.stored _ _),
    .record (quotaOverrunCommand "C"),
    .reopen]

theorem quotaOverrun_reopen_fails :
    ¬ Always (inboxStep quotaOverrunConfig) (fun world => world.isSome)
      (some quotaOverrunConfig.fresh) quotaOverrun := by
  intro always
  exact absurd always.last (by decide +kernel)

/-! ### The counters -/

/-- How many commands of a scope the inbox tracks. -/
def InboxState.tracked (state : InboxState) (scope : ExactScope) : Nat :=
  state.liveCount scope + state.retiredCount scope

/-- Every scope keeps within its share, and its counter says how much of it is
used. -/
def InboxState.Balanced (scopeQuota : Nat) (state : InboxState) : Prop :=
  ∀ scope, state.tracked scope ≤ scopeQuota ∧ state.scopeCount scope = state.tracked scope

namespace InboxState

variable {state before after : InboxState} {scopeQuota : Nat}

theorem SameKeys.liveCount_eq (same : SameKeys before after) (scope : ExactScope) :
    after.liveCount scope = before.liveCount scope := by
  rw [liveCount, KeyMap.countKeys, same.entries, liveCount, KeyMap.countKeys]

theorem SameKeys.tracked_eq (same : SameKeys before after) (scope : ExactScope) :
    after.tracked scope = before.tracked scope := by
  rw [tracked, same.liveCount_eq, retiredCount, same.retired, tracked, retiredCount]

theorem SameKeys.balanced (same : SameKeys before after) (balanced : before.Balanced scopeQuota) :
    after.Balanced scopeQuota := by
  intro scope
  rw [same.tracked_eq, scopeCount, same.scopeCounts]
  exact balanced scope

/-- An admitted command takes a free slot of its scope's share. -/
theorem Balanced.insertRecorded (balanced : state.Balanced scopeQuota) {command}
    (quota : state.scopeQuota = scopeQuota) (admitted : state.checkRecordable command = .ok none) :
    (state.insertRecorded command).Balanced scopeQuota := by
  obtain ⟨fresh, -, -, share⟩ := checkRecordable_eq_none admitted
  intro scope
  obtain ⟨within, counted⟩ := balanced scope
  have live : (state.insertRecorded command).liveCount scope =
      state.liveCount scope + if command.scope = scope then 1 else 0 := by
    rw [liveCount, InboxState.insertRecorded, countKeys_insert_of_notMem fresh, liveCount]
    simp only [decide_eq_true_eq]
    rfl
  have count : (state.insertRecorded command).scopeCount scope =
      state.scopeCount scope + if command.scope = scope then 1 else 0 := by
    rw [scopeCount, InboxState.insertRecorded, lookup_insert_eq]
    by_cases same : scope = command.scope
    · rw [if_pos same, if_pos same.symm, same, getD_some]
    · rw [if_neg same, if_neg (Ne.symm same), Nat.add_zero, scopeCount]
  have retired : (state.insertRecorded command).retiredCount scope = state.retiredCount scope := rfl
  unfold tracked at within counted ⊢
  rw [live, count, retired, counted]
  refine ⟨?_, by omega⟩
  split_ifs with same
  · rw [same, quota, counted] at share
    omega
  · exact within

/-- Retiring a live command moves it from one count to the other. -/
theorem tracked_retire (wf : state.WellFormed) {key} (live : key ∈ state.entries) (at_ : UInt64)
    (scope : ExactScope) :
    (state.retire key at_).tracked scope = state.tracked scope := by
  have erased := countKeys_erase_of_mem live fun key => decide (key.scope = scope)
  have inserted := countKeys_insert_of_notMem (wf.disjoint key live) at_
    fun key => decide (key.scope = scope)
  change KeyMap.countKeys (AList.erase key state.entries) _ +
    KeyMap.countKeys (AList.insert key at_ state.retired) _ = _
  rw [inserted, tracked, liveCount, retiredCount, ← erased]
  omega

/-- The counter of a scope after one of its slots was given back. -/
theorem lookup_releaseScope (counts : KeyMap ExactScope Nat) (scope other : ExactScope) :
    ((releaseScope counts scope).lookup other).getD 0 =
      (counts.lookup other).getD 0 - if scope = other then 1 else 0 := by
  unfold releaseScope
  by_cases same : scope = other
  · subst same
    rw [if_pos rfl]
    cases found : counts.lookup scope with
    | none => simp [found]
    | some count =>
      dsimp only
      split_ifs with last
      · rw [AList.lookup_erase, getD_none, getD_some, last]
      · rw [AList.lookup_insert, getD_some, getD_some]
  · rw [if_neg same, Nat.sub_zero]
    cases counts.lookup scope with
    | none => rfl
    | some count =>
      dsimp only
      split_ifs
      · rw [lookup_erase_eq, if_neg (Ne.symm same)]
      · rw [lookup_insert_eq, if_neg (Ne.symm same)]

theorem lookup_foldl_releaseScope (scopes : List ExactScope) (counts : KeyMap ExactScope Nat)
    (other : ExactScope) :
    ((scopes.foldl releaseScope counts).lookup other).getD 0 =
      (counts.lookup other).getD 0 - scopes.countP (fun scope => scope = other) := by
  induction scopes generalizing counts with
  | nil => rfl
  | cons scope rest ih =>
    rw [foldl_cons, ih, lookup_releaseScope, countP_cons, Nat.sub_sub, Nat.add_comm]
    simp only [decide_eq_true_eq]

/-- Dropping tombstones gives their slots back. -/
theorem Balanced.removeExpiredRetired (balanced : state.Balanced scopeQuota) (cutoff : UInt64) :
    (state.removeExpiredRetired cutoff).2.Balanced scopeQuota := by
  intro scope
  obtain ⟨within, counted⟩ := balanced scope
  have split := countKeys_retain state.retired (fun _ at_ => !(at_ ≤ cutoff))
    fun key => decide (key.scope = scope)
  simp only [Bool.not_not] at split
  have count : (state.removeExpiredRetired cutoff).2.scopeCount scope = state.scopeCount scope -
      ((state.retired.entries.filter fun entry => decide (entry.2 ≤ cutoff)).map
        Sigma.fst).countP fun key => decide (key.scope = scope) := by
    change ((List.foldl releaseScope state.scopeCounts _).lookup scope).getD 0 = _
    rw [lookup_foldl_releaseScope, countP_map, countP_map]
    rfl
  have live : (state.removeExpiredRetired cutoff).2.liveCount scope = state.liveCount scope := rfl
  have retired : (state.removeExpiredRetired cutoff).2.retiredCount scope =
      (state.retired.retain fun _ at_ => !(at_ ≤ cutoff)).countKeys
        fun key => decide (key.scope = scope) := rfl
  unfold tracked retiredCount at within counted
  rw [tracked, live, retired, count, counted]
  omega

theorem Balanced.swept (balanced : state.Balanced scopeQuota) (wf : state.WellFormed)
    (now cutoff : UInt64) (maxAttempts : UInt32) :
    (swept state now cutoff maxAttempts).Balanced scopeQuota := by
  refine Balanced.removeExpiredRetired ?_ cutoff
  have retired := retireSettled_induction (P := fun after => after.WellFormed ∧
      after.Balanced scopeQuota) ?_ ⟨wf, balanced⟩ now cutoff maxAttempts
  · exact retired.2
  · rintro state key at_ ⟨wf, balanced⟩ live
    refine ⟨wf.retire live at_, fun scope => ?_⟩
    rw [tracked_retire wf live]
    exact balanced scope

end InboxState

theorem Change.balanced {before after} (change : Change before after) {scopeQuota}
    (wf : before.WellFormed) (quota : before.scopeQuota = scopeQuota)
    (balanced : before.Balanced scopeQuota) : after.Balanced scopeQuota := by
  cases change with
  | same same => exact same.balanced balanced
  | recorded command admitted same => exact same.balanced (balanced.insertRecorded quota admitted)
  | swept now cutoff maxAttempts same =>
    exact same.balanced (balanced.swept wf now cutoff maxAttempts)

end Apex.Inbox
