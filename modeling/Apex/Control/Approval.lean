import Apex.Control.Error
import Apex.Lib.KeyMap
import Apex.Lib.Runs
import Apex.Outbox.Record

/-!
The two-party approval gate for `force_stop`.

The gate is a table of first approvals that wait for a second one. Time is the
monotone clock of the process. `approved_run_iff` is the two-party rule.
-/

namespace Apex.Control

open Outbox Runs

/-- `APPROVAL_TTL`, in nanoseconds. -/
def approvalTtl : Nat := 15 * 60 * 1000000000

def maxTrackedApprovals : Nat := 4096

structure ApprovalKey where
  workspaceId : String
  namespaceId : String
  commandId : String
  deriving DecidableEq, Repr

structure PendingApproval where
  fingerprint : Fingerprint
  firstOperatorSubject : String
  createdAt : Nat

/-- A submission, with what the gate keeps of it as a first approval. -/
structure Submission where
  key : ApprovalKey
  approval : PendingApproval

inductive ApprovalOutcome where
  | awaitingSecond
  | alreadyApprovedBySameOperator
  | approved
  | fieldMismatch
  deriving DecidableEq, Repr

structure DualApprovalGate where
  pending : KeyMap ApprovalKey PendingApproval

namespace DualApprovalGate

def new : DualApprovalGate := ⟨∅⟩

/-- The first approvals that are not too old. -/
def prune (gate : DualApprovalGate) (now : Nat) : DualApprovalGate :=
  ⟨gate.pending.retain fun _ entry => now - entry.createdAt < approvalTtl⟩

def submit (gate : DualApprovalGate) (key : ApprovalKey) (fingerprint : Fingerprint)
    (operatorSubject : String) (now : Nat) :
    Except CommandError ApprovalOutcome × DualApprovalGate :=
  let gate := gate.prune now
  match gate.pending.lookup key with
  | some entry =>
      if entry.fingerprint ≠ fingerprint then (.ok .fieldMismatch, gate)
      else if entry.firstOperatorSubject = operatorSubject then
        (.ok .alreadyApprovedBySameOperator, gate)
      else (.ok .approved, ⟨AList.erase key gate.pending⟩)
  | none =>
      if maxTrackedApprovals ≤ gate.pending.keys.length then (.error .rateLimited, gate)
      else
        (.ok .awaitingSecond, ⟨AList.insert key ⟨fingerprint, operatorSubject, now⟩ gate.pending⟩)

/-! ### Runs of the gate -/

def serve (gate : DualApprovalGate) (call : Submission) :
    Except CommandError ApprovalOutcome × DualApprovalGate :=
  gate.submit call.key call.approval.fingerprint call.approval.firstOperatorSubject
    call.approval.createdAt

def step (gate : DualApprovalGate) (call : Submission) : DualApprovalGate :=
  (gate.serve call).2

/-- The submission finds the first approval of the key in time, and is not approved by it. -/
def Leaves (key : ApprovalKey) (entry : PendingApproval) (gate : DualApprovalGate)
    (call : Submission) : Prop :=
  call.approval.createdAt - entry.createdAt < approvalTtl ∧
    (call.key = key → (gate.serve call).1 ≠ .ok .approved)

variable {gate : DualApprovalGate} {key : ApprovalKey} {entry : PendingApproval}
  {call : Submission} {calls : List Submission}

theorem lookup_prune {now : Nat} : (gate.prune now).pending.lookup key = some entry ↔
    gate.pending.lookup key = some entry ∧ now - entry.createdAt < approvalTtl := by
  simp [prune, KeyMap.lookup_retain, Option.filter_eq_some_iff]

theorem lookup_step : (gate.step call).pending.lookup key = some entry ↔
    (call.key = key ∧ call.approval = entry ∧ (gate.serve call).1 = .ok .awaitingSecond) ∨
      (gate.pending.lookup key = some entry ∧ Leaves key entry gate call) := by
  rw [Leaves, ← and_assoc (a := gate.pending.lookup key = _), ← lookup_prune]
  simp only [step, serve, submit]
  cases found : (gate.prune call.approval.createdAt).pending.lookup call.key with
  | none =>
    dsimp only
    split_ifs
    · simp
    · rw [KeyMap.lookup_insert_eq]
      by_cases same : key = call.key
      · subst same
        simp [found]
      · simp [same, Ne.symm same]
  | some waiting =>
    dsimp only
    split_ifs
    · simp
    · simp
    · rw [KeyMap.lookup_erase_eq]
      by_cases same : key = call.key
      · simp [same]
      · simp [same, Ne.symm same]

theorem approved_iff : (gate.serve call).1 = .ok .approved ↔
    ∃ entry, (gate.prune call.approval.createdAt).pending.lookup call.key = some entry ∧
      entry.fingerprint = call.approval.fingerprint ∧
      entry.firstOperatorSubject ≠ call.approval.firstOperatorSubject := by
  simp only [serve, submit]
  cases found : (gate.prune call.approval.createdAt).pending.lookup call.key with
  | none =>
    dsimp only
    split_ifs <;> simp
  | some waiting =>
    dsimp only
    split_ifs <;> simp_all

/-- The first approvals that wait are those that were submitted and left since. -/
theorem waiting_iff : (run step .new calls).pending.lookup key = some entry ↔
    ∃ before first after, calls = before ++ first :: after ∧ first.key = key ∧
      first.approval = entry ∧ ((run step .new before).serve first).1 = .ok .awaitingSecond ∧
      AllSteps step (Leaves key entry) (run step .new (before ++ [first])) after := by
  constructor
  · intro held
    induction calls using List.reverseRecOn with
    | nil => cases held
    | append_singleton calls last ih =>
      rw [run_append, run_cons, run_nil, lookup_step] at held
      rcases held with ⟨named, is, awaits⟩ | ⟨held, leaves⟩
      · exact ⟨calls, last, [], rfl, named, is, awaits, trivial⟩
      · obtain ⟨before, first, after, rfl, named, is, awaits, left⟩ := ih held
        refine ⟨before, first, after ++ [last], by simp, named, is, awaits,
          allSteps_append.mpr ⟨left, ?_, trivial⟩⟩
        simpa using leaves
  · rintro ⟨before, first, after, rfl, named, is, awaits, left⟩
    have keeps (gate : DualApprovalGate) (later : Submission)
        (held : gate.pending.lookup key = some entry) (leaves : Leaves key entry gate later) :=
      lookup_step.mpr (.inr ⟨held, leaves⟩)
    rw [List.append_cons, run_append]
    refine run_of_allSteps keeps ?_ left
    rw [run_append, run_cons, run_nil]
    exact lookup_step.mpr (.inl ⟨named, is, awaits⟩)

/-- The two-party rule, along every run of the gate: a submission is approved exactly when
another operator's submission of the same command opened the round, is still in time, and
no submission of the round was approved since. -/
theorem approved_run_iff (calls : List Submission) (call : Submission) :
    ((run step .new calls).serve call).1 = .ok .approved ↔
      ∃ before first after, calls = before ++ first :: after ∧ first.key = call.key ∧
        first.approval.fingerprint = call.approval.fingerprint ∧
        first.approval.firstOperatorSubject ≠ call.approval.firstOperatorSubject ∧
        call.approval.createdAt - first.approval.createdAt < approvalTtl ∧
        ((run step .new before).serve first).1 = .ok .awaitingSecond ∧
        AllSteps step (Leaves call.key first.approval) (run step .new (before ++ [first]))
          after := by
  simp only [approved_iff, lookup_prune, waiting_iff]
  constructor
  · rintro ⟨_, ⟨⟨before, first, after, is, named, rfl, awaits, left⟩, fresh⟩, same, other⟩
    exact ⟨before, first, after, is, named, same, other, fresh, awaits, left⟩
  · rintro ⟨before, first, after, is, named, same, other, fresh, awaits, left⟩
    exact ⟨_, ⟨⟨before, first, after, is, named, rfl, awaits, left⟩, fresh⟩, same, other⟩

end DualApprovalGate

end Apex.Control
