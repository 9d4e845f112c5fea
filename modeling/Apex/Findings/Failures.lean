import Apex.Findings.Consistency
import Apex.Findings.Reopen

/-!
What a failed call leaves behind in the finding journal.

The store is put back when a record cannot be written, but the writer keeps what
it took of the record: the next write carries it to the file, and the journal
opens again with a finding its caller was refused.
-/

namespace Apex.Findings

open Checked Runs FindingStore

section

variable {sha256 : List UInt8 → String} {capacity : Nat} {journal : FindingJournal}

/-- The call answers with an error. -/
def JournalOp.Fails (sha256 : List UInt8 → String) (journal : FindingJournal) : JournalOp → Prop
  | .append finding outcome => ∃ e, (journal.append sha256 finding outcome).1 = .error e
  | .transition findingId expected next caller actorScope action now outcome =>
      ∃ e, (journal.transition findingId expected next caller actorScope action now outcome).1 =
        .error e
  | .reopen _ => False

theorem commit_of_fails {α : Type} {next record} {outcome : FindingJournal.WriteOutcome}
    {answer : α} (flushed : journal.buffer = []) (untaken : outcome.Untaken)
    (fails : ∃ e, (journal.commit next record outcome answer).1 = .error e) :
    (journal.commit next record outcome answer).2 = journal := by
  rcases (commit_cases flushed untaken :
      (∃ e, journal.commit next record outcome answer = (.error e, journal)) ∨ _) with
    ⟨e, same⟩ | ⟨-, -, written⟩
  · rw [same]
  · rw [written] at fails
    obtain ⟨e, ⟨⟩⟩ := fails

/-- A failed call changes nothing, unless the writer took a part of its record. -/
theorem journalStep_of_fails (flushed : journal.buffer = []) {call : JournalOp}
    (untaken : call.Untaken) (fails : call.Fails sha256 journal) :
    journalStep sha256 capacity journal call = journal := by
  cases call with
  | append finding outcome =>
    simp only [JournalOp.Fails, FindingJournal.append] at fails
    simp only [journalStep, FindingJournal.append]
    cases stored : journal.store.append sha256 finding with
    | error e => rfl
    | ok reply =>
      obtain ⟨accepted, next⟩ := reply
      rw [stored] at fails
      cases accepted with
      | false => obtain ⟨e, ⟨⟩⟩ := fails
      | true => exact commit_of_fails flushed untaken fails
  | transition findingId expected next caller actorScope action now outcome =>
    simp only [JournalOp.Fails, FindingJournal.transition] at fails
    simp only [journalStep, FindingJournal.transition]
    cases changes : journal.store.transition findingId expected next caller actorScope action
        now with
    | error e => rfl
    | ok changed =>
      rw [changes] at fails
      obtain ⟨update, last⟩ : ∃ update, changed.updates.getLast? = some update := by
        simp only [FindingStore.transition, transitionInternal, bind_eq_ok,
          pure_eq_ok] at changes
        obtain ⟨_, -, _, -, _, -, _, -, _, -, rfl⟩ := changes
        exact ⟨_, List.getLast?_concat⟩
      simp only [last] at fails ⊢
      exact commit_of_fails flushed untaken fails
  | reopen clock => exact fails.elim

/-- A replayed journal is a consistent store. -/
theorem consistent_replay {clock records} {store after : FindingStore}
    (consistent : store.Consistent sha256)
    (replayed : replay sha256 clock store records = .ok after) : after.Consistent sha256 := by
  induction records generalizing store with
  | nil =>
    cases replayed
    exact consistent
  | cons record rest ih =>
    simp only [replay, bind_eq_ok] at replayed
    obtain ⟨next, applied, replayed⟩ := replayed
    refine ih (consistent.grows ?_) replayed
    cases record with
    | finding finding =>
      obtain ⟨reply, stored, rfl⟩ := map_eq_ok.mp applied
      exact grows_append stored
    | status update =>
      simp only [applyRecord, transitionReplayed, bind_eq_ok] at applied
      obtain ⟨_, -, changed⟩ := applied
      exact grows_transitionInternal changed

theorem Recorded.consistent (recorded : Recorded sha256 capacity journal) :
    (journal.store.retime (reading fun _ => some 0)).Consistent sha256 := by
  obtain ⟨records, -, -, fresh, made, rebuilds⟩ := recorded.text
  exact consistent_replay (consistent_withQuotas sha256 made)
    (rebuilds (fun _ => some 0) fun _ _ => rfl)

/-- A finding whose append fails is not stored. -/
theorem notMem_of_append_fails (recorded : Recorded sha256 capacity journal) {finding outcome}
    (fails : (JournalOp.append finding outcome).Fails sha256 journal) :
    finding ∉ journal.store.findings := by
  intro mem
  have consistent := recorded.consistent
  have valid := consistent.valid finding mem
  have found : journal.store.find finding.findingId = some finding :=
    consistent.indexed.find_eq_some_iff.mpr ⟨mem, rfl⟩
  have repeated : journal.store.append sha256 finding = .ok (false, journal.store) := by
    simp only [FindingStore.append, valid, FindingStore.admission, found, if_pos, ok_bind]
    rfl
  simp only [JournalOp.Fails, FindingJournal.append, repeated] at fails
  obtain ⟨e, ⟨⟩⟩ := fails

end

/-- **A failed call is forgotten.** Take any run of the journal from an empty
file in which the writer takes nothing of a record whose write fails. A call of
it that answers with an error leaves the journal as it was, a finding it was to
store is not in the store, and the journal opens again, after whatever calls
follow, as if the failed one had not been made. -/
theorem failed_call_forgotten (sha256 : List UInt8 → String) (capacity : Nat)
    (start : FindingJournal) (started : Nat → Option UInt64) (before later : List JournalOp)
    (call : JournalOp) (opened : FindingJournal.open sha256 capacity started [] = .ok start)
    (untaken : ∀ op ∈ before ++ call :: later, op.Untaken)
    (fails : call.Fails sha256 (run (journalStep sha256 capacity) start before)) :
    run (journalStep sha256 capacity) start (before ++ [call]) =
        run (journalStep sha256 capacity) start before ∧
      (∀ finding outcome, call = .append finding outcome →
        finding ∉ (run (journalStep sha256 capacity) start (before ++ [call])).store.findings) ∧
      ∀ clock reopened,
        FindingJournal.open sha256 capacity clock
            (run (journalStep sha256 capacity) start (before ++ call :: later)).close =
          .ok reopened →
        reopened.store =
          (run (journalStep sha256 capacity) start (before ++ later)).store.retime
            (reading clock) := by
  have keep : ∀ journal op, Recorded sha256 capacity journal → JournalOp.Untaken op →
      Recorded sha256 capacity (journalStep sha256 capacity journal op) := by
    intro journal op recorded untaken
    exact recorded_step recorded untaken
  have here : Recorded sha256 capacity (run (journalStep sha256 capacity) start before) := by
    apply run_of_allSteps keep (recorded_open opened)
    exact allSteps_of_forall fun op mem => untaken op (List.mem_append_left _ mem)
  have same : journalStep sha256 capacity (run (journalStep sha256 capacity) start before) call =
      run (journalStep sha256 capacity) start before :=
    journalStep_of_fails here.flushed (untaken call (by simp)) fails
  have skipped : run (journalStep sha256 capacity) start (before ++ call :: later) =
      run (journalStep sha256 capacity) start (before ++ later) := by
    rw [run_append, run_cons, same, ← run_append]
  refine ⟨?_, ?_, ?_⟩
  · rw [run_append, run_cons, same, run_nil]
  · rintro finding outcome rfl
    rw [run_append, run_cons, same, run_nil]
    exact notMem_of_append_fails here fails
  · intro clock reopened opens
    have there : Recorded sha256 capacity
        (run (journalStep sha256 capacity) start (before ++ call :: later)) := by
      apply run_of_allSteps keep (recorded_open opened)
      exact allSteps_of_forall untaken
    rw [(there.open_eq opens).2, skipped]

/-! ### A finding that its caller was refused -/

/-- Another finding, in a scope of its own. -/
def otherFinding : SecurityFinding := .stamped
  { sampleFinding with findingId := "0190a000-0000-7000-8000-000000000003", namespaceId := "m" }

/-- The second of three calls fails. -/
theorem failed_call_forgotten_sample :
    run (journalStep sampleDigest 8) sampleStart
        [.append otherFinding .done, .append sampleFinding .unreadable] =
      run (journalStep sampleDigest 8) sampleStart [.append otherFinding .done] ∧
    sampleFinding ∉ (run (journalStep sampleDigest 8) sampleStart
      [.append otherFinding .done, .append sampleFinding .unreadable]).store.findings ∧
    ∀ clock reopened, FindingJournal.open sampleDigest 8 clock
        (run (journalStep sampleDigest 8) sampleStart [.append otherFinding .done,
          .append sampleFinding .unreadable, .append sampleFinding .done]).close = .ok reopened →
      reopened.store = (run (journalStep sampleDigest 8) sampleStart
        [.append otherFinding .done, .append sampleFinding .done]).store.retime
          (reading clock) := by
  have fails : (JournalOp.append sampleFinding .unreadable).Fails sampleDigest
      (run (journalStep sampleDigest 8) sampleStart [.append otherFinding .done]) := by
    refine ⟨.io, ?_⟩
    decide +kernel
  obtain ⟨same, absent, reopens⟩ := failed_call_forgotten sampleDigest 8 sampleStart (fun _ => none)
    [.append otherFinding .done] [.append sampleFinding .done]
    (.append sampleFinding .unreadable) rfl
    (by simp [JournalOp.Untaken, FindingJournal.WriteOutcome.Untaken]) fails
  simp only [List.singleton_append] at same absent reopens
  exact ⟨same, absent sampleFinding .unreadable rfl, reopens⟩

/-- The flush of the first record fails with the record in the writer, the second
is written, and the journal opens again with both. -/
theorem refusedFinding_reopens :
    let first := sampleStart.append sampleDigest sampleFinding (.failed 1000 0)
    let second := first.2.append sampleDigest otherFinding .done
    (first.1 = .error .io ∧ second.1 = .ok true) ∧
      sampleFinding ∉ second.2.store.findings ∧
      (FindingJournal.open sampleDigest 8 (fun _ => none) second.2.close).toOption.map
        (fun reopened => decide (sampleFinding ∈ reopened.store.findings)) = some true := by
  decide +kernel

end Apex.Findings
