import Apex.Journal.Transitions

/-!
Fencing over whole histories of the journal.

A history is a journal with the leases that were granted and the operations that
were created so far. `Fenced` is what a step owes to the history before it, and
`journal_fenced` shows it of every step of every run: whatever the order of
submissions, leases, observations and marks, however clocks read and leases
expire, and wherever commits are lost.
-/

namespace Apex.OperationJournal

open Checked Domain Proxy Runs Transactions List AList KeyMap

/-! ### Histories -/

structure History where
  journal : Journal
  /-- Every lease granted so far, the last one last. -/
  grants : List (Target × LeasedOperation)
  /-- Every request accepted so far, with the operation it created. -/
  accepted : List (SubmitOperation × ProxyOperation)

def History.empty : History := ⟨.empty, [], []⟩

def historyStep (wire : Wire) (digest : String → String) (history : History)
    (action : JournalAction) : History where
  journal := journalStep wire digest history.journal action
  grants := history.grants ++ granted history.journal action
  accepted := history.accepted ++ created wire digest history.journal action

/-- The worker holds the lease of the proxy: it presents what was granted
last. -/
def Holds (history : History) (target : Target) (lease : LeasedOperation) : Prop :=
  ∃ before after grant, history.grants = before ++ (target, grant) :: after ∧
    (∀ later ∈ after, later.1 ≠ target) ∧ grant.workerId = lease.workerId ∧
    grant.fencingToken = lease.fencingToken ∧
    grant.operation.operationId = lease.operation.operationId ∧
    grant.operation.generation = lease.operation.generation

/-- The generation of a proxy. -/
def generationOf (journal : Journal) (target : Target) : Option Int :=
  ((journal.proxies.lookup target.proxyId).filter fun row => row.scope = target.scope).map
    ProxyRow.deploymentGeneration

/-- The request again, as it was or with evidence that was made anew. -/
def Resubmits (wire : Wire) (input again : SubmitOperation) : Prop :=
  again = input ∨ SameRequest wire input again ∧
    ∃ intent, validatedIntent wire again.target again.requestId again.evidence = .ok intent

section Fenced

variable (wire : Wire) (digest : String → String) (history : History) (action : JournalAction)

/-- A new operation takes the proxy to the next generation, and nothing else
moves a generation. -/
def RaisesGeneration : Prop :=
  (∀ input operation, (input, operation) ∈ created wire digest history.journal action →
    ∃ generation, generationOf history.journal input.target = some generation ∧
      generationOf (historyStep wire digest history action).journal input.target =
        some (generation + 1) ∧
      (operation.generation.toNat : Int) = generation + 1) ∧
  ∀ target generation, generationOf history.journal target = some generation →
    generationOf (historyStep wire digest history action).journal target = some generation ∨
      ∃ input operation, (input, operation) ∈ created wire digest history.journal action ∧
        input.target = target

/-- A granted lease has a larger fence than every earlier one of the proxy. -/
def RaisesFence : Prop :=
  ∀ target leased, (target, leased) ∈ granted history.journal action →
    ∀ earlier, (target, earlier) ∈ history.grants → earlier.fencingToken < leased.fencingToken

/-- The action is an observation of the operation by the holder of the live
lease for the current generation. -/
def ObservedByHolder (operationId : String) : Prop :=
  ∃ target lease state error event now later fault,
    action = .observe target lease state error event now later fault ∧
    lease.operation.operationId = operationId ∧ Holds history target lease ∧
    LiveLease history.journal target lease now ∧ LiveLease history.journal target lease later ∧
    generationOf history.journal target = some lease.operation.generation.toNat

/-- The result of an operation changes only by such an observation. -/
def ChangesOnlyHeld : Prop :=
  ∀ id row, history.journal.operations.lookup id = some row →
    ∃ row', (historyStep wire digest history action).journal.operations.lookup id = some row' ∧
      row'.acceptedResult = row.acceptedResult ∧
      (row'.currentResult ≠ row.currentResult → ObservedByHolder history action id)

/-- A completed operation stays as it is. An observation of it is answered only
if its event was recorded before, with what was recorded. -/
def KeepsCompleted : Prop :=
  ∀ id row, history.journal.operations.lookup id = some row →
    row.currentResult.observedState.isComplete = true →
    (historyStep wire digest history action).journal.operations.lookup id = some row ∧
      match action with
      | .observe target lease state error event now later fault =>
          lease.operation.operationId = id → ∀ answer,
            (observeAnswer wire history.journal target lease state error event now later
              fault).1 = .ok answer →
            ∃ intent, validatedIntent wire target lease.operation.requestId event = .ok intent ∧
              Recorded history.journal target id intent.eventId intent.payloadHash state error
                answer
      | _ => True

/-- A request that is submitted again is answered with the operation it created,
and nothing changes. -/
def RepeatsAnswer : Prop :=
  match action with
  | .submit again operationId now fault => ∀ input operation,
      (input, operation) ∈ history.accepted → Resubmits wire input again →
      (fault = none → (submitAnswer wire digest history.journal again operationId now fault).1 =
        .ok operation) ∧
      historyStep wire digest history action = history
  | _ => True

structure Fenced : Prop where
  generation : RaisesGeneration wire digest history action
  fence : RaisesFence history action
  results : ChangesOnlyHeld wire digest history action
  completed : KeepsCompleted wire digest history action
  requests : RepeatsAnswer wire digest history action

end Fenced

/-! ### The invariant -/

/-- The row of an accepted request. -/
def AcceptedRow (wire : Wire) (digest : String → String) (journal : Journal)
    (input : SubmitOperation) (operation : ProxyOperation) : Prop :=
  ∃ prepared id row, prepare wire digest input = .ok prepared ∧
    journal.operations.lookup id = some row ∧ row.target = input.target ∧
    row.requestId = input.requestId ∧ row.requestHash = prepared.hash ∧
    row.acceptedResult = operation

/-- The lease of a proxy is the one granted last, and no earlier grant has a
larger fence. -/
def LeaseTracked (history : History) (target : Target) (row : LeaseRow) : Prop :=
  (∃ before after grant, history.grants = before ++ (target, grant) :: after ∧
    (∀ later ∈ after, later.1 ≠ target) ∧ row.workerId = grant.workerId ∧
    row.fencingToken = grant.fencingToken.toNat ∧
    row.operationId = grant.operation.operationId ∧
    row.generation = grant.operation.generation.toNat) ∧
  ∀ earlier, (target, earlier) ∈ history.grants →
    (earlier.fencingToken.toNat : Int) ≤ row.fencingToken

/-- A result carries the identity and the generation of its row, and a request
has one row. -/
structure OwnRows (journal : Journal) : Prop where
  own : ∀ id row, journal.operations.lookup id = some row →
    row.currentResult.operationId = id ∧
      (row.currentResult.generation.toNat : Int) = row.generation
  unique : ∀ id id' row row', journal.operations.lookup id = some row →
    journal.operations.lookup id' = some row' → row.requestId = row'.requestId → id = id'

/-- Every accepted request has its row, and its proxy can be locked. -/
def TellsAccepted (wire : Wire) (digest : String → String) (history : History) : Prop :=
  ∀ input operation, (input, operation) ∈ history.accepted →
    AcceptedRow wire digest history.journal input operation ∧
      ∃ row, history.journal.lockProxy input.target = .ok row

structure TracksLeases (history : History) : Prop where
  leased : ∀ target row, history.journal.leases.lookup target = some row →
    LeaseTracked history target row
  unleased : ∀ target, history.journal.leases.lookup target = none →
    ∀ grant ∈ history.grants, grant.1 ≠ target

structure Consistent (wire : Wire) (digest : String → String) (history : History) : Prop where
  rows : OwnRows history.journal
  accepted : TellsAccepted wire digest history
  leases : TracksLeases history

variable {wire : Wire} {digest : String → String} {history : History} {action : JournalAction}
  {journal after : Journal} {target : Target} {operation : ProxyOperation} {generation : Int}

theorem consistent_empty : Consistent wire digest .empty where
  rows := ⟨fun _ _ found => (nomatch found), fun _ _ _ _ found => (nomatch found)⟩
  accepted _ _ mem := nomatch mem
  leases := ⟨fun _ _ found => (nomatch found), fun _ _ _ mem => (nomatch mem)⟩

/-! ### Proxies -/

theorem generationOf_eq_some :
    generationOf journal target = some generation ↔ ∃ row,
      journal.proxies.lookup target.proxyId = some row ∧ row.scope = target.scope ∧
        row.deploymentGeneration = generation := by
  simp only [generationOf, Option.map_eq_some_iff, Option.filter_eq_some_iff, decide_eq_true_eq,
    and_assoc]

theorem KeepsProxies.keeps_generation (keeps : KeepsProxies journal after)
    (is : generationOf journal target = some generation) :
    generationOf after target = some generation := by
  obtain ⟨row, found, scope, rfl⟩ := generationOf_eq_some.mp is
  obtain ⟨row', found', scope', generation⟩ := keeps _ _ found
  exact generationOf_eq_some.mpr ⟨row', found', scope'.trans scope, generation⟩

/-- What can be locked before can be locked after. -/
def KeepsLocks (before after : Journal) : Prop :=
  ∀ target row, before.lockProxy target = .ok row → ∃ row', after.lockProxy target = .ok row'

theorem KeepsProxies.keepsLocks (keeps : KeepsProxies journal after) :
    KeepsLocks journal after := by
  intro target row locked
  obtain ⟨valid, found, scope⟩ := lockProxy_eq_ok.mp locked
  obtain ⟨row', found', scope', -⟩ := keeps _ _ found
  exact ⟨row', lockProxy_eq_ok.mpr ⟨valid, found', scope'.trans scope⟩⟩

section Submitted

variable {input : SubmitOperation} {operation : ProxyOperation}

theorem Submitted.keepsLocks (submitted : Submitted wire digest journal input operation after) :
    KeepsLocks journal after := by
  intro target row locked
  obtain ⟨mine, mine', isLocked, proxies, scope, -, -⟩ := submitted.proxies
  obtain ⟨valid, found, isScope⟩ := lockProxy_eq_ok.mp locked
  obtain ⟨-, isMine, -⟩ := lockProxy_eq_ok.mp isLocked
  by_cases same : target.proxyId = input.target.proxyId
  · rw [same, isMine] at found
    obtain rfl := Option.some.inj found
    refine ⟨mine', lockProxy_eq_ok.mpr ⟨valid, ?_, scope.trans isScope⟩⟩
    rw [proxies, same, lookup_insert]
  · refine ⟨row, lockProxy_eq_ok.mpr ⟨valid, ?_, isScope⟩⟩
    rw [proxies, lookup_insert_ne same, found]

theorem Submitted.raises_generation
    (submitted : Submitted wire digest journal input operation after) :
    ∃ generation, generationOf journal input.target = some generation ∧
      generationOf after input.target = some (generation + 1) ∧
      (operation.generation.toNat : Int) = generation + 1 := by
  obtain ⟨row, row', locked, proxies, scope, raised, isGeneration⟩ := submitted.proxies
  obtain ⟨-, found, isScope⟩ := lockProxy_eq_ok.mp locked
  refine ⟨row.deploymentGeneration, generationOf_eq_some.mpr ⟨row, found, isScope, rfl⟩,
    generationOf_eq_some.mpr ⟨row', ?_, scope.trans isScope, raised⟩, isGeneration.trans raised⟩
  rw [proxies, lookup_insert]

/-- A submission leaves the generations of other proxies alone. -/
theorem Submitted.keeps_generation (submitted : Submitted wire digest journal input operation after)
    (other : target ≠ input.target) (is : generationOf journal target = some generation) :
    generationOf after target = some generation := by
  obtain ⟨row, row', locked, proxies, -, -, -⟩ := submitted.proxies
  obtain ⟨-, found, isScope⟩ := lockProxy_eq_ok.mp locked
  obtain ⟨theirs, isTheirs, theirScope, isGeneration⟩ := generationOf_eq_some.mp is
  refine generationOf_eq_some.mpr ⟨theirs, ?_, theirScope, isGeneration⟩
  -- A proxy is in one scope, so another target is another proxy.
  have different : target.proxyId ≠ input.target.proxyId := by
    intro same
    rw [same, found] at isTheirs
    obtain rfl := Option.some.inj isTheirs
    exact other (Target.ext (theirScope.symm.trans isScope) same)
  rw [proxies, lookup_insert_ne different, isTheirs]

end Submitted

/-! ### Rows -/

/-- The identity of the rows of operations stays. -/
def KeepsRows (before after : Journal) : Prop :=
  ∀ id row, before.operations.lookup id = some row → ∃ row',
    after.operations.lookup id = some row' ∧ row'.target = row.target ∧
      row'.requestId = row.requestId ∧ row'.requestHash = row.requestHash ∧
      row'.acceptedResult = row.acceptedResult

theorem keepsRows_of_eq (same : after.operations = journal.operations) :
    KeepsRows journal after := by
  intro id row found
  exact ⟨row, by rw [same, found], rfl, rfl, rfl, rfl⟩

variable {input : SubmitOperation} {lease : LeasedOperation} {row : LeaseRow}

/-- A new row has a key of its own. -/
theorem Submitted.lookup_old (submitted : Submitted wire digest journal input operation after)
    {id row} (found : journal.operations.lookup id = some row) :
    after.operations.lookup id = some row := by
  obtain ⟨prepared, -, newId, newRow, absent, -, operations, -⟩ := submitted.prepared
  have other : id ≠ newId := by
    rintro rfl
    cases found.symm.trans absent
  rw [operations, lookup_insert_ne other, found]

theorem Observed.keepsRows (observed : Observed journal target lease after) :
    KeepsRows journal after := by
  obtain ⟨mine, mine', isMine, -, operations, sameTarget, sameRequest, sameHash, sameAccepted, -⟩ :=
    observed.operations
  intro id row found
  rw [operations, lookup_insert_eq]
  by_cases own : id = lease.operation.operationId
  · subst own
    obtain rfl := Option.some.inj (isMine.symm.trans found)
    exact ⟨mine', if_pos rfl, sameTarget, sameRequest, sameHash, sameAccepted⟩
  · exact ⟨row, by rw [if_neg own, found], rfl, rfl, rfl, rfl⟩

theorem AcceptedRow.mono (keeps : KeepsRows journal after)
    (accepted : AcceptedRow wire digest journal input operation) :
    AcceptedRow wire digest after input operation := by
  obtain ⟨prepared, id, row, isPrepared, found, isTarget, isRequest, isHash, isResult⟩ := accepted
  obtain ⟨row', found', sameTarget, sameRequest, sameHash, sameResult⟩ := keeps id row found
  exact ⟨prepared, id, row', isPrepared, found', sameTarget.trans isTarget,
    sameRequest.trans isRequest, sameHash.trans isHash, sameResult.trans isResult⟩

/-! ### Leases -/

/-- Grants of other proxies do not touch the lease of a proxy. -/
theorem LeaseTracked.append (tracked : LeaseTracked history target row) {next : History} {more}
    (grants : next.grants = history.grants ++ more) (others : ∀ grant ∈ more, grant.1 ≠ target) :
    LeaseTracked next target row := by
  obtain ⟨⟨before, rest, grant, split, last, is⟩, bound⟩ := tracked
  refine ⟨⟨before, rest ++ more, grant, ?_, ?_, is⟩, fun earlier mem => ?_⟩
  · rw [grants, split, append_assoc, cons_append]
  · intro later mem
    rcases mem_append.mp mem with old | new
    · exact last later old
    · exact others later new
  · rw [grants] at mem
    rcases mem_append.mp mem with old | new
    · exact bound earlier old
    · exact absurd rfl (others _ new)

theorem LeaseTracked.of_eq (tracked : LeaseTracked history target row) {next : History}
    (grants : next.grants = history.grants) : LeaseTracked next target row := by
  have appended : next.grants = history.grants ++ [] := by rw [grants, append_nil]
  exact tracked.append appended (forall_mem_nil _)

/-- The holder of the lease in the table was granted it. -/
theorem LeaseTracked.holds (tracked : LeaseTracked history target row)
    (operation : row.operationId = lease.operation.operationId)
    (generation : row.generation = lease.operation.generation.toNat)
    (worker : row.workerId = lease.workerId) (fence : row.fencingToken = lease.fencingToken.toNat) :
    Holds history target lease := by
  obtain ⟨⟨before, rest, grant, split, last, isWorker, isFence, isOperation, isGeneration⟩, -⟩ :=
    tracked
  refine ⟨before, rest, grant, split, last, isWorker.symm.trans worker, ?_,
    isOperation.symm.trans operation, ?_⟩
  · exact UInt64.toNat_inj.mp (Int.ofNat_inj.mp (isFence.symm.trans fence))
  · exact UInt64.toNat_inj.mp (Int.ofNat_inj.mp (isGeneration.symm.trans generation))

/-! ### Steps -/

section Steps

variable {next : History}

/-- Rows that carry on earlier ones. -/
theorem OwnRows.of_old (rows : OwnRows journal)
    (old : ∀ id row, after.operations.lookup id = some row →
      ∃ before, journal.operations.lookup id = some before ∧ row.requestId = before.requestId ∧
        row.generation = before.generation ∧
        row.currentResult.operationId = before.currentResult.operationId ∧
        row.currentResult.generation = before.currentResult.generation) : OwnRows after := by
  constructor
  · intro id row found
    obtain ⟨before, isBefore, -, generation, isId, isGeneration⟩ := old id row found
    rw [isId, isGeneration, generation]
    exact rows.own id before isBefore
  · intro id id' row row' found found' same
    obtain ⟨before, isBefore, request, -⟩ := old id row found
    obtain ⟨before', isBefore', request', -⟩ := old id' row' found'
    exact rows.unique id id' before before' isBefore isBefore'
      (request.symm.trans (same.trans request'))

theorem OwnRows.of_eq (rows : OwnRows journal) (same : after.operations = journal.operations) :
    OwnRows after :=
  rows.of_old fun _ row found => ⟨row, same ▸ found, rfl, rfl, rfl, rfl⟩

theorem OwnRows.submitted (rows : OwnRows journal)
    (submitted : Submitted wire digest journal input operation after) : OwnRows after := by
  obtain ⟨prepared, -, newId, newRow, -, newRequest, operations, -, -, -, -, isCurrent, isId,
    isGeneration⟩ := submitted.prepared
  have cases_row {id : String} {row : OperationRow}
      (found : after.operations.lookup id = some row) :
      id = newId ∧ row = newRow ∨ journal.operations.lookup id = some row := by
    rw [operations, lookup_insert_eq] at found
    split_ifs at found with own
    · exact .inl ⟨own, (Option.some.inj found).symm⟩
    · exact .inr found
  constructor
  · intro id row found
    rcases cases_row found with ⟨rfl, rfl⟩ | old
    · rw [isCurrent]
      exact ⟨isId, isGeneration⟩
    · exact rows.own id row old
  · intro id id' row row' found found' same
    rcases cases_row found with ⟨rfl, rfl⟩ | old
    · rcases cases_row found' with ⟨rfl, -⟩ | old'
      · rfl
      · exact absurd same.symm (newRequest id' row' old')
    · rcases cases_row found' with ⟨rfl, rfl⟩ | old'
      · exact absurd same (newRequest id row old)
      · exact rows.unique id id' row row' old old' same

theorem OwnRows.observed (rows : OwnRows journal) (observed : Observed journal target lease after) :
    OwnRows after := by
  obtain ⟨mine, mine', isMine, -, operations, -, sameRequest, -, -, sameGeneration, sameId,
    sameResult⟩ := observed.operations
  refine rows.of_old fun id row found => ?_
  rw [operations, lookup_insert_eq] at found
  split_ifs at found with own
  · subst own
    obtain rfl := Option.some.inj found
    exact ⟨mine, isMine, sameRequest, sameGeneration, sameId, sameResult⟩
  · exact ⟨row, found, rfl, rfl, rfl, rfl⟩

theorem TellsAccepted.keep (accepted : TellsAccepted wire digest history)
    (keeps : KeepsRows history.journal next.journal)
    (locks : KeepsLocks history.journal next.journal) (same : next.accepted = history.accepted) :
    TellsAccepted wire digest next := by
  intro input operation mem
  rw [same] at mem
  obtain ⟨row, proxy, locked⟩ := accepted input operation mem
  exact ⟨row.mono keeps, locks _ _ locked⟩

theorem TellsAccepted.submitted (accepted : TellsAccepted wire digest history)
    (submitted : Submitted wire digest history.journal input operation next.journal)
    (is : next.accepted = history.accepted ++ [(input, operation)]) :
    TellsAccepted wire digest next := by
  obtain ⟨prepared, isPrepared, newId, newRow, -, -, operations, isTarget, isRequest, isHash,
    isAccepted, -⟩ := submitted.prepared
  intro other result mem
  rw [is] at mem
  rcases mem_append.mp mem with old | new
  · obtain ⟨row, proxy, locked⟩ := accepted other result old
    refine ⟨row.mono ?_, submitted.keepsLocks _ _ locked⟩
    exact fun id row found => ⟨row, submitted.lookup_old found, rfl, rfl, rfl, rfl⟩
  · obtain ⟨rfl, rfl⟩ := Prod.mk.inj (mem_singleton.mp new)
    obtain ⟨proxy, -, locked, -⟩ := submitted.proxies
    refine ⟨⟨prepared, newId, newRow, isPrepared, ?_, isTarget, isRequest, isHash, isAccepted⟩,
      submitted.keepsLocks _ _ locked⟩
    rw [operations, lookup_insert]

theorem TracksLeases.keep (leases : TracksLeases history)
    (same : next.journal.leases = history.journal.leases) (grants : next.grants = history.grants) :
    TracksLeases next := by
  constructor
  · intro target row found
    rw [same] at found
    exact (leases.leased target row found).of_eq grants
  · intro target absent
    rw [same] at absent
    rw [grants]
    exact leases.unleased target absent

theorem TracksLeases.claimed {leased} (leases : TracksLeases history)
    (rows : OwnRows history.journal) (claimed : Claimed history.journal target leased next.journal)
    (grants : next.grants = history.grants ++ [(target, leased)]) : TracksLeases next := by
  obtain ⟨lease, is, isWorker, isFence, ⟨operation, isOperation, isGeneration, isResult⟩, isNext⟩ :=
    claimed.lease
  obtain ⟨ownId, ownGeneration⟩ := rows.own _ _ isOperation
  have table : next.journal.leases = AList.insert target lease history.journal.leases := by rw [is]
  refine ⟨fun other row found => ?_, fun other absent => ?_⟩
  · rw [table, lookup_insert_eq] at found
    split_ifs at found with own
    · subst own
      obtain rfl := Option.some.inj found
      refine ⟨⟨history.grants, [], leased, grants, forall_mem_nil _, isWorker, isFence, ?_, ?_⟩,
        fun earlier mem => ?_⟩
      · rw [isResult, ownId]
      · rw [isResult, ownGeneration, isGeneration]
      · rw [grants] at mem
        rcases mem_append.mp mem with old | new
        · cases held : history.journal.leases.lookup other with
          | none => exact absurd rfl (leases.unleased other held _ old)
          | some row =>
            have bound := (leases.leased other row held).2 earlier old
            have step := isNext row held
            omega
        · obtain ⟨-, rfl⟩ := Prod.mk.inj (mem_singleton.mp new)
          exact Int.le_of_eq isFence.symm
    · refine (leases.leased other row found).append grants ?_
      rintro _ mem
      rw [mem_singleton.mp mem]
      exact Ne.symm own
  · rw [table, lookup_insert_eq] at absent
    split_ifs at absent with own
    rw [grants]
    intro grant mem
    rcases mem_append.mp mem with old | new
    · exact leases.unleased other absent grant old
    · rw [mem_singleton.mp new]
      exact Ne.symm own

theorem TracksLeases.shortened {expires} (leases : TracksLeases history)
    (held : history.journal.leases.lookup target = some row)
    (is : next.journal.leases = AList.insert target { row with expiresAtMicros := expires }
      history.journal.leases) (grants : next.grants = history.grants) : TracksLeases next := by
  constructor
  · intro other row' found
    rw [is, lookup_insert_eq] at found
    split_ifs at found with own
    · subst own
      obtain rfl := Option.some.inj found
      exact (leases.leased other row held).of_eq grants
    · exact (leases.leased other row' found).of_eq grants
  · intro other absent
    rw [is, lookup_insert_eq] at absent
    split_ifs at absent with own
    rw [grants]
    exact leases.unleased other absent

/-- Every step keeps a history consistent. -/
theorem consistent_step (consistent : Consistent wire digest history) (action : JournalAction) :
    Consistent wire digest (historyStep wire digest history action) := by
  obtain ⟨rows, accepted, leases⟩ := consistent
  have transition := journalStep_transition wire digest history.journal action
  generalize isNext : historyStep wire digest history action = next
  have journal : journalStep wire digest history.journal action = next.journal := by
    rw [← isNext]
    rfl
  have grants : next.grants = history.grants ++ granted history.journal action := by
    rw [← isNext]; rfl
  have requests :
      next.accepted = history.accepted ++ created wire digest history.journal action := by
    rw [← isNext]; rfl
  rw [journal] at transition
  cases transition with
  | quiet operations table proxies noGrant noOperation =>
    rw [noGrant, append_nil] at grants
    rw [noOperation, append_nil] at requests
    exact ⟨rows.of_eq operations,
      accepted.keep (keepsRows_of_eq operations) proxies.keepsLocks requests,
      leases.keep table grants⟩
  | submitted isCreated submitted =>
    rw [isCreated] at requests
    exact ⟨rows.submitted submitted, accepted.submitted submitted requests,
      leases.keep submitted.leases (grants.trans (append_nil _))⟩
  | claimed isGranted claimed =>
    rw [isGranted] at grants
    obtain ⟨lease, is, -⟩ := claimed.lease
    refine ⟨rows.of_eq (by rw [is]), accepted.keep (keepsRows_of_eq (by rw [is])) ?_
      (requests.trans (append_nil _)), leases.claimed rows claimed grants⟩
    rw [is]
    exact fun _ row locked => ⟨row, locked⟩
  | observed _ _ _ observed =>
    exact ⟨rows.observed observed, accepted.keep observed.keepsRows observed.proxies.keepsLocks
      (requests.trans (append_nil _)),
      leases.keep observed.leases (grants.trans (append_nil _))⟩
  | shortened held is =>
    refine ⟨rows.of_eq (by rw [is]), accepted.keep (keepsRows_of_eq (by rw [is])) ?_
      (requests.trans (append_nil _)),
      leases.shortened held (by rw [is]) (grants.trans (append_nil _))⟩
    rw [is]
    exact fun _ row locked => ⟨row, locked⟩

end Steps

/-! ### What a step owes -/

/-- Nothing is created, and the proxies keep their generations. -/
theorem raisesGeneration_of_keeps (none : created wire digest history.journal action = [])
    (keeps : KeepsProxies history.journal (historyStep wire digest history action).journal) :
    RaisesGeneration wire digest history action := by
  refine ⟨fun input operation mem => ?_, fun target generation is => ?_⟩
  · rw [none] at mem
    cases mem
  · exact .inl (keeps.keeps_generation is)

theorem raisesGeneration_step : RaisesGeneration wire digest history action := by
  have transition := journalStep_transition wire digest history.journal action
  generalize isAfter : journalStep wire digest history.journal action = after at transition
  have journal : (historyStep wire digest history action).journal = after := isAfter
  cases transition with
  | quiet operations leases proxies noGrant noOperation =>
    exact raisesGeneration_of_keeps noOperation (journal ▸ proxies)
  | @submitted input _ _ _ operation _ isCreated submitted =>
    refine ⟨fun other result mem => ?_, fun target generation is => ?_⟩
    · rw [isCreated] at mem
      obtain ⟨rfl, rfl⟩ := Prod.mk.inj (mem_singleton.mp mem)
      rw [journal]
      exact submitted.raises_generation
    · rw [journal, isCreated]
      by_cases own : target = input.target
      · exact .inr ⟨input, operation, mem_singleton_self _, own.symm⟩
      · exact .inl (submitted.keeps_generation own is)
  | claimed isGranted claimed =>
    obtain ⟨lease, rfl, -⟩ := claimed.lease
    exact raisesGeneration_of_keeps rfl (journal ▸ fun _ row found => ⟨row, found, rfl, rfl⟩)
  | observed _ _ _ observed => exact raisesGeneration_of_keeps rfl (journal ▸ observed.proxies)
  | shortened held is =>
    rw [is] at journal
    exact raisesGeneration_of_keeps rfl (journal ▸ fun _ row found => ⟨row, found, rfl, rfl⟩)

theorem raisesFence_step (consistent : Consistent wire digest history) :
    RaisesFence history action := by
  intro target leased mem earlier old
  have transition := journalStep_transition wire digest history.journal action
  cases transition with
  | quiet _ _ _ noGrant _ =>
    rw [noGrant] at mem
    cases mem
  | submitted | observed | shortened => cases mem
  | claimed isGranted claimed =>
    rw [isGranted] at mem
    obtain ⟨rfl, rfl⟩ := Prod.mk.inj (mem_singleton.mp mem)
    obtain ⟨lease, -, -, isFence, -, isNext⟩ := claimed.lease
    cases held : history.journal.leases.lookup target with
    | none => exact absurd rfl (consistent.leases.unleased target held _ old)
    | some row =>
      have bound := (consistent.leases.leased target row held).2 earlier old
      have step := isNext row held
      rw [UInt64.lt_iff_toNat_lt]
      omega

/-- The lease that was presented and is in the table is held. -/
theorem holds_of_live (consistent : Consistent wire digest history) {now}
    (live : LiveLease history.journal target lease now) :
    Holds history target lease := by
  obtain ⟨row, found, operation, generation, worker, fence, -⟩ := live
  exact (consistent.leases.leased target row found).holds operation generation worker fence

/-- Every transition but an observation leaves the row of an operation as it is. -/
theorem Transition.row_cases (transition : Transition wire digest journal action after) {id row}
    (found : journal.operations.lookup id = some row) :
    after.operations.lookup id = some row ∨
      ∃ target lease state error event now later fault,
        action = .observe target lease state error event now later fault ∧
        lease.operation.operationId = id ∧ LiveLease journal target lease now ∧
        LiveLease journal target lease later ∧
        generationOf journal target = some lease.operation.generation.toNat ∧
        Observed journal target lease after := by
  cases transition with
  | quiet operations => exact .inl (by rw [operations, found])
  | submitted _ submitted => exact .inl (submitted.lookup_old found)
  | claimed _ claimed =>
    obtain ⟨lease, rfl, -⟩ := claimed.lease
    exact .inl found
  | shortened _ is =>
    rw [is]
    exact .inl found
  | @observed _ lease _ _ _ _ _ _ _ isNow isLater isCurrent observed =>
    by_cases own : lease.operation.operationId = id
    · obtain ⟨proxy, locked, generation⟩ := isCurrent
      obtain ⟨-, isProxy, scope⟩ := lockProxy_eq_ok.mp locked
      exact .inr ⟨_, _, _, _, _, _, _, _, rfl, own, isNow, isLater,
        generationOf_eq_some.mpr ⟨proxy, isProxy, scope, generation⟩, observed⟩
    · obtain ⟨mine, mine', -, -, operations, -⟩ := observed.operations
      left
      rw [operations, lookup_insert_ne (Ne.symm own), found]

theorem changesOnlyHeld_step (consistent : Consistent wire digest history) :
    ChangesOnlyHeld wire digest history action := by
  intro id row found
  rcases (journalStep_transition wire digest history.journal action).row_cases found with
    same | ⟨_, _, _, _, _, _, _, _, is, own, isNow, isLater, current, observed⟩
  · exact ⟨row, same, rfl, fun changed => absurd rfl changed⟩
  · obtain ⟨row', found', -, -, -, accepted⟩ := observed.keepsRows id row found
    exact ⟨row', found', accepted, fun _ => ⟨_, _, _, _, _, _, _, _, is, own,
      holds_of_live consistent isNow, isNow, isLater, current⟩⟩

/-- An operation that is observed anew was not complete. -/
theorem Observed.incomplete (observed : Observed journal target lease after) {row}
    (found : journal.operations.lookup lease.operation.operationId = some row) :
    row.currentResult.observedState.isComplete = false := by
  obtain ⟨mine, mine', isMine, incomplete, -⟩ := observed.operations
  obtain rfl := Option.some.inj (found.symm.trans isMine)
  exact incomplete

theorem keepsCompleted_step : KeepsCompleted wire digest history action := by
  intro id row found complete
  constructor
  · rcases (journalStep_transition wire digest history.journal action).row_cases found with
      same | ⟨_, _, _, _, _, _, _, _, -, rfl, -, -, -, observed⟩
    · exact same
    · cases complete.symm.trans (observed.incomplete found)
  · split
    · rintro rfl answer answered
      obtain ⟨later, isCommitted⟩ := transact_answer answered
      obtain ⟨-, ⟨intent, isIntent, recorded, -⟩ | observed⟩ :=
        observeOperation_cases (committed_eq_some isCommitted)
      · exact ⟨intent, isIntent, recorded⟩
      · cases complete.symm.trans (observed.incomplete found)
    · trivial

/-! ### Requests that are made again -/

/-- A request whose row is in the journal is answered with what was accepted. -/
theorem submitOperation_repeated {again prepared id operationId} {row : OperationRow} {proxy now}
    (unique : ∀ other row', journal.operations.lookup other = some row' →
      row'.requestId = row.requestId → other = id)
    (isPrepared : prepare wire digest again = .ok prepared)
    (locked : journal.lockProxy again.target = .ok proxy)
    (found : journal.operations.lookup id = some row) (isTarget : row.target = again.target)
    (isRequest : row.requestId = again.requestId) (isHash : row.requestHash = prepared.hash) :
    journal.hasRequest again = true ∧
      journal.submitOperation wire digest again operationId now =
        .ok (row.acceptedResult, journal) := by
  have searched : (journal.operations.search fun _ row =>
      row.target = again.target && row.requestId = again.requestId) = some (id, row) := by
    refine search_of_unique found (by simp [isTarget, isRequest]) ?_
    intro other row' found' meets
    simp only [Bool.and_eq_true, decide_eq_true_eq] at meets
    exact unique other row' found' (meets.2.trans isRequest.symm)
  obtain ⟨request, -, -⟩ := prepare_eq_ok isPrepared
  refine ⟨by rw [Journal.hasRequest, searched]; rfl, ?_⟩
  simp only [Journal.submitOperation, isPrepared, ok_bind, Journal.submitPrepared, locked, request,
    searched, isHash, decide_true, ensure_true]
  rfl

theorem Resubmits.prepare {again} (resubmits : Resubmits wire input again) {prepared}
    (ok : prepare wire digest input = .ok prepared) :
    again.target = input.target ∧ again.requestId = input.requestId ∧
      ∃ prepared', OperationJournal.prepare wire digest again = .ok prepared' ∧
        prepared'.hash = prepared.hash := by
  rcases resubmits with rfl | ⟨same, intent, valid⟩
  · exact ⟨rfl, rfl, prepared, ok, rfl⟩
  · exact ⟨same.target, same.requestId, _, same.prepare ok valid, rfl⟩

theorem repeatsAnswer_step (consistent : Consistent wire digest history) :
    RepeatsAnswer wire digest history action := by
  unfold RepeatsAnswer
  split
  · next again operationId now fault =>
      intro input operation mem resubmits
      obtain ⟨⟨prepared, id, row, isPrepared, found, isTarget, isRequest, isHash, rfl⟩, proxy,
        locked⟩ := consistent.accepted input operation mem
      obtain ⟨sameTarget, sameRequest, prepared', isPrepared', sameHash⟩ :=
        resubmits.prepare isPrepared
      rw [← sameTarget] at isTarget locked
      obtain ⟨hasRequest, repeated⟩ := submitOperation_repeated
        (fun other row' found' same => consistent.rows.unique other id row' row found' found same)
        isPrepared' locked found isTarget (isRequest.trans sameRequest.symm)
        (isHash.trans sameHash.symm)
      constructor
      · rintro rfl
        rw [submitAnswer, repeated]
        rfl
      · have journal : (submitAnswer wire digest history.journal again operationId now fault).2 =
            history.journal := by
          rw [submitAnswer, repeated]
          cases fault with
          | none => rfl
          | some fault => cases fault <;> rfl
        simp only [historyStep, journalStep, journal, granted, created, hasRequest, if_true,
          append_nil]
  · trivial

/-- In every history of the journal, each accepted new submission raises the
generation by one, each granted lease has a larger fence than the earlier ones of
its proxy, results change only under the live lease of the current generation,
completed operations accept no new observation, and a request that is made again
gets its first answer. -/
theorem journal_fenced (wire : Wire) (digest : String → String) (actions : List JournalAction) :
    AllSteps (historyStep wire digest) (Fenced wire digest) .empty actions := by
  refine allSteps_of_step
    (fun history action (consistent : Consistent wire digest history) =>
      consistent_step consistent action)
    (fun history action consistent => ?_) consistent_empty actions
  exact {
    generation := raisesGeneration_step
    fence := raisesFence_step consistent
    results := changesOnlyHeld_step consistent
    completed := keepsCompleted_step
    requests := repeatsAnswer_step consistent }

end Apex.OperationJournal
