import Apex.Journal.Store
import Apex.Lib.Runs

/-!
What a transaction can do to the journal.

`Transition` lists it once: nothing that matters here, a new operation in the
next generation, a lease with the next fence, a lease that ends earlier, or a new
observation under the live lease. `journalStep_transition` shows that every step
is one of these; the laws of the journal are read off the cases.
-/

namespace Apex.OperationJournal

open Checked Domain Proxy Transactions Option KeyMap Bool

variable {wire : Wire} {digest : String → String} {journal after : Journal} {target : Target}

/-! ### Histories -/

/-- The request was accepted before. -/
def Journal.hasRequest (journal : Journal) (input : SubmitOperation) : Bool :=
  (journal.operations.search fun _ row =>
    row.target = input.target && row.requestId = input.requestId).isSome

/-- The lease an action is granted, whether or not the worker is told. -/
def granted (journal : Journal) : JournalAction → List (Target × LeasedOperation)
  | .lease target worker ttlNanos now fault =>
      match committed fault (journal.leaseOperation target worker ttlNanos now) with
      | some (some leased, _) => [(target, leased)]
      | _ => []
  | _ => []

/-- The new operation an action creates, whether or not the caller is told. -/
def created (wire : Wire) (digest : String → String) (journal : Journal) :
    JournalAction → List (SubmitOperation × ProxyOperation)
  | .submit input operationId now fault =>
      if journal.hasRequest input then []
      else
        match committed fault (journal.submitOperation wire digest input operationId now) with
        | some (operation, _) => [(input, operation)]
        | none => []
  | _ => []

/-! ### Kinds of steps -/

/-- The rows of the proxies stay, in their scope and generation. -/
def KeepsProxies (before after : Journal) : Prop :=
  ∀ proxyId row, before.proxies.lookup proxyId = some row → ∃ row',
    after.proxies.lookup proxyId = some row' ∧ row'.scope = row.scope ∧
      row'.deploymentGeneration = row.deploymentGeneration

/-- The lease a worker presents is the one in the table, and it has not expired
at an instant. -/
def LiveLease (journal : Journal) (target : Target) (lease : LeasedOperation) (now : Int) : Prop :=
  ∃ row, journal.leases.lookup target = some row ∧
    row.operationId = lease.operation.operationId ∧
    row.generation = lease.operation.generation.toNat ∧ row.workerId = lease.workerId ∧
    row.fencingToken = lease.fencingToken.toNat ∧ now < row.expiresAtMicros

/-- A new operation of a proxy that is in the generation the caller expects. -/
structure Submitted (wire : Wire) (digest : String → String) (journal : Journal)
    (input : SubmitOperation) (operation : ProxyOperation) (after : Journal) : Prop where
  fresh : journal.hasRequest input = false
  prepared : ∃ prepared, prepare wire digest input = .ok prepared ∧
    ∃ id row, journal.operations.lookup id = none ∧
      (∀ other row', journal.operations.lookup other = some row' →
        row'.requestId ≠ row.requestId) ∧
      after.operations = AList.insert id row journal.operations ∧
      row.target = input.target ∧ row.requestId = input.requestId ∧
      row.requestHash = prepared.hash ∧ row.acceptedResult = operation ∧
      row.currentResult = operation ∧ operation.operationId = id ∧
      (operation.generation.toNat : Int) = row.generation
  leases : after.leases = journal.leases
  proxies : ∃ row row', journal.lockProxy input.target = .ok row ∧
    after.proxies = AList.insert input.target.proxyId row' journal.proxies ∧
    row'.scope = row.scope ∧ row'.deploymentGeneration = row.deploymentGeneration + 1 ∧
    (operation.generation.toNat : Int) = row'.deploymentGeneration

/-- A lease with the next fence. -/
structure Claimed (journal : Journal) (target : Target) (leased : LeasedOperation)
    (after : Journal) : Prop where
  lease : ∃ lease, after = { journal with
      leases := AList.insert target lease journal.leases } ∧
    lease.workerId = leased.workerId ∧ lease.fencingToken = leased.fencingToken.toNat ∧
    (∃ row, journal.operations.lookup lease.operationId = some row ∧
      row.generation = lease.generation ∧ leased.operation = row.currentResult) ∧
    ∀ held, journal.leases.lookup target = some held →
      lease.fencingToken = held.fencingToken + 1

/-- A new observation of an operation that is not complete. -/
structure Observed (journal : Journal) (target : Target) (lease : LeasedOperation)
    (after : Journal) : Prop where
  operations : ∃ row row', journal.operations.lookup lease.operation.operationId = some row ∧
    row.currentResult.observedState.isComplete = false ∧
    after.operations = AList.insert lease.operation.operationId row' journal.operations ∧
    row'.target = row.target ∧ row'.requestId = row.requestId ∧
    row'.requestHash = row.requestHash ∧ row'.acceptedResult = row.acceptedResult ∧
    row'.generation = row.generation ∧
    row'.currentResult.operationId = row.currentResult.operationId ∧
    row'.currentResult.generation = row.currentResult.generation
  leases : after.leases = journal.leases
  proxies : KeepsProxies journal after

/-- What a step can do. -/
inductive Transition (wire : Wire) (digest : String → String) (journal : Journal) :
    JournalAction → Journal → Prop where
  | quiet {action} {after : Journal} :
      after.operations = journal.operations → after.leases = journal.leases →
      KeepsProxies journal after → granted journal action = [] →
      created wire digest journal action = [] → Transition wire digest journal action after
  | submitted {input operationId now fault operation after} :
      created wire digest journal (.submit input operationId now fault) = [(input, operation)] →
      Submitted wire digest journal input operation after →
      Transition wire digest journal (.submit input operationId now fault) after
  | claimed {target worker ttlNanos now fault leased after} :
      granted journal (.lease target worker ttlNanos now fault) = [(target, leased)] →
      Claimed journal target leased after →
      Transition wire digest journal (.lease target worker ttlNanos now fault) after
  | observed {target lease state error event now later fault after} :
      LiveLease journal target lease now → LiveLease journal target lease later →
      (∃ row, journal.lockProxy target = .ok row ∧
        row.deploymentGeneration = lease.operation.generation.toNat) →
      Observed journal target lease after →
      Transition wire digest journal
        (.observe target lease state error event now later fault) after
  | shortened {lease now fault target row expires after} :
      journal.leases.lookup target = some row →
      after = { journal with
        leases := AList.insert target { row with expiresAtMicros := expires } journal.leases } →
      Transition wire digest journal (.finishAttempt lease now fault) after

/-! ### Reading -/

theorem lockProxy_eq_ok {row} : journal.lockProxy target = .ok row ↔
    validateScope target.scope = .ok () ∧ journal.proxies.lookup target.proxyId = some row ∧
      row.scope = target.scope := by
  simp only [Journal.lockProxy, bind_eq_ok, require_eq_ok, ensure_eq_ok, pure_eq_ok,
    decide_eq_true_eq]
  constructor
  · rintro ⟨_, valid, found, isFound, _, scope, rfl⟩
    exact ⟨valid, isFound, scope⟩
  · rintro ⟨valid, found, scope⟩
    exact ⟨(), valid, row, found, (), scope, rfl⟩

theorem keepsProxies_refl : KeepsProxies journal journal :=
  fun _ row found => ⟨row, found, rfl, rfl⟩

/-- A proxy row replaced by one of the same scope and generation. -/
theorem keepsProxies_insert {proxyId row row'} (found : journal.proxies.lookup proxyId = some row)
    (proxies : after.proxies = AList.insert proxyId row' journal.proxies)
    (scope : row'.scope = row.scope)
    (generation : row'.deploymentGeneration = row.deploymentGeneration) :
    KeepsProxies journal after := by
  intro other otherRow isThere
  rw [proxies, lookup_insert_eq]
  by_cases same : other = proxyId
  · subst same
    obtain rfl := Option.some.inj (isThere.symm.trans found)
    exact ⟨row', if_pos rfl, scope, generation⟩
  · exact ⟨otherRow, by rw [if_neg same, isThere], rfl, rfl⟩

variable {operationId : String} {generation now : Int}

theorem exactLiveLeaseExpiry_isSome {workerId fence expiry}
    (live : journal.exactLiveLeaseExpiry target operationId generation workerId fence now =
      some expiry) :
    ∃ row, journal.leases.lookup target = some row ∧ row.operationId = operationId ∧
      row.generation = generation ∧ row.workerId = workerId ∧ row.fencingToken = fence ∧
      now < row.expiresAtMicros := by
  obtain ⟨row, filtered, -⟩ := map_eq_some_iff.mp live
  obtain ⟨found, matching⟩ := filter_eq_some_iff.mp filtered
  simp only [and_eq_true, decide_eq_true_eq] at matching
  obtain ⟨⟨⟨⟨operation, generation⟩, worker⟩, fence⟩, live⟩ := matching
  exact ⟨row, found, operation, generation, worker, fence, live⟩

/-- A recheck that passes finds the lease that was presented, and finds it
live. -/
theorem recheck_live {lease} (ok : journal.recheckObservationLease target lease now = .ok ()) :
    LiveLease journal target lease now := by
  simp only [Journal.recheckObservationLease, bind_eq_ok, require_eq_ok] at ok
  obtain ⟨operationId, isId, generation, isGeneration, fence, isFence, expiry, live, -⟩ := ok
  obtain ⟨row, found, operation, generations, worker, token, unexpired⟩ :=
    exactLiveLeaseExpiry_isSome live
  obtain ⟨rfl, -⟩ := sqlU64_eq_ok isGeneration
  obtain ⟨rfl, -⟩ := sqlU64_eq_ok isFence
  exact ⟨row, found, operation.trans (requestUuid_eq_ok isId), generations, worker, token,
    unexpired⟩

/-! ### Submitting -/

theorem insertIntent_eq_ok {result intent}
    (ok : journal.insertIntent target result intent = .ok after) :
    ∃ intents, after = { journal with intents } := by
  simp only [Journal.insertIntent, bind_eq_ok, pure_eq_ok] at ok
  obtain ⟨operation, -, _, -, rfl⟩ := ok
  exact ⟨_, rfl⟩

/-- An inserted operation has an identifier and a request of its own. -/
theorem insertOperation_eq_ok {row} (ok : journal.insertOperation operationId row = .ok after) :
    journal.operations.lookup operationId = none ∧
      (∀ other row', journal.operations.lookup other = some row' →
        row'.requestId ≠ row.requestId) ∧
      after = { journal with operations := AList.insert operationId row journal.operations } := by
  simp only [Journal.insertOperation, bind_eq_ok, ensure_eq_ok, and_eq_true, isNone_iff_eq_none,
    pure_eq_ok] at ok
  obtain ⟨_, -, _, ⟨⟨newId, newRequest⟩, -⟩, rfl⟩ := ok
  refine ⟨newId, fun other row' found same => ?_, rfl⟩
  have differs := search_eq_none newRequest found
  rw [decide_eq_false_iff_not] at differs
  exact differs same

/-- A submission repeats a request that is in the journal, or adds an
operation. -/
theorem submitPrepared_cases {input prepared operation}
    (isPrepared : prepare wire digest input = .ok prepared)
    (ok : journal.submitPrepared input prepared operationId now = .ok (operation, after)) :
    journal.hasRequest input = true ∧ after = journal ∨
      Submitted wire digest journal input operation after := by
  obtain ⟨request, generation, small⟩ := prepare_eq_ok isPrepared
  obtain ⟨locked, isLocked, ok⟩ := bind_eq_ok.mp ok
  rw [request] at ok
  cases found : journal.operations.search fun _ row =>
      row.target = input.target && row.requestId = input.requestId with
  | some entry =>
    simp only [found] at ok
    obtain ⟨_, -, is⟩ := bind_eq_ok.mp ok
    cases pure_eq_ok.mp is
    exact .inl ⟨by rw [Journal.hasRequest, found]; rfl, rfl⟩
  | none =>
    simp only [found] at ok
    right
    simp only [bind_eq_ok, pure_eq_ok] at ok
    obtain ⟨_, expected, published, -, _, -, inserted, isInserted, stored, isStored, ⟨⟩⟩ := ok
    obtain ⟨newId, newRequest, rfl⟩ := insertOperation_eq_ok isInserted
    obtain ⟨intents, rfl⟩ := insertIntent_eq_ok isStored
    rw [ensure_eq_ok, and_eq_true, decide_eq_true_eq, decide_eq_true_eq] at expected
    have raised : locked.deploymentGeneration + 1 = prepared.generation := by omega
    have wireGeneration : ((input.expectedGeneration + 1).toNat : Int) = prepared.generation := by
      rw [generation, UInt64.toNat_add]
      rw [generation, maxBigint] at small
      have one : (1 : UInt64).toNat = 1 := rfl
      rw [one, Nat.mod_eq_of_lt (by omega)]
      rfl
    exact {
      fresh := by rw [Journal.hasRequest, found]; rfl
      prepared := ⟨prepared, isPrepared, operationId, _, newId, newRequest, rfl, rfl, rfl, rfl,
        rfl, rfl, rfl, wireGeneration⟩
      leases := rfl
      proxies := ⟨locked, _, isLocked, rfl, rfl, raised.symm, wireGeneration⟩ }

theorem submit_transition (input : SubmitOperation) (operationId : String) (now : Int)
    (fault : Option CommitFault) :
    Transition wire digest journal (.submit input operationId now fault)
      (journalStep wire digest journal (.submit input operationId now fault)) := by
  simp only [journalStep, submitAnswer, transact_state]
  cases result : committed fault (journal.submitOperation wire digest input operationId now) with
  | none =>
    refine .quiet rfl rfl keepsProxies_refl rfl ?_
    simp only [created, result, ite_self]
  | some entry =>
    obtain ⟨operation, after⟩ := entry
    obtain ⟨prepared, isPrepared, ok⟩ := bind_eq_ok.mp (committed_eq_some result)
    rcases submitPrepared_cases isPrepared ok with ⟨repeated, rfl⟩ | submitted
    · refine .quiet rfl rfl keepsProxies_refl rfl ?_
      rw [created, if_pos repeated]
    · refine .submitted ?_ submitted
      rw [created, if_neg (by simp [submitted.fresh]), result]

/-! ### Leasing -/

theorem claimLease_eq_some {held workerId expires lease}
    (ok : Journal.claimLease held operationId generation workerId expires now = .ok (some lease)) :
    lease.operationId = operationId ∧ lease.generation = generation ∧
      lease.workerId = workerId ∧
      ∀ row, held = some row → lease.fencingToken = row.fencingToken + 1 := by
  cases held with
  | none =>
    obtain ⟨_, -, is⟩ := bind_eq_ok.mp ok
    cases pure_eq_ok.mp is
    exact ⟨rfl, rfl, rfl, nofun⟩
  | some row =>
    simp only [Journal.claimLease] at ok
    split_ifs at ok
    · obtain ⟨_, -, is⟩ := bind_eq_ok.mp ok
      cases pure_eq_ok.mp is
      exact ⟨rfl, rfl, rfl, by rintro _ ⟨⟩; rfl⟩
    · cases ok

theorem leaseOperation_cases {worker ttlNanos answer}
    (ok : journal.leaseOperation target worker ttlNanos now = .ok (answer, after)) :
    answer = none ∧ after = journal ∨
      ∃ leased, answer = some leased ∧ Claimed journal target leased after := by
  obtain ⟨_, -, ok⟩ := bind_eq_ok.mp ok
  obtain ⟨locked, -, ok⟩ := bind_eq_ok.mp ok
  cases found : journal.operations.search fun _ row => row.target = target &&
      row.generation = locked.deploymentGeneration && row.observedState.isOpen with
  | none =>
    simp only [found] at ok
    cases pure_eq_ok.mp ok
    exact .inl ⟨rfl, rfl⟩
  | some entry =>
    obtain ⟨operationId, row⟩ := entry
    simp only [found] at ok
    obtain ⟨live, -, ok⟩ := bind_eq_ok.mp ok
    split_ifs at ok
    · cases ok
      exact .inl ⟨rfl, rfl⟩
    obtain ⟨_, -, ok⟩ := bind_eq_ok.mp ok
    obtain ⟨claimed, isClaimed, ok⟩ := bind_eq_ok.mp ok
    cases claimed with
    | none =>
      cases pure_eq_ok.mp ok
      exact .inl ⟨rfl, rfl⟩
    | some lease =>
      obtain ⟨token, isToken, ok⟩ := bind_eq_ok.mp ok
      obtain ⟨expires, -, is⟩ := bind_eq_ok.mp ok
      cases pure_eq_ok.mp is
      obtain ⟨rfl, generation, isWorker, next⟩ := claimLease_eq_some isClaimed
      obtain ⟨isRow, meets⟩ := search_eq_some found
      simp only [and_eq_true, decide_eq_true_eq] at meets
      refine .inr ⟨_, rfl, ⟨lease, rfl, isWorker, (unsigned_eq_ok isToken).symm,
        ⟨row, isRow, ?_, rfl⟩, next⟩⟩
      rw [meets.1.2, generation]

theorem lease_transition (target : Target) (worker : String) (ttlNanos : Nat) (now : Int)
    (fault : Option CommitFault) :
    Transition wire digest journal (.lease target worker ttlNanos now fault)
      (journalStep wire digest journal (.lease target worker ttlNanos now fault)) := by
  simp only [journalStep, leaseAnswer, transact_state]
  cases result : committed fault (journal.leaseOperation target worker ttlNanos now) with
  | none =>
    refine .quiet rfl rfl keepsProxies_refl ?_ rfl
    rw [granted, result]
  | some entry =>
    obtain ⟨answer, after⟩ := entry
    rcases leaseOperation_cases (committed_eq_some result) with
      ⟨rfl, rfl⟩ | ⟨leased, rfl, claimed⟩
    · refine .quiet rfl rfl keepsProxies_refl ?_ rfl
      rw [granted, result]
    · refine .claimed ?_ claimed
      rw [granted, result]

/-! ### Observing -/

/-- What an observation that was answered found, whether or not its event was
recorded before. -/
structure ObservedUnder (journal : Journal) (target : Target) (lease : LeasedOperation)
    (now later : Int) : Prop where
  now : LiveLease journal target lease now
  later : LiveLease journal target lease later
  generation : ∃ row, journal.lockProxy target = .ok row ∧
    row.deploymentGeneration = lease.operation.generation.toNat

/-- The event of an observation is in the journal with this answer. -/
def Recorded (journal : Journal) (target : Target) (operationId eventId payloadHash : String)
    (state : ProxyObservedState) (error : Option String) (answer : ProxyOperation) : Prop :=
  ∃ row, journal.intents.lookup eventId = some row ∧ row.target = target ∧
    row.operationId = operationId ∧ row.intent.payloadHash = payloadHash ∧
    answer = row.operationResult ∧ answer.observedState = state ∧
    answer.errorCode = error.getD ""

theorem getOperation_eq_some {id operation}
    (ok : journal.getOperation target id = .ok (some operation)) :
    ∃ row, journal.operations.lookup id = some row ∧ row.currentResult = operation := by
  obtain ⟨_, -, ok⟩ := bind_eq_ok.mp ok
  obtain ⟨uuid, isUuid, is⟩ := bind_eq_ok.mp ok
  obtain rfl := requestUuid_eq_ok isUuid
  obtain ⟨row, filtered, result⟩ := map_eq_some_iff.mp (pure_eq_ok.mp is)
  exact ⟨row, (filter_eq_some_iff.mp filtered).1, result⟩

theorem updateResult_eq_ok {result}
    (ok : journal.updateResult target operationId generation result now = .ok after) :
    ∃ row, journal.operations.lookup operationId = some row ∧ after = { journal with
      operations := AList.insert operationId { row with
        currentResult := result
        observedState := result.observedState
        observedAtMicros := now } journal.operations } := by
  simp only [Journal.updateResult, bind_eq_ok, require_eq_ok, pure_eq_ok] at ok
  obtain ⟨row, found, _, -, _, -, rfl⟩ := ok
  exact ⟨row, (filter_eq_some_iff.mp found).1, rfl⟩

/-- An observation repeats an event that is in the journal, or changes the result
of an operation that is not complete; both under the live lease. -/
theorem observeOperation_cases {lease state error event later answer}
    (ok : journal.observeOperation wire target lease state error event now later =
      .ok (answer, after)) :
    ObservedUnder journal target lease now later ∧
      ((∃ intent, validatedIntent wire target lease.operation.requestId event = .ok intent ∧
          Recorded journal target lease.operation.operationId intent.eventId intent.payloadHash
            state error answer ∧ after = journal) ∨
        Observed journal target lease after) := by
  simp only [Journal.observeOperation, Journal.observeLocked, bind_eq_ok, require_eq_ok] at ok
  obtain ⟨_, -, operationId, isId, generation, isGeneration, fence, isFence, intent, isIntent,
    locked, isLocked, _, current, expiry, isLive, found, isFound, result, rfl, _, -, live, -, _, -,
    _, -, ok⟩ := ok
  obtain rfl := requestUuid_eq_ok isId
  obtain ⟨rfl, -⟩ := sqlU64_eq_ok isGeneration
  obtain ⟨rfl, -⟩ := sqlU64_eq_ok isFence
  rw [ensure_eq_ok, decide_eq_true_eq] at current
  have isNow : LiveLease journal target lease now := exactLiveLeaseExpiry_isSome isLive
  obtain ⟨row, isRow, isResult⟩ := getOperation_eq_some isFound
  cases recorded : (journal.intents.lookup intent.eventId).filter fun row =>
      row.target = target && row.operationId = lease.operation.operationId with
  | some stored =>
    simp only [recorded] at ok
    simp only [bind_eq_ok, pure_eq_ok] at ok
    obtain ⟨_, same, _, rechecked, ⟨⟩⟩ := ok
    refine ⟨⟨isNow, recheck_live rechecked, locked, isLocked, current⟩, .inl ?_⟩
    obtain ⟨isStored, own⟩ := filter_eq_some_iff.mp recorded
    simp only [ensure_eq_ok, and_eq_true, decide_eq_true_eq] at own same
    exact ⟨intent, isIntent, ⟨stored, isStored, own.1, own.2, same.1.1, rfl, same.1.2, same.2⟩,
      rfl⟩
  | none =>
    simp only [recorded] at ok
    simp only [bind_eq_ok, pure_eq_ok] at ok
    obtain ⟨_, incomplete, observedAt, -, updated, isUpdated, stored, isStored, _, rechecked,
      ⟨⟩⟩ := ok
    obtain ⟨other, isOther, rfl⟩ := updateResult_eq_ok isUpdated
    obtain rfl := Option.some.inj (isRow.symm.trans isOther)
    obtain ⟨intents, rfl⟩ := insertIntent_eq_ok isStored
    rw [ensure_eq_ok, not_eq_true'] at incomplete
    refine ⟨⟨isNow, recheck_live rechecked, locked, isLocked, current⟩, .inr ?_⟩
    exact {
      operations := ⟨row, _, isRow, by rw [isResult]; exact incomplete, rfl, rfl, rfl, rfl, rfl,
        rfl, by rw [isResult], by rw [isResult]⟩
      leases := rfl
      proxies := keepsProxies_insert (lockProxy_eq_ok.mp isLocked).2.1 rfl rfl rfl }

theorem observe_transition (target : Target) (lease : LeasedOperation) (state : ProxyObservedState)
    (error : Option String) (event : EventEnvelope) (now later : Int)
    (fault : Option CommitFault) :
    Transition wire digest journal (.observe target lease state error event now later fault)
      (journalStep wire digest journal
        (.observe target lease state error event now later fault)) := by
  simp only [journalStep, observeAnswer, transact_state]
  cases result : committed fault
      (journal.observeOperation wire target lease state error event now later) with
  | none => exact .quiet rfl rfl keepsProxies_refl rfl rfl
  | some entry =>
    obtain ⟨answer, after⟩ := entry
    obtain ⟨under, ⟨-, -, -, rfl⟩ | observed⟩ :=
      observeOperation_cases (committed_eq_some result)
    · exact .quiet rfl rfl keepsProxies_refl rfl rfl
    · exact .observed under.now under.later under.generation observed

/-! ### The other steps -/

theorem markEvidence_transition (target : Target) (operation event hash : String) (now : Int)
    (fault : Option CommitFault) :
    Transition wire digest journal (.markEvidence target operation event hash now fault)
      (journalStep wire digest journal (.markEvidence target operation event hash now fault)) := by
  simp only [journalStep, transact_state]
  cases result : committed fault (journal.markEvidenceEnqueued target operation event hash now) with
  | none => exact .quiet rfl rfl keepsProxies_refl rfl rfl
  | some entry =>
    obtain ⟨marked, after⟩ := entry
    have ok := committed_eq_some result
    simp only [Journal.markEvidenceEnqueued, bind_eq_ok] at ok
    obtain ⟨_, -, _, -, event', -, _, -, ok⟩ := ok
    split at ok
    · cases pure_eq_ok.mp ok
      exact .quiet rfl rfl keepsProxies_refl rfl rfl
    · obtain ⟨_, -, is⟩ := bind_eq_ok.mp ok
      cases pure_eq_ok.mp is
      exact .quiet rfl rfl keepsProxies_refl rfl rfl

theorem finishAttempt_transition (lease : LeasedOperation) (now : Int)
    (fault : Option CommitFault) :
    Transition wire digest journal (.finishAttempt lease now fault)
      (journalStep wire digest journal (.finishAttempt lease now fault)) := by
  simp only [journalStep, transact_state]
  cases result : committed fault (journal.finishRuntimeAttempt lease now) with
  | none => exact .quiet rfl rfl keepsProxies_refl rfl rfl
  | some entry =>
    obtain ⟨_, after⟩ := entry
    have ok := committed_eq_some result
    simp only [Journal.finishRuntimeAttempt, bind_eq_ok] at ok
    obtain ⟨_, -, _, -, _, -, ok⟩ := ok
    split at ok
    · cases pure_eq_ok.mp ok
      exact .quiet rfl rfl keepsProxies_refl rfl rfl
    · next target row found =>
        obtain ⟨_, -, is⟩ := bind_eq_ok.mp ok
        cases pure_eq_ok.mp is
        exact .shortened (search_eq_some found).1 rfl

/-- Every step is one of the transitions. -/
theorem journalStep_transition (wire : Wire) (digest : String → String) (journal : Journal)
    (action : JournalAction) :
    Transition wire digest journal action (journalStep wire digest journal action) := by
  cases action with
  | submit => exact submit_transition ..
  | lease => exact lease_transition ..
  | observe => exact observe_transition ..
  | markEvidence => exact markEvidence_transition ..
  | finishAttempt => exact finishAttempt_transition ..
  | createProxy target =>
    simp only [journalStep, Journal.createProxy]
    split
    · exact .quiet rfl rfl keepsProxies_refl rfl rfl
    · next absent =>
        refine .quiet rfl rfl (fun proxyId row found => ⟨row, ?_, rfl, rfl⟩) rfl rfl
        have other : proxyId ≠ target.proxyId := by
          rintro rfl
          cases absent.symm.trans found
        rw [AList.lookup_insert_ne other, found]
  | lifecycleWrite proxyId activeRevisionId desiredState lifecycleState =>
    simp only [journalStep, Journal.lifecycleWrite]
    split
    · exact .quiet rfl rfl keepsProxies_refl rfl rfl
    · next row found => exact .quiet rfl rfl (keepsProxies_insert found rfl rfl rfl) rfl rfl
  | putRevision proxyId revisionId published =>
    exact .quiet rfl rfl keepsProxies_refl rfl rfl

end Apex.OperationJournal
