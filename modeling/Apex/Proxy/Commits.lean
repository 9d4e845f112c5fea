import Apex.Proxy.StoreRuns

/-!
What an accepted call on the in-memory proxy store does, in one form for all seven
operations.

An accepted call either repeats an earlier one and changes nothing, or commits: it
writes the row of its proxy, one revision at most, one activity entry and one
idempotency record (`accepted_cases`). `Committed` says, operation by
operation, what these are and what the call found in the store.
-/

namespace Apex.Proxy

open Checked StoreState Bool

namespace StoreOp

def requestId : StoreOp → String
  | .create input => input.requestId
  | .updateDraft input => input.requestId
  | .publish input => input.requestId
  | .retire input => input.requestId
  | .transition input => input.requestId
  | .rotate input => input.requestId
  | .rollback input => input.requestId

/-- The name the call is recorded under. -/
def operation : StoreOp → String
  | .create _ => createOperation
  | .updateDraft _ => updateDraftOperation
  | .publish _ => publishOperation
  | .retire _ => retireOperation
  | .transition input => input.command.operation
  | .rotate _ => rotateOperation
  | .rollback _ => rollbackOperation

def proxyId : StoreOp → ProxyId
  | .create input => input.proxyId
  | .updateDraft input => input.proxyId
  | .publish input => input.proxyId
  | .retire input => input.proxyId
  | .transition input => input.proxyId
  | .rotate input => input.proxyId
  | .rollback input => input.proxyId

def scope : StoreOp → ExactScope
  | .create input => input.scope
  | .updateDraft input => input.scope
  | .publish input => input.scope
  | .retire input => input.scope
  | .transition input => input.scope
  | .rotate input => input.scope
  | .rollback input => input.scope

end StoreOp

/-! ### Commits -/

/-- What a call writes that is accepted and is no repetition. -/
structure Commit where
  row : StoreProxy
  revision : Option (String × StoredRevision)
  entry : LifecycleActivity
  record : IdempotencyRecord

def Commit.apply (commit : Commit) (proxyId : ProxyId) (state : StoreState) : StoreState where
  proxies := AList.insert proxyId.text commit.row state.proxies
  revisions := commit.revision.elim state.revisions fun stored =>
    AList.insert stored.1 stored.2 state.revisions
  idempotency := AList.insert (commit.record.requestId, commit.record.operation) commit.record
    state.idempotency
  transitions := state.transitions ++ [commit.entry]

/-- The record a committed call leaves. -/
def StoreOp.recordOf (op : StoreOp) (payloadHash : String) (revisionId : Option String) :
    IdempotencyRecord where
  requestId := op.requestId
  operation := op.operation
  payloadHash := payloadHash
  proxyId := op.proxyId.text
  revisionId := revisionId
  scope := op.scope

/-- The entry a committed call leaves. -/
def StoreOp.entryOf (op : StoreOp) (proxyId : ProxyId) (revisionId : Option ProxyRevisionId)
    (priorState : Option ProxyLifecycleState) (nextState : ProxyLifecycleState)
    (actorId : Option String) (reasonCode : String) (occurredAtMicros : Nat) :
    LifecycleActivity where
  operation := op.operation
  scope := op.scope
  proxyId := proxyId
  revisionId := revisionId
  priorState := priorState
  nextState := nextState
  actorId := actorId
  reasonCode := reasonCode
  status := "committed"
  requestId := op.requestId
  occurredAtMicros := occurredAtMicros

/-- The commit of each operation, and what its checks found in the state. -/
inductive Committed (store : InMemoryProxyStore) : StoreOp → Commit → Prop where
  | create {input : CreateProxy} {displayName payloadHash description owner micros}
      (absent : AList.lookup input.proxyId.text store.state.proxies = none)
      (isScope : validateScope input.scope = .ok ())
      (isTime : validateRequestId input.requestId = .ok micros) :
      Committed store (.create input) {
        row := {
          proxyId := input.proxyId, scope := input.scope, displayName, slug := input.slug,
          description, owner, lifecycleState := .draft, redactionStatus := .redacted,
          activeRevisionId := none, draftRevisionId := none, createdAtMicros := micros }
        revision := none
        entry := StoreOp.entryOf (.create input) input.proxyId none none .draft none
          "proxy.created" micros
        record := StoreOp.recordOf (.create input) payloadHash none }
  | updateDraft {input : UpdateProxyDraft} {current} {revisionId : ProxyRevisionId}
      {revision actorId payloadHash micros}
      (found : AList.lookup input.proxyId.text store.state.proxies = some current)
      (sameScope : current.scope = input.scope) (named : revisionId.text = input.requestId) :
      Committed store (.updateDraft input) {
        row := { current with draftRevisionId := some revisionId }
        revision := some (revisionKey input.proxyId revisionId, ⟨revision, false⟩)
        entry := StoreOp.entryOf (.updateDraft input) current.proxyId (some revisionId)
          (some current.lifecycleState) .draft (some actorId) "proxy.draft_updated" micros
        record := StoreOp.recordOf (.updateDraft input) payloadHash (some revisionId.text) }
  | publish {input : PublishRevision} {current} {revisionId : ProxyRevisionId}
      {revision : McpProxyRevision} {actorId payloadHash micros}
      (found : AList.lookup input.proxyId.text store.state.proxies = some current)
      (sameScope : current.scope = input.scope) (named : revisionId.text = input.requestId)
      (serving : current.lifecycleState ≠ .retired) (draft : revision.lifecycleState = .draft)
      (same : revision.revisionId = revisionId) :
      Committed store (.publish input) {
        row := { current with activeRevisionId := some revisionId }
        revision := some (revisionKey input.proxyId revisionId, ⟨revision, true⟩)
        entry := StoreOp.entryOf (.publish input) input.proxyId (some revisionId)
          (some current.lifecycleState) .draft (some actorId) "proxy.revision_published"
          micros
        record := StoreOp.recordOf (.publish input) payloadHash (some revisionId.text) }
  | retire {input : RetireProxy} {current payloadHash micros}
      (found : AList.lookup input.proxyId.text store.state.proxies = some current)
      (sameScope : current.scope = input.scope) :
      Committed store (.retire input) {
        row := { current with lifecycleState := .retired }
        revision := none
        entry := StoreOp.entryOf (.retire input) input.proxyId input.expectedRevisionId
          (some current.lifecycleState) .retired none "proxy.retired" micros
        record := StoreOp.recordOf (.retire input) payloadHash none }
  | transition {input : TransitionProxyLifecycle}
      {current stored nextState actorId reasonCode payloadHash micros}
      (found : AList.lookup input.proxyId.text store.state.proxies = some current)
      (sameScope : current.scope = input.scope)
      (held : AList.lookup (revisionKey input.proxyId input.revisionId) store.state.revisions =
        some stored) (active : current.activeRevisionId = some input.revisionId)
      (edge : transitionState current.lifecycleState input.command input.approved =
        .ok nextState) :
      Committed store (.transition input) {
        row := { current with lifecycleState := nextState }
        revision := some (revisionKey input.proxyId input.revisionId,
          { stored with revision := { stored.revision with lifecycleState := nextState } })
        entry := StoreOp.entryOf (.transition input) input.proxyId (some input.revisionId)
          (some current.lifecycleState) nextState (some actorId) reasonCode micros
        record := StoreOp.recordOf (.transition input) payloadHash none }
  | rotate {input : RotateProxyCredentials} {current source} {revisionId : ProxyRevisionId}
      {revision : McpProxyRevision} {actorId reasonCode payloadHash micros}
      (found : AList.lookup input.proxyId.text store.state.proxies = some current)
      (sameScope : current.scope = input.scope)
      (held : AList.lookup (revisionKey input.proxyId input.revisionId) store.state.revisions =
        some source) (named : revisionId.text = input.requestId)
      (active : current.activeRevisionId = some input.revisionId)
      (published : source.published = true)
      (copied : revision.lifecycleState = source.revision.lifecycleState)
      (same : revision.revisionId = revisionId) :
      Committed store (.rotate input) {
        row := { current with activeRevisionId := some revisionId }
        revision := some (revisionKey input.proxyId revisionId, ⟨revision, true⟩)
        entry := StoreOp.entryOf (.rotate input) input.proxyId (some revisionId)
          (some source.revision.lifecycleState) source.revision.lifecycleState
          (some actorId) reasonCode micros
        record := StoreOp.recordOf (.rotate input) payloadHash (some revisionId.text) }
  | rollback {input : RollbackProxy} {current actorId reasonCode payloadHash micros}
      (found : AList.lookup input.proxyId.text store.state.proxies = some current)
      (sameScope : current.scope = input.scope) (passes : RollbackPasses store input) :
      Committed store (.rollback input) {
        row := { current with
          activeRevisionId := some input.targetRevisionId, lifecycleState := .ready }
        revision := none
        entry := StoreOp.entryOf (.rollback input) input.proxyId (some input.targetRevisionId)
          (some current.lifecycleState) .ready (some actorId) reasonCode micros
        record :=
          StoreOp.recordOf (.rollback input) payloadHash (some input.targetRevisionId.text) }

/-! ### Inversion -/

section Inversion

variable {digest : String → String} {store : InMemoryProxyStore} {op : StoreOp}
  {after : StoreState} {answers : Commit → Prop}

theorem ensureScopeMatch_eq_ok {actual expected u} :
    ensureScopeMatch actual expected = .ok u ↔ actual = expected := by
  simp [ensureScopeMatch]

/-- What an accepted call does to the store: nothing if its request was used
before, or else a commit of its own, which its answer tells something about. -/
def Outcome (store : InMemoryProxyStore) (op : StoreOp) (after : StoreState)
    (answers : Commit → Prop) : Prop :=
  store.state.unused op.operation op.requestId = false ∧ after = store.state ∨
    store.state.unused op.operation op.requestId = true ∧ ∃ commit,
      Committed store op commit ∧ after = commit.apply op.proxyId store.state ∧
        answers commit

/-- A call whose idempotency check passed: the answer to a repetition leaves the
state, and without a record the call is to commit. -/
theorem Outcome.of_looked {payloadHash record} {α β : Type}
    {answer : IdempotencyRecord → Except StoreFailure α} {f : α → β} {commits reply}
    (looked : store.state.checkIdempotency op.operation op.requestId payloadHash op.scope =
      .ok record) (replied : (match record with
      | some earlier => do return (f (← answer earlier), store.state)
      | none => commits) = .ok reply)
    (committed : store.state.unused op.operation op.requestId = true → commits = .ok reply →
      ∃ commit, Committed store op commit ∧ reply.2 = commit.apply op.proxyId store.state ∧
        answers commit) :
    Outcome store op reply.2 answers := by
  have unused := unused_of_checkIdempotency looked
  cases record with
  | none => exact .inr ⟨unused, committed unused replied⟩
  | some earlier =>
    simp only [bind_eq_ok, pure_eq_ok] at replied
    obtain ⟨_, -, rfl⟩ := replied
    exact .inl ⟨unused, rfl⟩

theorem create_outcome {input reply} (accepted : createWithOutcome digest input store = .ok reply) :
    Outcome store (.create input) reply.2 fun _ => True := by
  simp only [createWithOutcome, bind_eq_ok, checked_eq_ok, lock_eq_ok] at accepted
  obtain ⟨⟨displayName, description, owner⟩, checks, micros, isTime, state, ⟨-, rfl⟩, record,
    looked, rest⟩ := accepted
  simp only [validateCreate, bind_eq_ok, pure_eq_ok, Prod.mk.injEq] at checks
  obtain ⟨_, -, _, isScope, -⟩ := checks
  refine .of_looked looked rest fun unused rest => ?_
  simp only [bind_eq_ok, checked_eq_ok, pure_eq_ok, ensureIdentityAvailable,
    ensure_eq_ok, and_eq_true, not_eq_true', Option.isSome_eq_false_iff,
    Option.isNone_iff_eq_none] at rest
  obtain ⟨_, ⟨absent, -⟩, rfl⟩ := rest
  exact ⟨_, .create absent isScope isTime, rfl, trivial⟩

variable {reply : McpProxy × StoreState}

theorem updateDraft_outcome {input} (accepted : updateDraft digest input store = .ok reply) :
    Outcome store (.updateDraft input) reply.2 fun _ => True := by
  simp only [updateDraft, bind_eq_ok, checked_eq_ok, lock_eq_ok] at accepted
  obtain ⟨_, -, _, -, actorId, actor, _, -, micros, -, state, ⟨-, rfl⟩, record, looked, rest⟩ :=
    accepted
  refine .of_looked looked rest fun unused rest => ?_
  simp only [bind_eq_ok, checked_eq_ok, pure_eq_ok, requireProxy, require_eq_ok,
    ensureScopeMatch_eq_ok, expectRevisionId_eq_ok] at rest
  obtain ⟨current, found, _, sameScope, _, -, revisionId, named, revision, -, rfl⟩ := rest
  refine ⟨_, @Committed.updateDraft _ _ _ _ revision actorId
    (updatePayloadHash digest input actorId (specJson input.spec)) micros found sameScope named,
    ?_, trivial⟩
  simp only [Commit.apply, StoreOp.entryOf, StoreOp.recordOf, StoreOp.scope, ← sameScope]
  rfl

theorem publish_outcome {input reply} (accepted : publishRevision digest input store = .ok reply) :
    Outcome store (.publish input) reply.2 fun commit =>
      commit.revision = some (revisionKey input.proxyId reply.1.revisionId, ⟨reply.1, true⟩) := by
  simp only [publishRevision, bind_eq_ok, checked_eq_ok, lock_eq_ok] at accepted
  obtain ⟨_, -, _, -, actorId, actor, micros, -, state, ⟨-, rfl⟩, record, looked, rest⟩ := accepted
  refine .of_looked looked rest fun unused rest => ?_
  simp only [bind_eq_ok, checked_eq_ok, pure_eq_ok, requireProxy,
    requireRevision, require_eq_ok, ensureScopeMatch_eq_ok, ensure_eq_ok, bne_iff_ne,
    expectRevisionId_eq_ok] at rest
  obtain ⟨current, found, _, sameScope, _, -, _, serving, draft, -, _, -, _, -, revisionId, named,
    revision, built, rfl⟩ := rest
  obtain ⟨isDraft, rfl⟩ := buildRevision_eq_ok digest built
  exact ⟨_, .publish found sameScope named serving isDraft rfl, rfl, rfl⟩

theorem retire_outcome {input} (accepted : retire digest input store = .ok reply) :
    Outcome store (.retire input) reply.2 fun _ => True := by
  simp only [retire, bind_eq_ok, checked_eq_ok, lock_eq_ok] at accepted
  obtain ⟨_, -, _, -, micros, -, state, ⟨-, rfl⟩, record, looked, rest⟩ := accepted
  refine .of_looked looked rest fun unused rest => ?_
  simp only [bind_eq_ok, checked_eq_ok, pure_eq_ok, requireProxy, require_eq_ok,
    ensureScopeMatch_eq_ok] at rest
  obtain ⟨current, found, _, sameScope, _, -, rfl⟩ := rest
  exact ⟨_, .retire found sameScope, rfl, trivial⟩

theorem transition_outcome {input} (accepted : transition digest input store = .ok reply) :
    Outcome store (.transition input) reply.2 fun _ => True := by
  simp only [transition, bind_eq_ok, checked_eq_ok, lock_eq_ok] at accepted
  obtain ⟨micros, -, _, -, actorId, actor, reasonCode, reason, state, ⟨-, rfl⟩, record, looked,
    rest⟩ := accepted
  refine .of_looked looked rest fun unused rest => ?_
  simp only [bind_eq_ok, checked_eq_ok, pure_eq_ok, requireProxy,
    requireRevision, require_eq_ok, ensureScopeMatch_eq_ok, ensure_eq_ok,
    and_eq_true, beq_iff_eq] at rest
  obtain ⟨current, found, _, sameScope, _, ⟨-, active⟩, nextState, edge, stored, held, _, -,
    rfl⟩ := rest
  exact ⟨_, .transition found sameScope held active edge, rfl, trivial⟩

theorem rotate_outcome {input reply} (accepted : rotateCredentials digest input store = .ok reply) :
    Outcome store (.rotate input) reply.2 fun commit =>
      commit.revision = some (revisionKey input.proxyId reply.1.revisionId, ⟨reply.1, true⟩) := by
  simp only [rotateCredentials, bind_eq_ok, checked_eq_ok, lock_eq_ok] at accepted
  obtain ⟨micros, -, _, -, actorId, actor, reasonCode, reason, state, ⟨-, rfl⟩, record, looked,
    rest⟩ := accepted
  refine .of_looked looked rest fun unused rest => ?_
  simp only [bind_eq_ok, checked_eq_ok, pure_eq_ok, requireProxy,
    requireRevision, require_eq_ok, ensureScopeMatch_eq_ok, ensure_eq_ok,
    and_eq_true, beq_iff_eq, expectRevisionId_eq_ok] at rest
  obtain ⟨current, found, _, sameScope, _, ⟨-, active⟩, source, held, _, published, _, -,
    revisionId, named, revision, built, rfl⟩ := rest
  obtain ⟨copied, rfl⟩ := buildRevision_eq_ok digest built
  exact ⟨_, .rotate found sameScope held named active published copied rfl, rfl, rfl⟩

theorem rollback_outcome {input} (accepted : rollback digest input store = .ok reply) :
    Outcome store (.rollback input) reply.2 fun _ => True := by
  simp only [rollback, bind_eq_ok, checked_eq_ok, lock_eq_ok] at accepted
  obtain ⟨micros, request, actorId, actor, reasonCode, reason, state, ⟨unpoisoned, rfl⟩, record,
    looked, rest⟩ := accepted
  refine .of_looked looked rest fun unused rest => ?_
  simp only [bind_eq_ok, checked_eq_ok, pure_eq_ok, requireProxy,
    requireRevision, require_eq_ok, ensureScopeMatch_eq_ok, ensure_eq_ok,
    and_eq_true, beq_iff_eq] at rest
  obtain ⟨current, found, _, sameScope, _, ⟨expected, active⟩, target, held, _,
    ⟨published, ready⟩, rfl⟩ := rest
  refine ⟨_, .rollback found sameScope ⟨unpoisoned, ⟨_, request⟩, ⟨_, actor⟩, ⟨_, reason⟩,
    unused, ⟨current, found, sameScope, expected, active⟩, target, held,
    published, ready⟩, rfl, trivial⟩

/-- Every accepted call repeats an earlier one or commits. -/
theorem accepted_cases (accepted : op.accepted digest store = .ok after) :
    Outcome store op after fun _ => True := by
  have forget {answers : Commit → Prop} (outcome : Outcome store op after answers) :
      Outcome store op after fun _ => True := by
    rcases outcome with same | ⟨unused, commit, committed, is, -⟩
    · exact .inl same
    · exact .inr ⟨unused, commit, committed, is, trivial⟩
  cases op
  all_goals obtain ⟨reply, replied, rfl⟩ := map_eq_ok.mp accepted
  case create => exact create_outcome replied
  case updateDraft => exact updateDraft_outcome replied
  case publish => exact forget (publish_outcome replied)
  case retire => exact retire_outcome replied
  case transition => exact transition_outcome replied
  case rotate => exact forget (rotate_outcome replied)
  case rollback => exact rollback_outcome replied

end Inversion

end Apex.Proxy
