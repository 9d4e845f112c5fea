import Apex.Proxy.StoreState

/-!
The operations of the in-memory proxy store.

The store's state sits behind one lock. An operation either answers and leaves
a new state, is refused and leaves the state as it was, or panics while it holds
the lock: revision identifiers are made from request identifiers by an
`expect`, and a request identifier with a foreign variant digit passes the
request check but is no revision identifier. A panic poisons the lock, and a
poisoned store refuses every operation.
-/

namespace Apex.Proxy

open Checked

/-- The store: its state and whether a panic poisoned the lock. -/
structure InMemoryProxyStore where
  state : StoreState
  poisoned : Bool

/-- The store a process starts with. -/
def InMemoryProxyStore.empty : InMemoryProxyStore := ⟨.empty, false⟩

/-- Why an operation did not answer. -/
inductive StoreFailure where
  | refused (error : ProxyError)
  | panicked
  deriving DecidableEq, Repr

/-- A check of an operation: its error refuses the operation. -/
def checked {α : Type} (result : Except ProxyError α) : Except StoreFailure α :=
  result.mapError .refused

@[simp] theorem checked_eq_ok {α : Type} {result} {a : α} :
    checked result = .ok a ↔ result = .ok a := by
  cases result <;> simp [checked, Except.mapError]

@[simp] theorem checked_ok {α : Type} {a : α} : checked (.ok a) = .ok a := rfl

def InMemoryProxyStore.lock (store : InMemoryProxyStore) : Except StoreFailure StoreState :=
  checked (ensure (!store.poisoned) .storeUnavailable) >>= fun _ => .ok store.state

@[simp] theorem lock_eq_ok {store : InMemoryProxyStore} {state : StoreState} :
    store.lock = .ok state ↔ store.poisoned = false ∧ store.state = state := by
  simp [InMemoryProxyStore.lock, bind_eq_ok]

/-- `ProxyRevisionId::new(..).expect(..)`. -/
def expectRevisionId (requestId : String) : Except StoreFailure ProxyRevisionId :=
  match ProxyRevisionId.new requestId with
  | .ok revisionId => .ok revisionId
  | .error _ => .error .panicked

/-! ### Shared steps -/

/-- `ensure_scope_match`. -/
def ensureScopeMatch (actual expected : ExactScope) : Except ProxyError Unit :=
  ensure (actual == expected) .proxyNotFound

namespace StoreState

/-- `check_idempotency`: the record of an earlier use of the request, if this
use is the same request in the same scope. -/
def checkIdempotency (state : StoreState) (operation requestId payloadHash : String)
    (scope : ExactScope) : Except ProxyError (Option IdempotencyRecord) :=
  match AList.lookup (requestId, operation) state.idempotency with
  | none => .ok none
  | some record => do
      ensureScopeMatch record.scope scope
      ensure (record.payloadHash == payloadHash) .idempotencyConflict
      return some record

/-- `record_transition`. -/
def recordTransition (state : StoreState) (activity : LifecycleActivity) : StoreState :=
  { state with transitions := state.transitions ++ [activity] }

/-- `record_idempotency`. -/
def recordIdempotency (state : StoreState) (record : IdempotencyRecord) : StoreState :=
  { state with
    idempotency := AList.insert (record.requestId, record.operation) record state.idempotency }

/-- `ensure_identity_available`. -/
def ensureIdentityAvailable (state : StoreState) (scope : ExactScope) (proxyId : ProxyId)
    (slug : String) : Except ProxyError Unit :=
  ensure (!(AList.lookup proxyId.text state.proxies).isSome &&
      !state.proxies.entries.any fun entry => entry.2.scope == scope && entry.2.slug == slug)
    .identityConflict

/-- The proxy's row, or the answer of every operation on an unknown proxy. -/
def requireProxy (state : StoreState) (key : String) : Except ProxyError StoreProxy :=
  require (AList.lookup key state.proxies) .proxyNotFound

/-- The stored revision, or the answer of every operation on an unknown one. -/
def requireRevision (state : StoreState) (proxyId : ProxyId) (revisionId : ProxyRevisionId) :
    Except ProxyError StoredRevision :=
  require (AList.lookup (revisionKey proxyId revisionId) state.revisions) .revisionNotFound

/-- Store a proxy's row. -/
def putProxy (state : StoreState) (key : String) (proxy : StoreProxy) : StoreState :=
  { state with proxies := AList.insert key proxy state.proxies }

/-- Store a revision under its key. -/
def putRevision (state : StoreState) (proxyId : ProxyId) (revisionId : ProxyRevisionId)
    (stored : StoredRevision) : StoreState :=
  { state with revisions := AList.insert (revisionKey proxyId revisionId) stored state.revisions }

end StoreState

/-- `to_proxy`: the answer shows the draft's specification, or the active one's. -/
def StoreProxy.toProxy (proxy : StoreProxy) (revisions : KeyMap String StoredRevision)
    (overrideRevision : Option StoredRevision) : McpProxy :=
  let stored (id : ProxyRevisionId) := AList.lookup (revisionKey proxy.proxyId id) revisions
  let draft := overrideRevision.or (proxy.draftRevisionId.bind stored)
  let spec := (draft.map (·.revision.spec)).or
    ((proxy.activeRevisionId.bind stored).map (·.revision.spec))
  { proxyId := proxy.proxyId, scope := proxy.scope, displayName := proxy.displayName,
    slug := proxy.slug, description := proxy.description, owner := proxy.owner,
    lifecycleState := proxy.lifecycleState, redactionStatus := proxy.redactionStatus,
    activeRevisionId := proxy.activeRevisionId,
    draftRevisionId := (draft.map (·.revision.revisionId)).or proxy.draftRevisionId, spec }

/-- `replay_proxy`: the answer to a repeated request, as the proxy is now. -/
def StoreState.replayProxy (state : StoreState) (record : IdempotencyRecord) :
    Except ProxyError McpProxy := do
  let proxy ← state.requireProxy record.proxyId
  let overrideRevision := record.revisionId.bind fun revisionId =>
    AList.lookup (record.proxyId ++ ":" ++ revisionId) state.revisions
  return proxy.toProxy state.revisions overrideRevision

/-- `replay_revision`. -/
def StoreState.replayRevision (state : StoreState) (record : IdempotencyRecord) :
    Except ProxyError McpProxyRevision := do
  let revisionId ← require record.revisionId .storeUnavailable
  let stored ← require (AList.lookup (record.proxyId ++ ":" ++ revisionId) state.revisions)
    .revisionNotFound
  return stored.revision

/-! ### Operations -/

section Operations

variable (digest : String → String)

/-- `create_with_outcome`: the answer says whether the request was a repetition. -/
def createWithOutcome (input : CreateProxy) (store : InMemoryProxyStore) :
    Except StoreFailure ((McpProxy × Bool) × StoreState) := do
  let (displayName, description, owner) ← checked (validateCreate input)
  let createdAtMicros ← checked (validateRequestId input.requestId)
  let payloadHash := createPayloadHash digest input displayName description owner
  let state ← store.lock
  match ← checked
    (state.checkIdempotency createOperation input.requestId payloadHash input.scope) with
  | some record => return ((← checked (state.replayProxy record), true), state)
  | none =>
      checked (state.ensureIdentityAvailable input.scope input.proxyId input.slug)
      let proxy : StoreProxy :=
        { proxyId := input.proxyId, scope := input.scope, displayName, slug := input.slug,
          description, owner, lifecycleState := .draft, redactionStatus := .redacted,
          activeRevisionId := none, draftRevisionId := none, createdAtMicros }
      let response := proxy.toProxy state.revisions none
      let state := state.putProxy input.proxyId.text proxy
      let state := state.recordTransition
        { operation := createOperation, scope := input.scope, proxyId := input.proxyId,
          revisionId := none, priorState := none, nextState := .draft, actorId := none,
          reasonCode := "proxy.created", status := "committed", requestId := input.requestId,
          occurredAtMicros := createdAtMicros }
      let state := state.recordIdempotency
        { requestId := input.requestId, operation := createOperation, payloadHash,
          proxyId := input.proxyId.text, revisionId := none, scope := input.scope }
      return ((response, false), state)

/-- `update_draft`. -/
def updateDraft (input : UpdateProxyDraft) (store : InMemoryProxyStore) :
    Except StoreFailure (McpProxy × StoreState) := do
  let _ ← checked (validateRequestId input.requestId)
  checked (validateScope input.scope)
  let actorId ← checked (boundedRequiredString input.actorId)
  checked (validateProxySpec input.spec)
  let createdAtMicros ← checked (validateRequestId input.requestId)
  let payloadHash := updatePayloadHash digest input actorId (specJson input.spec)
  let state ← store.lock
  match ← checked
    (state.checkIdempotency updateDraftOperation input.requestId payloadHash input.scope) with
  | some record => return (← checked (state.replayProxy record), state)
  | none =>
      let current ← checked (state.requireProxy input.proxyId.text)
      checked (ensureScopeMatch current.scope input.scope)
      checked (ensure (current.draftRevisionId == input.expectedRevisionId) .revisionConflict)
      let revisionId ← expectRevisionId input.requestId
      let revision ← checked
        (buildRevision digest input.proxyId revisionId input.spec actorId .draft createdAtMicros)
      let state := state.putRevision input.proxyId revisionId ⟨revision, false⟩
      let proxy := { current with draftRevisionId := some revisionId }
      let state := state.putProxy input.proxyId.text proxy
      let response := proxy.toProxy state.revisions none
      let state := state.recordTransition
        { operation := updateDraftOperation, scope := current.scope, proxyId := current.proxyId,
          revisionId := some revisionId, priorState := some current.lifecycleState,
          nextState := .draft, actorId := some actorId, reasonCode := "proxy.draft_updated",
          status := "committed", requestId := input.requestId,
          occurredAtMicros := createdAtMicros }
      let state := state.recordIdempotency
        { requestId := input.requestId, operation := updateDraftOperation, payloadHash,
          proxyId := input.proxyId.text, revisionId := some revisionId.text,
          scope := current.scope }
      return (response, state)

/-- `publish_revision`: the draft's specification becomes a published revision
and the active one. The proxy's lifecycle state is left as it is, although the
activity row says `draft`. -/
def publishRevision (input : PublishRevision) (store : InMemoryProxyStore) :
    Except StoreFailure (McpProxyRevision × StoreState) := do
  let _ ← checked (validateRequestId input.requestId)
  checked (validateScope input.scope)
  let actorId ← checked (boundedRequiredString input.actorId)
  let createdAtMicros ← checked (validateRequestId input.requestId)
  let payloadHash := publishPayloadHash digest input actorId
  let state ← store.lock
  match ← checked
    (state.checkIdempotency publishOperation input.requestId payloadHash input.scope) with
  | some record => return (← checked (state.replayRevision record), state)
  | none =>
      let proxy ← checked (state.requireProxy input.proxyId.text)
      checked (ensureScopeMatch proxy.scope input.scope)
      checked (ensure (proxy.activeRevisionId == input.expectedRevisionId) .revisionConflict)
      checked (ensure (proxy.lifecycleState != .retired) .identityConflict)
      let draft ← checked (state.requireRevision input.proxyId input.draftRevisionId)
      checked (ensure (!draft.published) .immutableRevision)
      checked (validatePublishCapabilities draft.revision.spec)
      let revisionId ← expectRevisionId input.requestId
      let revision ← checked (buildRevision digest input.proxyId revisionId draft.revision.spec
        actorId .draft createdAtMicros)
      let state := state.putRevision input.proxyId revisionId ⟨revision, true⟩
      let state := state.putProxy input.proxyId.text
        { proxy with activeRevisionId := some revisionId }
      let state := state.recordTransition
        { operation := publishOperation, scope := input.scope, proxyId := input.proxyId,
          revisionId := some revisionId, priorState := some proxy.lifecycleState,
          nextState := .draft, actorId := some actorId,
          reasonCode := "proxy.revision_published", status := "committed",
          requestId := input.requestId, occurredAtMicros := createdAtMicros }
      let state := state.recordIdempotency
        { requestId := input.requestId, operation := publishOperation, payloadHash,
          proxyId := input.proxyId.text, revisionId := some revisionId.text,
          scope := input.scope }
      return (revision, state)

/-- `retire`: accepted from every lifecycle state. -/
def retire (input : RetireProxy) (store : InMemoryProxyStore) :
    Except StoreFailure (McpProxy × StoreState) := do
  let _ ← checked (validateRequestId input.requestId)
  checked (validateScope input.scope)
  let occurredAtMicros ← checked (validateRequestId input.requestId)
  let payloadHash := retirePayloadHash digest input
  let state ← store.lock
  match ← checked
    (state.checkIdempotency retireOperation input.requestId payloadHash input.scope) with
  | some record => return (← checked (state.replayProxy record), state)
  | none =>
      let proxy ← checked (state.requireProxy input.proxyId.text)
      checked (ensureScopeMatch proxy.scope input.scope)
      checked (ensure (proxy.activeRevisionId == input.expectedRevisionId) .revisionConflict)
      let retired := { proxy with lifecycleState := .retired }
      let state := state.putProxy input.proxyId.text retired
      let response := retired.toProxy state.revisions none
      let state := state.recordTransition
        { operation := retireOperation, scope := input.scope, proxyId := input.proxyId,
          revisionId := input.expectedRevisionId, priorState := some proxy.lifecycleState,
          nextState := .retired, actorId := none, reasonCode := "proxy.retired",
          status := "committed", requestId := input.requestId, occurredAtMicros }
      let state := state.recordIdempotency
        { requestId := input.requestId, operation := retireOperation, payloadHash,
          proxyId := input.proxyId.text, revisionId := none, scope := input.scope }
      return (response, state)

/-- `transition`: one edge of the lifecycle table, taken by the proxy and by its
active revision together. -/
def transition (input : TransitionProxyLifecycle) (store : InMemoryProxyStore) :
    Except StoreFailure (McpProxy × StoreState) := do
  let occurredAtMicros ← checked (validateRequestId input.requestId)
  checked (validateScope input.scope)
  let actorId ← checked (boundedRequiredString input.actorId)
  let reasonCode ← checked (validateReasonCode input.reasonCode)
  let payloadHash := lifecyclePayloadHash digest input actorId reasonCode
  let state ← store.lock
  match ← checked (state.checkIdempotency input.command.operation input.requestId payloadHash
    input.scope) with
  | some record => return (← checked (state.replayProxy record), state)
  | none =>
      let current ← checked (state.requireProxy input.proxyId.text)
      checked (ensureScopeMatch current.scope input.scope)
      checked (ensure (current.activeRevisionId == input.expectedRevisionId &&
        current.activeRevisionId == some input.revisionId) .revisionConflict)
      let nextState ← checked
        (transitionState current.lifecycleState input.command input.approved)
      let stored ← checked (state.requireRevision input.proxyId input.revisionId)
      checked (ensure stored.published .immutableRevision)
      let state := state.putRevision input.proxyId input.revisionId
        { stored with revision := { stored.revision with lifecycleState := nextState } }
      let proxy := { current with lifecycleState := nextState }
      let state := state.putProxy input.proxyId.text proxy
      let response := proxy.toProxy state.revisions none
      let state := state.recordTransition
        { operation := input.command.operation, scope := input.scope, proxyId := input.proxyId,
          revisionId := some input.revisionId, priorState := some current.lifecycleState,
          nextState, actorId := some actorId, reasonCode, status := "committed",
          requestId := input.requestId, occurredAtMicros }
      let state := state.recordIdempotency
        { requestId := input.requestId, operation := input.command.operation, payloadHash,
          proxyId := input.proxyId.text, revisionId := none, scope := input.scope }
      return (response, state)

/-- The specification of a revision with its secret references replaced. -/
def rotatedSpec (spec : ProxySpec) (secretRefs : List SecretRef) : ProxySpec :=
  { spec with
    upstreams := spec.upstreams.map fun upstream =>
      { upstream with secretRefs, credentialRef := secretRefs.head? }
    cliProfiles := spec.cliProfiles.map fun profile => { profile with secretRefs } }

/-- `rotate_credentials`: a published copy of the active revision with new secret
references, in the copied revision's own lifecycle state, becomes active. -/
def rotateCredentials (input : RotateProxyCredentials) (store : InMemoryProxyStore) :
    Except StoreFailure (McpProxyRevision × StoreState) := do
  let occurredAtMicros ← checked (validateRequestId input.requestId)
  checked (ensure (!input.secretRefs.isEmpty && input.secretRefs.length ≤ maxSecretRefs)
    (.invalidProxySpec "Credential rotation requires a bounded non-empty secret reference set."))
  let actorId ← checked (boundedRequiredString input.actorId)
  let reasonCode ← checked (validateReasonCode input.reasonCode)
  let payloadHash := rotatePayloadHash digest input actorId
  let state ← store.lock
  match ← checked
    (state.checkIdempotency rotateOperation input.requestId payloadHash input.scope) with
  | some record => return (← checked (state.replayRevision record), state)
  | none =>
      let current ← checked (state.requireProxy input.proxyId.text)
      checked (ensureScopeMatch current.scope input.scope)
      checked (ensure (current.lifecycleState != .retired &&
        current.activeRevisionId == input.expectedRevisionId &&
        current.activeRevisionId == some input.revisionId) .revisionConflict)
      let source ← checked (state.requireRevision input.proxyId input.revisionId)
      checked (ensure source.published .immutableRevision)
      let spec := rotatedSpec source.revision.spec input.secretRefs
      checked (validateProxySpec spec)
      let revisionId ← expectRevisionId input.requestId
      let revision ← checked (buildRevision digest input.proxyId revisionId spec actorId
        source.revision.lifecycleState occurredAtMicros)
      let state := state.putRevision input.proxyId revisionId ⟨revision, true⟩
      let state := state.putProxy input.proxyId.text
        { current with activeRevisionId := some revisionId }
      let state := state.recordTransition
        { operation := rotateOperation, scope := input.scope, proxyId := input.proxyId,
          revisionId := some revisionId, priorState := some source.revision.lifecycleState,
          nextState := source.revision.lifecycleState, actorId := some actorId, reasonCode,
          status := "committed", requestId := input.requestId, occurredAtMicros }
      let state := state.recordIdempotency
        { requestId := input.requestId, operation := rotateOperation, payloadHash,
          proxyId := input.proxyId.text, revisionId := some revisionId.text,
          scope := input.scope }
      return (revision, state)

/-- `rollback`: a published revision whose own state is `ready` becomes active
and the proxy becomes `ready`. The proxy's own lifecycle state is not looked
at. -/
def rollback (input : RollbackProxy) (store : InMemoryProxyStore) :
    Except StoreFailure (McpProxy × StoreState) := do
  let occurredAtMicros ← checked (validateRequestId input.requestId)
  let actorId ← checked (boundedRequiredString input.actorId)
  let reasonCode ← checked (validateReasonCode input.reasonCode)
  let payloadHash := rollbackPayloadHash digest input actorId
  let state ← store.lock
  match ← checked
    (state.checkIdempotency rollbackOperation input.requestId payloadHash input.scope) with
  | some record => return (← checked (state.replayProxy record), state)
  | none =>
      let current ← checked (state.requireProxy input.proxyId.text)
      checked (ensureScopeMatch current.scope input.scope)
      checked (ensure (current.activeRevisionId == input.expectedRevisionId &&
        current.activeRevisionId == some input.revisionId) .revisionConflict)
      let target ← checked (state.requireRevision input.proxyId input.targetRevisionId)
      checked (ensure (target.published && target.revision.lifecycleState == .ready)
        .invalidLifecycleTransition)
      let proxy := { current with
        activeRevisionId := some input.targetRevisionId, lifecycleState := .ready }
      let state := state.putProxy input.proxyId.text proxy
      let response := proxy.toProxy state.revisions none
      let state := state.recordTransition
        { operation := rollbackOperation, scope := input.scope, proxyId := input.proxyId,
          revisionId := some input.targetRevisionId, priorState := some current.lifecycleState,
          nextState := .ready, actorId := some actorId, reasonCode, status := "committed",
          requestId := input.requestId, occurredAtMicros }
      let state := state.recordIdempotency
        { requestId := input.requestId, operation := rollbackOperation, payloadHash,
          proxyId := input.proxyId.text, revisionId := some input.targetRevisionId.text,
          scope := input.scope }
      return (response, state)

end Operations

/-- `get_revision`. -/
def getRevision (scope : ExactScope) (proxyId : ProxyId) (revisionId : ProxyRevisionId)
    (store : InMemoryProxyStore) : Except StoreFailure McpProxyRevision := do
  checked (validateScope scope)
  let state ← store.lock
  let proxy ← checked (state.requireProxy proxyId.text)
  checked (ensureScopeMatch proxy.scope scope)
  let stored ← checked (state.requireRevision proxyId revisionId)
  return stored.revision

end Apex.Proxy
