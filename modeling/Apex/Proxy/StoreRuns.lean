import Apex.Lib.Runs
import Apex.Proxy.Store

/-!
Runs of the in-memory proxy store.
-/

namespace Apex.Proxy

open Checked Runs

/-- One call on the store. -/
inductive StoreOp where
  | create (input : CreateProxy)
  | updateDraft (input : UpdateProxyDraft)
  | publish (input : PublishRevision)
  | retire (input : RetireProxy)
  | transition (input : TransitionProxyLifecycle)
  | rotate (input : RotateProxyCredentials)
  | rollback (input : RollbackProxy)

section Steps

variable (digest : String → String)

/-- The state an accepted call leaves. -/
def StoreOp.accepted (op : StoreOp) (store : InMemoryProxyStore) :
    Except StoreFailure StoreState :=
  match op with
  | .create input => (createWithOutcome digest input store).map Prod.snd
  | .updateDraft input => (Proxy.updateDraft digest input store).map Prod.snd
  | .publish input => (publishRevision digest input store).map Prod.snd
  | .retire input => (Proxy.retire digest input store).map Prod.snd
  | .transition input => (Proxy.transition digest input store).map Prod.snd
  | .rotate input => (rotateCredentials digest input store).map Prod.snd
  | .rollback input => (Proxy.rollback digest input store).map Prod.snd

/-- The store after a call, whatever its outcome. -/
def storeStep (store : InMemoryProxyStore) (op : StoreOp) : InMemoryProxyStore :=
  match op.accepted digest store with
  | .ok state => { store with state }
  | .error (.refused _) => store
  | .error .panicked => { store with poisoned := true }

end Steps

/-- A call that is not accepted leaves every row as it is. -/
theorem storeStep_cases (digest : String → String) (store : InMemoryProxyStore) (op : StoreOp) :
    (storeStep digest store op).state = store.state ∨
      ∃ state, op.accepted digest store = .ok state ∧
        storeStep digest store op = { store with state } := by
  unfold storeStep
  split
  · next state accepted => exact .inr ⟨state, accepted, rfl⟩
  · exact .inl rfl
  · exact .inl rfl

/-! ### Requests -/

theorem ProxyId.text_inj {p q : ProxyId} (same : p.text = q.text) : p = q := by
  obtain ⟨ptext, pvalid⟩ := p
  subst same
  rfl

/-- A request that no earlier accepted call used for this operation. -/
def StoreState.unused (state : StoreState) (operation requestId : String) : Bool :=
  (AList.lookup (requestId, operation) state.idempotency).isNone

/-- The idempotency check finds a record exactly when the request was used. -/
theorem unused_of_checkIdempotency {state : StoreState}
    {operation requestId payloadHash scope record}
    (looked : state.checkIdempotency operation requestId payloadHash scope = .ok record) :
    state.unused operation requestId = record.isNone := by
  unfold StoreState.checkIdempotency at looked
  unfold StoreState.unused
  cases found : AList.lookup (requestId, operation) state.idempotency with
  | none =>
    simp only [found, Except.ok.injEq] at looked
    rw [← looked]
  | some earlier =>
    simp only [found, bind_eq_ok, pure_eq_ok] at looked
    obtain ⟨_, _, _, _, rfl⟩ := looked
    rfl

theorem checkIdempotency_of_unused {state : StoreState} {operation requestId payloadHash scope}
    (unused : state.unused operation requestId = true) :
    state.checkIdempotency operation requestId payloadHash scope = .ok none := by
  unfold StoreState.unused at unused
  unfold StoreState.checkIdempotency
  rw [Option.isNone_iff_eq_none.mp unused]

theorem expectRevisionId_eq_ok {requestId revisionId} :
    expectRevisionId requestId = .ok revisionId ↔ revisionId.text = requestId := by
  unfold expectRevisionId ProxyRevisionId.new
  by_cases valid : isLowercaseUuidV7 requestId = true
  · simp only [dif_pos valid, Except.ok.injEq]
    constructor
    · rintro rfl
      rfl
    · intro same
      obtain ⟨text, _⟩ := revisionId
      subst same
      rfl
  · simp only [dif_neg valid, reduceCtorEq, false_iff]
    rintro rfl
    exact valid revisionId.valid

section Rollback

variable {store : InMemoryProxyStore}

/-- The checks of a rollback that is not a repetition, read off its request and
the state it meets. -/
def RollbackPasses (store : InMemoryProxyStore) (input : RollbackProxy) : Prop :=
  store.poisoned = false ∧ (∃ micros, validateRequestId input.requestId = .ok micros) ∧
    (∃ actorId, boundedRequiredString input.actorId = .ok actorId) ∧
    (∃ reasonCode, validateReasonCode input.reasonCode = .ok reasonCode) ∧
    store.state.unused rollbackOperation input.requestId = true ∧
    (∃ current, AList.lookup input.proxyId.text store.state.proxies = some current ∧
      current.scope = input.scope ∧ current.activeRevisionId = input.expectedRevisionId ∧
      current.activeRevisionId = some input.revisionId) ∧
    ∃ target, AList.lookup (revisionKey input.proxyId input.targetRevisionId)
        store.state.revisions = some target ∧
      target.published = true ∧ target.revision.lifecycleState = .ready

/-- A rollback that passes its checks is accepted: the target becomes active and
the proxy `ready`. -/
theorem rollback_of_passes (digest : String → String) {input} (passes : RollbackPasses store input)
    :
    ∃ (reply : McpProxy × StoreState) (current : StoreProxy),
      rollback digest input store = .ok reply ∧
      AList.lookup input.proxyId.text store.state.proxies = some current ∧
      reply.2.proxies = AList.insert input.proxyId.text
        { current with activeRevisionId := some input.targetRevisionId, lifecycleState := .ready }
        store.state.proxies := by
  obtain ⟨unpoisoned, ⟨occurredAt, request⟩, ⟨actorId, actor⟩, ⟨reasonCode, reason⟩, unused,
    ⟨current, found, scope, expected, active⟩, target, foundTarget, published, ready⟩ := passes
  have locked : store.lock = .ok store.state := lock_eq_ok.mpr ⟨unpoisoned, rfl⟩
  have fresh : store.state.checkIdempotency rollbackOperation input.requestId
      (rollbackPayloadHash digest input actorId) input.scope = .ok none :=
    checkIdempotency_of_unused unused
  have scopes : ensureScopeMatch current.scope input.scope = .ok () := by
    simp [ensureScopeMatch, scope]
  have revisions : (current.activeRevisionId == input.expectedRevisionId &&
      current.activeRevisionId == some input.revisionId) = true := by
    simp [← expected, active]
  have eligible : (target.published && target.revision.lifecycleState == .ready) = true := by
    simp [published, ready]
  simp only [rollback, request, actor, reason, locked, fresh, checked_ok, ok_bind,
    StoreState.requireProxy, StoreState.requireRevision, found, foundTarget, require_some, scopes,
    revisions, eligible, ensure_true]
  exact ⟨_, current, rfl, rfl, rfl⟩

end Rollback

/-! ### A portfolio proxy

The requests of a proxy that exposes the read-only portfolio tool, for runs on
concrete inputs. No two of them share a request identifier, so the store never
compares two digests and one constant of the right shape stands for them. -/

def portfolioDigest : String → String :=
  fun _ => "0123456789abcdef0123456789abcdef0123456789abcdef0123456789abcdef"

def portfolioScope : ExactScope := ⟨"w", "n"⟩

def portfolioProxyId : ProxyId := ⟨"0190a000-0000-7000-8000-000000000001", by decide⟩

def portfolioSpec : ProxySpec where
  ingress :=
    { transport := .streamableHttp, exposure := .private, host := "p.io", path := "/m",
      allowedOrigins := [], protocolRevision := "2025-11-25",
      inboundAuthenticationRequired := true }
  upstreams :=
    [{ upstreamId := "u", displayName := "U", transport := .streamableHttp,
       endpointOrCommandRef := "https://u.io", credentialRef := some ⟨"secret://u"⟩,
       secretRefs := [], serverIdentity := "u.io", toolCatalogHash := none }]
  exposedTools := [⟨"u", "portfolio.read", "portfolio.read", .read⟩]
  cliProfiles := []
  authBindings := []
  governanceBinding :=
    { policyId := "r", approvalMode := .none, dataClassification := .confidential,
      rateLimitPerMinute := 60, concurrencyLimit := 4, budgetLimitPerDay := 5000,
      retentionDays := 30 }
  runtimeProfile :=
    { imageDigest := "sha256:0123456789abcdef0123456789abcdef0123456789abcdef0123456789abcdef",
      cpuLimit := "1", memoryLimit := "1Gi", networkPolicy := "default-deny",
      filesystemPolicy := "read-only-rootfs", rootless := true,
      network := ⟨[⟨"u.io", 443, .denied⟩]⟩ }

/-- The revision identifiers the draft and the publication get from their
requests. -/
def portfolioDraftId : ProxyRevisionId := ⟨"0190a000-0000-7000-8000-000000000003", by decide⟩
def portfolioRevisionId : ProxyRevisionId := ⟨"0190a000-0000-7000-8000-000000000004", by decide⟩

/-- One edge of the published revision's lifecycle. -/
def portfolioTransition (requestId : String) (command : LifecycleCommand) : StoreOp :=
  .transition
    { requestId, scope := portfolioScope, proxyId := portfolioProxyId,
      revisionId := portfolioRevisionId, expectedRevisionId := some portfolioRevisionId,
      actorId := "o", reasonCode := "r", command, approved := true }

/-- Create the proxy, publish a revision and bring it to `ready` with an approved
deployment. -/
def portfolioDeployment : List StoreOp :=
  [.create { requestId := "0190a000-0000-7000-8000-000000000002", scope := portfolioScope,
             proxyId := portfolioProxyId, displayName := "P", slug := "p",
             description := none, owner := none },
   .updateDraft { requestId := portfolioDraftId.text, scope := portfolioScope,
                  proxyId := portfolioProxyId, expectedRevisionId := none,
                  actorId := "o", spec := portfolioSpec },
   .publish { requestId := portfolioRevisionId.text, scope := portfolioScope,
              proxyId := portfolioProxyId, draftRevisionId := portfolioDraftId,
              expectedRevisionId := none, actorId := "o" },
   portfolioTransition "0190a000-0000-7000-8000-000000000005" .validate,
   portfolioTransition "0190a000-0000-7000-8000-000000000006" .validationSucceeded,
   portfolioTransition "0190a000-0000-7000-8000-000000000007" .deploy,
   portfolioTransition "0190a000-0000-7000-8000-000000000008" .ready]

end Apex.Proxy
