import Apex.Proxy.Commits

/-!
Deployed proxies and approved revisions in the in-memory proxy store.

A proxy is deployed in the states `provisioning`, `ready`, `degraded` and
`paused`. The only edge into these states from outside is a deployment that
carries approval, so the revision that is active then is an approved one. Two
calls change the active revision of a deployed proxy behind the lifecycle's
back: publication replaces it and leaves the lifecycle state alone, and a draft
update whose request identifier is the active revision's overwrites it.
`active_approved` says that every other call keeps the active revision of a
deployed proxy approved.
-/

namespace Apex.Proxy

open Checked Runs List

/-! ### Approval as history -/

/-- The store together with the keys of the stored revisions that went through a
deployment that carried approval, or were rotated from such a revision. -/
structure TrackedStore where
  store : InMemoryProxyStore
  approved : List String

/-- A fresh store has approved nothing. -/
def TrackedStore.empty : TrackedStore := ⟨.empty, []⟩

/-- The key of the revision a request stores. -/
def requestKey (proxyId : ProxyId) (requestId : String) : String :=
  proxyId.text ++ ":" ++ requestId

/-- A revision newly stored under a key has been through nothing yet. -/
def forget (key : String) (approved : List String) : List String :=
  approved.filter (· ≠ key)

/-- The history after a call that was accepted and is not a repetition. -/
def approvalsAfter (approved : List String) : StoreOp → List String
  | .updateDraft input => forget (requestKey input.proxyId input.requestId) approved
  | .publish input => forget (requestKey input.proxyId input.requestId) approved
  | .transition input =>
      if input.command = .deploy ∧ input.approved = true then
        revisionKey input.proxyId input.revisionId :: approved
      else approved
  | .rotate input =>
      let key := requestKey input.proxyId input.requestId
      if revisionKey input.proxyId input.revisionId ∈ approved then key :: approved
      else forget key approved
  | _ => approved

/-- The request was used before for the same operation. -/
def StoreOp.repeats (state : StoreState) : StoreOp → Bool
  | .create input => !state.unused createOperation input.requestId
  | .updateDraft input => !state.unused updateDraftOperation input.requestId
  | .publish input => !state.unused publishOperation input.requestId
  | .retire input => !state.unused retireOperation input.requestId
  | .transition input => !state.unused input.command.operation input.requestId
  | .rotate input => !state.unused rotateOperation input.requestId
  | .rollback input => !state.unused rollbackOperation input.requestId

/-- The history after an accepted call: a repetition changes nothing. -/
def TrackedStore.approvedBy (tracked : TrackedStore) (op : StoreOp) : List String :=
  if op.repeats tracked.store.state then tracked.approved else approvalsAfter tracked.approved op

/-- A call on the store, with the history kept beside it. -/
def trackedStep (digest : String → String) (tracked : TrackedStore) (op : StoreOp) :
    TrackedStore where
  store := storeStep digest tracked.store op
  approved :=
    match op.accepted digest tracked.store with
    | .ok _ => tracked.approvedBy op
    | .error _ => tracked.approved

/-- Every deployed proxy's active revision is an approved one. -/
def ActiveApproved (tracked : TrackedStore) : Prop :=
  ∀ (proxyId : ProxyId) (proxy : StoreProxy),
    AList.lookup proxyId.text tracked.store.state.proxies = some proxy →
    proxy.lifecycleState.isDeployed = true →
    ∃ revisionId, proxy.activeRevisionId = some revisionId ∧
      revisionKey proxyId revisionId ∈ tracked.approved

/-- A new publication for a deployed proxy, or a new draft update for one under
the identifier of its active revision. -/
def ReplacesDeployed (tracked : TrackedStore) : StoreOp → Prop
  | .publish input =>
      tracked.store.state.unused publishOperation input.requestId = true ∧
        ∃ proxy ∈ AList.lookup input.proxyId.text tracked.store.state.proxies,
          proxy.lifecycleState.isDeployed = true
  | .updateDraft input =>
      tracked.store.state.unused updateDraftOperation input.requestId = true ∧
        ∃ proxy ∈ AList.lookup input.proxyId.text tracked.store.state.proxies,
          proxy.lifecycleState.isDeployed = true ∧
            proxy.activeRevisionId.map ProxyRevisionId.text = some input.requestId
  | _ => False

instance (tracked : TrackedStore) : (op : StoreOp) → Decidable (ReplacesDeployed tracked op)
  | .publish input => inferInstanceAs (Decidable (_ = true ∧
      ∃ proxy ∈ AList.lookup input.proxyId.text tracked.store.state.proxies, _ = true))
  | .updateDraft input => inferInstanceAs (Decidable (_ = true ∧
      ∃ proxy ∈ AList.lookup input.proxyId.text tracked.store.state.proxies, _ = true ∧ _ = _))
  | .create _ | .retire _ | .transition _ | .rotate _ | .rollback _ => .isFalse id

/-! ### The invariant -/

/-- What every call keeps: besides the proxies' active revisions, every published
revision whose own state is a deployed one is approved. Rollback and rotation
read that state. -/
structure ApprovalInv (state : StoreState) (approved : List String) : Prop where
  active : ∀ (proxyId : ProxyId) (proxy : StoreProxy),
    AList.lookup proxyId.text state.proxies = some proxy →
    proxy.lifecycleState.isDeployed = true →
    ∃ revisionId, proxy.activeRevisionId = some revisionId ∧
      revisionKey proxyId revisionId ∈ approved
  published : ∀ (proxyId : ProxyId) (revisionId : ProxyRevisionId) (stored : StoredRevision),
    AList.lookup (revisionKey proxyId revisionId) state.revisions = some stored →
    stored.published = true → stored.revision.lifecycleState.isDeployed = true →
    revisionKey proxyId revisionId ∈ approved

section Steps

variable {state state' : StoreState} {approved approved' : List String}

theorem requestKey_eq {proxyId} {revisionId : ProxyRevisionId} {requestId}
    (named : revisionId.text = requestId) :
    requestKey proxyId requestId = revisionKey proxyId revisionId := by
  rw [← named, requestKey, revisionKey]

theorem mem_forget {key other} (mem : other ∈ approved) (differ : other ≠ key) :
    other ∈ forget key approved :=
  mem_filter.mpr ⟨mem, by simpa using differ⟩

/-- Writing one proxy's row keeps the proxies' part of the invariant when the
written row meets it and no other proxy's approval is lost. -/
theorem active_insert {written : ProxyId} {row} (inv : ApprovalInv state approved)
    (proxies : state'.proxies = AList.insert written.text row state.proxies)
    (here : row.lifecycleState.isDeployed = true →
      ∃ revisionId, row.activeRevisionId = some revisionId ∧
        revisionKey written revisionId ∈ approved')
    (others : ∀ proxyId revisionId, proxyId ≠ written → revisionKey proxyId revisionId ∈ approved →
      revisionKey proxyId revisionId ∈ approved') :
    ∀ (proxyId : ProxyId) (proxy : StoreProxy),
      AList.lookup proxyId.text state'.proxies = some proxy →
      proxy.lifecycleState.isDeployed = true →
      ∃ revisionId, proxy.activeRevisionId = some revisionId ∧
        revisionKey proxyId revisionId ∈ approved' := by
  intro proxyId proxy found deployed
  rw [proxies, KeyMap.lookup_insert_eq] at found
  by_cases same : proxyId.text = written.text
  · rw [if_pos same] at found
    cases found
    rw [ProxyId.text_inj same]
    exact here deployed
  · rw [if_neg same] at found
    obtain ⟨revisionId, active, mem⟩ := inv.active proxyId proxy found deployed
    exact ⟨revisionId, active, others proxyId revisionId (fun eq => same (eq ▸ rfl)) mem⟩

/-- Storing one revision keeps the revisions' part of the invariant when the
stored revision meets it and no other revision's approval is lost. -/
theorem published_insert {proxyId₀ revisionId₀ row} (inv : ApprovalInv state approved)
    (revisions : state'.revisions = AList.insert (revisionKey proxyId₀ revisionId₀) row
      state.revisions)
    (here : row.published = true → row.revision.lifecycleState.isDeployed = true →
      revisionKey proxyId₀ revisionId₀ ∈ approved')
    (others : ∀ key, key ≠ revisionKey proxyId₀ revisionId₀ → key ∈ approved → key ∈ approved') :
    ∀ (proxyId : ProxyId) (revisionId : ProxyRevisionId) (stored : StoredRevision),
      AList.lookup (revisionKey proxyId revisionId) state'.revisions = some stored →
      stored.published = true → stored.revision.lifecycleState.isDeployed = true →
      revisionKey proxyId revisionId ∈ approved' := by
  intro proxyId revisionId stored found published deployed
  rw [revisions, KeyMap.lookup_insert_eq] at found
  by_cases same : revisionKey proxyId revisionId = revisionKey proxyId₀ revisionId₀
  · rw [if_pos same] at found
    cases found
    rw [same]
    exact here published deployed
  · rw [if_neg same] at found
    exact others _ same (inv.published proxyId revisionId stored found published deployed)

/-- A revision stored under a new key of `written` forgets only that key. -/
theorem forget_others {written revisionId₀} (proxyId : ProxyId) (revisionId : ProxyRevisionId)
    (differ : proxyId ≠ written) (mem : revisionKey proxyId revisionId ∈ approved) :
    revisionKey proxyId revisionId ∈ forget (revisionKey written revisionId₀) approved :=
  mem_forget mem fun same => differ (revisionKey_inj same).1

end Steps

/-! ### One call -/

section Calls

variable {digest : String → String} {tracked : TrackedStore} {approved : List String}

theorem repeats_eq (op : StoreOp) (state : StoreState) :
    op.repeats state = !state.unused op.operation op.requestId := by
  cases op <;> rfl

/-- A transition takes no approval away. -/
theorem mem_transition {input key} (mem : key ∈ approved) :
    key ∈ approvalsAfter approved (.transition input) := by
  simp only [approvalsAfter]
  split
  · exact mem_cons_of_mem _ mem
  · exact mem

/-- A rotation takes no other revision's approval away. -/
theorem mem_rotate {input : RotateProxyCredentials} {key} (mem : key ∈ approved)
    (differ : key ≠ requestKey input.proxyId input.requestId) :
    key ∈ approvalsAfter approved (.rotate input) := by
  simp only [approvalsAfter]
  split
  · exact mem_cons_of_mem _ mem
  · exact mem_forget mem differ

/-- The rotated revision inherits the approval of its source. -/
theorem rotated_mem {input : RotateProxyCredentials}
    (mem : revisionKey input.proxyId input.revisionId ∈ approved) :
    requestKey input.proxyId input.requestId ∈ approvalsAfter approved (.rotate input) := by
  simp only [approvalsAfter, if_pos mem]
  exact mem_cons_self

/-- An edge into a deployed state starts from one, or is the approved deployment. -/
theorem transition_mem {state} {input : TransitionProxyLifecycle} {current nextState}
    (inv : ApprovalInv state approved)
    (found : AList.lookup input.proxyId.text state.proxies = some current)
    (active : current.activeRevisionId = some input.revisionId)
    (edge : transitionState current.lifecycleState input.command input.approved = .ok nextState)
    (deployed : nextState.isDeployed = true) :
    revisionKey input.proxyId input.revisionId ∈ approvalsAfter approved (.transition input) := by
  rcases deployed_source edge deployed with before | approvedDeploy
  · obtain ⟨activeId, isActive, mem⟩ := inv.active input.proxyId current found before
    obtain rfl := Option.some.inj (active.symm.trans isActive)
    exact mem_transition mem
  · simp only [approvalsAfter, if_pos approvedDeploy]
    exact mem_cons_self

/-- A call that commits keeps the invariant unless it replaces the active revision
of a deployed proxy. -/
theorem approvalInv_commit {op : StoreOp} {commit}
    (inv : ApprovalInv tracked.store.state tracked.approved)
    (fresh : tracked.store.state.unused op.operation op.requestId = true)
    (keeps : ¬ ReplacesDeployed tracked op) (committed : Committed tracked.store op commit) :
    ApprovalInv (commit.apply op.proxyId tracked.store.state)
      (approvalsAfter tracked.approved op) := by
  cases committed with
  | create | retire => exact ⟨active_insert inv rfl nofun fun _ _ _ mem => mem, inv.published⟩
  | @updateDraft input current _ _ _ _ _ found _ named =>
    rw [approvalsAfter, requestKey_eq named]
    refine ⟨active_insert inv rfl (fun deployed => ?_) forget_others,
      published_insert inv rfl nofun fun key differ mem => mem_forget mem differ⟩
    -- the updated row keeps its active revision, which is not the one overwritten
    obtain ⟨activeId, active, mem⟩ := inv.active input.proxyId current found deployed
    refine ⟨activeId, active,
      mem_forget mem fun same => keeps ⟨fresh, current, found, deployed, ?_⟩⟩
    rw [active, Option.map_some, (revisionKey_inj same).2, named]
  | @publish _ current _ _ _ _ _ found _ named _ draft =>
    rw [approvalsAfter, requestKey_eq named]
    refine ⟨active_insert inv rfl (fun deployed => ?_) forget_others,
      published_insert inv rfl (fun _ deployed => ?_) fun key differ mem => mem_forget mem differ⟩
    · exact absurd ⟨fresh, current, found, deployed⟩ keeps
    · rw [draft] at deployed
      cases deployed
  | transition found _ _ active edge =>
    have reached := transition_mem inv found active edge
    exact ⟨active_insert inv rfl (fun deployed => ⟨_, active, reached deployed⟩)
      fun _ _ _ mem => mem_transition mem,
      published_insert inv rfl (fun _ deployed => reached deployed) fun _ _ mem =>
        mem_transition mem⟩
  | @rotate input current source revisionId _ _ _ _ _ found _ held named active published copied =>
    have key : requestKey input.proxyId input.requestId = revisionKey input.proxyId revisionId :=
      requestKey_eq named
    refine ⟨active_insert inv rfl (fun deployed => ⟨_, rfl, key ▸ rotated_mem ?_⟩)
      fun _ _ differ mem => mem_rotate mem fun same => differ (revisionKey_inj (same.trans key)).1,
      published_insert inv rfl (fun _ deployed => key ▸ rotated_mem ?_) fun _ differ mem =>
        mem_rotate mem fun same => differ (same.trans key)⟩
    · obtain ⟨activeId, isActive, mem⟩ := inv.active input.proxyId current found deployed
      obtain rfl := Option.some.inj (active.symm.trans isActive)
      exact mem
    · exact inv.published _ _ source held published (copied ▸ deployed)
  | rollback _ _ passes =>
    obtain ⟨-, -, -, -, -, -, target, foundTarget, published, ready⟩ := passes
    refine ⟨active_insert inv rfl (fun _ => ⟨_, rfl, ?_⟩) fun _ _ _ mem => mem, inv.published⟩
    exact inv.published _ _ target foundTarget published (by rw [ready]; rfl)

end Calls

/-! ### Whole runs -/

/-- One call keeps the invariant unless it replaces the active revision of a
deployed proxy. -/
theorem approvalInv_step {digest} {tracked : TrackedStore} {op}
    (inv : ApprovalInv tracked.store.state tracked.approved) (keeps : ¬ ReplacesDeployed tracked op)
    :
    ApprovalInv (trackedStep digest tracked op).store.state
      (trackedStep digest tracked op).approved := by
  unfold trackedStep storeStep
  cases accepted : op.accepted digest tracked.store with
  | error failure => cases failure <;> exact inv
  | ok state =>
    simp only [TrackedStore.approvedBy, repeats_eq]
    rcases accepted_cases accepted with ⟨used, rfl⟩ | ⟨fresh, commit, committed, rfl, -⟩
    · rw [used]
      exact inv
    · rw [fresh]
      exact approvalInv_commit inv fresh keeps committed

/-- **Deployed proxies run approved revisions, except after a replacement.** In
every state of every run from the empty store in which no call publishes for a
deployed proxy, or overwrites the active revision of one with a draft, the
active revision of every proxy in `provisioning`, `ready`, `degraded` or `paused`
went through a deployment that carried approval, or was rotated from one that
did. -/
theorem active_approved (digest : String → String) (ops : List StoreOp)
    (steps : AllSteps (trackedStep digest) (fun tracked op => ¬ ReplacesDeployed tracked op)
      .empty ops) :
    Always (trackedStep digest) ActiveApproved .empty ops := by
  have start : ApprovalInv StoreState.empty [] := by
    constructor
    · intro proxyId proxy found
      simp [StoreState.empty] at found
    · intro proxyId revisionId stored found
      simp [StoreState.empty] at found
  have always : Always (trackedStep digest)
      (fun tracked => ApprovalInv tracked.store.state tracked.approved) .empty ops := by
    refine always_of_allSteps ?_ start steps
    exact fun _ _ inv keeps => approvalInv_step inv keeps
  exact always.mono fun tracked inv => inv.active

/-- The plain deployment of a proxy is such a run. -/
theorem active_approved_portfolioDeployment :
    Always (trackedStep portfolioDigest) ActiveApproved .empty portfolioDeployment :=
  active_approved portfolioDigest portfolioDeployment (by decide +kernel)

/-- Publish the same draft once more while the proxy is `ready`. -/
def portfolioRepublication : List StoreOp :=
  portfolioDeployment ++
    [.publish { requestId := "0190a000-0000-7000-8000-000000000009", scope := portfolioScope,
                proxyId := portfolioProxyId, draftRevisionId := portfolioDraftId,
                expectedRevisionId := some portfolioRevisionId, actorId := "o" }]

theorem portfolioRepublication_not_approved :
    ¬ Always (trackedStep portfolioDigest) ActiveApproved .empty portfolioRepublication := by
  intro always
  have observed : ∃ proxy ∈ AList.lookup portfolioProxyId.text
      (run (trackedStep portfolioDigest) .empty portfolioRepublication).store.state.proxies,
      proxy.lifecycleState.isDeployed = true ∧ ∀ revisionId ∈ proxy.activeRevisionId,
        revisionKey portfolioProxyId revisionId ∉
          (run (trackedStep portfolioDigest) .empty portfolioRepublication).approved := by
    decide +kernel
  obtain ⟨proxy, found, deployed, unapproved⟩ := observed
  have approved := always.last
  obtain ⟨revisionId, active, mem⟩ :=
    approved portfolioProxyId proxy (Option.mem_def.mp found) deployed
  exact unapproved revisionId (Option.mem_def.mpr active) mem

end Apex.Proxy
