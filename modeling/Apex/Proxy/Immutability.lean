import Apex.Proxy.Approval

/-!
Published revisions in the in-memory proxy store.

A revision is stored under its proxy and the request that made it, and the
idempotency records of different operations are kept apart. So a draft update, a
publication or a rotation whose request identifier is already the identifier of
a published revision of that proxy stores another revision in its place.
`published_immutable` says that every other call leaves what is published as it
was published.
-/

namespace Apex.Proxy

open Checked Runs KeyMap

variable {proxyId : ProxyId} {revision : McpProxyRevision}

/-! ### What must not change -/

/-- A revision without the fields of its lifecycle. -/
structure FrozenRevision where
  proxyId : ProxyId
  revisionId : ProxyRevisionId
  spec : ProxySpec
  configHash : String
  createdBy : String
  createdAt : String
  deriving DecidableEq, Repr

def McpProxyRevision.frozen (revision : McpProxyRevision) : FrozenRevision where
  proxyId := revision.proxyId
  revisionId := revision.revisionId
  spec := revision.spec
  configHash := revision.configHash
  createdBy := revision.createdBy
  createdAt := revision.createdAt

/-- The revision is marked published, has this content, and is what the store
answers to a request for it in its proxy's scope. -/
def PublishedAs (proxyId : ProxyId) (revisionId : ProxyRevisionId) (content : FrozenRevision)
    (store : InMemoryProxyStore) : Prop :=
  ∃ stored ∈ AList.lookup (revisionKey proxyId revisionId) store.state.revisions,
    stored.published = true ∧ stored.revision.frozen = content ∧
    ∃ proxy ∈ AList.lookup proxyId.text store.state.proxies,
      getRevision proxy.scope proxyId revisionId store = .ok stored.revision

instance (proxyId : ProxyId) (revisionId : ProxyRevisionId) (content : FrozenRevision)
    (store : InMemoryProxyStore) : Decidable (PublishedAs proxyId revisionId content store) :=
  inferInstanceAs (Decidable (∃ stored ∈ _, _ ∧ _ ∧ ∃ proxy ∈ _, _ = _))

/-- The key under which a call that is not a repetition stores a revision of its
own making. -/
def StoreOp.storesAt (state : StoreState) : StoreOp → Option String
  | .updateDraft input =>
      if state.unused updateDraftOperation input.requestId then
        some (requestKey input.proxyId input.requestId)
      else none
  | .publish input =>
      if state.unused publishOperation input.requestId then
        some (requestKey input.proxyId input.requestId)
      else none
  | .rotate input =>
      if state.unused rotateOperation input.requestId then
        some (requestKey input.proxyId input.requestId)
      else none
  | _ => none

/-- A call that stores a revision in the place of a published one. -/
def OverwritesPublished (state : StoreState) (op : StoreOp) : Prop :=
  ∃ key ∈ op.storesAt state, ∃ stored ∈ AList.lookup key state.revisions, stored.published = true

instance (state : StoreState) (op : StoreOp) : Decidable (OverwritesPublished state op) :=
  inferInstanceAs (Decidable (∃ key ∈ _, ∃ stored ∈ _, _ = _))

/-- The call is accepted. -/
def Accepts (digest : String → String) (store : InMemoryProxyStore) (op : StoreOp) : Prop :=
  (op.accepted digest store).isOk = true

instance (digest : String → String) (store : InMemoryProxyStore) (op : StoreOp) :
    Decidable (Accepts digest store op) :=
  inferInstanceAs (Decidable (_ = true))

theorem accepts_iff {digest store op} :
    Accepts digest store op ↔ ∃ state, op.accepted digest store = .ok state := by
  unfold Accepts
  cases op.accepted digest store <;> simp [Except.isOk, Except.toBool]

/-- An accepted publication or rotation leaves the revision it answers with
published, as it answers it. -/
def PublishesReply (digest : String → String) (store : InMemoryProxyStore) : StoreOp → Prop
  | .publish input => ∀ reply, publishRevision digest input store = .ok reply →
      store.state.unused publishOperation input.requestId = true →
      PublishedAs input.proxyId reply.1.revisionId reply.1.frozen
        (storeStep digest store (.publish input))
  | .rotate input => ∀ reply, rotateCredentials digest input store = .ok reply →
      store.state.unused rotateOperation input.requestId = true →
      PublishedAs input.proxyId reply.1.revisionId reply.1.frozen
        (storeStep digest store (.rotate input))
  | _ => True

/-! ### Rows along a call -/

theorem getRevision_eq_ok {scope revisionId store} :
    getRevision scope proxyId revisionId store = .ok revision ↔
      validateScope scope = .ok () ∧ store.poisoned = false ∧
      (∃ proxy, AList.lookup proxyId.text store.state.proxies = some proxy ∧
        proxy.scope = scope) ∧
      ∃ stored, AList.lookup (revisionKey proxyId revisionId) store.state.revisions =
        some stored ∧ stored.revision = revision := by
  simp only [getRevision, bind_eq_ok, checked_eq_ok, lock_eq_ok, StoreState.requireProxy,
    StoreState.requireRevision, ensureScopeMatch, require_eq_ok, ensure_eq_ok, beq_iff_eq,
    pure_eq_ok]
  constructor
  · rintro ⟨_, valid, _, ⟨unpoisoned, rfl⟩, proxy, found, _, same, stored, foundRevision, is⟩
    exact ⟨valid, unpoisoned, ⟨proxy, found, same⟩, stored, foundRevision, is⟩
  · rintro ⟨valid, unpoisoned, ⟨proxy, found, same⟩, stored, foundRevision, is⟩
    exact ⟨(), valid, _, ⟨unpoisoned, rfl⟩, proxy, found, (), same, stored, foundRevision, is⟩

/-- Every proxy keeps its scope, every new one has a valid scope, and every
revision but the one stored at `written` keeps its content and its mark. -/
structure KeepsRows (written : Option String) (before after : StoreState) : Prop where
  proxies : ∀ key proxy, AList.lookup key before.proxies = some proxy →
    ∃ kept, AList.lookup key after.proxies = some kept ∧ kept.scope = proxy.scope
  scopes : ∀ key proxy, AList.lookup key after.proxies = some proxy →
    validateScope proxy.scope = .ok () ∨
      ∃ earlier, AList.lookup key before.proxies = some earlier ∧ earlier.scope = proxy.scope
  revisions : ∀ key stored, AList.lookup key before.revisions = some stored → key ∉ written →
    ∃ kept, AList.lookup key after.revisions = some kept ∧ kept.published = stored.published ∧
      kept.revision.frozen = stored.revision.frozen

section Rows

variable {before after : StoreState} {written : Option String} {key : String}

theorem KeepsRows.of_eq (same : after = before) : KeepsRows written before after where
  proxies _ proxy found := ⟨proxy, same ▸ found, rfl⟩
  scopes _ proxy found := .inr ⟨proxy, same ▸ found, rfl⟩
  revisions _ stored found _ := ⟨stored, same ▸ found, rfl, rfl⟩

/-- A commit that writes a row in the scope the proxy had, or a new row in a valid
scope, and a revision that keeps content and mark unless it is stored at `written`. -/
theorem KeepsRows.of_commit {commit : Commit}
    (kept : ∀ current, AList.lookup proxyId.text before.proxies = some current →
      commit.row.scope = current.scope) (fresh : AList.lookup proxyId.text before.proxies = none →
      validateScope commit.row.scope = .ok ())
    (replaced : ∀ key row, commit.revision = some (key, row) → key ∉ written →
      ∀ stored, AList.lookup key before.revisions = some stored →
        row.published = stored.published ∧ row.revision.frozen = stored.revision.frozen) :
    KeepsRows written before (commit.apply proxyId before) where
  proxies other proxy present := by
    simp only [Commit.apply, lookup_insert_eq]
    split_ifs with same
    · exact ⟨commit.row, rfl, kept proxy (same ▸ present)⟩
    · exact ⟨proxy, present, rfl⟩
  scopes other proxy present := by
    simp only [Commit.apply, lookup_insert_eq] at present
    split_ifs at present with same
    · cases present
      cases found : AList.lookup proxyId.text before.proxies with
      | none => exact .inl (fresh found)
      | some current => exact .inr ⟨current, same ▸ found, (kept current found).symm⟩
    · exact .inr ⟨proxy, present, rfl⟩
  revisions other stored present unwritten := by
    simp only [Commit.apply]
    cases revision : commit.revision with
    | none => exact ⟨stored, present, rfl, rfl⟩
    | some new =>
      simp only [Option.elim_some, lookup_insert_eq]
      split_ifs with same
      · subst same
        exact ⟨new.2, rfl, replaced new.1 new.2 revision unwritten stored present⟩
      · exact ⟨stored, present, rfl, rfl⟩

end Rows

section Steps

variable {digest : String → String} {store : InMemoryProxyStore} {op : StoreOp}

variable {commit : Commit} {state : StoreState}

/-- A committed call writes its proxy's row in the scope it had. -/
theorem scope_of_committed (committed : Committed store op commit) {current}
    (present : AList.lookup op.proxyId.text store.state.proxies = some current) :
    commit.row.scope = current.scope := by
  cases committed with
  | create absent => exact nomatch absent.symm.trans present
  | updateDraft found | publish found | retire found | transition found | rotate found
  | rollback found =>
    obtain rfl := Option.some.inj (found.symm.trans present)
    rfl

/-- A committed call that finds no proxy is a creation in a valid scope. -/
theorem validScope_of_committed (committed : Committed store op commit)
    (absent : AList.lookup op.proxyId.text store.state.proxies = none) :
    validateScope commit.row.scope = .ok () := by
  cases committed with
  | create _ isScope => exact isScope
  | updateDraft found | publish found | retire found | transition found | rotate found
  | rollback found => exact nomatch found.symm.trans absent

/-- A committed call that stores a revision anywhere but under its own key writes
one back with another lifecycle state only. -/
theorem frozen_of_committed (committed : Committed store op commit)
    (unused : store.state.unused op.operation op.requestId = true) {key row stored}
    (revision : commit.revision = some (key, row)) (unwritten : key ∉ op.storesAt store.state)
    (present : AList.lookup key store.state.revisions = some stored) :
    row.published = stored.published ∧ row.revision.frozen = stored.revision.frozen := by
  have written {proxyId : ProxyId} {revisionId : ProxyRevisionId} {requestId : String}
      (named : revisionId.text = requestId) :
      revisionKey proxyId revisionId = requestKey proxyId requestId := (requestKey_eq named).symm
  cases committed with
  | create | retire | rollback => cases revision
  | updateDraft _ _ named | publish _ _ named | rotate _ _ _ named =>
    cases revision
    refine absurd ?_ unwritten
    simpa [StoreOp.storesAt, written named, StoreOp.operation, StoreOp.requestId] using unused
  | transition _ _ held =>
    cases revision
    obtain rfl := Option.some.inj (held.symm.trans present)
    exact ⟨rfl, rfl⟩

/-- An accepted call keeps the rows, the revision it stores itself apart. -/
theorem keepsRows_of_accepted (accepted : op.accepted digest store = .ok state) :
    KeepsRows (op.storesAt store.state) store.state state := by
  rcases accepted_cases accepted with ⟨-, rfl⟩ | ⟨unused, commit, committed, rfl, -⟩
  · exact .of_eq rfl
  · apply KeepsRows.of_commit
    · exact fun _ present => scope_of_committed committed present
    · exact validScope_of_committed committed
    · intro key row revision unwritten stored present
      exact frozen_of_committed committed unused revision unwritten present

theorem storeStep_of_accepted (accepted : op.accepted digest store = .ok state) :
    storeStep digest store op = { store with state } := by
  simp only [storeStep, accepted]

/-- **The step.** An accepted call that overwrites no published revision leaves
every published revision published as it was. -/
theorem publishedAs_step (accepts : Accepts digest store op)
    (keeps : ¬ OverwritesPublished store.state op) {revisionId content}
    (before : PublishedAs proxyId revisionId content store) :
    PublishedAs proxyId revisionId content (storeStep digest store op) := by
  obtain ⟨state, accepted⟩ := accepts_iff.mp accepts
  have rows := keepsRows_of_accepted accepted
  obtain ⟨stored, found, published, frozen, proxy, foundProxy, answered⟩ := before
  obtain ⟨valid, unpoisoned, -, -⟩ := getRevision_eq_ok.mp answered
  have unwritten : revisionKey proxyId revisionId ∉ op.storesAt store.state := by
    intro written
    exact keeps ⟨_, written, stored, found, published⟩
  obtain ⟨kept, foundKept, marked, sameContent⟩ := rows.revisions _ stored found unwritten
  obtain ⟨row, foundRow, sameScope⟩ := rows.proxies _ proxy foundProxy
  rw [storeStep_of_accepted accepted]
  refine ⟨kept, foundKept, marked.trans published, sameContent.trans frozen, row, foundRow, ?_⟩
  apply getRevision_eq_ok.mpr
  exact ⟨sameScope.symm ▸ valid, unpoisoned, ⟨row, foundRow, rfl⟩, kept, foundKept, rfl⟩

/-- The lock is not poisoned, and every proxy's scope passed the check of its
creation. -/
structure Healthy (store : InMemoryProxyStore) : Prop where
  unpoisoned : store.poisoned = false
  scopes : ∀ key proxy, AList.lookup key store.state.proxies = some proxy →
    validateScope proxy.scope = .ok ()

theorem healthy_empty : Healthy .empty where
  unpoisoned := rfl
  scopes key proxy found := by simp [InMemoryProxyStore.empty, StoreState.empty] at found

theorem healthy_step (healthy : Healthy store) (accepts : Accepts digest store op) :
    Healthy (storeStep digest store op) := by
  obtain ⟨state, accepted⟩ := accepts_iff.mp accepts
  rw [storeStep_of_accepted accepted]
  refine ⟨healthy.unpoisoned, fun key proxy found => ?_⟩
  rcases (keepsRows_of_accepted accepted).scopes key proxy found with
    checked | ⟨earlier, foundEarlier, sameScope⟩
  · exact checked
  · rw [← sameScope]
    exact healthy.scopes key earlier foundEarlier

/-- A revision stored as published under a proxy of the store is published as it
is stored. -/
theorem publishedAs_of_stored (healthy : Healthy store) {row}
    (stored : AList.lookup (revisionKey proxyId revision.revisionId) store.state.revisions =
      some ⟨revision, true⟩) (found : AList.lookup proxyId.text store.state.proxies = some row) :
    PublishedAs proxyId revision.revisionId revision.frozen store := by
  refine ⟨_, stored, rfl, rfl, row, found, getRevision_eq_ok.mpr ?_⟩
  exact ⟨healthy.scopes _ row found, healthy.unpoisoned, ⟨row, found, rfl⟩, _, stored, rfl⟩

/-- A call that commits the published revision it answers with leaves it published
as it answers it. -/
theorem publishedAs_of_outcome (healthy : Healthy store)
    (accepted : op.accepted digest store = .ok state)
    (outcome : Outcome store op state fun commit =>
      commit.revision = some (revisionKey op.proxyId revision.revisionId, ⟨revision, true⟩))
    (unused : store.state.unused op.operation op.requestId = true) :
    PublishedAs op.proxyId revision.revisionId revision.frozen (storeStep digest store op) := by
  have after := healthy_step healthy (accepts_iff.mpr ⟨state, accepted⟩)
  rw [storeStep_of_accepted accepted] at after ⊢
  rcases outcome with ⟨used, -⟩ | ⟨-, commit, -, rfl, stored⟩
  · cases unused.symm.trans used
  · refine publishedAs_of_stored after ?_ (AList.lookup_insert _)
    simp only [Commit.apply, stored, Option.elim_some]
    exact AList.lookup_insert _

theorem publishesReply_step (healthy : Healthy store) : PublishesReply digest store op := by
  cases op with
  | publish input =>
    intro reply published
    have accepted : (StoreOp.publish input).accepted digest store = .ok reply.2 :=
      map_eq_ok.mpr ⟨reply, published, rfl⟩
    exact publishedAs_of_outcome healthy accepted (publish_outcome published)
  | rotate input =>
    intro reply rotated
    have accepted : (StoreOp.rotate input).accepted digest store = .ok reply.2 :=
      map_eq_ok.mpr ⟨reply, rotated, rfl⟩
    exact publishedAs_of_outcome healthy accepted (rotate_outcome rotated)
  | _ => trivial

end Steps

/-! ### Whole runs -/

/-- **Published revisions never change, except by overwriting.** Along every
sequence of accepted calls from the empty store in which no call stores a
revision in the place of a published one, every accepted publication and
rotation leaves the revision it answers with published, and a published revision
keeps its content, its mark and its place in the store from then on. -/
theorem published_immutable (digest : String → String) (ops : List StoreOp)
    (accepted : AllSteps (storeStep digest) (Accepts digest) .empty ops)
    (keeps : AllSteps (storeStep digest) (fun store op => ¬ OverwritesPublished store.state op)
      .empty ops) :
    AllSteps (storeStep digest) (PublishesReply digest) .empty ops ∧
      ∀ proxyId revisionId content,
        Stable (storeStep digest) (PublishedAs proxyId revisionId content) .empty ops := by
  constructor
  · refine allSteps_of_allSteps ?_ ?_ healthy_empty accepted
    · intro store op healthy accepts
      exact healthy_step healthy accepts
    · intro store op healthy _
      exact publishesReply_step healthy
  · intro proxyId revisionId content
    rw [stable_iff_allSteps]
    refine (accepted.and keeps).mono ?_
    rintro store op ⟨accepts, keeps⟩ before
    exact publishedAs_step accepts keeps before

/-- Four transitions follow the publication. -/
theorem published_immutable_portfolioDeployment :
    AllSteps (storeStep portfolioDigest) (PublishesReply portfolioDigest) .empty
        portfolioDeployment ∧
      ∀ proxyId revisionId content,
        Stable (storeStep portfolioDigest) (PublishedAs proxyId revisionId content) .empty
          portfolioDeployment := by
  have steps : AllSteps (storeStep portfolioDigest)
      (fun store op => Accepts portfolioDigest store op ∧ ¬ OverwritesPublished store.state op)
      .empty portfolioDeployment := by
    decide +kernel
  apply published_immutable
  · exact steps.mono fun _ _ step => step.1
  · exact steps.mono fun _ _ step => step.2

/-- Create the proxy, give it a draft and publish it. -/
def portfolioPublication : List StoreOp := portfolioDeployment.take 3

/-- Update the proxy's draft with the request identifier its publication had. -/
def portfolioOverwrite : StoreOp :=
  .updateDraft { requestId := portfolioRevisionId.text, scope := portfolioScope,
                 proxyId := portfolioProxyId, expectedRevisionId := some portfolioDraftId,
                 actorId := "o", spec := portfolioSpec }

theorem portfolioOverwrite_not_immutable :
    AllSteps (storeStep portfolioDigest) (Accepts portfolioDigest) .empty
        (portfolioPublication ++ [portfolioOverwrite]) ∧
      ∃ content, ¬ Stable (storeStep portfolioDigest)
        (PublishedAs portfolioProxyId portfolioRevisionId content) .empty
        (portfolioPublication ++ [portfolioOverwrite]) := by
  have observed : AllSteps (storeStep portfolioDigest) (Accepts portfolioDigest) .empty
        (portfolioPublication ++ [portfolioOverwrite]) ∧
      ∃ stored ∈ AList.lookup (revisionKey portfolioProxyId portfolioRevisionId)
        (run (storeStep portfolioDigest) .empty portfolioPublication).state.revisions,
      PublishedAs portfolioProxyId portfolioRevisionId stored.revision.frozen
        (run (storeStep portfolioDigest) .empty portfolioPublication) ∧
      ¬ PublishedAs portfolioProxyId portfolioRevisionId stored.revision.frozen
        (run (storeStep portfolioDigest) .empty
          (portfolioPublication ++ [portfolioOverwrite])) := by
    decide +kernel
  obtain ⟨accepted, stored, -, published, gone⟩ := observed
  refine ⟨accepted, stored.revision.frozen, fun stable => gone ?_⟩
  exact stable portfolioPublication _ [] (List.append_nil _).symm published

end Apex.Proxy
