import Apex.Proxy.Commits

/-!
Retirement in the in-memory proxy store.

The transition table has no edge out of `retired`, and publication and rotation
refuse a retired proxy. Rollback writes the lifecycle state directly and does
not look at it: a retired proxy that still has a published revision in state
`ready` becomes `ready` again. `retired_stable_iff` says that this is the only
way out of retirement.
-/

namespace Apex.Proxy

open Checked Runs AList

variable {digest : String → String} {store : InMemoryProxyStore} {proxyId : ProxyId}

/-- The proxy is in the store and its lifecycle state is `retired`. -/
def IsRetired (proxyId : ProxyId) (store : InMemoryProxyStore) : Prop :=
  ∃ proxy ∈ AList.lookup proxyId.text store.state.proxies, proxy.lifecycleState = .retired

instance : Decidable (IsRetired proxyId store) :=
  inferInstanceAs (Decidable (∃ proxy ∈ AList.lookup proxyId.text store.state.proxies,
    proxy.lifecycleState = .retired))

/-- A rollback of this proxy, while it is retired, that passes the checks the
store makes. -/
def RevivesRetired (proxyId : ProxyId) (store : InMemoryProxyStore) : StoreOp → Prop
  | .rollback input =>
      input.proxyId = proxyId ∧ IsRetired proxyId store ∧ RollbackPasses store input
  | _ => False

/-- An accepted call keeps a retired proxy retired unless it revives it. -/
theorem isRetired_of_accepted {op : StoreOp} {state}
    (accepted : op.accepted digest store = .ok state) (retired : IsRetired proxyId store)
    (keeps : ¬ RevivesRetired proxyId store op) : IsRetired proxyId { store with state } := by
  rcases accepted_cases accepted with ⟨-, rfl⟩ | ⟨-, commit, committed, rfl, -⟩
  · exact retired
  obtain ⟨proxy, present, isRetired⟩ := id retired
  by_cases same : proxyId.text = op.proxyId.text
  · obtain rfl := ProxyId.text_inj same
    refine ⟨commit.row, lookup_insert _, ?_⟩
    cases committed with
    | create absent => exact nomatch absent.symm.trans present
    | updateDraft found | rotate found =>
      obtain rfl := Option.some.inj (found.symm.trans present)
      exact isRetired
    | publish found _ _ serving =>
      obtain rfl := Option.some.inj (found.symm.trans present)
      exact absurd isRetired serving
    | retire => rfl
    | transition found _ _ _ edge =>
      obtain rfl := Option.some.inj (found.symm.trans present)
      -- the table has no edge out of retirement
      rw [isRetired, transitionState_retired] at edge
      cases edge
    | rollback _ _ passes => exact absurd ⟨rfl, retired, passes⟩ keeps
  · exact ⟨proxy, (lookup_insert_ne same).trans present, isRetired⟩

/-- A rollback that passes the store's checks takes its proxy out of
retirement. -/
theorem not_isRetired_of_revives {op} (revives : RevivesRetired proxyId store op) :
    ¬ IsRetired proxyId (storeStep digest store op) := by
  cases op with
  | rollback input =>
    obtain ⟨rfl, -, passes⟩ := revives
    obtain ⟨reply, current, accepted, found, proxies⟩ := rollback_of_passes digest passes
    have stepped : storeStep digest store (.rollback input) = { store with state := reply.2 } := by
      simp only [storeStep, StoreOp.accepted, accepted, Except.map]
    rintro ⟨proxy, foundAfter, isRetired⟩
    rw [stepped, proxies, lookup_insert] at foundAfter
    cases foundAfter
    cases isRetired
  | _ => exact revives.elim

/-- One call keeps a retired proxy retired exactly when it is not a rollback that
revives it. -/
theorem isRetired_storeStep_iff {op} :
    (IsRetired proxyId store → IsRetired proxyId (storeStep digest store op)) ↔
      ¬ RevivesRetired proxyId store op := by
  constructor
  · intro keeps revives
    have retired : IsRetired proxyId store := by
      cases op with
      | rollback input => exact revives.2.1
      | _ => exact revives.elim
    exact not_isRetired_of_revives revives (keeps retired)
  · intro keeps retired
    rcases storeStep_cases digest store op with same | ⟨state, accepted, stepped⟩
    · obtain ⟨proxy, found, isRetired⟩ := retired
      exact ⟨proxy, by rw [same]; exact found, isRetired⟩
    · rw [stepped]
      exact isRetired_of_accepted accepted retired keeps

/-- **Retirement is final exactly up to rollback.** Along any sequence of calls,
from any store, a proxy that is retired stays retired after every later call
exactly when no call is a rollback of the retired proxy that passes the store's
checks. -/
theorem retired_stable_iff (digest : String → String) (proxyId : ProxyId)
    (store : InMemoryProxyStore) (ops : List StoreOp) :
    Stable (storeStep digest) (IsRetired proxyId) store ops ↔
      AllSteps (storeStep digest) (fun store op => ¬ RevivesRetired proxyId store op) store
        ops := by
  rw [stable_iff_allSteps]
  simp only [isRetired_storeStep_iff]

/-- Retire the deployed proxy, then roll it back to the revision it already has. -/
def portfolioRevival : List StoreOp :=
  portfolioDeployment ++
    [.retire { requestId := "0190a000-0000-7000-8000-000000000009", scope := portfolioScope,
               proxyId := portfolioProxyId, expectedRevisionId := some portfolioRevisionId },
     .rollback { requestId := "0190a000-0000-7000-8000-00000000000a", scope := portfolioScope,
                 proxyId := portfolioProxyId, revisionId := portfolioRevisionId,
                 targetRevisionId := portfolioRevisionId,
                 expectedRevisionId := some portfolioRevisionId, actorId := "o",
                 reasonCode := "r" }]

theorem portfolioRevival_not_stable :
    ¬ Stable (storeStep portfolioDigest) (IsRetired portfolioProxyId) .empty portfolioRevival := by
  intro stable
  have observed : IsRetired portfolioProxyId
        (run (storeStep portfolioDigest) .empty (portfolioRevival.take 8)) ∧
      ¬ IsRetired portfolioProxyId (run (storeStep portfolioDigest)
        (run (storeStep portfolioDigest) .empty (portfolioRevival.take 8))
        (portfolioRevival.drop 8)) := by
    decide +kernel
  have later := stable (portfolioRevival.take 8) (portfolioRevival.drop 8) [] rfl observed.1
  rw [run_append] at later
  exact observed.2 later

end Apex.Proxy
