import Apex.Proxy.Spec

/-!
The lifecycle of a proxy: the commands and the table of allowed edges.
-/

namespace Apex.Proxy

inductive LifecycleCommand where
  | validate
  | validationSucceeded
  | deploy
  | ready
  | degrade
  | recover
  | pause
  | resume
  | fail
  | retire
  | retired
  deriving DecidableEq, Repr

/-- The operation name a command is recorded under. -/
def LifecycleCommand.operation : LifecycleCommand → String
  | .validate => "validate_proxy"
  | .validationSucceeded => "validation_succeeded"
  | .deploy => "deploy_proxy"
  | .ready => "proxy_ready"
  | .degrade => "proxy_degraded"
  | .recover => "proxy_recovered"
  | .pause => "pause_proxy"
  | .resume => "resume_proxy"
  | .fail => "proxy_failed"
  | .retire => "retire_proxy"
  | .retired => "proxy_retired"

/-- `transition_state`: the state a command leads to, if the table has the edge.
Deployment is the one edge that asks for approval. -/
def transitionState (current : ProxyLifecycleState) (command : LifecycleCommand)
    (approved : Bool) : Except ProxyError ProxyLifecycleState :=
  match current, command with
  | .draft, .validate => .ok .validating
  | .validating, .validationSucceeded => .ok .awaitingApproval
  | .awaitingApproval, .deploy =>
      if approved then .ok .provisioning else .error .approvalRequired
  | .provisioning, .ready => .ok .ready
  | .ready, .degrade => .ok .degraded
  | .degraded, .recover => .ok .ready
  | .ready, .pause => .ok .paused
  | .paused, .resume => .ok .provisioning
  | .validating, .fail => .ok .failed
  | .provisioning, .fail => .ok .failed
  | .ready, .retire => .ok .retiring
  | .degraded, .retire => .ok .retiring
  | .paused, .retire => .ok .retiring
  | .retiring, .retired => .ok .retired
  | _, _ => .error .invalidLifecycleTransition

/-- The states in which a proxy is deployed. -/
def ProxyLifecycleState.isDeployed : ProxyLifecycleState → Bool
  | .provisioning | .ready | .degraded | .paused => true
  | _ => false

/-- No edge of the table leaves retirement. -/
theorem transitionState_retired (command : LifecycleCommand) (approved : Bool) :
    transitionState .retired command approved = .error .invalidLifecycleTransition := by
  cases command <;> rfl

/-- Every edge into a deployed state leaves one, or is the approved deployment. -/
theorem deployed_source {current next command approved}
    (edge : transitionState current command approved = .ok next) (deployed : next.isDeployed = true)
    :
    current.isDeployed = true ∨ (command = .deploy ∧ approved = true) := by
  cases current <;> cases command <;> cases approved <;>
    simp_all [transitionState, ProxyLifecycleState.isDeployed]
  all_goals (subst edge; simp at deployed)

end Apex.Proxy
