import Apex.Control.Envelope

/-!
What reconciliation rebuilds from the event of an accepted command.

The rebuilt command is the delivery except for its action and its reason, which
are read back from the event (`rebuild_eq`). They are the delivery's own unless
the request is a `stop` whose reason looks like the marker of a `force_stop`
(`rebuild_eq_delivery_iff`).
-/

namespace Apex.Control

open Checked Domain Inbox List Option

theorem stripPrefix_append (start rest : String) :
    Text.stripPrefix (start ++ rest) start = some rest := by
  have begins : Text.startsWith (start ++ rest) start = true := by
    rw [Text.startsWith, isPrefixOf_iff_prefix, String.toList_append]
    exact prefix_append _ _
  rw [Text.stripPrefix, if_pos begins, String.toList_append, drop_left, String.ofList_toList]

theorem stripPrefix_isSome (value start : String) :
    (Text.stripPrefix value start).isSome = Text.startsWith value start := by
  unfold Text.stripPrefix
  split_ifs with begins
  · rw [begins]
    rfl
  · rw [Bool.not_eq_true _ |>.mp begins]
    rfl

/-- A reason that rebuilding takes for the marker of a `force_stop`. -/
def marksForceStop (reason : String) : Bool :=
  reason = forceStopAuditMarker || Text.startsWith reason forceStopAuditPrefix

/-- A `stop` that rebuilding takes for a `force_stop`. -/
def ControlCommandInput.readsAsForceStop (input : ControlCommandInput) : Bool :=
  input.action = .stop && input.reasonCode.any marksForceStop

/-! ### Actions and reasons -/

theorem auditAction_other {action} (other : action ≠ "force_stop") (reasonCode : Option String) :
    auditAction action reasonCode = (action, reasonCode) :=
  if_neg other

theorem recoverAction_other {action} (other : action ≠ "stop") (reasonCode : Option String) :
    recoverAction action reasonCode = (action, reasonCode) := by
  have filtered : (reasonCode.filter fun _ => decide (action = "stop")) = none := by
    cases reasonCode <;> simp [other]
  rw [recoverAction, if_neg (fun is => other is.1), filtered]
  rfl

theorem recover_audit_other {action} (notForced : action ≠ "force_stop") (notStop : action ≠ "stop")
    (reasonCode : Option String) :
    recoverAction (auditAction action reasonCode).1 (auditAction action reasonCode).2 =
      (action, reasonCode) := by
  rw [auditAction_other notForced]
  exact recoverAction_other notStop reasonCode

theorem recoverAction_stop (reason : String) :
    recoverAction "stop" (some reason) =
      if reason = forceStopAuditMarker then ("force_stop", none)
      else ((Text.stripPrefix reason forceStopAuditPrefix).elim ("stop", some reason)
        fun original => ("force_stop", some original)) := by
  unfold recoverAction
  by_cases marker : reason = forceStopAuditMarker
  · rw [if_pos ⟨rfl, congrArg some marker⟩, if_pos marker]
  · rw [if_neg (fun is => marker (Option.some.inj is.2)), if_neg marker, decide_eq_true rfl,
      filter_some, if_pos rfl, bind_some]
    cases Text.stripPrefix reason forceStopAuditPrefix <;> rfl

/-- What rebuilding makes of a `stop` depends on its reason alone. -/
theorem recoverAction_stop_iff (reasonCode : Option String) :
    recoverAction "stop" reasonCode = ("stop", reasonCode) ↔
      reasonCode.any marksForceStop = false := by
  cases reasonCode with
  | none => exact ⟨fun _ => rfl, fun _ => rfl⟩
  | some reason =>
    rw [recoverAction_stop, any_some, marksForceStop, ← stripPrefix_isSome]
    by_cases marker : reason = forceStopAuditMarker
    · simp [marker]
    · cases Text.stripPrefix reason forceStopAuditPrefix <;> simp [marker]

/-- The action and the reason of a `force_stop` are read back as they were. -/
theorem recoverAction_forceStop (reasonCode : Option String) :
    recoverAction (auditAction "force_stop" reasonCode).1 (auditAction "force_stop" reasonCode).2 =
      ("force_stop", reasonCode) := by
  cases reasonCode with
  | none => rfl
  | some reason =>
    have longer : forceStopAuditPrefix ++ reason ≠ forceStopAuditMarker := by
      intro same
      have lengths := congrArg (fun text => text.toList.length) same
      simp only [String.toList_append, length_append] at lengths
      have prefix_length : forceStopAuditPrefix.toList.length = 16 := by decide
      have marker_length : forceStopAuditMarker.toList.length = 15 := by decide
      omega
    show recoverAction "stop" (some (forceStopAuditPrefix ++ reason)) = _
    rw [recoverAction_stop, if_neg longer, stripPrefix_append]
    rfl

/-- Reading back what an event says of a command's action and reason. -/
theorem recover_audit_iff {kind action} (named : actionName kind = some action)
    (reasonCode : Option String) :
    recoverAction (auditAction action reasonCode).1 (auditAction action reasonCode).2 =
        (action, reasonCode) ↔
      ¬ (kind = .stop ∧ reasonCode.any marksForceStop = true) := by
  cases kind with
  | unspecified => cases named
  | stop =>
    cases named
    show recoverAction "stop" reasonCode = _ ↔ _
    rw [recoverAction_stop_iff, ← Bool.not_eq_true]
    exact not_congr (and_iff_right rfl).symm
  | forceStop =>
    cases named
    simp only [recoverAction_forceStop, reduceCtorEq, false_and, not_false_eq_true]
  | pause | resume | inject | setBudget | resolveHold =>
    cases named
    simp only [reduceCtorEq, false_and, not_false_eq_true, iff_true]
    exact recover_audit_other (by decide) (by decide) reasonCode

/-! ### Commands -/

section

variable {wire : Wire} {input : ControlCommandInput} {operator : OperatorCaller}
  {generated : String} {now : UInt64} {accepted : AcceptedCommand}

/-- The rebuilt command is the delivery with the action and the reason the event
gives it. -/
theorem rebuild_eq (faithful : FaithfulOn wire (Builds wire input operator generated))
    (origin : BuiltFrom wire input operator generated accepted) :
    pendingCommandFromIngestRequest wire accepted.request = .ok { accepted.delivery with
      action := (recoverAction (auditAction origin.action input.reasonCode).1
        (auditAction origin.action input.reasonCode).2).1
      reasonCode := (recoverAction (auditAction origin.action input.reasonCode).1
        (auditAction origin.action input.reasonCode).2).2 } := by
  obtain ⟨scope, data, -, -, -, -, -, -, -, stored⟩ := fromValidatedTransport_eq_ok origin.admitted
  have decoded : wire.decode accepted.request.envelope = some origin.envelope := by
    rw [stored]
    exact faithful.roundTrip _ origin.builds
  obtain ⟨eventHash, is⟩ := origin.envelope_eq
  have reason (reasonCode : Option String) :
      recoverReason (some (reasonCode.elim (.null 0) .text)) = .ok reasonCode := by
    cases reasonCode <;> rfl
  have parameters : wire.encodeStruct (input.parameters.getD []) =
      input.parameters.elim [] wire.encodeStruct := by
    cases input.parameters with
    | none => exact faithful.emptyStruct
    | some _ => rfl
  rw [pendingCommandFromIngestRequest, decoded, is, origin.delivery]
  simp [unsignedEnvelope, buildControlData, Struct.get, Value.asText, Value.asStruct, reason,
    parameters, controlDelivery, pure, Except.pure]

/-- Rebuilding gives the delivery back exactly when the request is not a `stop`
with a reason that looks like the marker of a `force_stop`. -/
theorem rebuild_eq_delivery_iff (faithful : FaithfulOn wire (Builds wire input operator generated))
    (ok : buildControlRequest wire input operator generated now = .ok accepted) :
    pendingCommandFromIngestRequest wire accepted.request = .ok accepted.delivery ↔
      input.readsAsForceStop = false := by
  obtain ⟨origin⟩ := buildControlRequest_eq_ok ok
  have same : accepted.delivery.action = origin.action ∧
      accepted.delivery.reasonCode = input.reasonCode := by
    rw [origin.delivery]
    exact ⟨rfl, rfl⟩
  have exact_ := recover_audit_iff origin.named input.reasonCode
  rw [rebuild_eq faithful origin, ControlCommandInput.readsAsForceStop, ← Bool.not_eq_true,
    Bool.and_eq_true, decide_eq_true_eq, ← exact_, Prod.ext_iff]
  constructor
  · intro equal
    have command := Except.ok.inj equal
    exact ⟨(congrArg PendingCommand.action command).trans same.1,
      (congrArg PendingCommand.reasonCode command).trans same.2⟩
  · rintro ⟨action, reasonCode⟩
    rw [action, reasonCode, ← same.1, ← same.2]

end

/-- The sample request for a `stop` with a reason, and what is built from it. -/
def sampleStop (reason : String) : ControlCommandInput :=
  sampleInput .stop (some reason)

def sampleStopAccepted (reason : String) : AcceptedCommand where
  commandId := sampleCommandId
  request := ⟨sampleCommandId, "acme", "prod", "acme/prod", 0 :: asciiBytes reason⟩
  delivery := ⟨sampleCommandId, "acme", "prod", "agent-1", "run-1", "trace-1", "stop", some reason,
    [], "2023-06-30T03:34:18.518000Z", 0⟩

theorem rebuild_eq_delivery_iff_incident :
    pendingCommandFromIngestRequest sampleWire (sampleStopAccepted "incident-42").request =
          .ok (sampleStopAccepted "incident-42").delivery ↔
      (sampleStop "incident-42").readsAsForceStop = false :=
  @rebuild_eq_delivery_iff _ _ (sampleOperator "ops-1") "" sampleNow _
    (sampleWire_faithfulOn ⟨"stop", uuidUnixMillis sampleCommandId, rfl, by decide +kernel, rfl⟩
      (by decide +kernel))
    (by decide +kernel)

/-- An operator's `stop` with the marker as its reason is rebuilt as a
`force_stop`. -/
theorem markedStop_rebuilt_as_forceStop :
    buildControlRequest sampleWire (sampleStop forceStopAuditMarker) (sampleOperator "ops-1") ""
        sampleNow = .ok (sampleStopAccepted forceStopAuditMarker) ∧
      pendingCommandFromIngestRequest sampleWire (sampleStopAccepted forceStopAuditMarker).request =
          .ok { (sampleStopAccepted forceStopAuditMarker).delivery with
            action := "force_stop", reasonCode := none } ∧
      pendingCommandFromIngestRequest sampleWire (sampleStopAccepted forceStopAuditMarker).request ≠
          .ok (sampleStopAccepted forceStopAuditMarker).delivery := by
  decide +kernel

end Apex.Control
