import Apex.Control.Envelope

/-!
What acceptance says of a command that the inbox is about to record.

Acceptance checks the event and the inbox checks the delivery. The two agree
except on the empty reason of a `force_stop`: the event carries it behind a
prefix, where it is part of an identifier, and the delivery carries it alone
(`delivery_recordable_iff`).
-/

namespace Apex.Control

open Checked Domain Inbox List

/-- A timestamp is made of digits and its punctuation. -/
theorem mem_of_isRfc3339Utc {value} (valid : isRfc3339Utc value = true) {c : Char}
    (mem : c ∈ value.toList) : c.isDigit = true ∨ c ∈ timestampPunctuation.map Prod.snd := by
  simp only [isRfc3339Utc, Bool.and_eq_true, all_eq_true, Bool.or_eq_true] at valid
  obtain ⟨⟨⟨⟨⟨⟨⟨⟨-, punctuation⟩, digits⟩, -⟩, -⟩, -⟩, -⟩, -⟩, -⟩ := valid
  obtain ⟨index, found⟩ := mem_iff_getElem?.mp mem
  rcases digits (c, index) (mem_zipIdx_iff_getElem?.mpr found) with listed | digit
  · obtain ⟨entry, entryMem, rfl⟩ := mem_map.mp (contains_iff_mem.mp listed)
    have stands := of_decide_eq_true (punctuation entry entryMem)
    rw [found, Option.some.injEq] at stands
    exact .inr (mem_map.mpr ⟨entry, entryMem, stands.symm⟩)
  · exact .inl digit

theorem length_of_isRfc3339Utc {value} (valid : isRfc3339Utc value = true) :
    value.toList.length = 27 := by
  simp only [isRfc3339Utc, Bool.and_eq_true, decide_eq_true_eq] at valid
  exact valid.1.1.1.1.1.1.1.1

/-- A timestamp is plain ASCII text. -/
theorem plain_of_isRfc3339Utc {value} (valid : isRfc3339Utc value = true) :
    ∀ c ∈ value.toList, c.toNat < 128 ∧ Text.isControl c = false := by
  intro c mem
  rcases mem_of_isRfc3339Utc valid mem with digit | listed
  · simp only [Char.isDigit, Bool.and_eq_true, decide_eq_true_eq, ge_iff_le,
      UInt32.le_iff_toNat_le] at digit
    have low : 48 ≤ c.toNat := digit.1
    have high : c.toNat ≤ 57 := digit.2
    refine ⟨by omega, ?_⟩
    simp only [Text.isControl, Bool.or_eq_false_iff, Bool.and_eq_false_iff,
      decide_eq_false_iff_not]
    omega
  · have punctuation : ∀ d ∈ timestampPunctuation.map Prod.snd,
        d.toNat < 128 ∧ Text.isControl d = false := by
      simp [timestampPunctuation, Text.isControl]
    exact punctuation c listed

/-- What a control event's data say of its reason. -/
theorem validateControlData_reason {action reasonCode parameters}
    (ok : validateControlData (buildControlData action reasonCode parameters) = .ok ()) :
    reasonCode.all isScopeIdentifier = true := by
  simp only [validateControlData, bind_eq_ok, ensure_eq_ok, require_eq_ok] at ok
  obtain ⟨_, -, _, -, _, -, _, -, _, -, _, valid, -⟩ := ok
  cases reasonCode with
  | none => rfl
  | some reason => simpa [buildControlData, Struct.get, Value.asText] using valid

/-- What follows the prefix in an identifier is an identifier unless it is
empty. -/
theorem isScopeIdentifier_append {start rest} (valid : isScopeIdentifier (start ++ rest) = true)
    (nonempty : rest.isEmpty = false) :
    isScopeIdentifier rest = true := by
  simp only [isScopeIdentifier, Bool.and_eq_true, Bool.not_eq_true', decide_eq_true_eq,
    String.utf8ByteSize_append, String.toList_append, all_append] at valid ⊢
  obtain ⟨⟨⟨-, size⟩, undotted⟩, -, chars⟩ := valid
  refine ⟨⟨⟨nonempty, by omega⟩, ?_⟩, chars⟩
  rw [← Bool.not_eq_true] at undotted ⊢
  intro dotted
  apply undotted
  rw [Text.contains, String.toList_append]
  exact Text.infixOf_append _ dotted

theorem storedActions_of_actionName {kind action} (named : actionName kind = some action) :
    storedActions.contains action = true := by
  cases kind <;> cases named <;> decide

section

variable {wire : Wire} {input : ControlCommandInput} {operator : OperatorCaller}
  {generated : String} {now : UInt64} {accepted : AcceptedCommand}

/-- The reason of an accepted command is an identifier, except for the empty
reason of a `force_stop`. -/
theorem BuiltFrom.reason_iff (origin : BuiltFrom wire input operator generated accepted) :
    input.reasonCode.all isScopeIdentifier = true ↔
      ¬ (input.action = .forceStop ∧ input.reasonCode = some "") := by
  obtain ⟨scope, data, -, given, -, control, -, -, -, -⟩ :=
    fromValidatedTransport_eq_ok origin.admitted
  obtain ⟨eventHash, is⟩ := origin.envelope_eq
  have carried : (auditAction origin.action input.reasonCode).2.all isScopeIdentifier = true := by
    rw [is] at given control
    apply validateControlData_reason
    rw [← Option.some.inj given] at control
    exact control rfl
  by_cases forced : input.action = .forceStop
  · have action : origin.action = "force_stop" := by
      have named := origin.named
      rw [forced] at named
      exact (Option.some.inj named).symm
    rw [action] at carried
    cases reasonCode : input.reasonCode with
    | none => simp
    | some reason =>
      rw [reasonCode] at carried
      have whole : isScopeIdentifier (forceStopAuditPrefix ++ reason) = true := carried
      by_cases empty : reason = ""
      · simp [forced, empty, isScopeIdentifier]
      · have nonempty : reason.isEmpty = false := by
          rw [← Bool.not_eq_true, String.isEmpty_iff]
          exact empty
        simp [empty, isScopeIdentifier_append whole nonempty]
  · have other : origin.action ≠ "force_stop" := by
      intro action
      have named := origin.named
      rw [action] at named
      cases kind : input.action <;> rw [kind] at named forced <;> simp_all [actionName]
    rw [auditAction, if_neg other] at carried
    simp [forced, carried]

/-- The parameters of an accepted command are no longer than its event. -/
theorem BuiltFrom.parameters_le (faithful : FaithfulOn wire (Builds wire input operator generated))
    (origin : BuiltFrom wire input operator generated accepted) :
    accepted.delivery.parameters.length ≤ maxEnvelopeBytes := by
  obtain ⟨scope, data, -, given, -, -, size, -, -, -⟩ :=
    fromValidatedTransport_eq_ok origin.admitted
  obtain ⟨eventHash, is⟩ := origin.envelope_eq
  have nested : (wire.encodeStruct (input.parameters.getD [])).length ≤
      (wire.encode origin.envelope).length := by
    apply faithful.nested _ _ _ origin.builds given
    rw [is] at given
    rw [← Option.some.inj given]
    rfl
  rw [origin.delivery]
  cases parameters : input.parameters with
  | none => simp [controlDelivery, parameters]
  | some fields =>
    rw [parameters] at nested
    simpa [controlDelivery, parameters] using nested.trans size

/-- The delivery of an accepted command is recordable exactly when the command is
not a `force_stop` with an empty reason. -/
theorem delivery_recordable_iff (faithful : FaithfulOn wire (Builds wire input operator generated))
    (ok : buildControlRequest wire input operator generated now = .ok accepted) :
    isRecordable accepted.delivery = true ↔
      ¬ (input.action = .forceStop ∧ input.reasonCode = some "") := by
  obtain ⟨origin⟩ := buildControlRequest_eq_ok ok
  obtain ⟨scope, data, inScope, given, structure_, -, -, uuid, time, -⟩ :=
    fromValidatedTransport_eq_ok origin.admitted
  obtain ⟨eventHash, is⟩ := origin.envelope_eq
  have parameters := origin.parameters_le faithful
  have allowed := origin.allowed
  simp only [OperatorCaller.allowsScope, Bool.and_eq_true] at allowed
  rw [is] at structure_ uuid time
  simp only [structureValid, unsignedEnvelope, Bool.and_eq_true] at structure_ uuid time
  have identifiers : isScopeIdentifier input.agentId = true ∧
      isScopeIdentifier input.runId = true ∧ isScopeIdentifier input.traceId = true := by
    simp_all only [and_self]
  have stored := storedActions_of_actionName origin.named
  have plain := plain_of_isRfc3339Utc time
  have short : (formatRfc3339Micros (origin.millis * 1000)).utf8ByteSize ≤ 64 := by
    rw [Text.utf8ByteSize_of_ascii fun c mem => (plain c mem).1, length_of_isRfc3339Utc time]
    decide
  have ascii : (formatRfc3339Micros (origin.millis * 1000)).toList.all
      (fun c => decide (c.toNat < 128)) = true := by
    rw [List.all_eq_true]
    intro c mem
    exact decide_eq_true (plain c mem).1
  have uncontrolled : (formatRfc3339Micros (origin.millis * 1000)).toList.any
      Text.isControl = false := by
    rw [List.any_eq_false]
    intro c mem
    rw [(plain c mem).2]
    exact Bool.false_ne_true
  rw [← origin.reason_iff]
  rw [origin.delivery] at parameters ⊢
  simp only [isRecordable, controlDelivery, allowed.1.1, allowed.1.2, identifiers.1,
    identifiers.2.1, identifiers.2.2, isScopeIdentifier_of_isLowercaseUuidV7 uuid, stored, short,
    ascii, uncontrolled, Bool.true_and, Bool.and_true, decide_true, Bool.not_false,
    Bool.and_eq_true]
  exact and_iff_left (decide_eq_true parameters)

end

/-- The sample request for a `force_stop` with a reason, and what is built from it. -/
def sampleForceStop (reason : String) : ControlCommandInput :=
  sampleInput .forceStop (some reason)

def sampleForceStopAccepted (reason : String) : AcceptedCommand where
  commandId := sampleCommandId
  request := ⟨sampleCommandId, "acme", "prod", "acme/prod",
    0 :: asciiBytes (forceStopAuditPrefix ++ reason)⟩
  delivery := ⟨sampleCommandId, "acme", "prod", "agent-1", "run-1", "trace-1", "force_stop",
    some reason, [], "2023-06-30T03:34:18.518000Z", 0⟩

theorem delivery_recordable_iff_incident :
    isRecordable (sampleForceStopAccepted "incident-42").delivery = true ↔
      ¬ ((sampleForceStop "incident-42").action = .forceStop ∧
        (sampleForceStop "incident-42").reasonCode = some "") :=
  @delivery_recordable_iff _ _ (sampleOperator "ops-1") "" sampleNow _
    (@sampleWire_faithfulOn (forceStopAuditPrefix ++ "incident-42") _ _ _
      ⟨"force_stop", uuidUnixMillis sampleCommandId, rfl, by decide +kernel, rfl⟩
      (by decide +kernel))
    (by decide +kernel)

/-- A `force_stop` with an empty reason is accepted, and its delivery is refused by
the inbox. -/
theorem emptyReason_accepted_not_recordable :
    buildControlRequest sampleWire (sampleForceStop "") (sampleOperator "ops-1") "" sampleNow =
        .ok (sampleForceStopAccepted "") ∧
      isRecordable (sampleForceStopAccepted "").delivery = false := by
  decide +kernel

end Apex.Control
