import Apex.Control.Gateway
import Apex.Inbox.Isolation

/-!
A bulk call against the same commands submitted alone.

The two phases come to one pass over the targets (`submitTargets_eq`): the slots
the first leaves open are those the second fills, each once, so every target gets
its result. A result is the answer a single submission would get at that point
(`settleTarget_reports_iff`), but for a `force_stop` the approval gate holds back:
the bulk path does not ask it. The identity of a target is derived from five of its
six fields (`targetHashInput_inj`).
-/

namespace Apex.Control

variable {input : ControlCommandInput} {gateway : Gateway} {e : CommandError} {generated : String}
  {identity : String × String} {answer : Option SubmitBulkCommandResponse}

open Checked Domain Framing Inbox Outbox List

/-! ### Identities -/

theorem textBytes_eq (value : String) :
    textBytes value = value.toList.flatMap String.utf8EncodeChar := by
  conv_lhs => rw [textBytes, ← String.ofList_toList (s := value), String.toByteArray_ofList]
  simp [List.utf8Encode]

/-- A character of an identifier is one byte, and not the zero byte. -/
theorem zero_notMem_textBytes {value} (valid : isScopeIdentifier value = true) :
    (0 : UInt8) ∉ textBytes value := by
  simp only [isScopeIdentifier, Bool.and_eq_true, all_eq_true] at valid
  rw [textBytes_eq]
  intro zero
  obtain ⟨c, mem, byte⟩ := mem_flatMap.mp zero
  have bound : c.toNat < 128 ∧ c.toNat ≠ 0 := by
    have allowed := valid.2 c mem
    simp only [Bool.or_eq_true, beq_iff_eq] at allowed
    rcases allowed with (((letter | rfl) | rfl) | rfl) | rfl
    · constructor
      · exact toNat_lt_of_isAlphanum letter
      · intro none
        obtain rfl : c = '\x00' := Char.ext (UInt32.toNat_inj.mp none)
        exact absurd letter (by decide)
    all_goals decide
  have single : c.utf8Size = 1 :=
    Char.utf8Size_eq_one_iff.mpr (UInt32.le_iff_toNat_le.mpr (Nat.le_of_lt_succ bound.1))
  rw [String.utf8EncodeChar_eq_singleton single, mem_singleton] at byte
  have value : c.toNat % 256 = 0 := (congrArg UInt8.toNat byte).symm
  omega

/-- Every field of the target has the form of an identifier. -/
def BulkCommandTarget.isValid (target : BulkCommandTarget) : Bool :=
  [target.workspaceId, target.namespaceId, target.agentId, target.runId, target.traceId].all
    isScopeIdentifier && target.parentRunId.all isScopeIdentifier

/-- Valid targets with one hash input differ in the parent run at most. -/
theorem targetHashInput_inj {bulkId} {first second : BulkCommandTarget}
    (valid : first.isValid = true) (valid' : second.isValid = true)
    (same : targetHashInput bulkId first = targetHashInput bulkId second) :
    { first with parentRunId := second.parentRunId } = second := by
  have free {target : BulkCommandTarget} (valid : target.isValid = true) :
      ∀ piece ∈ [target.workspaceId, target.namespaceId, target.agentId, target.runId,
        target.traceId].map textBytes, (0 : UInt8) ∉ piece := by
    intro piece mem
    obtain ⟨field, isField, rfl⟩ := mem_map.mp mem
    exact zero_notMem_textBytes (all_eq_true.mp (Bool.and_eq_true _ _ |>.mp valid).1 field isField)
  have fields := separated_inj (free valid) (free valid') (append_cancel_left same)
  simp only [map_cons, map_nil, List.cons.injEq, and_true] at fields
  obtain ⟨workspace, «namespace», agent, run, trace⟩ := fields
  cases first
  cases second
  simp only [BulkCommandTarget.mk.injEq]
  exact ⟨textBytes_inj workspace, textBytes_inj «namespace», textBytes_inj agent,
    textBytes_inj run, trivial, textBytes_inj trace⟩

/-- The parent run has no part in the identity. -/
theorem deriveTargetCommandId_parentRunId (platform : Platform) (bulkId : String) (millis : Nat)
    (target : BulkCommandTarget) (parentRunId : Option String) :
    deriveTargetCommandId platform bulkId millis { target with parentRunId } =
      deriveTargetCommandId platform bulkId millis target := rfl

/-- The digest tells the hash inputs of these targets apart. -/
def CollisionFree (platform : Platform) (bulkId : String) (millis : Nat)
    (targets : List BulkCommandTarget) : Prop :=
  ∀ first ∈ targets, ∀ second ∈ targets,
    deriveTargetCommandId platform bulkId millis first =
        deriveTargetCommandId platform bulkId millis second →
      targetHashInput bulkId first = targetHashInput bulkId second

instance (platform : Platform) (bulkId : String) (millis : Nat) (targets : List BulkCommandTarget) :
    Decidable (CollisionFree platform bulkId millis targets) := by
  unfold CollisionFree
  infer_instance

/-- Valid targets that differ have identities that differ. -/
def DistinctIdentities (platform : Platform) (bulkId : String) (millis : Nat)
    (targets : List BulkCommandTarget) : Prop :=
  ∀ first ∈ targets, ∀ second ∈ targets, first.isValid = true → second.isValid = true →
    first ≠ second → deriveTargetCommandId platform bulkId millis first ≠
      deriveTargetCommandId platform bulkId millis second

instance (platform : Platform) (bulkId : String) (millis : Nat) (targets : List BulkCommandTarget) :
    Decidable (DistinctIdentities platform bulkId millis targets) := by
  unfold DistinctIdentities
  infer_instance

/-- Valid targets that differ do so in another field than the parent run. -/
def ParentsAgree (targets : List BulkCommandTarget) : Prop :=
  ∀ first ∈ targets, ∀ second ∈ targets, first.isValid = true → second.isValid = true →
    { first with parentRunId := second.parentRunId } = second → first = second

instance (targets : List BulkCommandTarget) : Decidable (ParentsAgree targets) := by
  unfold ParentsAgree
  infer_instance

theorem distinctIdentities_iff {platform bulkId millis targets}
    (collisionFree : CollisionFree platform bulkId millis targets) :
    DistinctIdentities platform bulkId millis targets ↔ ParentsAgree targets := by
  constructor
  · intro distinct first mem second mem' valid valid' parent
    by_contra differ
    apply distinct first mem second mem' valid valid' differ
    rw [← parent]
    exact (deriveTargetCommandId_parentRunId _ _ _ first _).symm
  · intro agree first mem second mem' valid valid' differ same
    apply differ
    apply agree first mem second mem' valid valid'
    exact targetHashInput_inj valid valid' (collisionFree first mem second mem' same)

/-! ### The two phases are one pass -/

section Phases

variable (platform : Platform) (operator : OperatorCaller) (circumstances : Nat → Circumstances)
  (call : BulkCall)

/-- Both phases for one target. -/
def settleTarget (index : Nat) (gateway : Gateway) (target : BulkCommandTarget) :
    BulkCommandResult × Gateway :=
  match admitTarget platform operator circumstances call index target with
  | .error e => (rejectedBulkResult target e, gateway)
  | .ok accepted => writeTarget platform circumstances gateway index target accepted

/-- Both phases for one target after the other. -/
def settleTargets : Nat → Gateway → List BulkCommandTarget → List BulkCommandResult × Gateway
  | _, gateway, [] => ([], gateway)
  | index, gateway, target :: rest =>
      let settled := settleTarget platform operator circumstances call index gateway target
      let later := settleTargets (index + 1) settled.2 rest
      (settled.1 :: later.1, later.2)

/-- What the first phase collects from the targets at `index` and after it. -/
inductive Collected : Nat → List BulkCommandTarget → Slots → Prop where
  | done (index : Nat) : Collected index [] ⟨[], []⟩
  | rejected {index target rest slots e}
      (refused : admitTarget platform operator circumstances call index target = .error e)
      (later : Collected (index + 1) rest slots) :
      Collected index (target :: rest)
        ⟨some (rejectedBulkResult target e) :: slots.slots, slots.pending⟩
  | opened {index target rest slots accepted}
      (passed : admitTarget platform operator circumstances call index target = .ok accepted)
      (later : Collected (index + 1) rest slots) :
      Collected index (target :: rest)
        ⟨none :: slots.slots, (index, target, accepted) :: slots.pending⟩

/-- The slots that are open, counted from `index`. -/
def openSlots (index : Nat) (slots : List (Option BulkCommandResult)) : List Nat :=
  ((slots.zipIdx index).filter fun slot => slot.1.isNone).map Prod.snd

variable {platform operator circumstances call}

/-- The first phase collects one target after the other. -/
theorem foldl_admitNext (targets : List BulkCommandTarget) (before : Slots) :
    ∃ slots, Collected platform operator circumstances call before.slots.length targets slots ∧
      targets.foldl (admitNext platform operator circumstances call) before =
        ⟨before.slots ++ slots.slots, before.pending ++ slots.pending⟩ := by
  induction targets generalizing before with
  | nil => exact ⟨⟨[], []⟩, .done _, by simp⟩
  | cons target rest ih =>
    obtain ⟨slots, later, is⟩ := ih (admitNext platform operator circumstances call before target)
    rw [foldl_cons, is]
    cases answer : admitTarget platform operator circumstances call before.slots.length target with
      simp only [admitNext, answer, length_append, length_singleton] at later
    | error e => exact ⟨_, .rejected answer later, by simp [admitNext, answer]⟩
    | ok accepted => exact ⟨_, .opened answer later, by simp [admitNext, answer]⟩

theorem admitTargets_collected : Collected platform operator circumstances call 0
    call.request.targets (admitTargets platform operator circumstances call) := by
  obtain ⟨slots, collected, is⟩ := @foldl_admitNext platform operator circumstances call
    call.request.targets ⟨[], []⟩
  rw [admitTargets, is]
  exact collected

variable {index : Nat} {targets : List BulkCommandTarget} {slots : Slots}

/-- There is a slot for each target. -/
theorem Collected.length
    (collected : Collected platform operator circumstances call index targets slots) :
    slots.slots.length = targets.length := by
  induction collected with
  | done => rfl
  | rejected _ _ ih => simp [ih]
  | opened _ _ ih => simp [ih]

/-- The targets that wait are those whose slots are open. -/
theorem Collected.openSlots_eq
    (collected : Collected platform operator circumstances call index targets slots) :
    openSlots index slots.slots = slots.pending.map Prod.fst := by
  induction collected with
  | done => rfl
  | rejected _ _ ih | opened _ _ ih => simpa [openSlots] using ih

/-- A target that waits has a slot at `index` or after it. -/
theorem Collected.le_of_mem
    (collected : Collected platform operator circumstances call index targets slots) {entry}
    (mem : entry ∈ slots.pending) :
    index ≤ entry.1 := by
  induction collected with
  | done => cases mem
  | rejected _ _ ih => exact Nat.le_of_succ_le (ih mem)
  | opened _ _ ih =>
    rcases mem_cons.mp mem with rfl | later
    · exact Nat.le_refl _
    · exact Nat.le_of_succ_le (ih later)

theorem Collected.filter_lt_eq_nil
    (collected : Collected platform operator circumstances call index targets slots) {bound}
    (low : bound ≤ index) : slots.pending.filter (fun entry => entry.1 < bound) = [] := by
  rw [filter_eq_nil_iff]
  intro entry mem
  have := collected.le_of_mem mem
  simp only [decide_eq_true_eq]
  omega

/-- The writes fill the open slots, and every slot ends up with the result of its
target. -/
theorem Collected.fill
    (collected : Collected platform operator circumstances call index targets slots)
    (gateway : Gateway) (filled : List (Option BulkCommandResult)) (here : filled.length = index) :
    fillSlots (filled ++ slots.slots)
        (writeTargets platform circumstances gateway slots.pending).1 =
      filled ++ (settleTargets platform operator circumstances call index gateway targets).1.map
        some := by
  induction collected generalizing gateway filled with
  | done => rfl
  | @rejected index target rest slots e refused _ ih =>
    have next := ih gateway (filled ++ [some (rejectedBulkResult target e)])
      (by simp [here])
    simpa [settleTargets, settleTarget, refused] using next
  | @opened index target rest slots accepted passed _ ih =>
    have next := ih (writeTarget platform circumstances gateway index target accepted).2
      (filled ++ [some
        (writeTarget platform circumstances gateway index target accepted).1]) (by simp [here])
    have set : (filled ++ none :: slots.slots).set index
        (some (writeTarget platform circumstances gateway index target accepted).1) =
        filled ++ [some (writeTarget platform circumstances gateway index target accepted).1] ++
          slots.slots := by
      simp [here]
    simp only [writeTargets, fillSlots, foldl_cons, set]
    simpa [settleTargets, settleTarget, passed, fillSlots] using next

/-- The writes for the first targets leave what those targets leave. -/
theorem Collected.written
    (collected : Collected platform operator circumstances call index targets slots)
    (gateway : Gateway) (count : Nat) :
    (writeTargets platform circumstances gateway
        (slots.pending.filter fun entry => entry.1 < index + count)).2 =
      (settleTargets platform operator circumstances call index gateway
        (targets.take count)).2 := by
  induction collected generalizing gateway count with
  | done => simp [writeTargets, settleTargets]
  | @rejected index target rest slots e refused later ih =>
    cases count with
    | zero =>
      rw [Nat.add_zero, (Collected.rejected refused later).filter_lt_eq_nil (Nat.le_refl index)]
      rfl
    | succ count =>
      have next := ih gateway count
      rw [Nat.add_assoc, Nat.add_comm 1] at next
      simpa [settleTargets, settleTarget, refused] using next
  | @opened index target rest slots accepted passed later ih =>
    cases count with
    | zero =>
      rw [Nat.add_zero, (Collected.opened passed later).filter_lt_eq_nil (Nat.le_refl index)]
      rfl
    | succ count =>
      have next := ih (writeTarget platform circumstances gateway index target accepted).2 count
      rw [Nat.add_assoc, Nat.add_comm 1] at next
      rw [filter_cons_of_pos (by simp)]
      simpa [writeTargets, settleTargets, settleTarget, passed] using next

theorem writeTargets_nil (gateway : Gateway) :
    writeTargets platform circumstances gateway [] = ([], gateway) := rfl

/-- A call that is not refused as a whole answers every target, as if it were
settled one target after the other. -/
theorem submitTargets_eq {storagePermit}
    (answered : (submitTargets platform operator circumstances call storagePermit gateway).1 =
      .ok answer) :
    answer = some ⟨call.bulkId, (settleTargets platform operator circumstances call 0 gateway
      call.request.targets).1⟩ := by
  have collected := @admitTargets_collected platform operator circumstances call
  have filled := collected.fill gateway [] rfl
  simp only [nil_append] at filled
  have response : bulkResponse call (fillSlots
      (admitTargets platform operator circumstances call).slots (writeTargets platform circumstances
        gateway (admitTargets platform operator circumstances call).pending).1) =
      some ⟨call.bulkId, (settleTargets platform operator circumstances call 0 gateway
        call.request.targets).1⟩ := by
    rw [filled, bulkResponse, mapM_map_some]
    · rfl
    · exact fun _ => rfl
  unfold submitTargets at answered
  dsimp only at answered
  split_ifs at answered with nothing
  · rw [isEmpty_iff.mp nothing, writeTargets_nil] at response
    exact (Except.ok.inj answered).symm.trans response
  · exact (Except.ok.inj answered).symm.trans response

/-- A call that has its permit is not refused as a whole. -/
theorem submitTargets_permitted (gateway : Gateway) : ∃ answer,
    (submitTargets platform operator circumstances call true gateway).1 = .ok answer := by
  unfold submitTargets
  dsimp only
  split
  · exact ⟨_, rfl⟩
  · exact ⟨_, rfl⟩

/-- The result of a target is what settling it gives, after the targets before
it. -/
theorem settleTargets_getElem? (index : Nat) (gateway : Gateway) (targets : List BulkCommandTarget)
    (place : Nat) :
    (settleTargets platform operator circumstances call index gateway targets).1[place]? =
      targets[place]?.map fun target => (settleTarget platform operator circumstances call
        (index + place) (settleTargets platform operator circumstances call index gateway
          (targets.take place)).2 target).1 := by
  induction targets generalizing index gateway place with
  | nil => simp [settleTargets]
  | cons target rest ih =>
    cases place with
    | zero => simp [settleTargets]
    | succ place =>
      have next := ih (index + 1)
        (settleTarget platform operator circumstances call index gateway target).2 place
      rw [Nat.add_assoc, Nat.add_comm 1] at next
      simpa [settleTargets] using next

theorem length_settleTargets (index : Nat) (gateway : Gateway) (targets : List BulkCommandTarget) :
    (settleTargets platform operator circumstances call index gateway targets).1.length =
      targets.length := by
  induction targets generalizing index gateway with
  | nil => rfl
  | cons target rest ih => simp [settleTargets, ih]

end Phases

/-! ### The same command alone -/

/-- The errors only the approval gate gives. -/
def FromGate (e : CommandError) : Prop :=
  e = .rateLimited ∨ e = approvalMismatch

instance (e : CommandError) : Decidable (FromGate e) :=
  inferInstanceAs (Decidable (_ ∨ _))

theorem not_fromGate_fromGatewayError (e : GatewayError) : ¬ FromGate (.fromGatewayError e) := by
  cases e <;> decide

theorem not_fromGate_buildControlRequest {wire operator now}
    (refused : buildControlRequest wire input operator generated now = .error e) :
    ¬ FromGate e := by
  simp only [buildControlRequest, resolveCommandIdAndTimestamp, bind_eq_error, ensure_eq_error,
    require_eq_error, mapError_eq_error] at refused
  rcases refused with ⟨-, rfl⟩ | ⟨_, -, ⟨-, rfl⟩ | ⟨_, -, identity | ⟨_, -, hash | ⟨_, -, event |
    ⟨_, -, impossible⟩⟩⟩⟩⟩
  · decide
  · decide
  · rcases identity with ⟨-, rfl⟩ | ⟨_, -, ⟨-, rfl⟩ | ⟨_, -, impossible⟩⟩
    · decide
    · decide
    · cases impossible
  · obtain ⟨cause, -, rfl⟩ := hash
    exact not_fromGate_fromGatewayError cause
  · obtain ⟨cause, -, rfl⟩ := event
    exact not_fromGate_fromGatewayError cause
  · cases impossible

theorem not_fromGate_record {inbox : FileCommandInbox} {command}
    (refused : (inbox.record command).1 = .error e) : ¬ FromGate e := by
  unfold FileCommandInbox.record at refused
  split_ifs at refused
  · obtain rfl := Except.error.inj refused
    decide
  · split at refused
    · next cause full =>
        obtain rfl := Except.error.inj refused
        unfold InboxState.checkRecordable at full
        split_ifs at full <;> obtain rfl := Except.error.inj full <;> decide
    · cases refused
    · split at refused
      · next cause full =>
          obtain rfl := Except.error.inj refused
          by_cases room : inbox.HasRoom [.command command]
          · obtain ⟨appended, is⟩ := appendBatch_of_room room
            rw [is] at full
            cases full
          · rw [appendBatch_of_full room] at full
            obtain rfl := Except.error.inj full
            decide
      · cases refused

theorem not_fromGate_store {platform circumstances accepted}
    (failed : (gateway.store platform circumstances accepted).1 = .error e) : ¬ FromGate e := by
  unfold Gateway.store at failed
  split at failed
  · next cause _ _ =>
      obtain rfl := Except.error.inj failed
      exact not_fromGate_fromGatewayError cause
  · split at failed
    · next cause _ recorded =>
        obtain rfl := Except.error.inj failed
        unfold recordWith at recorded
        split at recorded
        · obtain rfl := Except.error.inj (Prod.mk.inj recorded).1
          decide
        · exact not_fromGate_record (congrArg Prod.fst recorded)
    · cases failed

/-- What a bulk result says of the answer the command would get alone. No result
says that an approval is awaited. -/
def Reports (target : BulkCommandTarget) (result : BulkCommandResult) :
    Except CommandError ControlCommandResponse → Prop
  | .error e => result = rejectedBulkResult target e
  | .ok response => response.awaitingSecondApproval = false ∧ result = {
      workspaceId := target.workspaceId
      namespaceId := target.namespaceId
      agentId := target.agentId
      accepted := true
      commandId := some response.commandId
      duplicate := some response.duplicate
      delivered := some response.delivered
      errorCode := none
      errorMessage := none }

/-- The approval gate holds the command back: it is an admitted `force_stop` in a
scope of the operator, it is not recorded, and the gate does not approve it. -/
def Withheld (platform : Platform) (operator : OperatorCaller) (circumstances : Circumstances)
    (gateway : Gateway) (input : ControlCommandInput) : Prop :=
  input.action = .forceStop ∧ circumstances.admission = .ok () ∧
    operator.allowsScope input.workspaceId input.namespaceId = true ∧
    ∃ identity, resolveCommandIdAndTimestamp input.commandId circumstances.generated
        circumstances.now = .ok identity ∧
      gateway.hasRecorded input.workspaceId input.namespaceId identity.1 = false ∧
      (approvalFor platform operator circumstances gateway input identity.1).1 ≠ .ok .approved

section Alone

variable {platform : Platform} {operator : OperatorCaller} {circumstances : Nat → Circumstances}
  {call : BulkCall} {index : Nat} {gateway : Gateway} {target : BulkCommandTarget}

/-- With a storage permit at hand. -/
def Circumstances.permitted (circumstances : Circumstances) : Circumstances :=
  { circumstances with storagePermit := true }

theorem resolveCommandId_resolved (commandId : Option String) (generated : String) :
    resolveCommandId (some (resolveCommandId commandId generated)) generated =
      resolveCommandId commandId generated := by
  cases commandId with
  | none => simp [resolveCommandId]
  | some id =>
    by_cases empty : id.isEmpty = true
    · simp [resolveCommandId, empty]
    · simp [resolveCommandId, empty]

/-- The identity is resolved once. -/
theorem buildControlRequest_resolved {wire now}
    (resolved : resolveCommandIdAndTimestamp input.commandId generated now = .ok identity) :
    buildControlRequest wire { input with commandId := some identity.1 } operator generated now =
      buildControlRequest wire input operator generated now := by
  have again : resolveCommandIdAndTimestamp (some identity.1) generated now = .ok identity := by
    rw [← resolved]
    simp only [resolveCommandIdAndTimestamp, bind_eq_ok, require_eq_ok, ensure_eq_ok,
      pure_eq_ok] at resolved
    obtain ⟨_, -, _, -, rfl⟩ := resolved
    simp only [resolveCommandIdAndTimestamp, resolveCommandId_resolved]
  unfold buildControlRequest
  dsimp only
  rw [again, resolved]
  rfl

theorem admitTarget_of_admitted (admitted : (circumstances index).admission = .ok ()) :
    admitTarget platform operator circumstances call index target =
      buildControlRequest platform.toWire (call.input platform target) operator
        (circumstances index).generated (circumstances index).now := by
  rw [admitTarget, admitted]
  rfl

/-- The stores do not look at the approvals that wait. -/
theorem store_dualApproval (accepted : AcceptedCommand) (dualApproval : DualApprovalGate) :
    (Gateway.store platform (circumstances index).permitted { gateway with dualApproval }
      accepted).1 = (gateway.store platform (circumstances index) accepted).1 := by
  unfold Gateway.store Circumstances.permitted
  dsimp only
  split
  · rfl
  · split <;> rfl

/-- A command that needs no approval, or has it, is answered as in bulk. -/
theorem submitApproved_reports (admitted : (circumstances index).admission = .ok ())
    (dualApproval : DualApprovalGate)
    (same : buildControlRequest platform.toWire input operator (circumstances index).generated
        (circumstances index).now =
      buildControlRequest platform.toWire (call.input platform target) operator
        (circumstances index).generated (circumstances index).now) :
    Reports target (settleTarget platform operator circumstances call index gateway target).1
      (submitApproved platform operator (circumstances index).permitted
        { gateway with dualApproval } input).1 := by
  have single : submitApproved platform operator (circumstances index).permitted
      { gateway with dualApproval } input =
      match admitTarget platform operator circumstances call index target with
      | .error e => (.error e, { gateway with dualApproval })
      | .ok accepted => acceptAndRecord platform (circumstances index).permitted
          { gateway with dualApproval } accepted := by
    rw [admitTarget_of_admitted admitted, ← same]
    rfl
  rw [single, settleTarget]
  cases admitTarget platform operator circumstances call index target with
  | error e => rfl
  | ok accepted =>
    have stored := @store_dualApproval platform circumstances index gateway accepted dualApproval
    have permit : (!(circumstances index).permitted.storagePermit) = false := rfl
    simp only [acceptAndRecord, permit, Bool.false_eq_true, if_false, writeTarget]
    rcases alone : Gateway.store platform (circumstances index).permitted
      { gateway with dualApproval } accepted with ⟨answer, after⟩
    rcases bulk : gateway.store platform (circumstances index) accepted with ⟨answer', after'⟩
    rw [alone, bulk] at stored
    obtain rfl : answer = answer' := stored
    cases answer with
    | error e => rfl
    | ok outcome => exact ⟨rfl, rfl⟩

/-- The errors of the gate are none of the bulk path. -/
theorem settleTarget_ne_rejected (admitted : (circumstances index).admission = .ok ())
    (gated : FromGate e) :
    (settleTarget platform operator circumstances call index gateway target).1 ≠
      rejectedBulkResult target e := by
  have known {e' : CommandError} (is : rejectedBulkResult target e' = rejectedBulkResult target e) :
      FromGate e' := by
    obtain ⟨code, message⟩ := e
    obtain ⟨code', message'⟩ := e'
    simp only [rejectedBulkResult, BulkCommandResult.mk.injEq, Option.some.injEq] at is
    obtain ⟨-, -, -, -, -, -, -, rfl, rfl⟩ := is
    exact gated
  unfold settleTarget
  rw [admitTarget_of_admitted admitted]
  intro is
  split at is
  · next refused => exact not_fromGate_buildControlRequest refused (known is)
  · unfold writeTarget at is
    split at is
    · next failed => exact not_fromGate_store (congrArg Prod.fst failed) (known is)
    · cases congrArg BulkCommandResult.accepted is

theorem DualApprovalGate.submit_error {gate : DualApprovalGate} {key fingerprint subject now}
    (refused : (gate.submit key fingerprint subject now).1 = .error e) : e = .rateLimited := by
  unfold DualApprovalGate.submit at refused
  dsimp only at refused
  split at refused
  · split_ifs at refused
  · split_ifs at refused
    exact (Except.error.inj refused).symm

/-- A scope that is not the operator's is refused first, and an identity next, on
both paths. -/
theorem buildControlRequest_forceStop {wire now} (action : input.action = .forceStop) :
    (operator.allowsScope input.workspaceId input.namespaceId = false →
      buildControlRequest wire input operator generated now = .error .scopeDenied) ∧
    ∀ e, operator.allowsScope input.workspaceId input.namespaceId = true →
      resolveCommandIdAndTimestamp input.commandId generated now = .error e →
      buildControlRequest wire input operator generated now = .error e := by
  constructor
  · intro denied
    rw [buildControlRequest, denied]
    rfl
  · intro e allowed unresolved
    rw [buildControlRequest, allowed, action, unresolved]
    rfl

/-- The gate holds a command back that it does not approve. -/
theorem withheld_iff (admitted : (circumstances index).admission = .ok ())
    (action : input.action = .forceStop)
    (allowed : operator.allowsScope input.workspaceId input.namespaceId = true)
    (resolved : resolveCommandIdAndTimestamp input.commandId (circumstances index).generated
      (circumstances index).now = .ok identity) :
    Withheld platform operator (circumstances index) gateway input ↔
      gateway.hasRecorded input.workspaceId input.namespaceId identity.1 = false ∧
        (approvalFor platform operator (circumstances index) gateway input identity.1).1 ≠
          .ok .approved := by
  constructor
  · rintro ⟨-, -, -, identity', resolved', held⟩
    obtain rfl := Except.ok.inj (resolved.symm.trans resolved')
    exact held
  · intro held
    exact ⟨action, admitted, allowed, identity, resolved, held⟩

/-- The approval gate decides over a `force_stop` that has come as far as it. -/
theorem settleTarget_reports_identified (admitted : (circumstances index).admission = .ok ())
    (action : (call.input platform target).action = .forceStop)
    (allowed : operator.allowsScope (call.input platform target).workspaceId
      (call.input platform target).namespaceId = true)
    (resolved : resolveCommandIdAndTimestamp (call.input platform target).commandId
      (circumstances index).generated (circumstances index).now = .ok identity) :
    Reports target (settleTarget platform operator circumstances call index gateway target).1
        (submitIdentified platform operator (circumstances index).permitted gateway
          (call.input platform target) identity.1).1 ↔
      ¬ Withheld platform operator (circumstances index) gateway (call.input platform target) := by
  have approved (dualApproval : DualApprovalGate) := @submitApproved_reports _ platform operator
    circumstances call index gateway target admitted dualApproval
    (buildControlRequest_resolved resolved)
  rw [withheld_iff admitted action allowed resolved, submitIdentified]
  split_ifs with recorded
  · apply iff_of_true (approved gateway.dualApproval)
    rintro ⟨unrecorded, -⟩
    rw [recorded] at unrecorded
    cases unrecorded
  · have unrecorded := Bool.eq_false_of_not_eq_true recorded
    have gate : approvalFor platform operator (circumstances index).permitted gateway
        (call.input platform target) identity.1 = approvalFor platform operator
        (circumstances index) gateway (call.input platform target) identity.1 := rfl
    rw [gate]
    rcases answer : approvalFor platform operator (circumstances index) gateway
      (call.input platform target) identity.1 with ⟨_ | outcome, dualApproval⟩
    · next e =>
        obtain rfl := DualApprovalGate.submit_error (congrArg Prod.fst answer)
        exact iff_of_false (settleTarget_ne_rejected admitted (.inl rfl)) (not_not.mpr
          ⟨unrecorded, nofun⟩)
    · cases outcome with
      | awaitingSecond | alreadyApprovedBySameOperator =>
        exact iff_of_false (fun reports => nomatch reports.1) (not_not.mpr ⟨unrecorded, nofun⟩)
      | fieldMismatch =>
        exact iff_of_false (settleTarget_ne_rejected admitted (.inr rfl)) (not_not.mpr
          ⟨unrecorded, nofun⟩)
      | approved =>
        apply iff_of_true (approved dualApproval)
        rintro ⟨-, differs⟩
        exact differs rfl

/-- A `force_stop` that is admitted gets the answer it would get alone, unless the
approval gate would hold it back. -/
theorem settleTarget_reports_forceStop (admitted : (circumstances index).admission = .ok ())
    (action : (call.input platform target).action = .forceStop) :
    Reports target (settleTarget platform operator circumstances call index gateway target).1
        (submitForceStop platform operator (circumstances index).permitted gateway
          (call.input platform target)).1 ↔
      ¬ Withheld platform operator (circumstances index) gateway (call.input platform target) := by
  have early {e : CommandError} (refused : buildControlRequest platform.toWire
      (call.input platform target) operator (circumstances index).generated
      (circumstances index).now = .error e) : Reports target
        (settleTarget platform operator circumstances call index gateway target).1 (.error e) := by
    rw [settleTarget, admitTarget_of_admitted admitted, refused]
    rfl
  obtain ⟨outside, unidentified⟩ := @buildControlRequest_forceStop
    (call.input platform target) (circumstances index).generated operator platform.toWire
    (circumstances index).now action
  unfold submitForceStop
  cases allowed : operator.allowsScope (call.input platform target).workspaceId
    (call.input platform target).namespaceId with
  | false =>
    apply iff_of_true (early (outside allowed))
    rintro ⟨-, -, within, -⟩
    rw [allowed] at within
    cases within
  | true =>
    have permit : (!(circumstances index).permitted.storagePermit) = false := rfl
    simp only [Bool.not_true, Bool.false_eq_true, if_false, permit]
    cases resolved : resolveCommandIdAndTimestamp (call.input platform target).commandId
      (circumstances index).generated (circumstances index).now with
    | error e =>
      have unresolved : resolveCommandIdAndTimestamp (call.input platform target).commandId
          (circumstances index).permitted.generated (circumstances index).permitted.now =
          .error e := resolved
      rw [unresolved]
      apply iff_of_true (early (unidentified e allowed resolved))
      rintro ⟨-, -, -, identity, found, -⟩
      rw [resolved] at found
      cases found
    | ok identity =>
      have identified : resolveCommandIdAndTimestamp (call.input platform target).commandId
          (circumstances index).permitted.generated (circumstances index).permitted.now =
          .ok identity := resolved
      rw [identified]
      exact settleTarget_reports_identified admitted action allowed resolved

/-- A target gets the answer it would get alone, unless the approval gate would
hold it back. -/
theorem settleTarget_reports_iff :
    Reports target (settleTarget platform operator circumstances call index gateway target).1
        (submitCommand platform operator (circumstances index).permitted gateway
          (call.input platform target)).1 ↔
      ¬ Withheld platform operator (circumstances index) gateway (call.input platform target) := by
  unfold submitCommand
  cases admission : (circumstances index).admission with
  | error e =>
    have refused : (circumstances index).permitted.admission = .error e := admission
    rw [refused]
    apply iff_of_true
    · rw [settleTarget, admitTarget, admission]
      rfl
    · rintro ⟨-, admitted, -⟩
      rw [admission] at admitted
      cases admitted
  | ok u =>
    have admitted : (circumstances index).permitted.admission = .ok () := admission
    rw [admitted]
    dsimp only
    split_ifs with action
    · exact settleTarget_reports_forceStop admission action
    · apply iff_of_true
      · exact submitApproved_reports admission gateway.dualApproval rfl
      · rintro ⟨forced, -⟩
        exact action forced

end Alone

/-! ### The whole call -/

section Whole

variable (platform : Platform) (operator : OperatorCaller) (circumstances : Nat → Circumstances)
  (call : BulkCall)

/-- The stores as the second phase finds them when it comes to a slot. -/
def gatewayAt (gateway : Gateway) (slot : Nat) : Gateway :=
  (writeTargets platform circumstances gateway
    ((admitTargets platform operator circumstances call).pending.filter
      fun entry => entry.1 < slot)).2

/-- There is a slot for each target, and the second phase fills those the first
left open, each once. -/
def FillsOnce : Prop :=
  (admitTargets platform operator circumstances call).slots.length = call.request.targets.length ∧
    openSlots 0 (admitTargets platform operator circumstances call).slots =
      (admitTargets platform operator circumstances call).pending.map Prod.fst

/-- There is one result for each target, in their order, and it is the answer the
target's command would get if it were submitted alone. -/
def AnswersEach (gateway : Gateway) (answer : Option SubmitBulkCommandResponse) : Prop :=
  ∃ response, answer = some response ∧
    response.results.length = call.request.targets.length ∧
    ∀ slot target, call.request.targets[slot]? = some target →
      ∃ result, response.results[slot]? = some result ∧
        Reports target result (submitCommand platform operator (circumstances slot).permitted
          (gatewayAt platform operator circumstances call gateway slot)
          (call.input platform target)).1

/-- The bulk call does what its targets would get alone. -/
structure AsSingles (gateway : Gateway) (answer : Option SubmitBulkCommandResponse) : Prop where
  fillsOnce : FillsOnce platform operator circumstances call
  answersEach : AnswersEach platform operator circumstances call gateway answer
  identities : DistinctIdentities platform call.bulkId call.millis call.request.targets

/-- The approval gate would hold none of the targets back. -/
def NoneWithheld (gateway : Gateway) : Prop :=
  ∀ slot target, call.request.targets[slot]? = some target →
    ¬ Withheld platform operator (circumstances slot)
      (gatewayAt platform operator circumstances call gateway slot) (call.input platform target)

variable {platform operator circumstances call}

theorem fillsOnce : FillsOnce platform operator circumstances call := by
  constructor
  · exact admitTargets_collected.length
  · exact admitTargets_collected.openSlots_eq

theorem answersEach_iff {storagePermit}
    (answered : (submitTargets platform operator circumstances call storagePermit gateway).1 =
      .ok answer) :
    AnswersEach platform operator circumstances call gateway answer ↔
      NoneWithheld platform operator circumstances call gateway := by
  have before (slot : Nat) : gatewayAt platform operator circumstances call gateway slot =
      (settleTargets platform operator circumstances call 0 gateway
        (call.request.targets.take slot)).2 := by
    have written := (@admitTargets_collected platform operator circumstances call).written gateway
      slot
    rwa [Nat.zero_add] at written
  have result {slot : Nat} {target : BulkCommandTarget}
      (found : call.request.targets[slot]? = some target) :
      (settleTargets platform operator circumstances call 0 gateway
        call.request.targets).1[slot]? = some (settleTarget platform operator circumstances call
          slot (gatewayAt platform operator circumstances call gateway slot) target).1 := by
    rw [settleTargets_getElem?, found, before, Nat.zero_add]
    rfl
  rw [submitTargets_eq answered]
  constructor
  · rintro ⟨_, is, -, each⟩ slot target found
    obtain rfl := Option.some.inj is
    obtain ⟨_, here, reports⟩ := each slot target found
    obtain rfl := Option.some.inj ((result found).symm.trans here)
    exact settleTarget_reports_iff.mp reports
  · intro none
    refine ⟨_, rfl, length_settleTargets 0 gateway call.request.targets, ?_⟩
    intro slot target found
    exact ⟨_, result found, settleTarget_reports_iff.mpr (none slot target found)⟩

theorem gatewayAt_zero (gateway : Gateway) :
    gatewayAt platform operator circumstances call gateway 0 = gateway := by
  rw [gatewayAt, admitTargets_collected.filter_lt_eq_nil (Nat.le_refl 0)]
  rfl

/-- No result stands for a command that would wait for its second approval. -/
theorem not_answersEach (slot : Nat) (target : BulkCommandTarget)
    (found : call.request.targets[slot]? = some target) (commandId : String)
    (awaits : (submitCommand platform operator (circumstances slot).permitted
      (gatewayAt platform operator circumstances call gateway slot)
      (call.input platform target)).1 = .ok (awaitingSecond commandId)) :
    ¬ AnswersEach platform operator circumstances call gateway answer := by
  rintro ⟨response, -, -, each⟩
  obtain ⟨result, -, reports⟩ := each slot target found
  rw [awaits] at reports
  cases reports.1

/-- A bulk call that is not refused as a whole does what its targets would get
alone exactly when the approval gate would hold none of them back and no two of
them differ in the parent run only. -/
theorem bulk_as_singles_iff {generated bulkId : String} {now : UInt64} {millis : Nat}
    {storagePermit : Bool} {gateway : Gateway} {request : SubmitBulkCommandRequest}
    {answer : Option SubmitBulkCommandResponse}
    (checked : checkBulk request generated now = .ok (bulkId, millis))
    (answered : (submitBulkCommand platform operator circumstances generated now storagePermit
      gateway request).1 = .ok answer)
    (collisionFree : CollisionFree platform bulkId millis request.targets) :
    AsSingles platform operator circumstances ⟨request, bulkId, millis⟩ gateway answer ↔
      NoneWithheld platform operator circumstances ⟨request, bulkId, millis⟩ gateway ∧
        ParentsAgree request.targets := by
  rw [submitBulkCommand, checked] at answered
  have each := answersEach_iff answered
  have identities := distinctIdentities_iff collisionFree
  constructor
  · intro singles
    exact ⟨each.mp singles.answersEach, identities.mp singles.identities⟩
  · rintro ⟨none, agree⟩
    exact ⟨fillsOnce, each.mpr none, identities.mpr agree⟩

end Whole

/-! ### A sample call -/

/-- A platform whose digest is the sum of the bytes. -/
def summingPlatform : Platform where
  encode envelope := textBytes envelope.eventId ++ textBytes (envelope.parentRunId.getD "")
  decode _ := none
  encodeStruct _ := []
  canonicalHash _ := .ok (String.ofList (List.replicate 64 'a'))
  containsSecret _ _ := false
  sha256 bytes := ⟨List.replicate 32 (bytes.foldl (· + ·) 0), List.length_replicate⟩
  uuidFromUnixMillis _ bytes :=
    let byte := (bytes.headD 0).toNat
    "01890a5d-ac96-774b-bcce-b302099a80" ++
      String.ofList [Nat.digitChar (byte / 16), Nat.digitChar (byte % 16)]

/-- Nothing stands in the way of a submission. -/
def calm : Circumstances where
  admission := .ok ()
  storagePermit := true
  generated := sampleCommandId
  now := sampleNow
  instant := 0
  outboxNow := 0
  outboxFault := none
  inboxFault := none

/-- A gateway over new files. -/
def newGateway : Gateway where
  outbox := FileOutbox.fresh 8
  inbox := ⟨[], InboxState.new 8 8, 0⟩
  dualApproval := .new

def sampleTarget (agentId : String) (parentRunId : Option String) : BulkCommandTarget where
  workspaceId := "acme"
  namespaceId := "prod"
  agentId := agentId
  runId := "run-1"
  parentRunId := parentRunId
  traceId := "trace-1"

def sampleBulk (action : ControlAction) (targets : List BulkCommandTarget) :
    SubmitBulkCommandRequest where
  bulkId := some sampleCommandId
  targets := targets
  action := action
  reasonCode := none
  parameters := none

/-- The answer to a sample call of one operator. -/
def sampleAnswer (request : SubmitBulkCommandRequest) :
    Except CommandError (Option SubmitBulkCommandResponse) :=
  (submitBulkCommand summingPlatform (sampleOperator "ops-1") (fun _ => calm) sampleCommandId
    sampleNow true newGateway request).1

/-- The sample call, with its identity checked. -/
def sampleCall (request : SubmitBulkCommandRequest) : BulkCall :=
  ⟨request, sampleCommandId, uuidUnixMillis sampleCommandId⟩

/-- Two agents are stopped. -/
def twoStops : SubmitBulkCommandRequest :=
  sampleBulk .stop [sampleTarget "agent-1" none, sampleTarget "agent-2" none]

theorem bulk_as_singles_iff_twoStops : ∃ answer, sampleAnswer twoStops = .ok answer ∧
    AsSingles summingPlatform (sampleOperator "ops-1") (fun _ => calm) (sampleCall twoStops)
      newGateway answer := by
  have checked : checkBulk twoStops sampleCommandId sampleNow =
      .ok (sampleCommandId, uuidUnixMillis sampleCommandId) := by decide +kernel
  obtain ⟨answer, is⟩ : ∃ answer, sampleAnswer twoStops = .ok answer := by
    rw [sampleAnswer, submitBulkCommand, checked]
    exact submitTargets_permitted newGateway
  refine ⟨answer, is, (bulk_as_singles_iff checked is (by decide +kernel)).mpr ?_⟩
  constructor
  · rintro slot target - ⟨forced, -⟩
    cases forced
  · decide +kernel

/-- One operator sends a `force_stop` for a run, and for the same run with a
parent. -/
def forcedTwice : SubmitBulkCommandRequest :=
  sampleBulk .forceStop [sampleTarget "agent-1" none, sampleTarget "agent-1" (some "run-0")]

/-- Without a second operator the first target is accepted, where alone it would
wait for one. The second target has the identity of the first and is refused as a
conflict. -/
theorem forcedTwice_not_asSingles :
    (sampleAnswer forcedTwice).toOption.join.map
        (fun response => response.results.map BulkCommandResult.accepted) = some [true, false] ∧
    ∀ answer, sampleAnswer forcedTwice = .ok answer →
      ¬ AnswersEach summingPlatform (sampleOperator "ops-1") (fun _ => calm)
          (sampleCall forcedTwice) newGateway answer ∧
        ¬ DistinctIdentities summingPlatform sampleCommandId (uuidUnixMillis sampleCommandId)
          forcedTwice.targets := by
  constructor
  · decide +kernel
  · intro answer _
    constructor
    · apply not_answersEach 0 (sampleTarget "agent-1" none) rfl (deriveTargetCommandId
        summingPlatform sampleCommandId (uuidUnixMillis sampleCommandId)
        (sampleTarget "agent-1" none))
      rw [gatewayAt_zero]
      decide +kernel
    · intro distinct
      apply distinct (sampleTarget "agent-1" none) List.mem_cons_self
        (sampleTarget "agent-1" (some "run-0")) (List.mem_cons_of_mem _ List.mem_cons_self)
      · decide +kernel
      · decide +kernel
      · nofun
      · exact (deriveTargetCommandId_parentRunId _ _ _ (sampleTarget "agent-1" none) _).symm

end Apex.Control
