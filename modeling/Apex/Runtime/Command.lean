import Apex.Lib.Checked
import Apex.Lib.Text

/-!
Control commands and trace events of the reference runtime.

A command reaches the runtime from the control channel with the parameters the
operator submitted; the runtime writes what it enacted back into its trace as
`control` events, whose contract `ControlCommand.create` checks.
-/

namespace Apex.Runtime

open Checked

/-- Python's numbers as far as a budget needs them: the running cost is a
`float`, a ceiling is compared with it or with a count of tokens. -/
class Amount (Number : Type) where
  zero : Number
  maxControlBudgetLimit : Number
  add : Number → Number → Number
  le : Number → Number → Bool
  /-- `used <= limit` of an integer count. -/
  tokensLe : Nat → Number → Bool
  isFinite : Number → Bool

/-- A value of a command's decoded parameters. `other` stands for the objects and
lists, which no action takes. -/
inductive Value (Number : Type) where
  | none
  | bool (value : Bool)
  | number (value : Number)
  | text (value : String)
  | other
  deriving DecidableEq, Repr

/-- `_ACTION_NAMES`, with every number it does not list as `unspecified`. -/
inductive PendingAction where
  | unspecified
  | stop
  | pause
  | resume
  | inject
  | setBudget
  | resolveHold
  deriving DecidableEq, Repr

/-- `PendingControlCommand`, without the fields the enactment does not read. -/
structure PendingControlCommand (Number : Type) where
  commandId : String
  action : PendingAction
  reasonCode : Option String
  parameters : List (String × Value Number)
  deriving DecidableEq, Repr

/-- `parameters.get(name)`. -/
def PendingControlCommand.parameter {Number : Type} (command : PendingControlCommand Number)
    (name : String) : Value Number :=
  ((command.parameters.find? fun entry => entry.1 = name).map Prod.snd).getD .none

/-! ### Control events -/

inductive ControlAction where
  | stop
  | pause
  | resume
  | inject
  | setBudget
  | resolveHold
  deriving DecidableEq, Repr

def ControlAction.value : ControlAction → String
  | .stop => "stop"
  | .pause => "pause"
  | .resume => "resume"
  | .inject => "inject"
  | .setBudget => "set_budget"
  | .resolveHold => "resolve_hold"

inductive BudgetKind where
  | tokens
  | cost
  deriving DecidableEq, Repr

def BudgetKind.ofName : String → Option BudgetKind
  | "tokens" => some .tokens
  | "cost" => some .cost
  | _ => none

inductive Decision where
  | approved
  | denied
  deriving DecidableEq, Repr

def Decision.ofName : String → Option Decision
  | "approved" => some .approved
  | "denied" => some .denied
  | _ => none

/-- The parameters of a control event, by what its action takes. -/
inductive Parameters (Number : Type) where
  | empty
  | content (text : String)
  | budget (kind : BudgetKind) (limit : Number)
  | resolution (holdToken : String) (decision : Decision) (reason : Option String)
  deriving DecidableEq, Repr

/-- `ControlCommand`. Its enforcement is always cooperative. -/
structure ControlCommand (Number : Type) where
  action : ControlAction
  reasonCode : Option String
  parameters : Parameters Number
  deriving DecidableEq, Repr

def maxUntrustedControlContentBytes : Nat := 32 * 1024

def maxHoldReasonBytes : Nat := 8 * 1024

/-- `SAFE_IDENTIFIER`. -/
def safeIdentifier (value : String) : Bool :=
  1 ≤ value.toList.length && value.toList.length ≤ 256 &&
    value.toList.all fun c => c.isAlphanum || c == '.' || c == '_' || c == ':' || c == '-'

/-- A ceiling is a number (Python's `bool` is one by type and refused by name)
that is finite, positive and at most `MAX_CONTROL_BUDGET_LIMIT`. -/
def validLimit {Number : Type} [Amount Number] : Value Number → Option Number
  | .number limit =>
      if Amount.isFinite limit && !Amount.le limit (Amount.zero : Number) &&
          Amount.le limit Amount.maxControlBudgetLimit then some limit
      else none
  | _ => none

/-- The keyword arguments of `ControlCommand.create` the loop passes. -/
structure CreateArguments (Number : Type) where
  reasonCode : Option String := none
  content : Option String := none
  budgetKind : Option BudgetKind := none
  limit : Option Number := none
  holdToken : Option String := none
  decision : Option Decision := none
  reason : Option String := none

variable {Number : Type} [Amount Number]

/-- `resolve_hold reason must be a non-empty string or null`, and its bound. -/
def checkHoldReason : Option String → Except String Unit
  | none => .ok ()
  | some reason => do
      ensure (!reason.isEmpty) "resolve_hold reason must be a non-empty string or null"
      ensure (reason.utf8ByteSize ≤ maxHoldReasonBytes) "resolve_hold reason must not exceed 8 KiB"

/-- `ControlCommand.create`. -/
def ControlCommand.create (action : ControlAction) (given : CreateArguments Number) :
    Except String (ControlCommand Number) := do
  ensure (given.reasonCode.all safeIdentifier) "reason_code must be a safe identifier or null"
  ensure (!(action == .resume && given.reasonCode.isSome)) "resume does not accept a reason_code"
  match action with
  | .inject => do
      let content ← require (given.content.filter (!·.isEmpty)) "inject requires content"
      ensure (content.utf8ByteSize ≤ maxUntrustedControlContentBytes)
        "inject content must not exceed 32 KiB"
      ensure (given.budgetKind.isNone && given.limit.isNone && given.holdToken.isNone &&
        given.decision.isNone && given.reason.isNone) "inject does not accept budget parameters"
      pure ⟨action, given.reasonCode, .content content⟩
  | .setBudget => do
      let kind ← require given.budgetKind "set_budget requires budget_kind of tokens or cost"
      let limit ← require (given.limit.bind fun limit => validLimit (.number limit))
        "set_budget requires a positive limit that is finite and no greater than 1e15"
      ensure (given.content.isNone && given.holdToken.isNone && given.decision.isNone &&
        given.reason.isNone) "set_budget does not accept content"
      pure ⟨action, given.reasonCode, .budget kind limit⟩
  | .resolveHold => do
      let holdToken ← require (given.holdToken.filter safeIdentifier)
        "resolve_hold requires a hold_token that is a safe identifier"
      let decision ← require given.decision
        "resolve_hold requires decision of approved or denied"
      checkHoldReason given.reason
      ensure (given.content.isNone && given.budgetKind.isNone && given.limit.isNone)
        "resolve_hold does not accept inject or budget parameters"
      pure ⟨action, given.reasonCode, .resolution holdToken decision given.reason⟩
  | .stop | .pause | .resume => do
      ensure (given.content.isNone && given.budgetKind.isNone && given.limit.isNone &&
        given.holdToken.isNone && given.decision.isNone && given.reason.isNone)
        (action.value ++ " does not accept parameters")
      pure ⟨action, given.reasonCode, .empty⟩

/-- `_reason_code`: a command's reason, or nothing where it is not safe to echo. -/
def echoedReasonCode (command : PendingControlCommand Number) : Option String :=
  command.reasonCode.filter safeIdentifier

/-! ### The trace -/

inductive Status where
  | stopped
  | paused
  | budgetExceeded
  | heldDenied
  | held
  | completed
  | resumed
  | error
  deriving DecidableEq, Repr

/-- The data of a `turn_end` event; a field the event leaves out is empty. -/
structure TurnEnd where
  status : Status
  controlCommandId : Option String := none
  injectedCommandIds : List String := []
  holdToken : Option String := none
  holdReason : Option String := none
  deriving DecidableEq, Repr

/-- The codes of the `error` events the loop writes. -/
inductive ErrorCode where
  | controlPollUnavailable
  | controlAckUnavailable
  | controlAckRejected
  | referenceResolveHoldParametersInvalid
  | referenceBudgetParametersInvalid
  | referenceInjectContentRefused
  | referenceChildIdInvalid
  | referenceToolFailed
  deriving DecidableEq, Repr

/-- The events of a turn, with the data that is not fixed text. -/
inductive EventData (Number : Type) where
  | turnStart (promptRef : String)
  | llm (model : String) (inputTokens outputTokens : Nat)
  | agentSpawn (childAgentId : String)
  | control (command : ControlCommand Number)
  | error (code : ErrorCode)
  | tool (inputRef : String)
  | message (contentRef : String)
  | turnEnd (data : TurnEnd)
  deriving DecidableEq, Repr

/-- One event of the trace, under the agent whose builder made it. -/
structure Event (Number : Type) where
  agentId : String
  data : EventData Number
  deriving DecidableEq, Repr

end Apex.Runtime
