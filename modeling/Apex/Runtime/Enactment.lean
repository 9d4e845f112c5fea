import Apex.Lib.Raising
import Apex.Runtime.Command

/-!
The control enactment of the reference runtime: what a poll's commands do to the
loop, in the order `_enact` applies them.

An event the contract refuses raises out of `emit`, and whatever the enactment
changed before stays changed. The poll's answer, the answers of the
acknowledgement calls and the contract's secret scan come from outside and are
inputs here.
-/

namespace Apex.Runtime

open Raising

variable {Number : Type}

def maxRememberedCommands : Nat := 512

/-- The state `_ControlEnactment` keeps for the life of a loop. `enacted` is its
insertion-ordered set, oldest first. -/
structure ControlEnactment (Number : Type) where
  pausedBy : Option String
  budgetKind : Option BudgetKind
  budgetLimit : Option Number
  budgetCommandId : Option String
  usedTokens : Nat
  usedCost : Number
  heldToken : Option String
  enacted : List String
  deriving DecidableEq, Repr

/-- `_ControlEnactment.__init__`. -/
def ControlEnactment.init [Amount Number] : ControlEnactment Number where
  pausedBy := none
  budgetKind := none
  budgetLimit := none
  budgetCommandId := none
  usedTokens := 0
  usedCost := Amount.zero
  heldToken := none
  enacted := []

/-- A loop as the turns see it: its enactment state, the events built so far and
the inputs its tool was called with. -/
structure World (Number : Type) where
  enactment : ControlEnactment Number
  trace : List (Event Number)
  calls : List String
  deriving DecidableEq, Repr

/-- What a turn reads that no command changes: the identity its events carry, the
usage it reports, the digest of the references and the contract's secret scan. -/
structure Settings (Number : Type) where
  agentId : String
  model : String
  syntheticInputTokens : Nat
  syntheticOutputTokens : Nat
  syntheticCostPerTurn : Number
  sha256Hex : String → String
  secretLike : EventData Number → Bool

/-- Why a turn raised. -/
inductive Raised where
  | controlValidation (message : String)
  | eventValidation
  deriving DecidableEq, Repr

abbrev Turn (Number α : Type) : Type := Raising (World Number) Raised α

def modifyEnactment (f : ControlEnactment Number → ControlEnactment Number) : Turn Number Unit :=
  Raising.modify fun w => { w with enactment := f w.enactment }

/-- `emit_from`: the event is built, which raises where the contract refuses it,
and joins the trace. Whether the observer's queue takes it does not matter to
the turn. -/
def emitFrom (settings : Settings Number) (agentId : String) (data : EventData Number) :
    Turn Number Unit :=
  if settings.secretLike data then Raising.raise .eventValidation
  else Raising.modify fun w => { w with trace := w.trace ++ [⟨agentId, data⟩] }

def emit (settings : Settings Number) (data : EventData Number) : Turn Number Unit :=
  emitFrom settings settings.agentId data

/-- `emit("control", ControlCommand.create(…).to_event_data())`. -/
def emitControl [Amount Number] (settings : Settings Number) (action : ControlAction)
    (given : CreateArguments Number) : Turn Number Unit := do
  let command ← Raising.ofExcept
    ((ControlCommand.create action given).mapError Raised.controlValidation)
  emit settings (.control command)

/-! ### Polling and dispatch -/

/-- What a turn's poll of the control channel gives. -/
inductive Poll (Number : Type) where
  | noControl
  | failed
  | commands (delivered : List (PendingControlCommand Number))
  deriving DecidableEq, Repr

/-- The commands a poll delivered. -/
def Poll.delivered : Poll Number → List (PendingControlCommand Number)
  | .commands delivered => delivered
  | .noControl | .failed => []

/-- `_poll`. A failed poll is written into the trace and delivers nothing. -/
def poll (settings : Settings Number) (answer : Poll Number) :
    Turn Number (List (PendingControlCommand Number)) := do
  match answer with
  | .failed => emit settings (.error .controlPollUnavailable)
  | .noControl | .commands _ => pure ()
  pure answer.delivered

/-- `_first_sight`: whether the command id is new, and the ids remembered after. -/
def firstSight (enacted : List String) (commandId : String) : Bool × List String :=
  if commandId ∈ enacted then (false, enacted)
  else
    let remembered := enacted ++ [commandId]
    (true, remembered.drop (remembered.length - maxRememberedCommands))

/-- The commands of one poll, sorted by what they ask for. -/
structure Batch (Number : Type) where
  stop : Option (PendingControlCommand Number)
  pauseIntent : Option (PendingControlCommand Number)
  budgets : List (PendingControlCommand Number)
  injects : List (PendingControlCommand Number)
  resolves : List (PendingControlCommand Number)
  acknowledged : List (PendingControlCommand Number)
  deriving DecidableEq, Repr

def Batch.empty : Batch Number := ⟨none, none, [], [], [], []⟩

/-- A command whose id is new, put where its action belongs. -/
def Batch.add (batch : Batch Number) (command : PendingControlCommand Number) : Batch Number :=
  let acknowledged := batch.acknowledged ++ [command]
  match command.action with
  | .pause | .resume =>
      { batch with pauseIntent := some command, acknowledged := acknowledged }
  | .setBudget => { batch with budgets := batch.budgets ++ [command], acknowledged := acknowledged }
  | .inject => { batch with injects := batch.injects ++ [command], acknowledged := acknowledged }
  | .resolveHold =>
      { batch with resolves := batch.resolves ++ [command], acknowledged := acknowledged }
  | .stop | .unspecified => batch

/-- A command whose id is missing or known. -/
def Batch.skip (batch : Batch Number) (command : PendingControlCommand Number) : Batch Number :=
  match command.action with
  | .pause | .resume | .setBudget | .inject | .resolveHold =>
      { batch with acknowledged := batch.acknowledged ++ [command] }
  | .stop | .unspecified => batch

/-- One turn of the dispatch loop of `_enact`: a `stop` is taken without a look
at its id, anything else only under an id that is present and new. -/
def dispatchOne (seen : Batch Number × List String) (command : PendingControlCommand Number) :
    Batch Number × List String :=
  let (batch, enacted) := seen
  if command.action = .stop then
    ({ batch with stop := batch.stop.or (some command)
                  acknowledged := batch.acknowledged ++ [command] }, enacted)
  else if command.commandId.isEmpty then (batch.skip command, enacted)
  else
    match firstSight enacted command.commandId with
    | (false, enacted) => (batch.skip command, enacted)
    | (true, enacted) => (batch.add command, enacted)

def dispatch (enacted : List String) (commands : List (PendingControlCommand Number)) :
    Batch Number × List String :=
  commands.foldl dispatchOne (Batch.empty, enacted)

/-! ### The actions -/

variable [Amount Number]

/-- What a `resolve_hold` that was applied decided. -/
structure Resolution where
  decision : Decision
  commandId : String
  reason : Option String
  deriving DecidableEq, Repr

/-- The text of a parameter, where it is one. -/
def Value.text? : Value Number → Option String
  | .text value => some value
  | _ => Option.none

/-- The decision a command carries, if it carries one. -/
def PendingControlCommand.decision (command : PendingControlCommand Number) : Option Decision :=
  (command.parameter "decision").text?.bind Decision.ofName

/-- The token a command names, if it names one. -/
def PendingControlCommand.holdToken (command : PendingControlCommand Number) : Option String :=
  (command.parameter "hold_token").text?

/-- `_apply_resolve_hold`: the first command that names the hold in force with a
decision resolves it. -/
def applyResolveHold (settings : Settings Number) :
    List (PendingControlCommand Number) → Turn Number (Option Resolution)
  | [] => pure none
  | command :: rest => do
      let w ← Raising.read
      match w.enactment.heldToken with
      | none => pure none
      | some held =>
          if command.holdToken = some held then
            match command.decision with
            | none => do
                emit settings (.error .referenceResolveHoldParametersInvalid)
                applyResolveHold settings rest
            | some decision => do
                let reason := (command.parameter "reason").text?.filter (!·.isEmpty)
                modifyEnactment fun e => { e with heldToken := none }
                emitControl settings .resolveHold
                  { reasonCode := echoedReasonCode command
                    holdToken := some held
                    decision := some decision
                    reason := reason }
                pure (some ⟨decision, command.commandId, reason⟩)
          else applyResolveHold settings rest

/-- `_apply_pause_intent`. Answers with the id of the command that resumed. -/
def applyPauseIntent (settings : Settings Number) :
    Option (PendingControlCommand Number) → Turn Number (Option String)
  | none => pure none
  | some command => do
      let w ← Raising.read
      if command.action = .pause then
        if w.enactment.pausedBy.isSome then pure none
        else do
          modifyEnactment fun e => { e with pausedBy := some command.commandId }
          emitControl settings .pause { reasonCode := echoedReasonCode command }
          pure none
      else if w.enactment.pausedBy.isNone then pure none
      else do
        modifyEnactment fun e => { e with pausedBy := none }
        emitControl settings .resume {}
        pure (some command.commandId)

/-- `_apply_budget`. -/
def applyBudget (settings : Settings Number) (command : PendingControlCommand Number) :
    Turn Number Unit :=
  match (command.parameter "budget_kind").text?.bind BudgetKind.ofName,
    validLimit (command.parameter "limit") with
  | some kind, some limit => do
      modifyEnactment fun e =>
        { e with budgetKind := some kind
                 budgetLimit := some limit
                 budgetCommandId := some command.commandId }
      emitControl settings .setBudget
        { reasonCode := echoedReasonCode command
          budgetKind := some kind
          limit := some limit }
  | _, _ => emit settings (.error .referenceBudgetParametersInvalid)

/-- `_surface_inject`. Content the contract does not take is refused, not raised. -/
def surfaceInject (settings : Settings Number) (command : PendingControlCommand Number) :
    Turn Number (Option String) := do
  match (command.parameter "content").text? with
  | some content =>
      if !content.isEmpty &&
          (command.parameter "content_classification").text? == some "untrusted" &&
          content.utf8ByteSize ≤ maxUntrustedControlContentBytes then
        Raising.attempt
          (do
            emitControl settings .inject
              { reasonCode := echoedReasonCode command
                content := some content }
            pure (some command.commandId))
          fun _ => do
            emit settings (.error .referenceInjectContentRefused)
            pure none
      else do
        emit settings (.error .referenceInjectContentRefused)
        pure none
  | none => do
      emit settings (.error .referenceInjectContentRefused)
      pure none

/-- `_budget_exceeded`: the id of the ceiling the usage so far has passed. -/
def budgetExceeded (enactment : ControlEnactment Number) : Option String :=
  match enactment.budgetLimit with
  | none => none
  | some limit =>
      let within :=
        if enactment.budgetKind = some .tokens then Amount.tokensLe enactment.usedTokens limit
        else Amount.le enactment.usedCost limit
      if within then none else some (enactment.budgetCommandId.getD "")

/-! ### Enactment -/

/-- The answer of one acknowledgement call. -/
inductive Acknowledgement where
  | accepted
  | rejected
  | raised
  deriving DecidableEq, Repr

/-- `_acknowledge`. The answers are in the order of the commands; a transport
without the call gives none. -/
def acknowledge (settings : Settings Number) (answers : Option (Nat → Acknowledgement))
    (commands : List (PendingControlCommand Number)) : Turn Number Unit :=
  match answers with
  | none => pure ()
  | some answer =>
      Raising.forEach
        (fun entry : PendingControlCommand Number × Nat =>
          match answer entry.2 with
          | .accepted => pure ()
          | .rejected => emit settings (.error .controlAckRejected)
          | .raised => emit settings (.error .controlAckUnavailable))
        commands.zipIdx

/-- What `_enact` tells the turn: the `turn_end` of a turn that must not run its
tool, or what the turn's own terminal event carries in addition. -/
inductive Verdict where
  | terminal (data : TurnEnd)
  | proceed (controlCommandId : Option String) (injectedCommandIds : List String)
      (resumedBy : Option String)
  deriving DecidableEq, Repr

/-- The checks that can end the turn, in their order: the pause in force, the
ceiling, a denial this poll brought, the hold still waiting. -/
def verdictOf (enactment : ControlEnactment Number) (injected : List String)
    (resolved : Option Resolution) (resumedBy : Option String) : Verdict :=
  match enactment.pausedBy, budgetExceeded enactment, resolved, enactment.heldToken with
  | some pausedBy, _, _, _ =>
      .terminal
        { status := .paused, controlCommandId := some pausedBy, injectedCommandIds := injected }
  | none, some exceeded, _, _ =>
      .terminal
        { status := .budgetExceeded
          controlCommandId := some exceeded
          injectedCommandIds := injected }
  | none, none, some ⟨.denied, commandId, reason⟩, _ =>
      .terminal
        { status := .heldDenied
          controlCommandId := some commandId
          injectedCommandIds := injected
          holdReason := reason }
  | none, none, _, some held =>
      .terminal { status := .held, injectedCommandIds := injected, holdToken := some held }
  | none, none, resolved, none =>
      .proceed (resumedBy.or (resolved.map Resolution.commandId)) injected resumedBy

/-- The tail of `_enact`, where no `stop` came: the state updates, then the checks
that can end the turn. -/
def enactBatch (settings : Settings Number) (answers : Option (Nat → Acknowledgement))
    (batch : Batch Number) : Turn Number Verdict := do
  Raising.forEach (applyBudget settings) batch.budgets
  let injected ← Raising.collect (surfaceInject settings) batch.injects
  let resolved ← applyResolveHold settings batch.resolves
  let resumedBy ← applyPauseIntent settings batch.pauseIntent
  let w ← Raising.read
  acknowledge settings answers batch.acknowledged
  pure (verdictOf w.enactment injected resolved resumedBy)

/-- `_enact`. -/
def enact (settings : Settings Number) (answer : Poll Number)
    (answers : Option (Nat → Acknowledgement)) : Turn Number Verdict := do
  let commands ← poll settings answer
  let w ← Raising.read
  let (batch, enacted) := dispatch w.enactment.enacted commands
  modifyEnactment fun e => { e with enacted := enacted }
  match batch.stop with
  | some stop => do
      emitControl settings .stop { reasonCode := echoedReasonCode stop }
      acknowledge settings answers batch.acknowledged
      pure (.terminal { status := .stopped, controlCommandId := some stop.commandId })
  | none => enactBatch settings answers batch

end Apex.Runtime
