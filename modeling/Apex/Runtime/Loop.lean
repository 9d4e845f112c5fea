import Apex.Runtime.Enactment

/-!
The turns of the reference runtime, and a loop as a machine of turns and holds.

`run` is one turn: it writes its start and its model call, may spawn a child,
and, when it has a tool step, polls the control channel once, immediately before
the tool would run.
-/

namespace Apex.Runtime

open Raising

variable {Number : Type} [Amount Number]

/-- What the tool callback does when it is called: it returns a text, or it raises
or returns something that is no text. -/
inductive ToolResult where
  | text (value : String)
  | failed
  deriving DecidableEq, Repr

/-- The arguments of `run` and what the outside answers during the turn. A turn
without `tool` has no tool step. -/
structure TurnInput (Number : Type) where
  prompt : String
  tool : Option ToolResult
  childAgentId : Option String
  poll : Poll Number
  acknowledgements : Option (Nat → Acknowledgement)

/-- `record_usage`. -/
def ControlEnactment.recordUsage (enactment : ControlEnactment Number) (tokens : Nat)
    (cost : Number) : ControlEnactment Number :=
  { enactment with
    usedTokens := enactment.usedTokens + tokens
    usedCost := Amount.add enactment.usedCost cost }

/-- `enter_hold` with the token it drew. -/
def ControlEnactment.enterHold (enactment : ControlEnactment Number) (token : String) :
    ControlEnactment Number :=
  { enactment with heldToken := some token }

/-- The terminal event of a turn, which is also what the turn answers with here. -/
def endTurn (settings : Settings Number) (data : TurnEnd) : Turn Number TurnEnd := do
  emit settings (.turnEnd data)
  pure data

/-- A child's own two events follow its spawn. -/
def spawnChild (settings : Settings Number) (promptRef childAgentId : String) :
    Turn Number Unit := do
  emit settings (.agentSpawn childAgentId)
  emitFrom settings childAgentId (.turnStart promptRef)
  emitFrom settings childAgentId (.turnEnd { status := .completed })

/-- The side effect: the tool is called with the fixed reference input. A text it
returns is referred to in the trace; everything else it does is a failure, and so
is a reference the contract refuses. Answers whether the step succeeded. -/
def callTool (settings : Settings Number) (result : ToolResult) : Turn Number Bool := do
  emit settings (.tool "reference-input")
  Raising.modify fun w => { w with calls := w.calls ++ ["reference-input"] }
  match result with
  | .text value =>
      Raising.attempt
        (do
          emit settings (.message (settings.sha256Hex value))
          pure true)
        fun _ => pure false
  | .failed => pure false

/-- The tool step behind its checkpoint. -/
def toolStep (settings : Settings Number) (input : TurnInput Number) (tool : ToolResult) :
    Turn Number TurnEnd := do
  let verdict ← enact settings input.poll input.acknowledgements
  match verdict with
  | .terminal data => endTurn settings data
  | .proceed controlCommandId injectedCommandIds resumedBy => do
      let succeeded ← callTool settings tool
      if succeeded then
        endTurn settings
          { status := if resumedBy.isSome then .resumed else .completed
            controlCommandId := controlCommandId
            injectedCommandIds := injectedCommandIds }
      else do
        emit settings (.error .referenceToolFailed)
        endTurn settings
          { status := .error
            controlCommandId := controlCommandId
            injectedCommandIds := injectedCommandIds }

/-- A turn after its spawn. -/
def finishTurn (settings : Settings Number) (input : TurnInput Number) : Turn Number TurnEnd :=
  match input.tool with
  | none => endTurn settings { status := .completed }
  | some tool => toolStep settings input tool

/-- `run`. -/
def runTurn (settings : Settings Number) (input : TurnInput Number) : Turn Number TurnEnd := do
  let promptRef := settings.sha256Hex input.prompt
  emit settings (.turnStart promptRef)
  modifyEnactment fun e =>
    e.recordUsage (settings.syntheticInputTokens + settings.syntheticOutputTokens)
      settings.syntheticCostPerTurn
  emit settings
    (.llm settings.model settings.syntheticInputTokens settings.syntheticOutputTokens)
  match input.childAgentId with
  | none => finishTurn settings input
  | some childAgentId =>
      if safeIdentifier childAgentId then do
        spawnChild settings promptRef childAgentId
        finishTurn settings input
      else do
        emit settings (.error .referenceChildIdInvalid)
        endTurn settings { status := .error }

/-! ### The loop -/

/-- What a harness does with one loop. -/
inductive LoopAction (Number : Type) where
  | enterHold (token : String)
  | turn (input : TurnInput Number)

def World.init : World Number := ⟨.init, [], []⟩

def loopStep (settings : Settings Number) (w : World Number) : LoopAction Number → World Number
  | .enterHold token => { w with enactment := w.enactment.enterHold token }
  | .turn input => (runTurn settings input w).1

/-- How a turn taken from `w` ends; nothing where it raises. -/
def turnStatus (settings : Settings Number) (w : World Number) (input : TurnInput Number) :
    Option Status :=
  match (runTurn settings input w).2 with
  | .ok data => some data.status
  | .error _ => none

/-- A turn taken from `w` calls its tool. -/
def RunsTool (settings : Settings Number) (w : World Number) (input : TurnInput Number) : Prop :=
  (runTurn settings input w).1.calls ≠ w.calls

instance (settings : Settings Number) (w : World Number) (input : TurnInput Number) :
    Decidable (RunsTool settings w input) :=
  inferInstanceAs (Decidable (_ ≠ _))

/-- The events a turn writes before its checkpoint. -/
def preamble (settings : Settings Number) (input : TurnInput Number) : List (EventData Number) :=
  let promptRef := settings.sha256Hex input.prompt
  [.turnStart promptRef,
    .llm settings.model settings.syntheticInputTokens settings.syntheticOutputTokens] ++
  match input.childAgentId with
  | none => []
  | some childAgentId =>
      [.agentSpawn childAgentId, .turnStart promptRef, .turnEnd { status := .completed }]

/-- The turn polls: it has a tool step and nothing before it ends the turn. -/
def reachesCheckpoint (settings : Settings Number) (input : TurnInput Number) : Bool :=
  input.tool.isSome && input.childAgentId.all safeIdentifier &&
    (preamble settings input).all fun data => !settings.secretLike data

end Apex.Runtime
