import AgentLoop.Pipeline.Basic
import AgentLoop.Scripted.Bench
import AgentLoop.Scripted.Edits

/-!
# Scripted hooks and handlers

- `Scene`: where a hook or a handler is called; `Condition`: when an action happens there;
- `Action`: what scripted hooks and handlers do;
- `ScriptedAction.hook`, `ScriptedAction.handler`: the hook or the handler of a list of actions.
-/

namespace AgentLoop

/-- Where a hook or a handler is called. -/
structure Scene where
  /-- The name of the hook or handler. -/
  name : String
  /-- The trigger or the phase. -/
  place : String
  /-- The tool of the call that waits, or of the record of a call. -/
  tool : Option String := none

namespace Scene

/-- What the log says of a scene. -/
def entry (s : Scene) : String :=
  s.name ++ "@" ++ s.place ++ (match s.tool with
    | some tool => ":" ++ tool
    | none => "")

/-- The scene of a hook. -/
def ofContext (name : String) (ctx : HookContext) : Scene where
  name := name
  place := ctx.trigger.name
  tool := (ctx.toolCall.map (·.call.name)).or (ctx.toolExecution.map (·.toolCall.name))

end Scene

/-- When an action happens: everything that is given has to hold. -/
structure Condition where
  /-- The number of the step. -/
  step : Option Nat := none
  tool : Option String := none
  /-- The trigger or the phase. -/
  place : Option String := none
  /-- An annotation that has to be there. -/
  has : Option String := none
  /-- An annotation that must not be there. -/
  lacks : Option String := none

/-- Does a condition hold? -/
def Condition.holds (c : Condition) (scene : Scene) (s : ExecutionState) : Bool :=
  (c.step.all fun n => s.stats.stepCounter.toNat == n) && (c.tool.all fun t => scene.tool == some t) &&
    (c.place.all fun p => scene.place == p) && (c.has.all fun k => s.metadata.contains k) &&
    c.lacks.all fun k => !s.metadata.contains k

/-- What a scripted hook or handler does. -/
inductive Action where
  /-- Logs the scene. -/
  | log
  /-- Notes whether one annotation is there, in another one. -/
  | copyFlag (source target : String)
  /-- Notes how large the parts of the state are. -/
  | noteCounts (key : String)
  /-- Cancels every run. -/
  | cancelAll
  /-- Cancels the active run of the agent. -/
  | cancelCurrent
  /-- Tries to start another run of the agent, and logs what comes of it. -/
  | reenter
  | edit (e : StateEdit)
  /-- Vetoes the call that waits. -/
  | block (reason : String)
  | dropCall
  | dropExecution
  | setArguments (value : Json)
  | setArgument (key : String) (value : Json)
  | rename (name : String)
  | setResult (result : ToolOutcome)
  /-- Notes what went wrong. -/
  | noteFailure (key : String)
  | setTrigger (t : HookTrigger)
  | nothing

/-- How large the parts of a state are. -/
def ExecutionState.counts (s : ExecutionState) : Json :=
  .obj [("buffer", .ofNat s.buffer.messages.length), ("messages", .ofNat s.messages.length),
    ("run_steps", .ofNat s.runSteps.length), ("status", s.status.toJson), ("step_counter", .ofU32 s.stats.stepCounter),
    ("steps", .ofNat s.steps.length)]

/-- A call with one argument set, if its arguments are an object. -/
def ToolCall.withArgument (c : ToolCall) (key : String) (value : Json) : ToolCall :=
  match c.arguments with
  | .obj entries => { c with arguments := .obj (Entries.put key value entries) }
  | _ => c

namespace Action

/-- What an action does to a state. -/
def onState (scene : Scene) (s : ExecutionState) : Action → Act Bench ExecutionState
  | log => do
    Bench.write scene.entry
    return s
  | copyFlag source target => return s.withMetadata target (.bool (s.metadata.contains source))
  | noteCounts key => return s.withMetadata key s.counts
  | cancelAll => do
    Act.cancel .all
    return s
  | cancelCurrent => do
    let slot ← Act.slot
    if slot.active then Act.cancel slot.token
    return s
  | reenter => do
    Bench.write (if (← Act.slot).active then AgentError.reentrantRun.message else "no error")
    return s
  | edit e => return s.edit e
  | _ => return s

/-- The context with another call that waits, if there is one. -/
def onCall (ctx : HookContext) (f : ToolCall → ToolCall) : HookContext :=
  { ctx with toolCall := ctx.toolCall.map fun p => { p with call := f p.call } }

/-- What an action does to the context of a hook. -/
def onContext (name : String) (ctx : HookContext) : Action → Act Bench HookContext
  | block reason => return ctx.block reason
  | dropCall => return { ctx with toolCall := none }
  | dropExecution => return { ctx with toolExecution := none }
  | setArguments value => return onCall ctx fun c => { c with arguments := value }
  | setArgument key value => return onCall ctx fun c => c.withArgument key value
  | rename name => return onCall ctx fun c => { c with name }
  | setResult result => return { ctx with toolExecution := ctx.toolExecution.map fun e => { e with result } }
  | noteFailure key => return ctx.withState (ctx.state.withMetadata key (.ofOption StepFailure.toJson ctx.failure))
  | setTrigger t => return { ctx with trigger := t }
  | a => return ctx.withState (← a.onState (.ofContext name ctx) ctx.state)

end Action

/-- An action and when it happens. -/
structure ScriptedAction where
  condition : Condition := {}
  action : Action

namespace ScriptedAction

/-- The hook that performs actions in order. -/
def hook (name : String) (triggers : List HookTrigger) (actions : List ScriptedAction) : Hook Bench where
  name := name
  triggers := triggers
  handle ctx := actions.foldlM
    (fun ctx a =>
      if a.condition.holds (.ofContext name ctx) ctx.state then a.action.onContext name ctx else pure ctx) ctx

/-- The handler that performs actions in order and then may fail. -/
def handler (name : String) (actions : List ScriptedAction) (failure : Option (Condition × AgentError)) :
    PhaseHandler Bench where
  name := name
  handle phase s := do
    let scene : Scene := { name, place := phase.name }
    let s ← actions.foldlM
      (fun s a => if a.condition.holds scene s then a.action.onState scene s else pure s) s
    match failure with
    | some (condition, e) => if condition.holds scene s then return .error e else return .ok s
    | none => return .ok s

end ScriptedAction

/-! ## Criteria -/

namespace Criterion

/-- Stops when an annotation is there. -/
def metadataKey (name key : String) : Criterion where
  name := name
  evaluate ctx := (ctx.state.metadata.get? key).map Json.render

/-- Stops once all recorded steps together have so many tool executions. -/
def maxToolCalls (name : String) (max : Nat) : Criterion where
  name := name
  evaluate ctx :=
    let calls := (ctx.state.steps.flatMap (·.toolExecutions)).length
    if max ≤ calls then some (toString calls ++ " calls") else none

end Criterion

end AgentLoop
