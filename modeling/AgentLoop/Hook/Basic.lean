import AgentLoop.Effect.Act
import AgentLoop.State.Basic

/-!
# Hooks

- `HookTrigger`: the points of a run at which hooks fire;
- `PendingToolCall`: a call that waits for its execution; the first reason that blocks it stays;
- `HookContext`: what a hook receives and returns;
- `Hook`: an interceptor. At the triggers of tools only edits of the call or the record count, at the other ones only
  edits of the state.
-/

namespace AgentLoop

/-- The points at which hooks fire. -/
inductive HookTrigger where
  /-- Once, before the first step. -/
  | beforeExecution
  /-- Before every step. -/
  | beforeStep
  /-- Before each tool call is looked up. -/
  | beforeToolUse
  /-- After the tool calls of a step, for each of them. -/
  | afterToolUse
  /-- After every step that did not fail. -/
  | afterStep
  /-- Once, after the loop. -/
  | afterExecution
  /-- After a runtime failure was recorded. -/
  | onError
  deriving DecidableEq, Repr

namespace HookTrigger

/-- Every trigger. -/
def all : List HookTrigger :=
  [beforeExecution, beforeStep, beforeToolUse, afterToolUse, afterStep, afterExecution, onError]

/-- The name of a trigger. -/
def name : HookTrigger → String
  | beforeExecution => "before_execution"
  | beforeStep => "before_step"
  | beforeToolUse => "before_tool_use"
  | afterToolUse => "after_tool_use"
  | afterStep => "after_step"
  | afterExecution => "after_execution"
  | onError => "on_error"

/-- A trigger in JSON. -/
def toJson (t : HookTrigger) : Json := .str t.name

/-- A trigger in JSON. -/
def decoder : Decoder HookTrigger := .choice "HookTrigger" (all.map fun t => .unit t.name t)

/-- A trigger as diagnostics name it. -/
def diagnostic : HookTrigger → String
  | beforeExecution => "BeforeExecution"
  | beforeStep => "BeforeStep"
  | beforeToolUse => "BeforeToolUse"
  | afterToolUse => "AfterToolUse"
  | afterStep => "AfterStep"
  | afterExecution => "AfterExecution"
  | onError => "OnError"

end HookTrigger

/-- The trigger at the end of a phase. -/
def Phase.trigger : Phase → Option HookTrigger
  | beforeExecution => some .beforeExecution
  | beforeStep => some .beforeStep
  | afterStep => some .afterStep
  | afterExecution => some .afterExecution
  | onError => some .onError
  | shouldContinue | executeStep => none

/-- A tool call that waits for its execution. -/
structure PendingToolCall where
  call : ToolCall
  /-- Why a hook vetoed the call. -/
  blocked : Option String := none

namespace PendingToolCall

/-- Vetoes a call, unless it was vetoed before. -/
def block (p : PendingToolCall) (reason : String) : PendingToolCall :=
  { p with blocked := some (p.blocked.getD reason) }

/-- Did a hook veto the call? -/
def isBlocked (p : PendingToolCall) : Bool := p.blocked.isSome

/-- A call that waits, in JSON. -/
def toJson (p : PendingToolCall) : Json :=
  .obj [("blocked", .ofOption .str p.blocked), ("call", p.call.toJson), ("is_blocked", .bool p.isBlocked)]

end PendingToolCall

/-- What a hook receives and returns. -/
structure HookContext where
  /-- What the hook fires on. -/
  trigger : HookTrigger
  state : ExecutionState
  /-- The call that waits, before a tool is used. -/
  toolCall : Option PendingToolCall := none
  /-- The record of a call, after a tool was used. -/
  toolExecution : Option ToolExecution := none
  /-- What went wrong, after a failure. -/
  failure : Option StepFailure := none

namespace HookContext

/-- The context before a tool is used. -/
def forToolCall (state : ExecutionState) (call : ToolCall) : HookContext :=
  { trigger := .beforeToolUse, state, toolCall := some { call } }

/-- The context after a tool was used. -/
def forToolExecution (state : ExecutionState) (execution : ToolExecution) : HookContext :=
  { trigger := .afterToolUse, state, toolExecution := some execution }

/-- The context after a failure. -/
def forFailure (state : ExecutionState) (failure : StepFailure) : HookContext :=
  { trigger := .onError, state, failure := some failure }

/-- Vetoes the call that waits, if there is one. -/
def block (ctx : HookContext) (reason : String) : HookContext :=
  { ctx with toolCall := ctx.toolCall.map fun p => p.block reason }

/-- The context with another state. -/
def withState (ctx : HookContext) (state : ExecutionState) : HookContext := { ctx with state }

/-- A context in JSON. -/
def toJson (ctx : HookContext) : Json :=
  .obj [("failure", .ofOption StepFailure.toJson ctx.failure), ("state", ctx.state.toRecord),
    ("tool_call", .ofOption PendingToolCall.toJson ctx.toolCall),
    ("tool_execution", .ofOption ToolExecution.toJson ctx.toolExecution), ("trigger", ctx.trigger.toJson)]

end HookContext

/-- An interceptor. -/
structure Hook (σ : Type) where
  name : String
  /-- What it fires on. -/
  triggers : List HookTrigger
  handle : HookContext → Act σ HookContext

namespace Hook

/-- A hook that only looks at its context. -/
def ofFunction {σ : Type} (name : String) (triggers : List HookTrigger) (f : HookContext → HookContext) : Hook σ :=
  ⟨name, triggers, fun ctx => pure (f ctx)⟩

end Hook

end AgentLoop
