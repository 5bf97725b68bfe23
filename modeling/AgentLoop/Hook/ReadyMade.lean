import AgentLoop.Hook.Basic

/-!
# Ready-made hooks

- `Hook.systemPrompt`: puts a system message in front of the conversation;
- `Hook.stepCounter`: counts steps in an annotation, up to the largest count;
- `Hook.toolFailureLimit`: fails the run after too many failed tool executions;
- `Hook.observer`: fires on everything and changes nothing.
-/

namespace AgentLoop

namespace ExecutionState

/-- Does the conversation begin with a system message? -/
def hasSystemPrompt (s : ExecutionState) : Bool := s.messages.head?.any fun m => m.role == .system

/-- How many tool executions of the run did not succeed. -/
def failedToolCount (s : ExecutionState) : Nat := s.runSteps.foldr (fun step n => step.failedToolCount + n) 0

/-- The annotation under a name as a count; zero if it is none. -/
def counter (s : ExecutionState) (key : String) : UInt64 := ((s.metadata.get? key).bind Json.count?).getD 0

end ExecutionState

namespace Hook

variable {σ : Type}

/-- Puts a system message in front, unless the conversation begins with one. -/
def systemPrompt (prompt : String) : Hook σ :=
  .ofFunction "system_prompt" [.beforeExecution] fun ctx =>
    if ctx.state.hasSystemPrompt then ctx else ctx.withState (ctx.state.withMessagePrepended (.system prompt))

/-- The annotation that counts steps unless another one is named. -/
def stepCounterKey : String := "iterations"

/-- Counts the steps in an annotation; panics after the largest count. -/
def stepCounter (key : String) : Hook σ where
  name := "step_counter"
  triggers := [.beforeStep]
  handle ctx := do
    let count ← Act.add (ctx.state.counter key) 1
    return ctx.withState (ctx.state.withMetadata key (.ofU64 count))

/-- Fails the run once so many of its tool executions have failed. -/
def toolFailureLimit (max : Nat) : Hook σ :=
  .ofFunction "tool_failure_limit" [.afterStep] fun ctx =>
    let failures := ctx.state.failedToolCount
    if failures < max then ctx
    else
      let message := toString failures ++ " tool executions failed (limit " ++ toString max ++ ")"
      ctx.withState (ctx.state.failed (.error .tool message))

/-- Looks at every trigger. -/
def observer : Hook σ := .ofFunction "tracing" HookTrigger.all id

end Hook

end AgentLoop
