import AgentLoop.State.Basic

/-!
# Summaries of states

- `ExecutionState.summary`: a state without the records of its steps, which are summed up by `Step.summary`;
- `ExecutionState.derived`: what follows from a state without being stored in it.
-/

namespace AgentLoop

/-- What a step was, what its tools returned, and how many messages went in and came out. -/
def Step.summary (s : Step) : Json :=
  .obj [("failure", .ofOption StepFailure.toJson s.failure), ("in", .ofNat s.inputMessages.length),
    ("out", .ofNat s.outputMessages.length), ("thought", .ofOption .str s.thought),
    ("tools", .ofList (fun e => .arr [.str e.toolCall.name, e.result.toJson]) s.toolExecutions),
    ("type", s.stepType.toJson)]

namespace ExecutionState

variable (s : ExecutionState)

/-- A state without the records of its steps. -/
def summary : Json :=
  .obj [("buffer", .ofNat s.buffer.messages.length), ("current", .ofOption (fun t => t.stepType.toJson) s.currentStep),
    ("final_text", .ofOption .str s.finalText), ("messages", .ofList ChatMessage.toJson s.messages),
    ("metadata", s.metadata.toJson), ("run_usage", s.runUsage.toJson), ("stats", s.stats.toJson),
    ("status", s.status.toJson), ("steps", .ofList Step.summary s.steps),
    ("termination", .ofOption TerminationReason.toJson s.termination), ("total_usage", s.totalUsage.toJson)]

/-- What follows from a state; `now` only decides whether there is a time since the run began. -/
def derived (now : Instant) : Json :=
  .obj [("buffer_calls", .ofList ToolCall.toJson s.buffer.toolCalls),
    ("buffer_empty", .bool s.buffer.messages.isEmpty), ("buffer_len", .ofNat s.buffer.messages.length),
    ("buffer_roles", .ofList (fun m => m.role.toJson) s.buffer.messages), ("elapsed", .bool (s.elapsed now).isSome),
    ("final_text", .ofOption .str s.finalText), ("inference_messages", .ofNat s.inferenceMessages.length),
    ("is_terminal", .bool s.isTerminal), ("metadata_len", .ofNat s.metadata.size),
    ("run_steps", .ofList (fun t => t.stepType.toJson) s.runSteps), ("run_usage", s.runUsage.toJson),
    ("step_count", .ofNat s.steps.length), ("total_usage", s.totalUsage.toJson)]

end ExecutionState

end AgentLoop
