import AgentLoop.State.Basic

/-!
# Lifecycle events

- `StepEvent`: what a driver and the tool executor report within a step;
- `RunEvent`: what the pipeline reports about a run;
- `AgentEvent`: both; `AgentEvent.deliver` hands an event to listeners in the order of their subscription.
-/

namespace AgentLoop

/-- What happens within a step. -/
inductive StepEvent where
  /-- A request is about to be sent. -/
  | inferenceRequested (messageCount toolCount : Nat)
  /-- A piece of streamed text arrived. -/
  | partialResponse (text : String)
  /-- The backend answered. -/
  | inferenceCompleted (model : String) (usage : Usage) (stopReason : StopReason) (toolCalls : Nat)
  /-- A tool is about to be invoked. -/
  | toolCallStarted (callId tool : String)
  /-- A hook blocked a call. -/
  | toolCallBlocked (callId tool reason : String)
  /-- A tool finished. -/
  | toolCallCompleted (callId tool : String) (success : Bool) (durationMs : Int)
  /-- A decision of the model or a set of arguments was rejected. -/
  | validationFailed (message : String)
  deriving DecidableEq, Repr

/-- What happens in a run. -/
inductive RunEvent where
  /-- The phase before the loop is over. -/
  | executionStarted (messageCount : Nat)
  /-- A step is about to begin. -/
  | stepStarted (step : UInt32)
  /-- A step was recorded. -/
  | stepCompleted (step : UInt32) (stepType : StepType)
  /-- A runtime failure was recorded. -/
  | errorOccurred (kind : ErrorKind) (message : String)
  /-- The run is over. -/
  | executionFinished (status : ExecutionStatus) (steps : Nat) (termination : Option TerminationReason)
  deriving DecidableEq, Repr

/-- A lifecycle event. -/
inductive AgentEvent where
  | step (e : StepEvent)
  | run (e : RunEvent)
  deriving DecidableEq, Repr

namespace StepEvent

/-- An event in JSON. -/
def toJson : StepEvent → Json
  | inferenceRequested messages tools =>
    .obj [("event", .str "inference_requested"), ("message_count", .ofNat messages), ("tool_count", .ofNat tools)]
  | partialResponse text => .obj [("event", .str "partial_response"), ("text", .str text)]
  | inferenceCompleted model usage reason calls =>
    .obj [("event", .str "inference_completed"), ("model", .str model), ("stop_reason", reason.toJson),
      ("tool_calls", .ofNat calls), ("usage", usage.toJson)]
  | toolCallStarted id tool => .obj [("call_id", .str id), ("event", .str "tool_call_started"), ("tool", .str tool)]
  | toolCallBlocked id tool reason =>
    .obj [("call_id", .str id), ("event", .str "tool_call_blocked"), ("reason", .str reason), ("tool", .str tool)]
  | toolCallCompleted id tool success ms =>
    .obj [("call_id", .str id), ("duration_ms", .ofInt ms), ("event", .str "tool_call_completed"),
      ("success", .bool success), ("tool", .str tool)]
  | validationFailed message => .obj [("event", .str "validation_failed"), ("message", .str message)]

end StepEvent

namespace RunEvent

/-- An event in JSON. -/
def toJson : RunEvent → Json
  | executionStarted messages => .obj [("event", .str "execution_started"), ("message_count", .ofNat messages)]
  | stepStarted step => .obj [("event", .str "step_started"), ("step", .ofU32 step)]
  | stepCompleted step type =>
    .obj [("event", .str "step_completed"), ("step", .ofU32 step), ("step_type", type.toJson)]
  | errorOccurred kind message =>
    .obj [("event", .str "error_occurred"), ("kind", kind.toJson), ("message", .str message)]
  | executionFinished status steps termination =>
    .obj [("event", .str "execution_finished"), ("status", status.toJson), ("steps", .ofNat steps),
      ("termination", .ofOption TerminationReason.toJson termination)]

end RunEvent

namespace AgentEvent

/-- An event in JSON. -/
def toJson : AgentEvent → Json
  | step e => e.toJson
  | run e => e.toJson

/-- What listeners do with an event, in the order of their subscription. -/
def deliver {α : Type} (listeners : List (AgentEvent → α)) (e : AgentEvent) : List α := listeners.map fun l => l e

end AgentEvent

end AgentLoop
