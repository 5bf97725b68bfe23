import AgentLoop.Chat.Message
import AgentLoop.Time.Rfc3339

/-!
# Tool executions

- `ToolOutcome`: the value a tool returned, or why it failed;
- `ToolExecution`: the record of one requested call, also of one that was blocked or named no tool;
- `ToolExecution.toToolResult`: what the model gets back.
-/

namespace AgentLoop

/-- What came of a tool invocation. -/
inductive ToolOutcome where
  | success (value : Json)
  | failure (error : String)

namespace ToolOutcome

/-- Did the tool return a value? -/
def isSuccess : ToolOutcome → Bool
  | success _ => true
  | failure _ => false

/-- Why the tool failed. -/
def error? : ToolOutcome → Option String
  | success _ => none
  | failure e => some e

/-- An outcome in JSON. -/
def toJson : ToolOutcome → Json
  | success v => .obj [("status", .str "success"), ("value", v)]
  | failure e => .obj [("error", .str e), ("status", .str "failure")]

/-- An outcome in JSON. -/
def decoder : Decoder ToolOutcome :=
  .tagged "ToolOutcome" "status"
    [.record "success" "Success" (success <$> .required "value" .json),
      .record "failure" "Failure" (failure <$> .required "error" .string)]

instance : BEq ToolOutcome where
  beq
    | success a, success b => a == b
    | failure a, failure b => a == b
    | _, _ => false

end ToolOutcome

/-- The record of one requested call. -/
structure ToolExecution where
  /-- The call as executed, after any edit by hooks. -/
  toolCall : ToolCall
  result : ToolOutcome
  startedAt : Instant
  completedAt : Instant

namespace ToolExecution

/-- The record of a call that returned a value. -/
def success (call : ToolCall) (value : Json) (startedAt completedAt : Instant) : ToolExecution :=
  ⟨call, .success value, startedAt, completedAt⟩

/-- The record of a call that failed. -/
def failure (call : ToolCall) (error : String) (startedAt completedAt : Instant) : ToolExecution :=
  ⟨call, .failure error, startedAt, completedAt⟩

/-- The record of a call for which nothing was invoked. -/
def rejected (call : ToolCall) (error : String) (now : Instant) : ToolExecution := failure call error now now

/-- The nanoseconds spent in the tool. -/
def duration (e : ToolExecution) : Int := e.completedAt.since e.startedAt

/-- The whole milliseconds spent in the tool. -/
def durationMs (e : ToolExecution) : Int := e.duration.tdiv 1000000

/-- Did the tool return a value? -/
def isSuccess (e : ToolExecution) : Bool := e.result.isSuccess

/-- Why the call failed. -/
def error? (e : ToolExecution) : Option String := e.result.error?

/-- The result as fed back to the model: texts as they are, other values as compact JSON. -/
def toToolResult (e : ToolExecution) : ToolResult :=
  match e.result with
  | .success v => ⟨e.toolCall.id, v.plainText, false⟩
  | .failure error => ⟨e.toolCall.id, error, true⟩

/-- A record in JSON. -/
def toJson (e : ToolExecution) : Json :=
  .obj [("completed_at", e.completedAt.toJson), ("result", e.result.toJson), ("started_at", e.startedAt.toJson),
    ("tool_call", e.toolCall.toJson)]

/-- A record in JSON. -/
def decoder : Decoder ToolExecution :=
  .record "ToolExecution"
    (ToolExecution.mk <$> .required "tool_call" ToolCall.decoder <*> .required "result" ToolOutcome.decoder <*>
      .required "started_at" Instant.decoder <*> .required "completed_at" Instant.decoder)

instance : BEq ToolExecution where
  beq a b :=
    a.toolCall == b.toolCall && a.result == b.result && a.startedAt == b.startedAt && a.completedAt == b.completedAt

end ToolExecution

end AgentLoop
