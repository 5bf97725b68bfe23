import AgentLoop.Chat.Response
import AgentLoop.Error
import AgentLoop.State.ToolExecution

/-!
# Steps

- `Step`: the result of one pass through a driver: a final answer, executed tool calls, or a failure;
- `Step.toolExecution`, `Step.finalResponse`, `Step.failed`: the constructors;
- `Step.toRecord` and `Step.ofRecord`: steps as JSON.
-/

namespace AgentLoop

/-- What a step produced. -/
inductive StepType where
  /-- The model asked for tools. -/
  | toolExecution
  /-- The model answered. -/
  | finalResponse
  /-- The step failed. -/
  | error
  deriving DecidableEq, Repr

namespace StepType

/-- The name of a type. -/
def name : StepType → String
  | toolExecution => "tool_execution"
  | finalResponse => "final_response"
  | error => "error"

/-- A type in JSON. -/
def toJson (t : StepType) : Json := .str t.name

/-- A type in JSON. -/
def decoder : Decoder StepType :=
  .choice "StepType" ([toolExecution, finalResponse, error].map fun t => .unit t.name t)

end StepType

/-- What is kept of a response for accounting. -/
structure InferenceInfo where
  usage : Usage
  stopReason : StopReason
  model : String
  deriving DecidableEq, Repr

namespace InferenceInfo

/-- What is kept of a response. -/
def ofResponse (r : ChatResponse) : InferenceInfo := ⟨r.usage, r.stopReason, r.model⟩

/-- An accounting record in JSON. -/
def toJson (i : InferenceInfo) : Json :=
  .obj [("model", .str i.model), ("stop_reason", i.stopReason.toJson), ("usage", i.usage.toJson)]

/-- An accounting record in JSON. -/
def decoder : Decoder InferenceInfo :=
  .record "InferenceInfo"
    (InferenceInfo.mk <$> .required "usage" Usage.decoder <*> .required "stop_reason" StopReason.decoder <*>
      .required "model" .string)

end InferenceInfo

/-- Why a step failed. -/
structure StepFailure where
  kind : ErrorKind
  message : String
  deriving DecidableEq, Repr

namespace StepFailure

/-- A failure in JSON. -/
def toJson (f : StepFailure) : Json := .obj [("kind", f.kind.toJson), ("message", .str f.message)]

/-- A failure in JSON. -/
def decoder : Decoder StepFailure :=
  .record "StepFailure" (StepFailure.mk <$> .required "kind" ErrorKind.decoder <*> .required "message" .string)

end StepFailure

/-- The result of one pass through a driver. -/
structure Step where
  stepType : StepType
  /-- What was sent to the backend. -/
  inputMessages : List ChatMessage
  /-- What the step adds to the conversation. -/
  outputMessages : List ChatMessage
  /-- The tool invocations, in the order of the requests. -/
  toolExecutions : List ToolExecution
  /-- Absent if the backend did not answer. -/
  inference : Option InferenceInfo
  /-- The reasoning the model gave for its decision. -/
  thought : Option String
  /-- Why the step failed. -/
  failure : Option StepFailure
  startedAt : Instant
  completedAt : Instant

namespace Step

/-- A step whose tool calls were executed. -/
def toolExecution (inputs outputs : List ChatMessage) (executions : List ToolExecution)
    (inference : Option InferenceInfo) (startedAt completedAt : Instant) : Step :=
  ⟨.toolExecution, inputs, outputs, executions, inference, none, none, startedAt, completedAt⟩

/-- A final answer. -/
def finalResponse (inputs outputs : List ChatMessage) (inference : Option InferenceInfo)
    (startedAt completedAt : Instant) : Step :=
  ⟨.finalResponse, inputs, outputs, [], inference, none, none, startedAt, completedAt⟩

/-- A failed step. -/
def failed (kind : ErrorKind) (message : String) (inputs : List ChatMessage) (startedAt completedAt : Instant) : Step :=
  ⟨.error, inputs, [], [], none, none, some ⟨kind, message⟩, startedAt, completedAt⟩

/-- The step with other outputs. -/
def withOutputs (s : Step) (outputs : List ChatMessage) : Step := { s with outputMessages := outputs }

/-- The step with an accounting record. -/
def withInference (s : Step) (info : InferenceInfo) : Step := { s with inference := some info }

/-- The step with the model's reasoning. -/
def withThought (s : Step) (thought : String) : Step := { s with thought := some thought }

/-- Is it a final answer? -/
def isFinal (s : Step) : Bool := s.stepType == .finalResponse

/-- Did the step fail? -/
def isError (s : Step) : Bool := s.stepType == .error

/-- How many tool executions did not succeed. -/
def failedToolCount (s : Step) : Nat := s.toolExecutions.countP fun e => !e.isSuccess

/-- The calls that were executed. -/
def toolCalls (s : Step) : List ToolCall := s.toolExecutions.map (·.toolCall)

/-- The tokens of the step, none if the backend did not answer. -/
def usage (s : Step) : Usage :=
  match s.inference with
  | some i => i.usage
  | none => .zero

/-- A step in JSON. -/
def toRecord (s : Step) : Json :=
  .obj [("completed_at", s.completedAt.toJson), ("failure", .ofOption StepFailure.toJson s.failure),
    ("inference", .ofOption InferenceInfo.toJson s.inference),
    ("input_messages", .ofList ChatMessage.toJson s.inputMessages),
    ("output_messages", .ofList ChatMessage.toJson s.outputMessages), ("started_at", s.startedAt.toJson),
    ("step_type", s.stepType.toJson), ("thought", .ofOption .str s.thought),
    ("tool_executions", .ofList ToolExecution.toJson s.toolExecutions)]

/-- A step in JSON. -/
def decoder : Decoder Step :=
  .record "Step"
    (Step.mk <$> .required "step_type" StepType.decoder <*>
      .required "input_messages" (.list ChatMessage.decoder) <*>
      .required "output_messages" (.list ChatMessage.decoder) <*>
      .required "tool_executions" (.list ToolExecution.decoder) <*> .optional "inference" InferenceInfo.decoder <*>
      .optional "thought" .string <*> .optional "failure" StepFailure.decoder <*>
      .required "started_at" Instant.decoder <*> .required "completed_at" Instant.decoder)

/-- Reads a step from its record. -/
def ofRecord (v : Json) : Except Cause Step := decoder.ofJson v

instance : BEq Step where
  beq a b :=
    a.stepType == b.stepType && a.inputMessages == b.inputMessages && a.outputMessages == b.outputMessages &&
      a.toolExecutions == b.toolExecutions && a.inference == b.inference && a.thought == b.thought &&
      a.failure == b.failure && a.startedAt == b.startedAt && a.completedAt == b.completedAt

end Step

end AgentLoop
