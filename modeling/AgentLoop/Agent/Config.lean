import AgentLoop.Backend.Request
import AgentLoop.Pipeline.Criterion
import AgentLoop.Pipeline.Policy

/-!
# Agent configuration

- `InferenceMode`: complete responses, or streamed ones;
- `AgentConfig`: the settings of an agent, with their defaults;
- `AgentConfig.criteria`: the continuation criteria that the settings imply.
-/

namespace AgentLoop

/-- How a driver waits for the backend. -/
inductive InferenceMode where
  /-- One request, one complete response. -/
  | blocking
  /-- Pieces of the response until the stream ends. -/
  | streaming
  deriving DecidableEq, Repr, Inhabited

namespace InferenceMode

/-- The name of a mode. -/
def name : InferenceMode → String
  | blocking => "blocking"
  | streaming => "streaming"

/-- A mode in JSON. -/
def toJson (m : InferenceMode) : Json := .str m.name

/-- A mode in JSON. -/
def decoder : Decoder InferenceMode := .choice "InferenceMode" ([blocking, streaming].map fun m => .unit m.name m)

/-- A mode as diagnostics name it. -/
def diagnostic : InferenceMode → String
  | blocking => "Blocking"
  | streaming => "Streaming"

end InferenceMode

/-- The settings of an agent. -/
structure AgentConfig where
  /-- Steps allowed in a run. -/
  maxSteps : UInt32 := 20
  /-- Tokens allowed in a run. -/
  tokenBudget : Option UInt64 := none
  /-- Milliseconds allowed for a run, looked at between steps. -/
  timeoutMs : Option UInt64 := none
  /-- Run the tools of a step interleaved. -/
  parallelToolExecution : Bool := false
  toolChoice : ToolChoice := .auto
  inferenceMode : InferenceMode := .blocking
  /-- Move tool traces into the conversation on a final answer. -/
  keepToolTraces : Bool := false
  /-- The most tokens of a response. -/
  maxTokens : Option UInt32 := none
  temperature : Option Float32 := none
  systemPrompt : Option String := none
  /-- What runtime failures do to the run. -/
  errorPolicy : ErrorPolicy := {}

namespace AgentConfig

/-- The criteria that the settings imply. -/
def criteria (c : AgentConfig) : List Criterion :=
  [.toolCallPresence, .stepsLimit c.maxSteps] ++ (c.tokenBudget.map Criterion.tokenUsageLimit).toList ++
    (c.timeoutMs.map Criterion.executionTimeLimit).toList

/-- Settings in JSON. -/
def toJson (c : AgentConfig) : Json :=
  .obj [("error_policy", c.errorPolicy.toJson), ("inference_mode", c.inferenceMode.toJson),
    ("keep_tool_traces", .bool c.keepToolTraces), ("max_steps", .ofU32 c.maxSteps),
    ("max_tokens", .ofOption .ofU32 c.maxTokens), ("parallel_tool_execution", .bool c.parallelToolExecution),
    ("system_prompt", .ofOption .str c.systemPrompt), ("temperature", .ofOption .ofF32 c.temperature),
    ("timeout_ms", .ofOption .ofU64 c.timeoutMs), ("token_budget", .ofOption .ofU64 c.tokenBudget),
    ("tool_choice", c.toolChoice.toJson)]

/-- Settings in JSON; what is not there has its default. -/
def decoder : Decoder AgentConfig :=
  .record "AgentConfig"
    (AgentConfig.mk <$> .withDefault "max_steps" .u32 20 <*> .withDefault "token_budget" (.option .u64) none <*>
      .withDefault "timeout_ms" (.option .u64) none <*> .withDefault "parallel_tool_execution" .bool false <*>
      .withDefault "tool_choice" ToolChoice.decoder .auto <*>
      .withDefault "inference_mode" InferenceMode.decoder .blocking <*>
      .withDefault "keep_tool_traces" .bool false <*> .withDefault "max_tokens" (.option .u32) none <*>
      .withDefault "temperature" (.option .f32) none <*> .withDefault "system_prompt" (.option .string) none <*>
      .withDefault "error_policy" ErrorPolicy.decoder {})

/-- Reads settings from a JSON document. -/
def read (text : String) : Except Fault AgentConfig := decoder.read text

end AgentConfig

end AgentLoop
