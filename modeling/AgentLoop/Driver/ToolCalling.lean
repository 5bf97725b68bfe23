import AgentLoop.Driver.Basic
import AgentLoop.Driver.Echo
import AgentLoop.Driver.Inference

/-!
# The tool-calling driver

- `ToolCalling`: a driver that relies on the tool calls of the backend's responses. A response without calls is a final
  answer; otherwise the calls are executed, and the outputs are, for each record, an announcement and a result.
-/

namespace AgentLoop

/-- A driver that relies on the backend's own tool calls. -/
structure ToolCalling (σ : Type) where
  inference : Inference σ
  /-- Sent in front of the conversation on every request. -/
  cachedContext : List ChatMessage := []
  systemPrompt : Option String := none
  toolChoice : ToolChoice := .auto
  temperature : Option Float32 := none
  maxTokens : Option UInt32 := none

namespace ToolCalling

variable {σ : Type}

/-- The request for the next step. -/
def request (d : ToolCalling σ) (state : ExecutionState) (tools : ToolRegistry σ) : ChatParams where
  messages := d.cachedContext ++ state.inferenceMessages
  tools := if tools.isEmpty then none else some tools.definitions
  toolChoice := if tools.isEmpty then none else some d.toolChoice
  system := d.systemPrompt
  temperature := d.temperature
  maxTokens := d.maxTokens

/-- What a final answer adds to the conversation: nothing if it is empty or echoes an announced call. -/
def answer (text : String) (announced : List ToolCall) : List ChatMessage :=
  if text = "" ∨ echoesArguments text announced then [] else [.assistant text]

/-- The text that goes along with calls, unless it is empty or echoes one of them. -/
def preamble (text : String) (calls : List ToolCall) : Option String :=
  if text = "" ∨ echoesArguments text calls then none else some text

/-- An announcement and a result for each record, the preamble in the first announcement. -/
def outputs : Option String → List ToolExecution → List ChatMessage
  | _, [] => []
  | preamble, e :: rest =>
    .toolAnnouncement preamble e.toolCall :: .toolResultFull e.toToolResult :: outputs none rest

/-- Produces one step. -/
def step (d : ToolCalling σ) (state : ExecutionState) (tools : ToolRegistry σ) (executor : Executor σ) :
    Program σ StepMark (Except AgentError Step) := do
  let startedAt ← Program.readClock
  let params := d.request state tools
  match ← d.inference.call params with
  | .error e => return .error (.inference e)
  | .ok response =>
    let info := InferenceInfo.ofResponse response
    let text := response.text?.getD ""
    let calls := response.toolCalls
    if calls.isEmpty then
      let completedAt ← Program.readClock
      let outputs := answer text state.buffer.toolCalls
      return .ok (.finalResponse params.messages outputs (some info) startedAt completedAt)
    else
      match ← executor.execute calls state tools with
      | .error e => return .error e
      | .ok executions =>
        let completedAt ← Program.readClock
        let outputs := outputs (preamble text calls) executions
        return .ok (.toolExecution params.messages outputs executions (some info) startedAt completedAt)

/-- The driver. -/
def driver (d : ToolCalling σ) : Driver σ := ⟨"tool_calling", d.step⟩

end ToolCalling

end AgentLoop
