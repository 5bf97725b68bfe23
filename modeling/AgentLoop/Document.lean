import AgentLoop.Agent.Config
import AgentLoop.Backend.Stream
import AgentLoop.Hook.Basic

/-!
# Documents

- `Document.kinds`: the types that have a form in JSON, by name; each reads a value or a text and gives the form in
  which it is written;
- `Document.kind?`: finds one of them.
-/

namespace AgentLoop

namespace Document

/-- A type with the way it is read and the way it is written. -/
def kind {α : Type} (name : String) (d : Decoder α) (write : α → Json) : String × Decoder Json :=
  (name, write <$> d)

/-- The types by name. -/
def kinds : List (String × Decoder Json) :=
  [kind "AgentConfig" AgentConfig.decoder AgentConfig.toJson,
    kind "Capability" Capability.decoder Capability.toJson,
    kind "ChatMessage" ChatMessage.decoder ChatMessage.toJson,
    kind "ChatParams" ChatParams.decoder ChatParams.toJson,
    kind "ChatResponse" ChatResponse.decoder ChatResponse.toJson,
    kind "ChatRole" ChatRole.decoder ChatRole.toJson,
    kind "ContentBlock" ContentBlock.decoder ContentBlock.toJson,
    kind "ErrorDecision" ErrorDecision.decoder ErrorDecision.toJson,
    kind "ErrorKind" ErrorKind.decoder ErrorKind.toJson,
    kind "ErrorPolicy" ErrorPolicy.decoder ErrorPolicy.toJson,
    kind "ExecutionBuffer" ExecutionBuffer.decoder ExecutionBuffer.toJson,
    kind "ExecutionState" ExecutionState.decoder ExecutionState.toRecord,
    kind "ExecutionStatus" ExecutionStatus.decoder ExecutionStatus.toJson,
    kind "HookTrigger" HookTrigger.decoder HookTrigger.toJson,
    kind "InferenceInfo" InferenceInfo.decoder InferenceInfo.toJson,
    kind "InferenceMode" InferenceMode.decoder InferenceMode.toJson,
    kind "JsonSchema" .json id,
    kind "Phase" Phase.decoder Phase.toJson,
    kind "ProviderMetadata" BackendInfo.decoder BackendInfo.toJson,
    kind "RunStats" RunStats.decoder RunStats.toJson,
    kind "Step" Step.decoder Step.toRecord,
    kind "StepFailure" StepFailure.decoder StepFailure.toJson,
    kind "StepType" StepType.decoder StepType.toJson,
    kind "StopReason" StopReason.decoder StopReason.toJson,
    kind "StreamEvent" StreamEvent.decoder StreamEvent.toJson,
    kind "TerminationReason" TerminationReason.decoder TerminationReason.toJson,
    kind "ToolCall" ToolCall.decoder ToolCall.toJson,
    kind "ToolChoice" ToolChoice.decoder ToolChoice.toJson,
    kind "ToolDefinition" ToolDefinition.decoder ToolDefinition.toJson,
    kind "ToolExecution" ToolExecution.decoder ToolExecution.toJson,
    kind "ToolOutcome" ToolOutcome.decoder ToolOutcome.toJson,
    kind "ToolResult" ToolResult.decoder ToolResult.toJson,
    kind "Usage" Usage.decoder Usage.toJson]

/-- The type of a name. -/
def kind? (name : String) : Option (Decoder Json) := kinds.lookup name

end Document

end AgentLoop
