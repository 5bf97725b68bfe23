import AgentLoop.Chat.Message

/-!
# Requests to a backend

- `ToolDefinition`: what a model is told about a tool;
- `ToolChoice`: whether and how a model may use tools;
- `ChatParams`: one request;
- `BackendInfo`: what a backend says about itself.
-/

namespace AgentLoop

/-- A tool a model may invoke. -/
structure ToolDefinition where
  /-- The name the model calls it by. -/
  name : String
  description : String
  /-- The schema of the arguments. -/
  parameters : Json
  deriving Inhabited

namespace ToolDefinition

/-- A definition in JSON. -/
def toJson (d : ToolDefinition) : Json :=
  .obj [("description", .str d.description), ("name", .str d.name), ("parameters", d.parameters)]

/-- A definition in JSON. -/
def decoder : Decoder ToolDefinition :=
  .record "ToolDefinition"
    (ToolDefinition.mk <$> .required "name" .string <*> .required "description" .string <*>
      .required "parameters" .json)

end ToolDefinition

/-- Whether and how a model uses tools. -/
inductive ToolChoice where
  /-- The model decides. -/
  | auto
  /-- No tool calls. -/
  | none
  /-- At least one tool call. -/
  | required
  /-- This tool. -/
  | specific (name : String)
  deriving DecidableEq, Repr, Inhabited

namespace ToolChoice

/-- A choice in JSON. -/
def toJson : ToolChoice → Json
  | auto => .str "auto"
  | none => .str "none"
  | required => .str "required"
  | specific s => .obj [("specific", .str s)]

/-- A choice in JSON. -/
def decoder : Decoder ToolChoice :=
  .choice "ToolChoice"
    [.unit "auto" auto, .unit "none" none, .unit "required" required, .payload "specific" (specific <$> .string)]

/-- A choice as diagnostics name it. -/
def diagnostic : ToolChoice → String
  | auto => "Auto"
  | none => "None"
  | required => "Required"
  | specific s => "Specific(" ++ quoted s ++ ")"

end ToolChoice

/-- One request. -/
structure ChatParams where
  /-- The conversation sent to the model. -/
  messages : List ChatMessage
  /-- The tools the model may call. -/
  tools : Option (List ToolDefinition) := none
  toolChoice : Option ToolChoice := none
  /-- A system prompt outside the conversation. -/
  system : Option String := none
  temperature : Option Float32 := none
  /-- The most tokens the response may have. -/
  maxTokens : Option UInt32 := none
  metadata : Metadata := .empty

namespace ChatParams

/-- A request with nothing in it. -/
def empty : ChatParams := { messages := [] }

/-- A request in JSON, with the tools given by `describe`. -/
def toJsonWith (describe : ToolDefinition → Json) (p : ChatParams) : Json :=
  .obj [("max_tokens", .ofOption .ofU32 p.maxTokens), ("messages", .ofList ChatMessage.toJson p.messages),
    ("metadata", p.metadata.toJson), ("system", .ofOption .str p.system),
    ("temperature", .ofOption .ofF32 p.temperature), ("tool_choice", .ofOption ToolChoice.toJson p.toolChoice),
    ("tools", .ofOption (.ofList describe) p.tools)]

/-- A request in JSON. -/
def toJson (p : ChatParams) : Json := p.toJsonWith ToolDefinition.toJson

/-- A request in JSON. -/
def decoder : Decoder ChatParams :=
  .record "ChatParams"
    (ChatParams.mk <$> .required "messages" (.list ChatMessage.decoder) <*>
      .optional "tools" (.list ToolDefinition.decoder) <*> .optional "tool_choice" ToolChoice.decoder <*>
      .optional "system" .string <*> .optional "temperature" .f32 <*> .optional "max_tokens" .u32 <*>
      .withDefault "metadata" .metadata .empty)

end ChatParams

/-- A feature a backend may have. -/
inductive Capability where
  /-- Native tool calling. -/
  | tools
  /-- Incremental streaming. -/
  | streaming
  /-- Output constrained to JSON. -/
  | structuredOutput
  deriving DecidableEq, Repr

namespace Capability

/-- The name of a feature. -/
def name : Capability → String
  | tools => "Tools"
  | streaming => "Streaming"
  | structuredOutput => "StructuredOutput"

/-- A feature in JSON. -/
def toJson (c : Capability) : Json := .str c.name

/-- A feature in JSON. -/
def decoder : Decoder Capability :=
  .choice "Capability" ([tools, streaming, structuredOutput].map fun c => .unit c.name c)

end Capability

/-- What a backend says about itself. -/
structure BackendInfo where
  name : String
  model : String
  /-- How many tokens the model can look at. -/
  contextWindow : UInt64
  capabilities : List Capability
  deriving DecidableEq, Repr

namespace BackendInfo

/-- The features by name, each once. -/
def capabilitySet (i : BackendInfo) : List Capability :=
  [Capability.streaming, .structuredOutput, .tools].filter i.capabilities.contains

/-- A description in JSON. -/
def toJson (i : BackendInfo) : Json :=
  .obj [("capabilities", .ofList Capability.toJson i.capabilitySet), ("context_window", .ofU64 i.contextWindow),
    ("model", .str i.model), ("name", .str i.name)]

/-- A description in JSON. -/
def decoder : Decoder BackendInfo :=
  .record "ProviderMetadata"
    (BackendInfo.mk <$> .required "name" .string <*> .required "model" .string <*> .required "context_window" .u64 <*>
      .required "capabilities" (.list Capability.decoder))

end BackendInfo

end AgentLoop
