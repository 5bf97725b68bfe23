import AgentLoop.Chat.Message
import AgentLoop.Usage

/-!
# Backend responses

- `StopReason`: why a backend stopped generating;
- `ChatResponse`: a complete response, with its text and its tool calls.
-/

namespace AgentLoop

/-- Why the backend stopped generating. -/
inductive StopReason where
  | endTurn
  | toolUse
  | maxTokens
  | stopSequence
  /-- A reason of the backend's own. -/
  | other (reason : String)
  deriving DecidableEq, Repr, Inhabited

namespace StopReason

/-- A reason in JSON. -/
def toJson : StopReason → Json
  | endTurn => .str "end_turn"
  | toolUse => .str "tool_use"
  | maxTokens => .str "max_tokens"
  | stopSequence => .str "stop_sequence"
  | other s => .obj [("other", .str s)]

/-- A reason in JSON. -/
def decoder : Decoder StopReason :=
  .choice "StopReason"
    [.unit "end_turn" endTurn, .unit "tool_use" toolUse, .unit "max_tokens" maxTokens,
      .unit "stop_sequence" stopSequence, .payload "other" (other <$> .string)]

/-- A reason as diagnostics name it. -/
def diagnostic : StopReason → String
  | endTurn => "EndTurn"
  | toolUse => "ToolUse"
  | maxTokens => "MaxTokens"
  | stopSequence => "StopSequence"
  | other s => "Other(" ++ quoted s ++ ")"

end StopReason

/-- A complete response of a backend. -/
structure ChatResponse where
  /-- Text and tool calls in the order in which they were generated. -/
  content : List ContentBlock
  usage : Usage
  stopReason : StopReason
  /-- The model that served the request. -/
  model : String
  metadata : Metadata := .empty

namespace ChatResponse

/-- A response without content. -/
def empty : ChatResponse := { content := [], usage := .zero, stopReason := .endTurn, model := "" }

/-- The text blocks, joined; `none` if there are none. -/
def text? (r : ChatResponse) : Option String := joinedText r.content

/-- The tool calls of the response. -/
def toolCalls (r : ChatResponse) : List ToolCall := announcedCalls r.content

/-- Did the model ask for a tool? -/
def hasToolCalls (r : ChatResponse) : Bool := r.content.any fun b => b.toolCall?.isSome

/-- The blocks that are no tool calls. -/
def otherBlocks (r : ChatResponse) : List ContentBlock := r.content.filter fun b => b.toolCall?.isNone

/-- A response in JSON. -/
def toJson (r : ChatResponse) : Json :=
  .obj [("content", .ofList ContentBlock.toJson r.content), ("metadata", r.metadata.toJson), ("model", .str r.model),
    ("stop_reason", r.stopReason.toJson), ("usage", r.usage.toJson)]

/-- A response in JSON. -/
def decoder : Decoder ChatResponse :=
  .record "ChatResponse"
    (ChatResponse.mk <$> .required "content" (.list ContentBlock.decoder) <*> .required "usage" Usage.decoder <*>
      .required "stop_reason" StopReason.decoder <*> .required "model" .string <*>
      .withDefault "metadata" .metadata .empty)

end ChatResponse

end AgentLoop
