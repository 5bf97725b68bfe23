import AgentLoop.Json.Decoder

/-!
# Conversation messages

- `ToolCall`, `ToolResult`: what a model asks for and what it gets back;
- `ContentBlock`, `ChatMessage`: a turn is a role and an ordered list of blocks;
- the constructors of messages, and the views `text?`, `toolCalls`, `isToolResult`.
-/

namespace AgentLoop

/-- Who authored a message. -/
inductive ChatRole where
  | system
  | user
  | assistant
  | tool
  deriving DecidableEq, Repr

/-- A tool invocation requested by the model. -/
structure ToolCall where
  /-- Links the call to its result. -/
  id : String
  name : String
  arguments : Json
  deriving Inhabited

/-- The outcome of a tool invocation, as fed back to the model. -/
structure ToolResult where
  /-- The call this result answers. -/
  toolCallId : String
  content : String
  isError : Bool
  deriving DecidableEq, Repr, Inhabited

/-- One piece of message content. -/
inductive ContentBlock where
  | text (s : String)
  | toolCall (call : ToolCall)
  | toolResult (result : ToolResult)

/-- A single conversation turn. -/
structure ChatMessage where
  role : ChatRole
  content : List ContentBlock
  /-- Annotations of the application. -/
  metadata : Metadata := .empty

/-! ## Roles, calls, results -/

namespace ChatRole

/-- The name of a role. -/
def name : ChatRole → String
  | system => "system"
  | user => "user"
  | assistant => "assistant"
  | tool => "tool"

/-- A role in JSON. -/
def toJson (r : ChatRole) : Json := .str r.name

/-- A role in JSON. -/
def decoder : Decoder ChatRole :=
  .choice "ChatRole" ([system, user, assistant, tool].map fun r => .unit r.name r)

end ChatRole

namespace ToolCall

/-- The arguments as compact JSON. -/
def argumentsText (c : ToolCall) : String := c.arguments.render

/-- A call in JSON. -/
def toJson (c : ToolCall) : Json := .obj [("arguments", c.arguments), ("id", .str c.id), ("name", .str c.name)]

/-- A call in JSON. -/
def decoder : Decoder ToolCall :=
  .record "ToolCall"
    (ToolCall.mk <$> .required "id" .string <*> .required "name" .string <*> .required "arguments" .json)

instance : BEq ToolCall := ⟨fun a b => a.id == b.id && a.name == b.name && a.arguments == b.arguments⟩

end ToolCall

namespace ToolResult

/-- A result in JSON. -/
def toJson (r : ToolResult) : Json :=
  .obj [("content", .str r.content), ("is_error", .bool r.isError), ("tool_call_id", .str r.toolCallId)]

/-- A result in JSON. -/
def decoder : Decoder ToolResult :=
  .record "ToolResult"
    (ToolResult.mk <$> .required "tool_call_id" .string <*> .required "content" .string <*> .required "is_error" .bool)

end ToolResult

/-! ## Blocks -/

namespace ContentBlock

/-- The text of a text block. -/
def text? : ContentBlock → Option String
  | text s => some s
  | _ => none

/-- The call that a block announces. -/
def toolCall? : ContentBlock → Option ToolCall
  | toolCall c => some c
  | _ => none

/-- Is the block the result of a tool? -/
def isToolResult : ContentBlock → Bool
  | toolResult _ => true
  | _ => false

/-- A block in JSON. -/
def toJson : ContentBlock → Json
  | text s => .obj [("text", .str s)]
  | toolCall c => .obj [("tool_call", c.toJson)]
  | toolResult r => .obj [("tool_result", r.toJson)]

/-- A block in JSON. -/
def decoder : Decoder ContentBlock :=
  .choice "ContentBlock"
    [.payload "text" (text <$> .string), .payload "tool_call" (toolCall <$> ToolCall.decoder),
      .payload "tool_result" (toolResult <$> ToolResult.decoder)]

instance : BEq ContentBlock where
  beq
    | text a, text b => a == b
    | toolCall a, toolCall b => a == b
    | toolResult a, toolResult b => a == b
    | _, _ => false

end ContentBlock

/-- The texts of blocks, joined; `none` if no block is text. -/
def joinedText (blocks : List ContentBlock) : Option String :=
  match blocks.filterMap ContentBlock.text? with
  | [] => none
  | texts => some (String.join texts)

/-- The calls that blocks announce. -/
def announcedCalls (blocks : List ContentBlock) : List ToolCall := blocks.filterMap ContentBlock.toolCall?

/-! ## Messages -/

namespace ChatMessage

/-- A message of one text block. -/
def ofText (role : ChatRole) (text : String) : ChatMessage := { role, content := [.text text] }

/-- A system message. -/
def system (text : String) : ChatMessage := ofText .system text

/-- A user message. -/
def user (text : String) : ChatMessage := ofText .user text

/-- An assistant message. -/
def assistant (text : String) : ChatMessage := ofText .assistant text

/-- The message that carries a tool result. -/
def toolResultFull (result : ToolResult) : ChatMessage := { role := .tool, content := [.toolResult result] }

/-- The message that carries the result of a successful tool. -/
def toolResult (id content : String) : ChatMessage := toolResultFull ⟨id, content, false⟩

/-- An assistant message that announces a call, after a text unless it is empty. -/
def toolAnnouncement (preamble : Option String) (call : ToolCall) : ChatMessage where
  role := .assistant
  content :=
    match preamble.filter (· ≠ "") with
    | some text => [.text text, .toolCall call]
    | none => [.toolCall call]

/-- Adds an annotation. -/
def withMetadata (m : ChatMessage) (key : String) (value : Json) : ChatMessage :=
  { m with metadata := m.metadata.insert key value }

/-- The text blocks, joined; `none` if there are none. -/
def text? (m : ChatMessage) : Option String := joinedText m.content

/-- The calls announced in the message. -/
def toolCalls (m : ChatMessage) : List ToolCall := announcedCalls m.content

/-- Does a block carry a tool result? -/
def isToolResult (m : ChatMessage) : Bool := m.content.any ContentBlock.isToolResult

/-- A message in JSON; annotations are left out when there are none. -/
def toJson (m : ChatMessage) : Json :=
  .obj ([("content", .ofList ContentBlock.toJson m.content)] ++
    (if m.metadata.isEmpty then [] else [("metadata", m.metadata.toJson)]) ++ [("role", m.role.toJson)])

/-- A message in JSON. -/
def decoder : Decoder ChatMessage :=
  .record "ChatMessage"
    (ChatMessage.mk <$> .required "role" ChatRole.decoder <*> .required "content" (.list ContentBlock.decoder) <*>
      .withDefault "metadata" .metadata .empty)

instance : BEq ChatMessage := ⟨fun a b => a.role == b.role && a.content == b.content && a.metadata == b.metadata⟩

end ChatMessage

end AgentLoop
