import AgentLoop.Chat.Response

/-!
# Streamed responses

- `StreamEvent`: a piece of a response;
- `ChatResponse.events`: the pieces of a complete response, in the order in which a streaming backend sends them.
-/

namespace AgentLoop

/-- A piece of a response. Of a tool call only the completed one counts. -/
inductive StreamEvent where
  | textDelta (text : String)
  | reasoningDelta (text : String)
  /-- A tool call begins; the index is its position in the response. -/
  | toolCallStart (index : UInt32) (id name : String)
  /-- A piece of the arguments' text. -/
  | toolCallDelta (index : UInt32) (chunk : String)
  | toolCallComplete (index : UInt32) (call : ToolCall)
  /-- Usage reported so far. -/
  | usage (u : Usage)
  /-- The end of the stream. -/
  | done (reason : StopReason)

namespace StreamEvent

/-- A piece in JSON. -/
def toJson : StreamEvent → Json
  | textDelta s => .obj [("TextDelta", .str s)]
  | reasoningDelta s => .obj [("ReasoningDelta", .str s)]
  | toolCallStart i id name =>
    .obj [("ToolCallStart", .obj [("id", .str id), ("index", .ofU32 i), ("name", .str name)])]
  | toolCallDelta i chunk => .obj [("ToolCallDelta", .obj [("index", .ofU32 i), ("json_chunk", .str chunk)])]
  | toolCallComplete i call => .obj [("ToolCallComplete", .obj [("call", call.toJson), ("index", .ofU32 i)])]
  | usage u => .obj [("Usage", u.toJson)]
  | done r => .obj [("Done", .obj [("stop_reason", r.toJson)])]

/-- A piece in JSON. -/
def decoder : Decoder StreamEvent :=
  .choice "StreamEvent"
    [.payload "TextDelta" (textDelta <$> .string), .payload "ReasoningDelta" (reasoningDelta <$> .string),
      .record "ToolCallStart"
        (toolCallStart <$> .required "index" .u32 <*> .required "id" .string <*> .required "name" .string),
      .record "ToolCallDelta" (toolCallDelta <$> .required "index" .u32 <*> .required "json_chunk" .string),
      .record "ToolCallComplete" (toolCallComplete <$> .required "index" .u32 <*> .required "call" ToolCall.decoder),
      .payload "Usage" (usage <$> Usage.decoder),
      .record "Done" (done <$> .required "stop_reason" StopReason.decoder)]

end StreamEvent

namespace ChatResponse

/-- The pieces of blocks, the next tool call being number `index`; tool results are not sent. -/
def blockEvents (index : UInt32) : List ContentBlock → List StreamEvent
  | [] => []
  | .text s :: rest => .textDelta s :: blockEvents index rest
  | .toolCall call :: rest =>
    .toolCallStart index call.id call.name :: .toolCallDelta index call.argumentsText ::
      .toolCallComplete index call :: blockEvents (index + 1) rest
  | .toolResult _ :: rest => blockEvents index rest

/-- The pieces of a response. -/
def events (r : ChatResponse) : List StreamEvent := blockEvents 0 r.content ++ [.usage r.usage, .done r.stopReason]

end ChatResponse

end AgentLoop
