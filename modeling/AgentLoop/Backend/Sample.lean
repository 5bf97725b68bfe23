import AgentLoop.Backend.Script

/-!
# Samples

- `Sample.response`, `Sample.toolResponse`: responses to try things out with;
- `Sample.openTool`: the definition of a tool that takes any object;
- `Sample.info`: what the backend says about itself that serves the sample model.
-/

namespace AgentLoop

namespace Sample

/-- The model that samples name. -/
def model : String := "test-model"

/-- The tokens of a sample response. -/
def usage : Usage := { Usage.zero with inputTokens := 100, outputTokens := 50 }

/-- A final answer. -/
def response (text : String) : ChatResponse := { content := [.text text], usage, stopReason := .endTurn, model }

/-- A request for tools. -/
def toolResponse (calls : List ToolCall) : ChatResponse :=
  { content := calls.map .toolCall, usage, stopReason := .toolUse, model }

/-- A tool that takes any object. -/
def openTool (name : String) : ToolDefinition := ⟨name, name ++ " tool", .obj [("type", .str "object")]⟩

/-- What the sample backend says about itself. -/
def info : BackendInfo := Backend.scriptedInfo "mock" model

end Sample

end AgentLoop
