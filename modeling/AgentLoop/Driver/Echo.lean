import AgentLoop.Chat.Message
import AgentLoop.Json.Reader
import AgentLoop.Text.Blank

/-!
# Echoed arguments

- `echoesArguments`: some models copy the arguments of a tool call into the text; such a text is never shown.
-/

namespace AgentLoop

/-- Does a text, blanks at its ends aside, spell the arguments of one of the calls? -/
def echoesArguments (text : String) (calls : List ToolCall) : Bool :=
  let trimmed := trimBlanks text
  if trimmed = "" then false
  else
    let spelled := (Json.read trimmed).toOption
    calls.any fun c => trimmed == c.argumentsText || spelled == some c.arguments

end AgentLoop
