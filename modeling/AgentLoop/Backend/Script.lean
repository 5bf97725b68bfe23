import AgentLoop.Backend.Basic

/-!
# Scripted backends

- `Reply`, `Script`: replies that wait in a queue, and the requests that were received;
- `Backend.scripted`: the backend that answers each request with the next reply. When there is none left the request
  fails.
-/

namespace AgentLoop

/-- A reply that waits. -/
inductive Reply where
  /-- A complete response, which can also be streamed. -/
  | response (r : ChatResponse)
  /-- The request fails. -/
  | failure (e : BackendError)

namespace Reply

/-- A plain answer of a model. -/
def text (model text : String) : Reply :=
  .response { content := [.text text], usage := { Usage.zero with inputTokens := 10, outputTokens := 5 },
              stopReason := .endTurn, model }

/-- A model's request for tools. -/
def toolCalls (model : String) (calls : List ToolCall) : Reply :=
  .response { content := calls.map .toolCall, usage := { Usage.zero with inputTokens := 10, outputTokens := 5 },
              stopReason := .toolUse, model }

/-- The answer to a request for a complete response. -/
def complete : Reply → Except BackendError ChatResponse
  | response r => .ok r
  | failure e => .error e

/-- The answer to a request for a stream. -/
def streamed : Reply → Except BackendError (List (Except BackendError StreamEvent))
  | response r => .ok (r.events.map .ok)
  | failure e => .error e

end Reply

/-- The state of a scripted backend. -/
structure Script where
  /-- The replies that wait. -/
  queue : List Reply := []
  /-- The requests that were received, the latest first. -/
  received : List ChatParams := []

namespace Script

/-- What a request meets when no reply waits. -/
def exhausted : Reply := .failure (.invalidRequest "MockProvider: script exhausted")

/-- Adds replies to the queue. -/
def enqueue (s : Script) (replies : List Reply) : Script := { s with queue := s.queue ++ replies }

/-- Receives a request; gives the next reply. -/
def next (params : ChatParams) (s : Script) : Reply × Script :=
  (s.queue.headD exhausted, { queue := s.queue.tail, received := params :: s.received })

end Script

namespace Backend

variable {σ : Type}

/-- The backend that answers from a script, which is a part of the own state. -/
def scripted (info : BackendInfo) (script : Lens σ Script) : Backend σ :=
  let next (params : ChatParams) : Act σ Reply := .modifyGet fun own =>
    let (reply, rest) := (script.get own).next params
    (reply, script.set rest own)
  { info
    generate := fun params => do return (← next params).complete
    stream := fun params => do return (← next params).streamed }

/-- What a scripted backend says about itself. -/
def scriptedInfo (name model : String) : BackendInfo := ⟨name, model, 128000, [.tools, .streaming]⟩

end Backend

end AgentLoop
