import AgentLoop.Backend.Error
import AgentLoop.Backend.Request
import AgentLoop.Backend.Stream
import AgentLoop.Effect.Act

/-!
# Backends

- `Backend`: what answers requests, with a complete response or piece by piece.
-/

namespace AgentLoop

/-- What answers requests. -/
structure Backend (σ : Type) where
  info : BackendInfo
  /-- Answers with a complete response. -/
  generate : ChatParams → Act σ (Except BackendError ChatResponse)
  /-- Answers with the pieces of a response, the last of which may be a failure. -/
  stream : ChatParams → Act σ (Except BackendError (List (Except BackendError StreamEvent)))

end AgentLoop
