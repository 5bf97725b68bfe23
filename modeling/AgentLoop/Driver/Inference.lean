import AgentLoop.Agent.Config
import AgentLoop.Backend.Basic
import AgentLoop.Journal

/-!
# Inference

- `Assembly`: a response that is put together from its pieces: the text joined, the calls by their index;
- `Inference.call`: sends a request and waits for the complete response, in one of two modes.
-/

namespace AgentLoop

/-- A response that is put together from its pieces. -/
structure Assembly where
  text : String := ""
  /-- The completed calls with their indices, ascending. -/
  calls : List (UInt32 × ToolCall) := []
  usage : Usage := .zero
  stopReason : StopReason := .endTurn

namespace Assembly

/-- Puts a call behind the calls whose index is not greater. -/
def placeCall (index : UInt32) (call : ToolCall) : List (UInt32 × ToolCall) → List (UInt32 × ToolCall)
  | [] => [(index, call)]
  | head :: rest => if index < head.1 then (index, call) :: head :: rest else head :: placeCall index call rest

/-- Adds a piece. -/
def add (a : Assembly) : StreamEvent → Assembly
  | .textDelta text => { a with text := a.text ++ text }
  | .toolCallComplete index call => { a with calls := placeCall index call a.calls }
  | .usage u => { a with usage := a.usage + u }
  | .done reason => { a with stopReason := reason }
  | _ => a

/-- The response of a model. -/
def response (a : Assembly) (model : String) : ChatResponse where
  content := (if a.text = "" then [] else [.text a.text]) ++ a.calls.map fun c => .toolCall c.2
  usage := a.usage
  stopReason := a.stopReason
  model := model

end Assembly

/-- A backend and how to wait for it. -/
structure Inference (σ : Type) where
  backend : Backend σ
  mode : InferenceMode := .blocking

namespace Inference

variable {σ : Type}

/-- Reports the text that a piece brings. -/
def reportText : StreamEvent → Program σ StepMark Unit
  | .textDelta text => Program.note (.event (.partialResponse text))
  | _ => return ()

/-- Puts the pieces of a stream together, up to the first failure. -/
def drain : List (Except BackendError StreamEvent) → Assembly → Program σ StepMark (Except BackendError Assembly)
  | [], a => return .ok a
  | .error e :: _, _ => return .error e
  | .ok piece :: rest, a => do
    reportText piece
    drain rest (a.add piece)

/-- Waits for a streamed response. -/
def collect (i : Inference σ) (params : ChatParams) : Program σ StepMark (Except BackendError ChatResponse) := do
  match ← Program.perform (i.backend.stream params) with
  | .error e => return .error e
  | .ok pieces => return (← drain pieces {}).map fun a => a.response i.backend.info.model

/-- Waits for the response. -/
def wait (i : Inference σ) (params : ChatParams) : Program σ StepMark (Except BackendError ChatResponse) :=
  match i.mode with
  | .blocking => Program.perform (i.backend.generate params)
  | .streaming => i.collect params

/-- Sends a request and waits for the response. -/
def call (i : Inference σ) (params : ChatParams) : Program σ StepMark (Except BackendError ChatResponse) := do
  Program.note (.event (.inferenceRequested params.messages.length ((params.tools.map List.length).getD 0)))
  Program.note (.requested params)
  match ← i.wait params with
  | .error e => return .error e
  | .ok r =>
    Program.note (.event (.inferenceCompleted r.model r.usage r.stopReason r.toolCalls.length))
    return .ok r

end Inference

end AgentLoop
