import AgentLoop.Driver.ReAct
import AgentLoop.Driver.ToolCalling
import AgentLoop.Proofs.Effect.Traces

/-!
# The requests of the built-in drivers

- `BuiltIn`: the two drivers that ask a backend, and the request that each sends for a step;
- `BuiltIn.messages_request`: it consists of the cached context, the conversation, and the traces that wait; nothing
  else of the state matters (`BuiltIn.request_congr`);
- `BuiltIn.first_request`: it is the first request of a call.
-/

namespace AgentLoop

variable {σ : Type}

/-- A driver that asks a backend. -/
inductive BuiltIn (σ : Type) where
  | toolCalling (d : ToolCalling σ)
  | react (d : ReAct σ)

namespace BuiltIn

/-- The driver. -/
def driver : BuiltIn σ → Driver σ
  | toolCalling d => d.driver
  | react d => d.driver

/-- What is sent in front of the conversation. -/
def cachedContext : BuiltIn σ → List ChatMessage
  | toolCalling d => d.cachedContext
  | react d => d.cachedContext

/-- The request for a step. -/
def request (state : ExecutionState) (tools : ToolRegistry σ) : BuiltIn σ → ChatParams
  | toolCalling d => d.request state tools
  | react d => d.request (d.cachedContext ++ state.inferenceMessages) (some (d.systemPrompt tools))

variable (b : BuiltIn σ) {state state' : ExecutionState} {tools : ToolRegistry σ}

theorem messages_request : (b.request state tools).messages = b.cachedContext ++ state.inferenceMessages := by
  cases b <;> rfl

theorem request_congr (same : state.inferenceMessages = state'.inferenceMessages) :
    b.request state tools = b.request state' tools := by
  cases b with
  | toolCalling d => simp only [request, ToolCalling.request, same]
  | react d => simp only [request, same]

end BuiltIn

open Program

/-- A call of a backend writes down its request first. -/
theorem Inference.mayLeave_call {i : Inference σ} {params : ChatParams} {marks : List StepMark}
    {r : Except BackendError ChatResponse} (h : (i.call params).MayLeave marks r) :
    marks.findSome? StepMark.request? = some params := by
  obtain ⟨_, _, _, reported, h₁, rfl⟩ := MayLeave.of_bind h
  obtain rfl := mayLeave_note.1 reported
  obtain ⟨_, _, _, wrote, -, rfl⟩ := MayLeave.of_bind h₁
  obtain rfl := mayLeave_note.1 wrote
  rfl

theorem BuiltIn.first_request (b : BuiltIn σ) {state : ExecutionState} {tools : ToolRegistry σ} {executor : Executor σ}
    {marks : List StepMark} {result : Except AgentError Step}
    (h : (b.driver.useTools state tools executor).MayLeave marks result) :
    marks.findSome? StepMark.request? = some (b.request state tools) := by
  -- both drivers read the clock and then call the backend
  cases b with
  | toolCalling d =>
    obtain ⟨_, _, _, read, h₁, rfl⟩ := MayLeave.of_bind h
    obtain rfl := mayLeave_readClock.1 read
    obtain ⟨_, _, _, called, -, rfl⟩ := MayLeave.of_bind h₁
    rw [List.nil_append, List.findSome?_append, Inference.mayLeave_call called]
    rfl
  | react d =>
    obtain ⟨_, _, _, read, h₁, rfl⟩ := MayLeave.of_bind h
    obtain rfl := mayLeave_readClock.1 read
    obtain ⟨_, _, _, called, -, rfl⟩ := MayLeave.of_bind h₁
    rw [List.nil_append, List.findSome?_append, Inference.mayLeave_call called]
    rfl

end AgentLoop
