import AgentLoop.Driver.Basic
import AgentLoop.Pipeline.Criterion
import AgentLoop.Pipeline.Policy

/-!
# Pipelines

- `PhaseHandler`: what is done at a phase; it transforms the state or fails;
- `Pipeline`: a driver and its tools with hooks, handlers, criteria and an error policy.
-/

namespace AgentLoop

/-- What is done at a phase. -/
structure PhaseHandler (σ : Type) where
  name : String
  handle : Phase → ExecutionState → Act σ (Except AgentError ExecutionState)

/-- A driver and everything around it. -/
structure Pipeline (σ : Type) where
  driver : Driver σ
  tools : ToolRegistry σ
  /-- What checks the arguments of tool calls. -/
  schemas : SchemaLibrary
  hooks : HookStack σ := .empty
  /-- The handlers and their phases, in the order in which they were added. -/
  handlers : List (Phase × PhaseHandler σ) := []
  /-- By default the loop goes on until the model answers. -/
  criteria : List Criterion := [.toolCallPresence]
  errorPolicy : ErrorPolicy := {}
  /-- Tool traces join the conversation when the buffer is emptied. -/
  keepToolTraces : Bool := false
  /-- The tool calls of a step run side by side. -/
  parallelTools : Bool := false
  /-- How they take turns. -/
  schedule : Nat → Nat := fun _ => 0

namespace Pipeline

variable {σ : Type}

/-- The pipeline with another handler. There are none for the decision to go on, which is up to the criteria. -/
def withHandler (p : Pipeline σ) (phase : Phase) (handler : PhaseHandler σ) : Pipeline σ :=
  if phase = .shouldContinue then p else { p with handlers := p.handlers ++ [(phase, handler)] }

/-- The executor of the pipeline's tool calls. -/
def executor (p : Pipeline σ) : Executor σ :=
  { schemas := p.schemas, hooks := p.hooks, parallel := p.parallelTools, schedule := p.schedule }

/-- The handlers of a phase. -/
def handlersOf (p : Pipeline σ) (phase : Phase) : List (PhaseHandler σ) :=
  (p.handlers.filter fun h => h.1 = phase).map (·.2)

end Pipeline

end AgentLoop
