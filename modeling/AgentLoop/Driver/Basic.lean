import AgentLoop.Tool.Executor

/-!
# Drivers

- `Driver`: the strategy that turns a state into the next step: it asks the backend and has the tools executed that the
  model wants.
-/

namespace AgentLoop

/-- The strategy that turns a state into the next step. -/
structure Driver (σ : Type) where
  name : String
  /-- Produces one step. A runtime failure is an error or a step of type error. -/
  useTools : ExecutionState → ToolRegistry σ → Executor σ → Program σ StepMark (Except AgentError Step)

end AgentLoop
