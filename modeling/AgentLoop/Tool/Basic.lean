import AgentLoop.Backend.Request
import AgentLoop.Effect.Act

/-!
# Tools

- `ToolError`: why an invocation failed, and whether the tool itself was used incorrectly;
- `Invocation`: a tool at work. After each turn it has its result, or it pauses; what it does in its next turn may
  depend on all that it has seen so far;
- `Tool`: a definition and what an invocation with given arguments does.
-/

namespace AgentLoop

/-- Why an invocation failed. -/
structure ToolError where
  message : String
  /-- It is a bug, which ends the run. -/
  misuse : Bool := false
  deriving DecidableEq, Repr

/-- A tool at work. -/
inductive Invocation (σ : Type) : Type where
  /-- What it does in this turn gives the result. -/
  | last (a : Act σ (Except ToolError Json))
  /-- What it does in this turn gives the result, or it pauses. -/
  | turn (a : Act σ (Option (Except ToolError Json))) (next : Slot → σ → Invocation σ)

namespace Invocation

variable {σ : Type}

/-- What is left of an invocation after a turn. -/
inductive Follows : Invocation σ → Invocation σ → Prop
  | next (a : Act σ (Option (Except ToolError Json))) (next : Slot → σ → Invocation σ) (slot : Slot) (own : σ) :
      Follows (next slot own) (turn a next)

/-- A tool does not pause forever. -/
theorem wellFounded_follows : WellFounded (Follows : Invocation σ → Invocation σ → Prop) := by
  refine ⟨fun i => ?_⟩
  induction i with
  | last a => exact ⟨_, nofun⟩
  | turn a next ih =>
    refine ⟨_, fun rest left => ?_⟩
    cases left with
    | next _ _ slot own => exact ih slot own

end Invocation

/-- A tool that a model can invoke. -/
structure Tool (σ : Type) where
  definition : ToolDefinition
  /-- What an invocation with these arguments does. -/
  invoke : Json → Invocation σ

namespace Tool

/-- The name of a tool. -/
def name {σ : Type} (t : Tool σ) : String := t.definition.name

/-- A tool whose result depends on its arguments only. -/
def ofFunction {σ : Type} (definition : ToolDefinition) (f : Json → Except ToolError Json) : Tool σ :=
  ⟨definition, fun arguments => .last (pure (f arguments))⟩

end Tool

end AgentLoop
