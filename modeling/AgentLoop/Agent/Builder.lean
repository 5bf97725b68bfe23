import AgentLoop.Driver.ReAct
import AgentLoop.Driver.ToolCalling
import AgentLoop.Pipeline.Basic

/-!
# Assembling agents

- `AgentBuilder`: a backend, settings and collaborators;
- `AgentBuilder.pipeline`: the pipeline that they make. The criteria of the settings come first.
-/

namespace AgentLoop

/-- Which driver an agent uses. -/
inductive DriverChoice (σ : Type) where
  | toolCalling
  | react
  /-- The settings for requests do not apply to it. -/
  | custom (d : Driver σ)

/-- What an agent is made of. -/
structure AgentBuilder (σ : Type) where
  backend : Backend σ
  /-- What checks the arguments of tool calls. -/
  schemas : SchemaLibrary
  config : AgentConfig := {}
  choice : DriverChoice σ := .toolCalling
  tools : ToolRegistry σ := .empty
  hooks : HookStack σ := .empty
  handlers : List (Phase × PhaseHandler σ) := []
  /-- Criteria beside those of the settings. -/
  criteria : List Criterion := []
  /-- Sent in front of the conversation on every request. -/
  cachedContext : List ChatMessage := []
  /-- The ReAct driver asks for final answers again, as plain text. -/
  finalize : Bool := false

namespace AgentBuilder

variable {σ : Type} (b : AgentBuilder σ)

/-- How the driver asks the backend. -/
def inference : Inference σ := ⟨b.backend, b.config.inferenceMode⟩

/-- The driver. -/
def driver : Driver σ :=
  match b.choice with
  | .custom d => d
  | .toolCalling =>
    ToolCalling.driver
      { inference := b.inference, cachedContext := b.cachedContext, systemPrompt := b.config.systemPrompt,
        toolChoice := b.config.toolChoice, temperature := b.config.temperature, maxTokens := b.config.maxTokens }
  | .react =>
    ReAct.driver
      { inference := b.inference, cachedContext := b.cachedContext, instructions := b.config.systemPrompt,
        temperature := b.config.temperature, maxTokens := b.config.maxTokens, finalize := b.finalize }

/-- The pipeline. -/
def pipeline : Pipeline σ :=
  let bare : Pipeline σ :=
    { driver := b.driver, tools := b.tools, schemas := b.schemas, hooks := b.hooks,
      criteria := b.config.criteria ++ b.criteria, errorPolicy := b.config.errorPolicy,
      keepToolTraces := b.config.keepToolTraces, parallelTools := b.config.parallelToolExecution }
  b.handlers.foldl (fun p h => p.withHandler h.1 h.2) bare

theorem foldl_withHandler (handlers : List (Phase × PhaseHandler σ)) (p : Pipeline σ) :
    handlers.foldl (fun p h => p.withHandler h.1 h.2) p =
      { p with handlers := p.handlers ++ handlers.filter fun h => h.1 ≠ .shouldContinue } := by
  induction handlers generalizing p with
  | nil => simp
  | cons h rest ih =>
    rw [List.foldl_cons, ih, Pipeline.withHandler]
    split
    · rename_i ignored
      rw [List.filter_cons_of_neg (by simp [ignored])]
    · rename_i kept
      rw [List.filter_cons_of_pos (by simp [kept])]
      simp

/-- The criteria of the pipeline are those of the settings, and then the others. -/
theorem criteria_pipeline : b.pipeline.criteria = b.config.criteria ++ b.criteria := by
  rw [pipeline, foldl_withHandler]

end AgentBuilder

end AgentLoop
