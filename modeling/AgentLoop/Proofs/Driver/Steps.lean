import AgentLoop.Proofs.Driver.Requests
import AgentLoop.Proofs.Effect.Clock

/-!
# The steps of the built-in drivers

- `ToolCalling.gives_step`: what holds of the answers and of the executed calls of the tool-calling driver holds of all
  its steps;
- `Step.BegunAt`: a step that began at one of some times and has no tool executions if it is a final answer;
- `BuiltIn.gives_step`: so is every step of the built-in drivers, as long as the clock shows such times.
-/

namespace AgentLoop

/-- A step that began at one of some times, and that executed no tools if it is a final answer. -/
structure Step.BegunAt (C : Instant → Prop) (step : Step) : Prop where
  startedAt : C step.startedAt
  final : step.isFinal = true → step.toolExecutions = []

open Program

variable {σ : Type} {C : Instant → Prop}

/-- If a call gives a step, it is as it should be. -/
def GivesStep (good : Step → Prop) (result : Except AgentError Step) : Prop := ∀ step, result = .ok step → good step

theorem givesStep_ok {good : Step → Prop} {step : Step} (h : good step) : GivesStep good (.ok step) := by
  rintro _ ⟨⟩
  exact h

theorem givesStep_error {good : Step → Prop} {e : AgentError} : GivesStep good (.error e) := by
  rintro _ ⟨⟩

section Step

variable (state : ExecutionState) (tools : ToolRegistry σ) (executor : Executor σ)

/-- The steps of the tool-calling driver are answers and executions of tools. -/
theorem ToolCalling.gives_step {good : Step → Prop} (d : ToolCalling σ)
    (answered : ∀ inputs text calls info {startedAt} completedAt, C startedAt →
      good (.finalResponse inputs (answer text calls) info startedAt completedAt))
    (executed : ∀ inputs text calls records info {startedAt} completedAt, C startedAt →
      good (.toolExecution inputs (outputs (preamble text calls) records) records info startedAt completedAt)) :
    (d.step state tools executor).GivesAt C (GivesStep good) := by
  refine GivesAt.readClock.bind fun startedAt began => (GivesAt.any _).bind fun reply _ => ?_
  cases reply with
  | error e => exact .done givesStep_error
  | ok response =>
    dsimp only
    split
    · exact GivesAt.readClock.bind fun _ _ => .done (givesStep_ok (answered _ _ _ _ _ began))
    · refine (GivesAt.any _).bind fun executions _ => ?_
      cases executions with
      | error e => exact .done givesStep_error
      | ok executions => exact GivesAt.readClock.bind fun _ _ => .done (givesStep_ok (executed _ _ _ _ _ _ began))

end Step

namespace BuiltIn

variable (state : ExecutionState) (tools : ToolRegistry σ) (executor : Executor σ)

theorem gives_step_toolCalling (d : ToolCalling σ) :
    (d.step state tools executor).GivesAt C (GivesStep (Step.BegunAt C)) :=
  d.gives_step state tools executor (fun _ _ _ _ _ _ began => ⟨began, fun _ => rfl⟩)
    fun _ _ _ _ _ _ _ began => ⟨began, nofun⟩

theorem gives_step_react (d : ReAct σ) : (d.step state tools executor).GivesAt C (GivesStep (Step.BegunAt C)) := by
  have thinking (thought : Option String) {step : Step} (h : step.BegunAt C) :
      (ReAct.withThought thought step).BegunAt C := by
    cases thought <;> exact ⟨h.startedAt, h.final⟩
  refine GivesAt.readClock.bind fun startedAt began => (GivesAt.any _).bind fun reply _ => ?_
  cases reply with
  | error e => exact .done givesStep_error
  | ok response =>
    dsimp only
    split
    · have rejected (inputs : List ChatMessage) (raw message : String) (info : InferenceInfo) :
          (ReAct.rejected inputs raw message info startedAt : Program σ StepMark Step).GivesAt C (Step.BegunAt C) :=
        (GivesAt.any _).bind fun _ _ => GivesAt.readClock.bind fun _ _ => .done ⟨began, nofun⟩
      exact (rejected _ _ _ _).bind fun step h => .done (givesStep_ok h)
    · refine (GivesAt.any _).bind fun _ _ => (GivesAt.any _).bind fun executions _ => ?_
      cases executions with
      | error e => exact .done givesStep_error
      | ok executions =>
        exact GivesAt.readClock.bind fun _ _ => .done (givesStep_ok (thinking _ ⟨began, nofun⟩))
    · refine (GivesAt.any _).bind fun final _ => ?_
      cases final with
      | error e => exact .done givesStep_error
      | ok final =>
        exact GivesAt.readClock.bind fun _ _ => .done (givesStep_ok (thinking _ ⟨began, fun _ => rfl⟩))

/-- A step of a built-in driver began when the driver was called, and a final answer comes without tool executions. -/
theorem gives_step (b : BuiltIn σ) :
    (b.driver.useTools state tools executor).GivesAt C (GivesStep (Step.BegunAt C)) := by
  cases b with
  | toolCalling d => exact gives_step_toolCalling state tools executor d
  | react d => exact gives_step_react state tools executor d

end BuiltIn

end AgentLoop
