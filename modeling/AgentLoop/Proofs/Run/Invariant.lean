import AgentLoop.Proofs.Run.Evolution

/-!
# Invariants of runs

- `Program.Maintains`: as long as every mark is allowed, every state that a program shows satisfies an invariant, and
  its value is as it should be;
- `Pipeline.Invariant`: an invariant that allowed marks and the pipeline's own transformations keep, so that one state
  after another satisfies it (`Invariant.evolution`);
- `Invariant.run`: such an invariant holds of every state that a run shows, and of what the end of the run is made of.
-/

namespace AgentLoop

namespace Program

variable {σ α β : Type} {Allowed : RunMark → Prop} {I : ExecutionState → Prop}

/-- As long as every mark is allowed, every state that is shown satisfies `I`, and the value satisfies `good`. -/
def Maintains (Allowed : RunMark → Prop) (I : ExecutionState → Prop) (x : Program σ RunMark α) (good : α → Prop) :
    Prop :=
  x.Ensures fun journal _ a =>
    (∀ m ∈ journal, Allowed m) → (∀ m ∈ journal, ∀ s, m.state? = some s → I s) ∧ good a

end Program

namespace Pipeline

open Program

variable {σ : Type} (p : Pipeline σ)

/-- What holds of the states of a run in which every mark is allowed: what handlers and hooks do keeps it, and so does
everything that the pipeline does itself. -/
structure Invariant (Allowed : RunMark → Prop) (I : ExecutionState → Prop) : Prop where
  handled {phase : Phase} {s t : ExecutionState} : Allowed (.handled phase s (.ok t)) → I s → I t
  dispatched {before after : HookContext} : Allowed (.dispatched before after) → I before.state → I after.state
  settled {s : ExecutionState} : I s → I s.settled
  stepStarted {s : ExecutionState} : I s → I s.withStepStarted
  outcome {s : ExecutionState} {step : Step} : step.isError = false → I s → I (s.withOutcome step p.keepToolTraces)
  toolFailures {s : ExecutionState} (failed : Nat) : I s → I (s.withToolFailures p.errorPolicy failed)
  failedStep {s : ExecutionState} {step : Step} : step.isError = true → I s →
    I (s.withFailedStep p.errorPolicy step step.cause)
  completed {s : ExecutionState} (reason : TerminationReason) : I s → I (s.completed reason)
  failed {s : ExecutionState} (reason : TerminationReason) : I s → I (s.failed reason)

/-- What a phase gives satisfies an invariant, also where a handler fails. -/
def PhaseGood (I : ExecutionState → Prop) : Except Interruption ExecutionState → Prop
  | .ok s => I s
  | .error i => I i.state

/-- The state that a part of a run gives, if it gives one, satisfies an invariant. -/
def PartGood (I : ExecutionState → Prop) : Except AgentError ExecutionState → Prop
  | .ok s => I s
  | .error _ => True

/-- What a run returns is made of a state that satisfies an invariant. -/
def RunGood (I : ExecutionState → Prop) : Option (Except AgentError ExecutionState) → Prop
  | some (.ok t) => ∃ s, I s ∧ t = s.ended p.keepToolTraces
  | _ => True

namespace Invariant

variable {p} {Allowed : RunMark → Prop} {I : ExecutionState → Prop} {s : ExecutionState}

/-- A state that satisfies an invariant is only followed by such states. -/
theorem evolution (h : p.Invariant Allowed I) :
    p.Evolution (fun _ => True) (fun _ => True) Allowed fun s t => I s → I t where
  refl _ := id
  trans first next := next ∘ first
  handled allowed := h.handled allowed
  dispatched allowed := h.dispatched allowed
  settled _ := h.settled
  stepStarted _ := h.stepStarted
  driver _ := EnsuresAt.of_forall fun _ _ _ _ => trivial
  raised _ _ _ _ _ _ := trivial
  outcome _ _ fine _ := h.outcome fine
  toolFailures _ failed := h.toolFailures failed
  failedStep _ _ failed _ := h.failedStep failed
  completed _ reason := h.completed reason
  failed _ reason := h.failed reason

/-- An invariant holds of every state that a run shows, and what the run returns is made of a state that satisfies
it. -/
theorem run (h : p.Invariant Allowed I) (token : Token) (rounds : Nat) (hs : ∀ now, I (s.withRunStarted now)) :
    (p.run token rounds s).Maintains Allowed I (p.RunGood I) := by
  intro now
  have evolves := h.evolution.runFrom token rounds (s.withRunStarted now)
  refine (EnsuresAt.ensures evolves).mono fun journal _ r ends allowed => ?_
  obtain ⟨t, ends, through⟩ := ends allowed
  constructor
  · intro m hm u shown
    exact through.of_mem (List.mem_append_left _ (List.mem_flatMap.2 ⟨m, hm, m.mem_states_of_state? shown⟩)) (hs now)
  · cases r with
    | none => exact trivial
    | some r =>
      cases r with
      | error e => exact trivial
      | ok u => exact ⟨t, through.of_mem List.mem_concat_self (hs now), ends u rfl⟩

end Invariant

end Pipeline

end AgentLoop
