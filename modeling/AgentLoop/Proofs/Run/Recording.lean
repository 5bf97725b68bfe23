import AgentLoop.Proofs.Run.Calls
import AgentLoop.Proofs.Run.Conversation

/-!
# What a run records

While hooks and handlers leave the recorded steps alone, a run only adds to them:

- `SilentFailures`: the steps that are recorded for handlers that failed, which say nothing and use no tokens;
- a step of the driver is recorded, and at most such a failure after it (`RecordTrace.steps`, `FollowTrace.steps`); a
  pass records nothing before it calls the driver (`PassTrace.steps_of_call`);
- the beginning of a run records such failures only (`BeginTrace.steps`), and its end nothing (`EndTrace.steps`).
-/

namespace AgentLoop

/-- What a handler or hook did leaves the recorded steps alone. -/
def RunMark.LeavesHistory (m : RunMark) : Prop := m.Leaves fun s => s.steps

/-- Steps that are recorded for handlers that failed: they say nothing, and no backend was asked for them. -/
def SilentFailures (steps : List Step) : Prop :=
  ∀ step ∈ steps, step.isError = true ∧ step.outputMessages = [] ∧ step.inference = none

namespace SilentFailures

variable {steps : List Step}

theorem nil : SilentFailures [] := fun _ h => absurd h (by simp)

theorem singleton (kind : ErrorKind) (message : String) (inputs : List ChatMessage) (startedAt completedAt : Instant) :
    SilentFailures [.failed kind message inputs startedAt completedAt] :=
  List.forall_mem_singleton.2 ⟨rfl, rfl, rfl⟩

theorem outputs_eq (h : SilentFailures steps) : outputs steps = [] :=
  List.flatMap_eq_nil_iff.2 fun step hs => (h step hs).2.1

end SilentFailures

namespace ExecutionState

theorem steps_withOutcome (s : ExecutionState) (step : Step) (keepTraces : Bool) :
    (s.withOutcome step keepTraces).steps = s.steps ++ [step] := by
  obtain ⟨_, _, h⟩ := s.withOutcome_eq step keepTraces
  rw [h]

theorem steps_withFailedStep (s : ExecutionState) (policy : ErrorPolicy) (step : Step) (failure : StepFailure) :
    (s.withFailedStep policy step failure).steps = s.steps ++ [step] := by
  obtain ⟨_, _, h, -⟩ := s.withFailedStep_eq policy step failure
  rw [h]

end ExecutionState

namespace Pipeline

variable {σ : Type} {p : Pipeline σ} {phase : Phase} {s t : ExecutionState} {journal : List RunMark}

theorem PhaseTrace.steps {r : Except Interruption ExecutionState} (h : p.PhaseTrace phase s journal r)
    (left : ∀ m ∈ journal, m.LeavesHistory) : PhaseGood (fun t => t.steps = s.steps) r :=
  h.leaves (fun s => (ExecutionState.sameConversation_settled s).steps) left

theorem FailureTrace.steps {step : Step} (h : p.FailureTrace s step journal (.ok t))
    (left : ∀ m ∈ journal, m.LeavesHistory) : t.steps = s.steps ++ [step] := by
  have kept : t.steps = _ := h.leaves (fun s => (ExecutionState.sameConversation_settled s).steps) left
  rw [kept, s.steps_withFailedStep]

theorem RecoveryTrace.steps {i : Interruption} (h : p.RecoveryTrace i journal (.ok t))
    (left : ∀ m ∈ journal, m.LeavesHistory) : ∃ failed, SilentFailures failed ∧ t.steps = i.state.steps ++ failed := by
  cases h with
  | recovered _ failure => exact ⟨_, .singleton _ _ _ _ _, failure.steps left⟩

theorem RecordTrace.steps {number : UInt32} {step : Step} (h : p.RecordTrace number s step journal (.ok t))
    (left : ∀ m ∈ journal, m.LeavesHistory) :
    ∃ failed, SilentFailures failed ∧ t.steps = s.steps ++ step :: failed := by
  have outcome := s.steps_withOutcome step p.keepToolTraces
  cases h with
  | @interrupted _ _ i _ executed recovery =>
    obtain ⟨left, left'⟩ := List.forall_mem_append.1 left
    have kept : i.state.steps = _ := executed.steps left
    obtain ⟨failed, silent, steps⟩ := recovery.steps left'
    exact ⟨failed, silent, by rw [steps, kept, outcome, List.append_assoc]; rfl⟩
  | @interruptedLate _ _ _ u i _ executed after recovery =>
    simp only [List.forall_mem_append] at left
    obtain ⟨left, left', left''⟩ := left
    have kept : u.steps = _ := executed.steps left
    have kept' : i.state.steps = _ := after.steps left'
    have counted := (u.sameConversation_toolFailures p.errorPolicy step.failedToolCount).steps
    obtain ⟨failed, silent, steps⟩ := recovery.steps left''
    exact ⟨failed, silent, by rw [steps, kept', counted, kept, outcome, List.append_assoc]; rfl⟩
  | @completed _ _ u _ executed after =>
    simp only [List.forall_mem_append] at left
    obtain ⟨left, left', -⟩ := left
    have kept : u.steps = _ := executed.steps left
    have kept' : t.steps = _ := after.steps left'
    have counted := (u.sameConversation_toolFailures p.errorPolicy step.failedToolCount).steps
    exact ⟨[], .nil, by rw [kept', counted, kept, outcome]⟩

/-- After a call of the driver, what the result counts as is recorded. -/
theorem FollowTrace.steps {number : UInt32} {result : Except AgentError Step}
    (h : p.FollowTrace number s result journal (.ok t)) (left : ∀ m ∈ journal, m.LeavesHistory) :
    ∃ step failed, CountsAs s result (.ok step) ∧ SilentFailures failed ∧ t.steps = s.steps ++ step :: failed := by
  cases h with
  | @failed _ step _ counts _ failure => exact ⟨step, [], counts, .nil, failure.steps left⟩
  | @recorded _ step _ counts _ record =>
    obtain ⟨failed, silent, steps⟩ := record.steps left
    exact ⟨step, failed, counts, silent, steps⟩

/-- Nothing is recorded in a pass before the driver is called. -/
theorem PassTrace.steps_of_call {before after : List RunMark} {result : Except AgentError Step}
    {r : Except AgentError ExecutionState} (h : p.PassTrace s journal r)
    (call : journal = before ++ .drove t result :: after) (left : ∀ m ∈ journal, m.LeavesHistory) :
    t.steps = s.steps := by
  obtain ⟨first, marks, rfl, phase, -⟩ := h.of_call call
  rw [call] at left
  simp only [List.cons_append, List.forall_mem_cons, List.forall_mem_append] at left
  obtain ⟨-, ⟨left, -⟩, -⟩ := left
  have kept : t.steps = s.withStepStarted.steps := phase.steps left
  exact kept

theorem BeginTrace.steps (h : p.BeginTrace s journal (.ok t)) (left : ∀ m ∈ journal, m.LeavesHistory) :
    ∃ failed, SilentFailures failed ∧ t.steps = s.steps ++ failed := by
  cases h with
  | @interrupted now _ _ i _ began recovery =>
    obtain ⟨left, left'⟩ := List.forall_mem_append.1 left
    have kept : i.state.steps = (s.withRunStarted now).steps := began.steps left
    obtain ⟨failed, silent, steps⟩ := recovery.steps left'
    exact ⟨failed, silent, by rw [steps, kept]; rfl⟩
  | @begun now _ _ began =>
    have kept : t.steps = (s.withRunStarted now).steps := began.steps (List.forall_mem_append.1 left).1
    exact ⟨[], .nil, by rw [kept, List.append_nil]; rfl⟩

theorem EndTrace.steps (h : p.EndTrace s journal (.ok t)) (left : ∀ m ∈ journal, m.LeavesHistory) :
    t.steps = s.steps := by
  have ended (u : ExecutionState) : (u.withBufferDrained p.keepToolTraces).concluded.steps = u.steps := by
    rw [(ExecutionState.sameConversation_concluded _).steps]
    cases p.keepToolTraces <;> rfl
  cases h with
  | @failed _ i _ phase _ same =>
    have kept : i.state.steps = _ := phase.steps (List.forall_mem_append.1 left).1
    rw [same, ended, ← kept]
    rfl
  | @finished _ u _ phase same =>
    have kept : u.steps = _ := phase.steps (List.forall_mem_append.1 left).1
    rw [same, ended, kept]

end Pipeline

end AgentLoop
