import AgentLoop.Pipeline.Phases

/-!
# What the engine changes of a state

One equation for each update that a pass of the loop makes, with what is known of the changed fields:

- `settled_eq`: a reason is found for a terminal status;
- `withOutcome_eq`: a step is recorded;
- `withToolFailures_eq`: the failed tools of a step are counted;
- `withFailedStep_eq`: a failed step is recorded and counted. The run has failed unless the policy forgives it
  (`ErrorPolicy.forgives`);
- `ended_eq`: at the end, the buffer is emptied and a run that is still going on is concluded.
-/

namespace AgentLoop

/-- Does a policy let a run go on after another failure of a kind? -/
def ErrorPolicy.forgives (policy : ErrorPolicy) (s : ExecutionState) (kind : ErrorKind) : Bool :=
  policy.shouldContinue kind (s.withFailureRecorded kind).stats.consecutiveFailures

/-- The end that is made of a state in which nothing more happens. -/
def ExecutionState.ended (s : ExecutionState) (keepTraces : Bool) : ExecutionState :=
  (s.withBufferDrained keepTraces).concluded

namespace ExecutionState

variable (s : ExecutionState) (policy : ErrorPolicy) (step : Step)

theorem settled_eq : ∃ termination, s.settled = { s with termination } := by
  unfold settled
  split
  · exact ⟨_, rfl⟩
  · split
    · exact ⟨_, rfl⟩
    · rename_i status
      exact ⟨some .hookRequested, by rw [completed, withStatus, ← status]⟩
    · rename_i status
      exact ⟨some .hookRequested, by rw [failed, withStatus, ← status]⟩

theorem withOutcome_eq (keepTraces : Bool) :
    ∃ messages buffer, s.withOutcome step keepTraces =
      { s with messages, buffer, steps := s.steps ++ [step], currentStep := some step } := by
  unfold withOutcome
  split
  · cases keepTraces <;> exact ⟨_, _, rfl⟩
  · exact ⟨_, _, rfl⟩

theorem withToolFailures_eq (failed : Nat) :
    ∃ stats status termination, s.withToolFailures policy failed = { s with stats, status, termination } ∧
      stats.stepCounter = s.stats.stepCounter := by
  unfold withToolFailures
  split
  · exact ⟨_, _, _, rfl, rfl⟩
  · dsimp only
    split
    · exact ⟨_, _, _, rfl, rfl⟩
    · split <;> exact ⟨_, _, _, rfl, rfl⟩

theorem withFailedStep_eq (failure : StepFailure) :
    ∃ stats termination, s.withFailedStep policy step failure =
      { s with
        buffer := ⟨s.buffer.messages ++ step.outputMessages⟩, steps := s.steps ++ [step], currentStep := some step,
        status := if policy.forgives s failure.kind then s.status else .failed, stats, termination } ∧
      stats.stepCounter = s.stats.stepCounter := by
  have same : policy.shouldContinue failure.kind (((s.withBuffered step.outputMessages).withStep
      step).withFailureRecorded failure.kind).stats.consecutiveFailures = policy.forgives s failure.kind := rfl
  simp only [withFailedStep, same]
  cases policy.forgives s failure.kind with
  | true => exact ⟨_, _, rfl, rfl⟩
  | false => exact ⟨_, _, rfl, rfl⟩

theorem ended_eq (keepTraces : Bool) :
    ∃ messages buffer status termination, s.ended keepTraces = { s with messages, buffer, status, termination } := by
  have drained : ∃ messages buffer, s.withBufferDrained keepTraces = { s with messages, buffer } := by
    cases keepTraces <;> exact ⟨_, _, rfl⟩
  obtain ⟨messages, buffer, same⟩ := drained
  rw [ended, same]
  unfold concluded
  split
  · split <;> exact ⟨_, _, _, _, rfl⟩
  · exact ⟨_, _, _, _, rfl⟩

/-- Failed tools do not change when the run started. -/
theorem startedAt_withToolFailures (failed : Nat) :
    (s.withToolFailures policy failed).stats.startedAt = s.stats.startedAt := by
  unfold withToolFailures
  split
  · rfl
  · dsimp only
    split
    · rfl
    · split <;> rfl

/-- Nor does a failed step. -/
theorem startedAt_withFailedStep (failure : StepFailure) :
    (s.withFailedStep policy step failure).stats.startedAt = s.stats.startedAt := by
  unfold withFailedStep
  dsimp only
  split <;> rfl

theorem status_withFailedStep (failure : StepFailure) :
    (s.withFailedStep policy step failure).status = if policy.forgives s failure.kind then s.status else .failed := by
  obtain ⟨_, _, h, -⟩ := s.withFailedStep_eq policy step failure
  rw [h]

end ExecutionState

end AgentLoop
