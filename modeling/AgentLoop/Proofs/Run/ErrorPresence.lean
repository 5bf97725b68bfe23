import AgentLoop.Proofs.Run.FinalAnswer
import AgentLoop.Proofs.Run.ToolErrors

/-!
# Failed steps under a check for failures

The criterion `errorPresence` looks for what a step says about its failure, and a driver may leave that open:

- `ExecutionState.isBarred`: no further step is taken from a state under this criterion
  (`CheckTrace.unbarred_of_proceed`);
- `Overlooked`: a failed step that the criterion does not see: the driver has left open why it failed, and the policy
  forgives it. Every other failed step bars the state behind it (`FailureTrace.bars`, `RecoveryTrace.bars`), so that a
  pass or the beginning of a run leaves a barred state or has recorded overlooked failures only
  (`PassTrace.bars`, `BeginTrace.bars`);
- `driver_rests_after_error`: at each call of the driver, every failed step that the run has recorded was overlooked.
-/

namespace AgentLoop

/-- Under a check for failures no further step is taken from the state: it is terminal, or its latest step says why it
failed. -/
def ExecutionState.isBarred (s : ExecutionState) : Bool :=
  s.isTerminal || s.currentStep.any fun step => step.failure.isSome

/-- The driver has returned the failed step without a word about its failure, and the policy forgave it. -/
def Overlooked (policy : ErrorPolicy) (journal : List RunMark) (step : Step) : Prop :=
  step.failure = none ∧ ∃ s, .drove s (.ok step) ∈ journal ∧ policy.forgives s .unknown = true

/-- The failed ones among some steps were overlooked. -/
def AllOverlooked (policy : ErrorPolicy) (journal : List RunMark) (steps : List Step) : Prop :=
  ∀ step ∈ steps, step.isError = true → Overlooked policy journal step

section Overlooked

variable {policy : ErrorPolicy} {journal journal' : List RunMark} {steps steps' : List Step} {step : Step}

theorem Overlooked.mono (h : Overlooked policy journal step) (more : ∀ m ∈ journal, m ∈ journal') :
    Overlooked policy journal' step := by
  obtain ⟨silent, s, returned, forgiven⟩ := h
  exact ⟨silent, s, more _ returned, forgiven⟩

theorem AllOverlooked.nil : AllOverlooked policy journal [] := fun _ h => absurd h (by simp)

theorem AllOverlooked.singleton (h : step.isError = true → Overlooked policy journal step) :
    AllOverlooked policy journal [step] := List.forall_mem_singleton.2 h

theorem AllOverlooked.append (h : AllOverlooked policy journal steps) (h' : AllOverlooked policy journal steps') :
    AllOverlooked policy journal (steps ++ steps') := List.forall_mem_append.2 ⟨h, h'⟩

theorem AllOverlooked.mono (h : AllOverlooked policy journal steps) (more : ∀ m ∈ journal, m ∈ journal') :
    AllOverlooked policy journal' steps := fun step hs failed => (h step hs failed).mono more

end Overlooked

namespace Pipeline

variable {σ : Type} {p : Pipeline σ} {s t : ExecutionState} {journal before after : List RunMark}

/-! ## What bars the state -/

/-- A failed step bars the state, or it says nothing about its failure and is forgiven. -/
theorem FailureTrace.bars {step : Step} (h : p.FailureTrace s step journal (.ok t))
    (left : ∀ m ∈ journal, m.LeavesSteps) (left' : ∀ m ∈ journal, m.LeavesStatus) :
    t.isBarred = true ∨ step.failure = none ∧ p.errorPolicy.forgives s .unknown = true := by
  have kept : t.currentStep = _ := h.leaves ExecutionState.currentStep_settled fun m hm => (left m hm).2
  have current : t.currentStep = some step := by
    obtain ⟨_, _, same, -⟩ := s.withFailedStep_eq p.errorPolicy step step.cause
    rw [kept, same]
  cases why : step.failure with
  | some failure => exact .inl (by simp [ExecutionState.isBarred, current, why])
  | none =>
    have unknown : step.cause.kind = .unknown := by simp [Step.cause, why]
    have status := h.status left'
    rw [unknown] at status
    cases forgiven : p.errorPolicy.forgives s .unknown with
    | true => exact .inr ⟨rfl, rfl⟩
    | false =>
      rw [forgiven, if_neg (by simp)] at status
      exact .inl (by simp [ExecutionState.isBarred, ExecutionState.isTerminal, status, ExecutionStatus.isTerminal])

/-- The step that is recorded for a handler that failed says why. -/
theorem RecoveryTrace.bars {i : Interruption} (h : p.RecoveryTrace i journal (.ok t))
    (left : ∀ m ∈ journal, m.LeavesSteps) (left' : ∀ m ∈ journal, m.LeavesStatus) : t.isBarred = true := by
  cases h with
  | recovered _ failure => exact (failure.bars left left').resolve_right fun silent => nomatch silent.1

/-- A step that did not fail is the only one that is recorded, or the state is barred behind it. -/
theorem RecordTrace.bars {number : UInt32} {step : Step} (h : p.RecordTrace number s step journal (.ok t))
    (left : ∀ m ∈ journal, m.LeavesSteps) (left' : ∀ m ∈ journal, m.LeavesStatus) :
    t.isBarred = true ∨ t.steps = s.steps ++ [step] := by
  cases h with
  | interrupted _ recovery =>
    simp only [List.forall_mem_append] at left left'
    exact .inl (recovery.bars left.2 left'.2)
  | interruptedLate _ _ recovery =>
    simp only [List.forall_mem_append] at left left'
    exact .inl (recovery.bars left.2.2 left'.2.2)
  | @completed _ _ u _ executed after =>
    simp only [List.forall_mem_append] at left
    obtain ⟨left₁, left₂, -⟩ := left
    have kept : u.steps = _ := executed.steps fun m hm => (left₁ m hm).1
    have kept' : t.steps = _ := after.steps fun m hm => (left₂ m hm).1
    have counted := (u.sameConversation_toolFailures p.errorPolicy step.failedToolCount).steps
    exact .inr (by rw [kept', counted, kept, s.steps_withOutcome])

/-- What is recorded after a call of the driver bars the state, unless it was overlooked. -/
theorem FollowTrace.bars {number : UInt32} {result : Except AgentError Step}
    (h : p.FollowTrace number s result journal (.ok t)) (left : ∀ m ∈ journal, m.LeavesSteps)
    (left' : ∀ m ∈ journal, m.LeavesStatus) :
    ∃ recorded, t.steps = s.steps ++ recorded ∧
      (t.isBarred = true ∨ AllOverlooked p.errorPolicy [.drove s result] recorded) := by
  have history : ∀ m ∈ journal, m.LeavesHistory := fun m hm => (left m hm).1
  cases h with
  | @failed _ step _ counts _ failure =>
    refine ⟨[step], failure.steps history, (failure.bars left left').imp_right fun ⟨silent, forgiven⟩ => ?_⟩
    cases counts with
    | step _ => exact .singleton fun _ => ⟨silent, s, List.mem_singleton.2 rfl, forgiven⟩
    | failure _ _ _ => cases silent
  | @recorded _ step _ _ fine record =>
    rcases record.bars left left' with barred | steps
    · obtain ⟨failed, -, steps⟩ := record.steps history
      exact ⟨step :: failed, steps, .inl barred⟩
    · exact ⟨[step], steps, .inr (.singleton fun failed => absurd failed (by simp [fine]))⟩

/-- A pass adds to the recorded steps. It leaves a barred state, or the failed ones among them were overlooked. -/
theorem PassTrace.bars (h : p.PassTrace s journal (.ok t)) (left : ∀ m ∈ journal, m.LeavesSteps)
    (left' : ∀ m ∈ journal, m.LeavesStatus) :
    ∃ recorded, t.steps = s.steps ++ recorded ∧
      (t.isBarred = true ∨ AllOverlooked p.errorPolicy journal recorded) := by
  cases h with
  | @interrupted _ _ i _ before recovery =>
    simp only [List.forall_mem_cons, List.forall_mem_append] at left left'
    have kept : i.state.steps = s.withStepStarted.steps := before.steps fun m hm => (left.2.1 m hm).1
    obtain ⟨failed, -, steps⟩ := recovery.steps fun m hm => (left.2.2 m hm).1
    exact ⟨failed, by rw [steps, kept]; rfl, .inl (recovery.bars left.2.2 left'.2.2)⟩
  | ended before _ =>
    have kept : t.steps = s.withStepStarted.steps := before.steps fun m hm => ((List.forall_mem_cons.1 left).2 m hm).1
    exact ⟨[], by rw [kept, List.append_nil]; rfl, .inr .nil⟩
  | @called _ _ marks u result _ before _ _ follows =>
    simp only [List.forall_mem_cons, List.forall_mem_append] at left left'
    have kept : u.steps = s.withStepStarted.steps := before.steps fun m hm => (left.2.1 m hm).1
    obtain ⟨recorded, steps, good⟩ := follows.bars left.2.2.2 left'.2.2.2
    refine ⟨recorded, by rw [steps, kept]; rfl, good.imp_right fun overlooked => overlooked.mono ?_⟩
    simp [callMarks]

/-- The beginning of a run leaves a barred state, or records nothing. -/
theorem BeginTrace.bars (h : p.BeginTrace s journal (.ok t)) (left : ∀ m ∈ journal, m.LeavesSteps)
    (left' : ∀ m ∈ journal, m.LeavesStatus) : t.isBarred = true ∨ t.steps = s.steps := by
  cases h with
  | interrupted _ recovery =>
    rw [List.forall_mem_append] at left left'
    exact .inl (recovery.bars left.2 left'.2)
  | @begun now _ _ began =>
    have kept : t.steps = (s.withRunStarted now).steps :=
      began.steps fun m hm => ((List.forall_mem_append.1 left).1 m hm).1
    exact .inr kept

/-! ## The loop -/

section Loop

variable {rounds : Nat} {r : Option (Except AgentError ExecutionState)} {result : Except AgentError Step}

theorem CheckTrace.unbarred_of_proceed (h : p.CheckTrace s (.proceed t)) (checked : .errorPresence ∈ p.criteria) :
    t = s ∧ s.isBarred = false := by
  obtain ⟨same, running, elapsed, allowed⟩ := h.granted_of_proceed
  have unseen : Criterion.errorPresence.evaluate ⟨s, elapsed⟩ = none := allowed _ checked
  refine ⟨same, ?_⟩
  rw [ExecutionState.isBarred, running, Bool.false_or]
  cases current : s.currentStep with
  | none => rfl
  | some step =>
    cases why : step.failure with
    | none => simp [why]
    | some failure => simp [Criterion.errorPresence, current, why] at unseen

/-- Where the driver is called in the loop, the loop did not begin in a barred state, and the failed steps that it has
recorded since were overlooked. -/
theorem LoopTrace.overlooked_of_call (h : p.LoopTrace rounds s journal r) (checked : .errorPresence ∈ p.criteria)
    (left : ∀ m ∈ journal, m.LeavesSteps) (left' : ∀ m ∈ journal, m.LeavesStatus)
    (call : journal = before ++ .drove t result :: after) :
    s.isBarred = false ∧ ∃ recorded, t.steps = s.steps ++ recorded ∧ AllOverlooked p.errorPolicy before recorded := by
  -- in the first pass nothing is recorded before the call
  have first {s v : ExecutionState} {journal before after : List RunMark} {r : Except AgentError ExecutionState}
      (check : p.CheckTrace s (.proceed v)) (pass : p.PassTrace v journal r) (left : ∀ m ∈ journal, m.LeavesSteps)
      (call : journal = before ++ .drove t result :: after) (marks : List RunMark) :
      s.isBarred = false ∧ ∃ recorded, t.steps = s.steps ++ recorded ∧ AllOverlooked p.errorPolicy marks recorded := by
    obtain ⟨rfl, unbarred⟩ := check.unbarred_of_proceed checked
    have none := pass.steps_of_call call fun m hm => (left m hm).1
    exact ⟨unbarred, [], by rw [none, List.append_nil], .nil⟩
  induction h generalizing before with
  | cutOff s => simp at call
  | stopped _ =>
    obtain ⟨before', -, call₁⟩ := split_cons rfl rfl call
    simp at call₁
  | failed check pass =>
    obtain ⟨before', rfl, call₁⟩ := split_cons rfl rfl call
    exact first check pass (List.forall_mem_cons.1 left).2 call₁ _
  | @passed _ s v u _ _ _ check pass _ ih =>
    obtain ⟨before', rfl, call₁⟩ := split_cons rfl rfl call
    simp only [List.forall_mem_cons, List.forall_mem_append] at left left'
    rcases split_append call₁ with ⟨last, call₂, -⟩ | ⟨last, rfl, call₂⟩
    · exact first check pass left.2.1 call₂ _
    · -- the call belongs to a later pass, which does not begin in a barred state
      obtain ⟨rfl, unbarred⟩ := check.unbarred_of_proceed checked
      obtain ⟨unbarred', recorded', steps', overlooked'⟩ := ih left.2.2 left'.2.2 call₂
      obtain ⟨recorded, steps, good⟩ := pass.bars left.2.1 left'.2.1
      have overlooked := good.resolve_left (by simp [unbarred'])
      refine ⟨unbarred, recorded ++ recorded', by rw [steps', steps, List.append_assoc], ?_⟩
      exact (overlooked.mono (by simp +contextual)).append (overlooked'.mono (by simp +contextual))

end Loop

/-! ## Runs -/

variable (p)

/-- As long as handlers and hooks leave the recorded steps and the status alone: with a check for failures among its
criteria, a run has recorded at each call of the driver no failed step but those that the driver has returned without
saying why they failed, and that the policy forgave. So after any other failed step the driver is not called again,
whichever failures the policy ignores. -/
theorem driver_rests_after_error (checked : .errorPresence ∈ p.criteria) (token : Token) (rounds : Nat)
    (s : ExecutionState) (frame : Frame) (w : World σ)
    (left : ∀ m ∈ ((p.run token rounds s).exec frame w).journal, m.LeavesSteps)
    (left' : ∀ m ∈ ((p.run token rounds s).exec frame w).journal, m.LeavesStatus) {t : ExecutionState}
    {result : Except AgentError Step}
    (call : ((p.run token rounds s).exec frame w).journal = before ++ .drove t result :: after) :
    ∃ recorded, t.steps = s.steps ++ recorded ∧
      ∀ step ∈ recorded, step.isError = true →
        step.failure = none ∧ ∃ u, .drove u (.ok step) ∈ before ∧ p.errorPolicy.forgives u .unknown = true := by
  have trace := p.runTrace_exec token rounds s frame w
  obtain ⟨first, middle, last, u, r, began, loop, -, same, before', after', rfl, call', -⟩ := trace.of_call call
  rw [same] at left left'
  simp only [List.forall_mem_append] at left left'
  obtain ⟨unbarred, recorded, steps, overlooked⟩ := loop.overlooked_of_call checked left.2.1 left'.2.1 call'
  have none : u.steps = s.steps := (began.bars left.1 left'.1).resolve_left (by simp [unbarred])
  exact ⟨recorded, by rw [steps, none], overlooked.mono (by simp +contextual)⟩

/-- A pipeline that stops for failed steps, whose driver first fails without saying why, and then answers. -/
def failsSilently : Pipeline Nat where
  driver :=
    { name := "fails_then_answers"
      useTools := fun s _ _ => do
        let begun ← Program.perform (Act.modifyGet fun n => (n, n + 1))
        let now ← Program.readClock
        if begun = 0 then
          return .ok { Step.failed .unknown "" s.inferenceMessages now now with failure := none }
        else return .ok (.finalResponse s.inferenceMessages [.assistant "answer"] none now now) }
  tools := .empty
  schemas := .lenient
  criteria := [.errorPresence, .toolCallPresence]
  errorPolicy := { onUnknownError := .ignore }

theorem failsSilently_leaves :
    let outcome :=
      (failsSilently.run (.run 0) 3 (.ofUser "question")).exec ⟨fun _ => ⟨0, 0⟩, fun _ => 0, {}⟩ { own := 0 }
    (∀ m ∈ outcome.journal, m.LeavesSteps) ∧ ∀ m ∈ outcome.journal, m.LeavesStatus := by
  refine ⟨List.forall_iff_forall_mem.1 ?_, by decide +kernel⟩
  repeat' first | exact trivial | exact ⟨trivial, trivial⟩ | exact ⟨rfl, rfl⟩ | constructor

/-- The failed step that is recorded at the second call was such a one. -/
theorem driver_rests_after_error_failsSilently :
    let outcome :=
      (failsSilently.run (.run 0) 3 (.ofUser "question")).exec ⟨fun _ => ⟨0, 0⟩, fun _ => 0, {}⟩ { own := 0 }
    .errorPresence ∈ failsSilently.criteria ∧ (∀ m ∈ outcome.journal, m.LeavesSteps) ∧
      (∀ m ∈ outcome.journal, m.LeavesStatus) ∧
      ∃ t result, outcome.journal = outcome.journal.take 11 ++ .drove t result :: outcome.journal.drop 12 ∧
        ∃ step ∈ t.steps, step.isError = true ∧ step.failure = none := by
  intro outcome
  have checked : .errorPresence ∈ failsSilently.criteria := List.mem_cons_self
  obtain ⟨left, left'⟩ := failsSilently_leaves
  have call : outcome.journal = outcome.journal.take 11 ++ .drove _ _ :: outcome.journal.drop 12 := rfl
  obtain ⟨recorded, steps, overlooked⟩ :=
    failsSilently.driver_rests_after_error checked (.run 0) 3 (.ofUser "question") _ _ left left' call
  refine ⟨checked, left, left', _, _, call, ?_⟩
  have failed : ∃ step ∈ recorded, step.isError = true := by
    rw [← List.nil_append recorded, ← show _ = [] ++ recorded from steps]
    exact ⟨_, List.mem_singleton.2 rfl, rfl⟩
  obtain ⟨step, hs, isError⟩ := failed
  refine ⟨step, ?_, isError, (overlooked step hs isError).1⟩
  rw [steps]
  exact List.mem_append_right _ hs

/-- The criterion does not see the failed step, and the driver is called again after it. -/
theorem driver_called_after_error :
    let outcome :=
      (failsSilently.run (.run 0) 3 (.ofUser "question")).exec ⟨fun _ => ⟨0, 0⟩, fun _ => 0, {}⟩ { own := 0 }
    .errorPresence ∈ failsSilently.criteria ∧ (∀ m ∈ outcome.journal, m.LeavesSteps) ∧
      (∀ m ∈ outcome.journal, m.LeavesStatus) ∧
      ∃ before u step middle t result after,
        outcome.journal = before ++ .drove u (.ok step) :: (middle ++ .drove t result :: after) ∧
          step.isError = true ∧ t.steps = [step] := by
  intro outcome
  obtain ⟨left, left'⟩ := failsSilently_leaves
  have calls : outcome.journal = outcome.journal.take 5 ++ .drove _ (.ok _) ::
      ((outcome.journal.drop 6).take 5 ++ .drove _ _ :: outcome.journal.drop 12) := rfl
  exact ⟨List.mem_cons_self, left, left', _, _, _, _, _, _, _, calls, rfl, rfl⟩

end Pipeline

end AgentLoop
