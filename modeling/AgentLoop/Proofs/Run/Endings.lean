import AgentLoop.Agent.Builder
import AgentLoop.Proofs.Driver.Steps
import AgentLoop.Proofs.Effect.Advance
import AgentLoop.Proofs.Run.EndRequests
import AgentLoop.Proofs.Run.FailureCounts
import AgentLoop.Proofs.Run.FinalAnswer
import AgentLoop.Proofs.Run.Iteration

/-!
# How plain runs end

A pipeline without hooks and handlers decides about the end of its runs alone:

- `Pipeline.Bare`: such a pipeline. Its phases change nothing but a missing reason (`PhaseTrace.bare`), so that a pass
  records one step and counts it (`PassTrace.bare`);
- `Unhindered`: what is known at its checks: the counts and the latest step are those of the recorded steps, and the run
  goes on, or it has failed with the failure for which the policy refuses to go on;
- `Rounds.last_check`: a run that returns a state was stopped at a last check. If it is not cancelled, the status or a
  criterion stopped it (`stopped_of_uncancelled`);
- `AgentBuilder.Plain`: an agent with one of the two drivers and nothing of its own around it; `AgentConfig.Ends`: how a
  run may end, as decided by its last step;
- `plain_run_ends`: so ends every run of a plain agent that returns a state and is not cancelled.
-/

namespace AgentLoop

/-- Why a step fails the run: it is a failed step with that cause, or another step with failed tools, which is a failure
of tools. -/
inductive Step.FailsWith (step : Step) (failure : StepFailure) : Prop
  | error : step.isError = true → failure = step.cause → FailsWith step failure
  | tools : step.isError = false → 0 < step.failedToolCount → failure.kind = .tool → FailsWith step failure

theorem Step.failsWith_of_verdict {step : Step} {failure : StepFailure} (verdict : step.verdict = some failure) :
    step.FailsWith failure := by
  unfold Step.verdict at verdict
  split at verdict
  · rename_i failed
    exact .error failed (Option.some.inj verdict).symm
  · rename_i fine
    split at verdict
    · cases verdict
    · rename_i tools
      cases verdict
      exact .tools (Bool.eq_false_iff.2 fine) (Nat.pos_of_ne_zero tools) rfl

/-! ## What is known at a check -/

/-- What is known after some steps of a run in which nobody interferes: the counts and the latest step are those of the
steps, and the run goes on, or it has failed with the failure for which the policy refuses to go on. Final answers come
without tool executions. -/
structure Unhindered (policy : ErrorPolicy) (steps : List Step) (t : ExecutionState) : Prop where
  counts : CountsFailures policy steps t
  latest : t.currentStep = steps.getLast?
  reason : (t.status = .running ∧ t.termination = none) ∨
    ∃ failure, policy.Refuses steps failure ∧ t.status = .failed ∧
      t.termination = some (.error failure.kind failure.message)
  answers : ∀ step ∈ steps, step.isFinal = true → step.toolExecutions = []

theorem ExecutionState.settled_of_running {s : ExecutionState} (running : s.status = .running) : s.settled = s := by
  unfold settled
  split
  · rfl
  · rw [running]

theorem ExecutionState.settled_of_reason {s : ExecutionState} {reason : TerminationReason}
    (ended : s.termination = some reason) : s.settled = s := by
  unfold settled
  rw [if_pos (by rw [ended]; rfl)]

namespace Unhindered

variable {policy : ErrorPolicy} {steps : List Step} {step : Step} {s t : ExecutionState}

theorem started (s : ExecutionState) (now : Instant) : Unhindered policy [] (s.withRunStarted now) :=
  ⟨.started s now, rfl, .inl ⟨rfl, rfl⟩, by simp⟩

theorem termination (h : Unhindered policy steps s) (running : s.status = .running) : s.termination = none := by
  rcases h.reason with ⟨-, none⟩ | ⟨_, -, failed, -⟩
  · exact none
  · rw [running] at failed
    cases failed

theorem settled (h : Unhindered policy steps s) : s.settled = s := by
  rcases h.reason with ⟨running, -⟩ | ⟨_, -, -, reason⟩
  · exact s.settled_of_running running
  · exact s.settled_of_reason reason

/-- The failure as which the last step counts is the one for which the policy refuses to go on, if it does. -/
theorem concat (h : Unhindered policy steps s) (counts : CountsFailures policy (steps ++ [step]) t)
    (latest : t.currentStep = some step) (answer : step.isFinal = true → step.toolExecutions = [])
    (reason : (t.status = .running ∧ t.termination = none) ∨
      ∃ failure, step.verdict = some failure ∧ t.status = .failed ∧
        t.termination = some (.error failure.kind failure.message)) : Unhindered policy (steps ++ [step]) t := by
  refine ⟨counts, by rw [latest, List.getLast?_concat], ?_, ?_⟩
  · refine reason.imp id ?_
    rintro ⟨failure, verdict, failed, termination⟩
    obtain ⟨other, refuses⟩ := counts.failed.1 failed
    have last := refuses.last
    rw [List.getLast?_concat] at last
    obtain rfl : failure = other := Option.some.inj (verdict.symm.trans last)
    exact ⟨failure, refuses, failed, termination⟩
  · exact List.forall_mem_append.2 ⟨h.answers, List.forall_mem_singleton.2 answer⟩

theorem failedStep (h : Unhindered policy steps s) (running : s.status = .running) (failed : step.isError = true) :
    Unhindered policy (steps ++ [step]) (s.withFailedStep policy step step.cause) := by
  have none := h.termination running
  refine h.concat (h.counts.failedStep running failed) ?_ ?_ ?_
  · obtain ⟨_, _, same, -⟩ := s.withFailedStep_eq policy step step.cause
    rw [same]
  · intro final
    rw [Step.isFinal_of_isError failed] at final
    cases final
  · unfold ExecutionState.withFailedStep
    dsimp only
    split
    · exact .inl ⟨running, none⟩
    · exact .inr ⟨step.cause, Step.verdict_of_isError failed, rfl, rfl⟩

theorem recorded (h : Unhindered policy steps s) (running : s.status = .running) (fine : step.isError = false)
    (answer : step.isFinal = true → step.toolExecutions = []) (keepTraces : Bool) :
    Unhindered policy (steps ++ [step])
      ((s.withOutcome step keepTraces).withToolFailures policy step.failedToolCount) := by
  obtain ⟨_, _, outcome⟩ := s.withOutcome_eq step keepTraces
  have counts := h.counts.of_same (s.sameCounts_outcome step keepTraces)
  have none : (s.withOutcome step keepTraces).termination = none := by
    rw [outcome]
    exact h.termination running
  have running : (s.withOutcome step keepTraces).status = .running := by
    rw [outcome]
    exact running
  refine h.concat (counts.toolFailures running fine) ?_ answer ?_
  · rw [ExecutionState.currentStep_toolFailures, s.currentStep_withOutcome]
  · rcases (s.withOutcome step keepTraces).sameEnding_toolFailures policy step with same | failed
    · exact .inl ⟨same.status.trans running, (same.termination trivial).trans none⟩
    · have verdict : step.verdict = some ⟨.tool, toString step.failedToolCount ++ " tool execution(s) failed"⟩ := by
        simp [Step.verdict, fine, Nat.ne_of_gt failed.tools]
      exact .inr ⟨_, verdict, failed.status, failed.termination trivial⟩

end Unhindered

namespace Pipeline

open Program

variable {σ : Type} {p : Pipeline σ} {phase : Phase} {s t u : ExecutionState} {journal : List RunMark}

/-! ## The last check -/

/-- A loop that comes to a state was stopped at a last check, and what follows is the end of the run. -/
theorem Rounds.last_check {token : Token} {frame : Frame} {n : Nat} {w w' : World σ} {states : List ExecutionState}
    {r : Option (Except AgentError ExecutionState)} (h : p.Rounds token frame n s w states r w' journal)
    (returned : r = some (.ok t)) :
    ∃ before u v after w₀, journal = before ++ .entered .shouldContinue u :: after ∧
      ((p.continuation token u).exec frame w₀).value = .stop v ∧ p.EndTrace v after (.ok t) ∧
      w₀.cancelled <+: w'.cancelled := by
  induction h with
  | cutOff s w => cases returned
  | failed _ _ => cases returned
  | @stopped _ u v w₀ w₁ w₂ j₁ after _ check finish =>
    cases returned
    have checked := checkTrace_of_mayLeave (mayLeave_exec (p.continuation token u) frame w₀)
    have ended := endTrace_of_mayLeave (mayLeave_exec (p.afterExecution v) frame w₁)
    have first := (p.continuation token u).cancelled_exec frame w₀
    have second := (p.afterExecution v).cancelled_exec frame w₁
    rw [check] at checked first
    rw [finish] at ended second
    obtain rfl : j₁ = [.entered .shouldContinue u] := checked.1
    exact ⟨[], u, v, after, w₀, rfl, by rw [check], ended, first.trans second⟩
  | @stepped _ _ _ _ _ _ _ _ j₁ j₂ _ _ _ _ _ _ ih =>
    obtain ⟨before, u, v, after, w₀, rfl, check, ended, cancelled⟩ := ih returned
    exact ⟨j₁ ++ (j₂ ++ before), u, v, after, w₀, by simp, check, ended, cancelled⟩

/-- So was a run that returns a state. -/
theorem last_check (p : Pipeline σ) (token : Token) (rounds : Nat) (s t : ExecutionState) (frame : Frame) (w : World σ)
    (returned : ((p.run token rounds s).exec frame w).value = some (.ok t)) :
    ∃ before u v after w₀,
      ((p.run token rounds s).exec frame w).journal = before ++ .entered .shouldContinue u :: after ∧
        ((p.continuation token u).exec frame w₀).value = .stop v ∧ p.EndTrace v after (.ok t) ∧
        w₀.cancelled <+: ((p.run token rounds s).exec frame w).world.cancelled := by
  rw [run_eq, exec_bind] at returned ⊢
  cases began : ((p.beforeExecution s).exec frame w).value with
  | error e => simp [began] at returned
  | ok u =>
    obtain ⟨states, r, w', journal, rounds⟩ :=
      p.exists_rounds token frame rounds u ((p.beforeExecution s).exec frame w).world
    simp only [began, rounds.exec_loop] at returned ⊢
    obtain ⟨before, v, v', after, w₀, rfl, rest⟩ := rounds.last_check returned
    exact ⟨_ ++ before, v, v', after, w₀, by rw [List.append_assoc], rest⟩

/-- A check that is not cancelled stops the loop for a terminal status or for a criterion. -/
theorem stopped_of_uncancelled {token : Token} {frame : Frame} {w : World σ} {v : ExecutionState}
    (stopped : ((p.continuation token u).exec frame w).value = .stop v)
    (uncancelled : token.isCancelled w.cancelled = false) :
    (u.isTerminal = true ∧ v = u) ∨
      u.isTerminal = false ∧ ∃ n name detail,
        Criterion.firstStop p.criteria ⟨u, (u.elapsed (frame.clock n)).getD 0⟩ = some (name, detail) ∧
          v = u.completed (if u.isAnswered then .finalResponse else .criterion name detail) := by
  unfold continuation at stopped
  simp only [bind_eq, exec_bind, exec_note] at stopped
  by_cases terminal : u.isTerminal = true
  · rw [if_pos terminal] at stopped
    cases stopped
    exact .inl ⟨terminal, rfl⟩
  · rw [if_neg terminal] at stopped
    refine .inr ⟨Bool.eq_false_iff.2 terminal, w.ticks, ?_⟩
    cases stop : Criterion.firstStop p.criteria ⟨u, (u.elapsed (frame.clock w.ticks)).getD 0⟩ with
    | none => simp [exec_bind, uncancelled, stop] at stopped
    | some reason =>
      refine ⟨reason.1, reason.2, rfl, ?_⟩
      simp only [exec_bind, exec_askCancelled, uncancelled, Bool.false_eq_true, if_false, exec_readClock, stop,
        pure_eq, exec_done, Continuation.stop.injEq] at stopped
      exact stopped.symm

/-! ## Bare pipelines -/

/-- A pipeline without hooks and handlers. -/
structure Bare (p : Pipeline σ) : Prop where
  hooks : ∀ t, p.hooks.handles t = false
  handlers : p.handlers = []

section Bare

variable (isBare : p.Bare)

include isBare

theorem HandlerTrace.bare {r : Except Interruption ExecutionState}
    (h : HandlerTrace phase (p.handlersOf phase) s journal r) : journal = [] ∧ r = .ok s := by
  have none : p.handlersOf phase = [] := by rw [handlersOf, isBare.handlers]; rfl
  rw [none] at h
  cases h
  exact ⟨rfl, rfl⟩

/-- A phase finds a missing reason, and does nothing else. -/
theorem PhaseTrace.bare {r : Except Interruption ExecutionState} (h : p.PhaseTrace phase s journal r) :
    journal = [.entered phase s] ∧ r = .ok s.settled := by
  cases h with
  | interrupted handlers => cases (HandlerTrace.bare isBare handlers).2
  | silent _ handlers =>
    obtain ⟨rfl, same⟩ := HandlerTrace.bare isBare handlers
    cases same
    exact ⟨rfl, rfl⟩
  | @hooked trigger _ _ _ _ _ handlers hooks =>
    obtain ⟨rfl, same⟩ := HandlerTrace.bare isBare handlers
    cases same
    cases hooks with
    | unhandled _ => exact ⟨rfl, rfl⟩
    | dispatched handles _ =>
      rw [isBare.hooks] at handles
      cases handles

theorem FailureTrace.bare {step : Step} (h : p.FailureTrace s step journal (.ok t)) :
    journal = p.failureMarks s step ∧ t = s.withFailedStep p.errorPolicy step step.cause := by
  have silent {v w : ExecutionState} {failure : StepFailure} {journal : List RunMark}
      (hooks : p.FailureHookTrace v failure journal w) : journal = [] ∧ w = v := by
    cases hooks with
    | unhandled _ => exact ⟨rfl, rfl⟩
    | dispatched handles _ =>
      rw [isBare.hooks] at handles
      cases handles
  cases h with
  | swallowed handlers _ _ => cases (HandlerTrace.bare isBare handlers).2
  | handled handlers hooks =>
    obtain ⟨rfl, same⟩ := HandlerTrace.bare isBare handlers
    cases same
    obtain ⟨rfl, rfl⟩ := silent hooks
    exact ⟨List.append_nil _, rfl⟩

/-- A pass from a running state calls the driver, records the step and counts it. -/
theorem PassTrace.bare (h : p.PassTrace s journal (.ok t)) (running : s.status = .running) :
    (∀ m ∈ journal, m.isCollaboration = false) ∧ ∃ marks result step,
      (p.driver.useTools s.withStepStarted p.tools p.executor).MayLeave marks result ∧
        CountsAs s.withStepStarted result (.ok step) ∧
          ((step.isError = true ∧ t = s.withStepStarted.withFailedStep p.errorPolicy step step.cause) ∨
            step.isError = false ∧
              t = ((s.withStepStarted.withOutcome step p.keepToolTraces).withToolFailures p.errorPolicy
                step.failedToolCount).settled) := by
  have begun : s.withStepStarted.settled = s.withStepStarted := ExecutionState.settled_of_running running
  cases h with
  | interrupted before _ => cases (before.bare isBare).2
  | ended before terminal =>
    cases (before.bare isBare).2
    rw [begun, ExecutionState.isTerminal, show s.withStepStarted.status = .running from running] at terminal
    cases terminal
  | @called _ _ marks _ result _ before _ leaves follows =>
    obtain ⟨rfl, same⟩ := before.bare isBare
    cases same
    rw [begun] at leaves follows
    rw [begun]
    cases follows with
    | @failed _ step _ counts failed failure =>
      obtain ⟨rfl, rfl⟩ := failure.bare isBare
      refine ⟨?_, marks, result, step, leaves, counts, .inl ⟨failed, rfl⟩⟩
      simp [passMark, callMarks, failureMarks, RunMark.isCollaboration, or_imp, forall_and]
    | @recorded _ step _ counts fine record =>
      have outcome : (s.withStepStarted.withOutcome step p.keepToolTraces).settled =
          s.withStepStarted.withOutcome step p.keepToolTraces := by
        obtain ⟨_, _, same⟩ := s.withStepStarted.withOutcome_eq step p.keepToolTraces
        refine ExecutionState.settled_of_running ?_
        rw [same]
        exact running
      cases record with
      | interrupted executed _ => cases (executed.bare isBare).2
      | interruptedLate _ after _ => cases (after.bare isBare).2
      | completed executed after =>
        obtain ⟨rfl, same⟩ := executed.bare isBare
        cases same
        obtain ⟨rfl, same⟩ := after.bare isBare
        cases same
        refine ⟨?_, marks, result, step, leaves, counts, .inr ⟨fine, by rw [outcome]⟩⟩
        simp [passMark, callMarks, RunMark.isCollaboration, or_imp, forall_and]

theorem BeginTrace.bare (h : p.BeginTrace s journal (.ok t)) :
    (∀ m ∈ journal, m.isCollaboration = false) ∧ ∃ now, t = s.withRunStarted now := by
  cases h with
  | interrupted began _ => cases (began.bare isBare).2
  | @begun now _ _ began =>
    obtain ⟨rfl, same⟩ := began.bare isBare
    cases same
    refine ⟨?_, now, ExecutionState.settled_of_running rfl⟩
    simp [RunMark.isCollaboration]

/-- At its end, a run that has ended keeps its status, its reason and its steps. -/
theorem EndTrace.bare (h : p.EndTrace s journal (.ok t)) (terminal : s.isTerminal = true) {reason : TerminationReason}
    (ended : s.termination = some reason) :
    t.status = s.status ∧ t.termination = some reason ∧ t.steps = s.steps ∧ journal.filter RunMark.drives = [] := by
  have silent := filter_drives_plain h.plain
  have kept := h.steps
  cases h with
  | failed phase _ _ => cases (phase.bare isBare).2
  | finished phase same =>
    obtain ⟨rfl, settled⟩ := phase.bare isBare
    cases settled
    rw [ExecutionState.settled_of_reason ended] at same
    have ending : s.SameEnding True _ := ExecutionState.sameEnding_ended terminal p.keepToolTraces
    refine ⟨by rw [same]; exact ending.status, by rw [same]; exact (ending.termination trivial).trans ended,
      kept ?_, silent⟩
    simp [endMark, RunMark.LeavesHistory, RunMark.Leaves]

end Bare

/-- Where no collaborator acts, no handler fails and nothing is changed. -/
theorem fails_of_not_collaboration {m : RunMark} (silent : m.isCollaboration = false) :
    m.fails = false ∧ m.LeavesCounts ∧ m.LeavesHistory := by
  cases m with
  | handled _ _ _ => cases silent
  | dispatched _ _ => cases silent
  | _ => exact ⟨rfl, trivial, trivial⟩

/-- A part of a run records some steps, and what is known before it is known with these steps after it. -/
structure Undisturbed (p : Pipeline σ) (s : ExecutionState) (journal : List RunMark) (t : ExecutionState)
    (steps : List Step) : Prop where
  stand : List.Forall₂ StandsFor (journal.filter RunMark.drives) steps
  history : t.steps = s.steps ++ steps
  unhindered {earlier : List Step} :
    Unhindered p.errorPolicy earlier s → Unhindered p.errorPolicy (earlier ++ steps) t

section BuiltIn

variable (isBare : p.Bare) (b : BuiltIn σ) (builtIn : p.driver = b.driver)

include isBare builtIn

theorem PassTrace.undisturbed (h : p.PassTrace s journal (.ok t)) (running : s.status = .running) :
    ∃ step, p.Undisturbed s journal t [step] := by
  obtain ⟨silent, marks, result, step, leaves, counts, takes⟩ := h.bare isBare running
  have untouched := fun m hm => fails_of_not_collaboration (silent m hm)
  obtain ⟨other, tallies⟩ := h.tallies running (fun m hm => (untouched m hm).1) fun m hm => (untouched m hm).2.1
  have steps := tallies.steps fun m hm => (untouched m hm).2.2
  have answer : step.isFinal = true → step.toolExecutions = [] := by
    rw [builtIn] at leaves
    obtain ⟨-, gives⟩ := (b.gives_step s.withStepStarted p.tools p.executor).ensures.mayLeave leaves
    cases counts with
    | step _ => exact (gives step rfl).final
    | failure _ _ _ => exact fun _ => rfl
  have same : t.steps = s.steps ++ [step] := by
    rcases takes with ⟨-, rfl⟩ | ⟨-, rfl⟩
    · exact ExecutionState.steps_withFailedStep _ _ _ _
    · rw [(ExecutionState.sameConversation_settled _).steps, (ExecutionState.sameConversation_toolFailures _ _ _).steps]
      exact ExecutionState.steps_withOutcome _ _ _
  obtain rfl : step = other := by simpa [same] using steps
  refine ⟨step, tallies.stand, steps, fun earlier => ?_⟩
  have begun : Unhindered p.errorPolicy _ s.withStepStarted :=
    ⟨earlier.counts.stepStarted, earlier.latest, earlier.reason, earlier.answers⟩
  rcases takes with ⟨failed, rfl⟩ | ⟨fine, rfl⟩
  · exact begun.failedStep running failed
  · have recorded := begun.recorded running fine answer p.keepToolTraces
    rwa [recorded.settled]

theorem PassedTo.undisturbed (h : p.PassedTo s journal t) : ∃ steps, p.Undisturbed s journal t steps := by
  induction h with
  | here s => exact ⟨[], .nil, (List.append_nil _).symm, fun earlier => by rwa [List.append_nil]⟩
  | @passed s t u journal journal' check pass _ ih =>
    obtain ⟨-, running, -⟩ := check.granted_of_proceed
    obtain ⟨step, first⟩ := pass.undisturbed isBare b builtIn (ExecutionState.status_of_not_terminal running)
    obtain ⟨steps, rest⟩ := ih
    refine ⟨step :: steps, ?_, ?_, fun earlier => ?_⟩
    · rw [List.filter_cons_of_neg (by simp [RunMark.drives]), List.filter_append]
      exact List.rel_append first.stand rest.stand
    · rw [rest.history, first.history, List.append_assoc]
      rfl
    · have whole := rest.unhindered (first.unhindered earlier)
      rwa [List.append_assoc] at whole

/-- At a check of a run, something is known. -/
theorem RunTrace.undisturbed {rounds : Nat} {before after : List RunMark}
    {r : Option (Except AgentError ExecutionState)} (h : p.RunTrace rounds s journal r)
    (check : journal = before ++ .entered .shouldContinue t :: after) :
    ∃ steps, List.Forall₂ StandsFor (before.filter RunMark.drives) steps ∧ t.steps = s.steps ++ steps ∧
      Unhindered p.errorPolicy steps t := by
  obtain ⟨first, before, u, rfl, began, passed⟩ := h.of_check check
  obtain ⟨-, now, rfl⟩ := began.bare isBare
  obtain ⟨steps, rest⟩ := passed.undisturbed isBare b builtIn
  refine ⟨steps, ?_, rest.history, rest.unhindered (.started s now)⟩
  rw [List.filter_append, filter_drives_plain began.plain]
  exact rest.stand

end BuiltIn

end Pipeline

/-! ## Plain agents -/

/-- An agent with one of the two drivers, and without hooks, handlers or criteria of its own. -/
structure AgentBuilder.Plain {σ : Type} (b : AgentBuilder σ) : Prop where
  choice : b.choice = .toolCalling ∨ b.choice = .react
  hooks : b.hooks = .empty
  handlers : b.handlers = []
  criteria : b.criteria = []

namespace AgentBuilder.Plain

variable {σ : Type} {b : AgentBuilder σ}

theorem driver (plain : b.Plain) : ∃ d : BuiltIn σ, b.driver = d.driver := by
  unfold AgentBuilder.driver
  rcases plain.choice with choice | choice
  · rw [choice]
    exact ⟨.toolCalling _, rfl⟩
  · rw [choice]
    exact ⟨.react _, rfl⟩

/-- The pipeline of a plain agent is bare, and its criteria are those of the settings. -/
theorem pipeline (plain : b.Plain) :
    b.pipeline.hooks = .empty ∧ b.pipeline.handlers = [] ∧ b.pipeline.criteria = b.config.criteria ∧
      b.pipeline.driver = b.driver ∧ b.pipeline.errorPolicy = b.config.errorPolicy := by
  unfold AgentBuilder.pipeline
  rw [plain.handlers, plain.hooks, plain.criteria, List.append_nil]
  exact ⟨rfl, rfl, rfl, rfl, rfl⟩

end AgentBuilder.Plain

/-- How a run with some recorded steps ends: with the answer if the last step is one, with the failure for which the
policy refuses to go on after the last step, and otherwise because of a criterion of the settings, which stops it at
a check after the last step. -/
structure AgentConfig.Ends (config : AgentConfig) (clock : Nat → Instant) (journal : List RunMark)
    (recorded : List Step) (t : ExecutionState) : Prop where
  answered : (t.status = .completed ∧ t.termination = some .finalResponse) ↔
    ∃ step, recorded.getLast? = some step ∧ step.isFinal = true
  failed (failure : StepFailure) :
    (t.status = .failed ∧ t.termination = some (.error failure.kind failure.message)) ↔
      config.errorPolicy.Refuses recorded failure
  refused {failure : StepFailure} : config.errorPolicy.Refuses recorded failure →
    ∃ step, recorded.getLast? = some step ∧ step.FailsWith failure
  limited : (¬∃ step, recorded.getLast? = some step ∧ step.isFinal = true) →
    (¬∃ failure, config.errorPolicy.Refuses recorded failure) →
    ∃ name detail u n, t.status = .completed ∧ t.termination = some (.criterion name detail) ∧
      .entered .shouldContinue u ∈ journal ∧ u.steps = t.steps ∧
      Criterion.firstStop config.criteria ⟨u, (u.elapsed (clock n)).getD 0⟩ = some (name, detail)

theorem ErrorPolicy.Refuses.failsWith {policy : ErrorPolicy} {steps : List Step} {failure : StepFailure}
    (refuses : policy.Refuses steps failure) : ∃ step, steps.getLast? = some step ∧ step.FailsWith failure := by
  obtain ⟨step, last, verdict⟩ := Option.bind_eq_some_iff.1 refuses.last
  exact ⟨step, last, Step.failsWith_of_verdict verdict⟩

theorem ErrorPolicy.Refuses.unique {policy : ErrorPolicy} {steps : List Step} {failure other : StepFailure}
    (refuses : policy.Refuses steps failure) (refuses' : policy.Refuses steps other) : failure = other :=
  Option.some.inj (refuses.last.symm.trans refuses'.last)

namespace Unhindered

variable {policy : ErrorPolicy} {steps : List Step} {t : ExecutionState} {failure : StepFailure}

/-- The policy does not refuse to go on after an answer. -/
theorem not_final (h : Unhindered policy steps t) (refuses : policy.Refuses steps failure) :
    ¬∃ step, steps.getLast? = some step ∧ step.isFinal = true := by
  rintro ⟨step, last, final⟩
  obtain ⟨other, last', fails⟩ := refuses.failsWith
  obtain rfl : step = other := Option.some.inj (last.symm.trans last')
  have noTools := h.answers step (List.mem_of_getLast? last) final
  cases fails with
  | error failed =>
    rw [Step.isFinal_of_isError failed] at final
    cases final
  | tools _ some => simp [Step.failedToolCount, noTools] at some

theorem isAnswered_iff (h : Unhindered policy steps t) :
    t.isAnswered = true ↔ ∃ step, steps.getLast? = some step ∧ step.isFinal = true := by
  rw [ExecutionState.isAnswered, h.latest]
  cases steps.getLast? <;> simp

/-- A run that has failed at its last check ends with the failure for which the policy refused to go on. -/
theorem ends_failed (h : Unhindered policy steps t) (terminal : t.isTerminal = true) :
    ∃ failure, policy.Refuses steps failure ∧ t.status = .failed ∧
      t.termination = some (.error failure.kind failure.message) := by
  rcases h.reason with ⟨running, -⟩ | failed
  · rw [ExecutionState.isTerminal, running] at terminal
    cases terminal
  · exact failed

/-- The policy has not refused to go on where a run is going on. -/
theorem not_refused (h : Unhindered policy steps t) (running : t.isTerminal = false) :
    ¬∃ failure, policy.Refuses steps failure := by
  intro refuses
  rw [ExecutionState.isTerminal, h.counts.failed.2 refuses] at running
  cases running

end Unhindered

namespace AgentConfig.Ends

variable {config : AgentConfig} {clock : Nat → Instant} {journal : List RunMark} {recorded : List Step}
  {t u : ExecutionState}

/-- The end of a run whose policy refuses to go on. -/
theorem of_refused {failure : StepFailure} (known : Unhindered config.errorPolicy recorded u)
    (refuses : config.errorPolicy.Refuses recorded failure) (status : t.status = .failed)
    (termination : t.termination = some (.error failure.kind failure.message)) :
    config.Ends clock journal recorded t where
  answered := by
    refine ⟨fun h => ?_, fun h => absurd h (known.not_final refuses)⟩
    rw [status] at h
    cases h.1
  failed other := by
    refine ⟨fun h => ?_, fun refuses' => ?_⟩
    · have same := termination.symm.trans h.2
      simp only [Option.some.injEq, TerminationReason.error.injEq] at same
      obtain ⟨kind, message⟩ := other
      obtain ⟨rfl, rfl⟩ := same
      exact refuses
    · obtain rfl := refuses.unique refuses'
      exact ⟨status, termination⟩
  refused := ErrorPolicy.Refuses.failsWith
  limited _ unrefused := absurd ⟨failure, refuses⟩ unrefused

/-- The end of a run that a criterion stops. -/
theorem of_stopped {name detail : String} {n : Nat} (known : Unhindered config.errorPolicy recorded u)
    (running : u.isTerminal = false) (check : .entered .shouldContinue u ∈ journal) (steps : u.steps = t.steps)
    (stop : Criterion.firstStop config.criteria ⟨u, (u.elapsed (clock n)).getD 0⟩ = some (name, detail))
    (status : t.status = .completed)
    (termination : t.termination = some (if u.isAnswered then .finalResponse else .criterion name detail)) :
    config.Ends clock journal recorded t where
  answered := by
    rw [← known.isAnswered_iff, status, termination]
    cases u.isAnswered <;> simp
  failed failure := by
    refine ⟨fun h => ?_, fun refuses => absurd ⟨failure, refuses⟩ (known.not_refused running)⟩
    rw [status] at h
    cases h.1
  refused := ErrorPolicy.Refuses.failsWith
  limited unanswered _ := by
    rw [← known.isAnswered_iff] at unanswered
    rw [if_neg unanswered] at termination
    exact ⟨name, detail, u, n, status, termination, check, steps, stop⟩

end AgentConfig.Ends

namespace Pipeline

variable {σ : Type} {p : Pipeline σ}

/-- A run of a bare pipeline with a built-in driver and the policy and the criteria of some settings. -/
theorem Bare.ends (isBare : p.Bare) (b : BuiltIn σ) (builtIn : p.driver = b.driver) (config : AgentConfig)
    (criteria : p.criteria = config.criteria) (errorPolicy : p.errorPolicy = config.errorPolicy) (token : Token)
    (rounds : Nat) (s t : ExecutionState) (frame : Frame) (w : World σ)
    (returned : ((p.run token rounds s).exec frame w).value = some (.ok t))
    (uncancelled : token.isCancelled ((p.run token rounds s).exec frame w).world.cancelled = false) :
    ∃ recorded, List.Forall₂ StandsFor (((p.run token rounds s).exec frame w).journal.filter RunMark.drives) recorded ∧
      t.steps = s.steps ++ recorded ∧
      config.Ends frame.clock ((p.run token rounds s).exec frame w).journal recorded t := by
  have trace := p.runTrace_exec token rounds s frame w
  obtain ⟨before, u, v, after, w₀, journal, stopped, ended, cancelled⟩ := p.last_check token rounds s t frame w returned
  obtain ⟨recorded, stand, steps, known⟩ := trace.undisturbed isBare b builtIn journal
  have check : RunMark.entered .shouldContinue u ∈ ((p.run token rounds s).exec frame w).journal := by simp [journal]
  rw [errorPolicy] at known
  -- no call of the driver follows the last check
  have calls (silent : after.filter RunMark.drives = []) :
      ((p.run token rounds s).exec frame w).journal.filter RunMark.drives = before.filter RunMark.drives := by
    rw [journal, List.filter_append, List.filter_cons_of_neg (by simp [RunMark.drives]), silent, List.append_nil]
  rcases stopped_of_uncancelled stopped (Token.not_isCancelled_mono cancelled uncancelled) with
    ⟨terminal, rfl⟩ | ⟨running, n, name, detail, stop, rfl⟩
  · obtain ⟨failure, refuses, failed, reason⟩ := known.ends_failed terminal
    obtain ⟨status, termination, kept, silent⟩ := ended.bare isBare terminal reason
    rw [calls silent]
    exact ⟨recorded, stand, kept.trans steps, .of_refused known refuses (status.trans failed) termination⟩
  · obtain ⟨status, termination, kept, silent⟩ := ended.bare isBare rfl rfl
    rw [calls silent]
    rw [criteria] at stop
    exact ⟨recorded, stand, kept.trans steps, .of_stopped known running check kept.symm stop status termination⟩

end Pipeline

namespace Session

variable {σ : Type}

/-- A run of an agent with one of the two drivers, without hooks, handlers and criteria of its own, that returns a state
and is not cancelled ends in one of three ways, as its last step decides: with the final answer, with the failure for
which the policy refuses to go on, or because of a criterion. -/
theorem plain_run_ends (b : AgentBuilder σ) (plain : b.Plain) (schedule : Nat → Nat) (frame : Frame) (rounds : Nat)
    (s t : ExecutionState) (session : Session σ)
    (returned : (session.run { b.pipeline with schedule } frame rounds s).1 = some (.ok t))
    (uncancelled : session.slot.token.isCancelled
      (session.run { b.pipeline with schedule } frame rounds s).2.1.world.cancelled = false) :
    ∃ recorded,
      List.Forall₂ StandsFor
        ((session.run { b.pipeline with schedule } frame rounds s).2.2.filter RunMark.drives) recorded ∧
      t.steps = s.steps ++ recorded ∧
      b.config.Ends frame.clock (session.run { b.pipeline with schedule } frame rounds s).2.2 recorded t := by
  obtain ⟨hooks, handlers, criteria, driver, errorPolicy⟩ := plain.pipeline
  obtain ⟨d, builtIn⟩ := plain.driver
  have isBare : Pipeline.Bare { b.pipeline with schedule } := ⟨fun _ => by rw [hooks]; rfl, handlers⟩
  cases held : session.slot.acquire with
  | none => simp [run, held] at returned
  | some slot =>
    have token : slot.token = session.slot.token := by
      unfold Slot.acquire at held
      split at held
      · cases held
      · cases held
        rfl
    simp only [run, held, released] at returned uncancelled ⊢
    rw [← token] at uncancelled
    exact isBare.ends d (driver.trans builtIn) b.config criteria errorPolicy slot.token rounds s t { frame with slot }
      session.world returned uncancelled

/-- An agent without tools that tries again once when its backend fails. -/
def hastyAgent : AgentBuilder Script where
  backend := .scripted (Backend.scriptedInfo "mock" "model") .whole
  schemas := .lenient
  config := { maxSteps := 2, errorPolicy := { onModelError := .retry, maxRetries := 1 } }

/-- What comes of its run with some replies. -/
def hasty (queue : List Reply) : Option (Except AgentError ExecutionState) × Session Script × List RunMark :=
  ({ world := { own := { queue } } } : Session Script).run { hastyAgent.pipeline with schedule := fun _ => 0 }
    ⟨fun n => ⟨n, 0⟩, fun _ => 0, {}⟩ 3 (.ofUser "question")

/-- It ends with an answer, after two failures, or at the limit of its steps. -/
theorem plain_run_ends_hasty :
    hastyAgent.Plain ∧
      ∀ run ∈ [([.text "model" "done"], TerminationReason.finalResponse),
          ([], .error .model "inference failed: Invalid request: MockProvider: script exhausted"),
          ([.toolCalls "model" [⟨"1", "search", .null⟩]], .criterion "steps_limit" "2 of 2 steps used")],
        ∃ t, (hasty run.1).1 = some (.ok t) ∧ t.termination = some run.2 ∧
          ∃ recorded, hastyAgent.config.Ends (fun n => ⟨n, 0⟩) (hasty run.1).2.2 recorded t := by
  have plain : hastyAgent.Plain := ⟨.inl rfl, rfl, rfl, rfl⟩
  have ends (queue : List Reply) (reason : TerminationReason)
      (returned : ∃ t, (hasty queue).1 = some (.ok t) ∧ t.termination = some reason)
      (uncancelled : (hasty queue).2.1.world.cancelled = []) :
      ∃ t, (hasty queue).1 = some (.ok t) ∧ t.termination = some reason ∧
        ∃ recorded, hastyAgent.config.Ends (fun n => ⟨n, 0⟩) (hasty queue).2.2 recorded t := by
    obtain ⟨t, returned, termination⟩ := returned
    have never : Token.isCancelled (hasty queue).2.1.world.cancelled (.run 0) = false := by rw [uncancelled]; rfl
    obtain ⟨recorded, -, -, ending⟩ := plain_run_ends hastyAgent plain (fun _ => 0) _ 3 _ t _ returned never
    exact ⟨t, returned, termination, recorded, ending⟩
  refine ⟨plain, List.forall_mem_cons.2 ⟨?_, List.forall_mem_cons.2 ⟨?_, List.forall_mem_singleton.2 ?_⟩⟩⟩
  · exact ends _ _ (by decide +kernel) (by decide +kernel)
  · exact ends _ _ (by decide +kernel) (by decide +kernel)
  · exact ends _ _ (by decide +kernel) (by decide +kernel)

end Session

end AgentLoop
