import Mathlib.Data.List.Forall2
import AgentLoop.Proofs.Run.EndRequests
import AgentLoop.Proofs.Run.Parts
import AgentLoop.Proofs.Run.Recording

/-!
# The history of failures

While handlers and hooks leave the recorded steps alone, a run records a step for each call of the driver and for each
handler that fails, but for two phases:

- `Phase.recordsFailures`: a failure of a handler for failures is swallowed, and one at the end of a run only ends it;
- `StandsFor`: the step that is recorded for a call of the driver, or for a failed handler, with its kind and message;
- `Recounts`: the steps that are recorded from one state to another stand for the marks of a journal, one for one and in
  their order. It is composed by `Recounts.trans`, and every part of a run recounts its journal
  (`PhaseTrace.recounts_recovery`, `RecordTrace.recounts`, `FollowTrace.recounts`, `PassTrace.recounts`,
  `LoopTrace.recounts`);
- `failures_recorded`: the history of a run recounts its journal, and a failure at its end is the reason for its end.
-/

namespace AgentLoop

/-- Is a step recorded for a handler that fails in this phase? -/
def Phase.recordsFailures : Phase → Bool
  | onError | afterExecution => false
  | _ => true

/-- Is a step recorded for what a mark shows? -/
def RunMark.isRecorded : RunMark → Bool
  | handled phase _ (.error _) => phase.recordsFailures
  | drove _ _ => true
  | _ => false

/-- The step that is recorded for a mark: what the result of a call of the driver counts as, and the error of a
handler. -/
inductive StandsFor : RunMark → Step → Prop
  | call {s : ExecutionState} {result : Except AgentError Step} {step : Step} :
      Pipeline.CountsAs s result (.ok step) → StandsFor (.drove s result) step
  | failure {phase : Phase} {s : ExecutionState} {e : AgentError} (startedAt completedAt : Instant) :
      e.isProgramming = false →
      StandsFor (.handled phase s (.error e)) (.failed e.kind e.message [] startedAt completedAt)

/-- The steps that are recorded from one state to another stand for the marks of a journal, in their order. -/
def Recounts (s : ExecutionState) (journal : List RunMark) (t : ExecutionState) : Prop :=
  ∃ recorded, t.steps = s.steps ++ recorded ∧ List.Forall₂ StandsFor (journal.filter RunMark.isRecorded) recorded

namespace Recounts

variable {s t u : ExecutionState} {journal journal' : List RunMark}

/-- Nothing is recorded. -/
theorem of_unrecorded (same : t.steps = s.steps) (unrecorded : journal.filter RunMark.isRecorded = []) :
    Recounts s journal t := by
  refine ⟨[], by rw [same, List.append_nil], ?_⟩
  rw [unrecorded]
  exact .nil

theorem trans (h : Recounts s journal t) (h' : Recounts t journal' u) : Recounts s (journal ++ journal') u := by
  obtain ⟨first, steps, stand⟩ := h
  obtain ⟨second, steps', stand'⟩ := h'
  refine ⟨first ++ second, by rw [steps', steps, List.append_assoc], ?_⟩
  rw [List.filter_append]
  exact List.rel_append stand stand'

/-- A mark for which nothing is recorded. -/
theorem cons {m : RunMark} (unrecorded : m.isRecorded = false) (h : Recounts s journal t) :
    Recounts s (m :: journal) t := by
  have first : Recounts s [m] s := of_unrecorded rfl (by simp [unrecorded])
  exact first.trans h

end Recounts

namespace Pipeline

variable {σ : Type} {p : Pipeline σ} {phase : Phase} {s t : ExecutionState} {journal : List RunMark}

/-! ## Phases -/

/-- The mark of the handler that failed, if a phase did. -/
def failureOf (phase : Phase) : Except Interruption ExecutionState → List RunMark
  | .ok _ => []
  | .error i => [.handled phase i.state (.error i.error)]

/-- Of the handlers of a phase, a step may be recorded for the one that failed. -/
theorem HandlerTrace.recorded {handlers : List (PhaseHandler σ)} {r : Except Interruption ExecutionState}
    (h : HandlerTrace phase handlers s journal r) :
    journal.filter RunMark.isRecorded = (failureOf phase r).filter RunMark.isRecorded := by
  induction h with
  | done _ => rfl
  | failed _ => rfl
  | passed _ _ ih => exact ih

theorem HookTrace.recorded {trigger : HookTrigger} {ctx : HookContext} (h : p.HookTrace trigger ctx journal t) :
    journal.filter RunMark.isRecorded = [] := by
  cases h <;> rfl

theorem PhaseTrace.recorded {r : Except Interruption ExecutionState} (h : p.PhaseTrace phase s journal r) :
    journal.filter RunMark.isRecorded = (failureOf phase r).filter RunMark.isRecorded := by
  cases h with
  | interrupted handlers => exact handlers.recorded
  | silent _ handlers => exact handlers.recorded
  | @hooked _ first last _ _ _ handlers hooks =>
    have entered : (RunMark.entered phase s :: (first ++ last)).filter RunMark.isRecorded =
        (first ++ last).filter RunMark.isRecorded := rfl
    rw [entered, List.filter_append, handlers.recorded, hooks.recorded]
    rfl

/-- A phase that is over has recorded nothing. -/
theorem PhaseTrace.recounts (h : p.PhaseTrace phase s journal (.ok t)) (left : ∀ m ∈ journal, m.LeavesHistory) :
    Recounts s journal t :=
  .of_unrecorded (h.steps left) h.recorded

theorem FailureHookTrace.recorded {failure : StepFailure} (h : p.FailureHookTrace s failure journal t) :
    journal.filter RunMark.isRecorded = [] := by
  cases h <;> rfl

/-- Of a failure, the failed step alone is recorded, whatever fails in the phase for failures. -/
theorem FailureTrace.recorded {step : Step} {r : Except AgentError ExecutionState}
    (h : p.FailureTrace s step journal r) : journal.filter RunMark.isRecorded = [] := by
  have opening : (p.failureMarks s step).filter RunMark.isRecorded = [] := rfl
  cases h with
  | bug handlers _ =>
    rw [List.filter_append, opening, handlers.recorded]
    rfl
  | swallowed handlers _ hooks =>
    rw [List.filter_append, List.filter_append, opening, handlers.recorded, hooks.recorded]
    rfl
  | handled handlers hooks =>
    rw [List.filter_append, List.filter_append, opening, handlers.recorded, hooks.recorded]
    rfl

theorem FailureTrace.recounts {step : Step} (h : p.FailureTrace s step journal (.ok t))
    (left : ∀ m ∈ journal, m.LeavesHistory) :
    Recounts (s.withFailedStep p.errorPolicy step step.cause) journal t := by
  refine .of_unrecorded ?_ h.recorded
  rw [h.steps left, s.steps_withFailedStep]

/-- For a handler that fails, a step with its error is recorded. -/
theorem PhaseTrace.recounts_recovery {i : Interruption} {journal' : List RunMark}
    (h : p.PhaseTrace phase s journal (.error i)) (recovery : p.RecoveryTrace i journal' (.ok t))
    (records : phase.recordsFailures = true) (left : ∀ m ∈ journal, m.LeavesHistory)
    (left' : ∀ m ∈ journal', m.LeavesHistory) : Recounts s (journal ++ journal') t := by
  cases recovery with
  | @recovered startedAt completedAt _ _ runtime failure =>
    -- the mark of the failed handler is the only one that counts, and its step the first thing to be recorded
    have stopped : Recounts s journal (i.state.withFailedStep p.errorPolicy
        (.failed i.error.kind i.error.message [] startedAt completedAt) ⟨i.error.kind, i.error.message⟩) := by
      have kept : i.state.steps = s.steps := h.steps left
      refine ⟨[.failed i.error.kind i.error.message [] startedAt completedAt], ?_, ?_⟩
      · rw [i.state.steps_withFailedStep, kept]
      · rw [h.recorded, failureOf, List.filter_singleton, RunMark.isRecorded, records]
        exact .cons (.failure startedAt completedAt runtime) .nil
    exact stopped.trans (failure.recounts left')

/-! ## Passes -/

theorem RecordTrace.recounts {number : UInt32} {step : Step} (h : p.RecordTrace number s step journal (.ok t))
    (left : ∀ m ∈ journal, m.LeavesHistory) : Recounts (s.withOutcome step p.keepToolTraces) journal t := by
  have counted (u : ExecutionState) : Recounts u [] (u.withToolFailures p.errorPolicy step.failedToolCount) :=
    .of_unrecorded (u.sameConversation_toolFailures p.errorPolicy step.failedToolCount).steps rfl
  cases h with
  | interrupted executed recovery =>
    obtain ⟨left, left'⟩ := List.forall_mem_append.1 left
    exact executed.recounts_recovery recovery rfl left left'
  | interruptedLate executed after recovery =>
    simp only [List.forall_mem_append] at left
    obtain ⟨left, left', left''⟩ := left
    exact (executed.recounts left).trans ((counted _).trans (after.recounts_recovery recovery rfl left' left''))
  | completed executed after =>
    simp only [List.forall_mem_append] at left
    obtain ⟨left, left', -⟩ := left
    have reported : Recounts t [.event (.stepCompleted number step.stepType)] t := .of_unrecorded rfl rfl
    exact (executed.recounts left).trans ((counted _).trans ((after.recounts left').trans reported))

/-- For a call of the driver, what its result counts as is recorded. -/
theorem recounts_call {marks : List StepMark} {result : Except AgentError Step} {step : Step}
    (counts : CountsAs s result (.ok step)) (steps : t.steps = s.steps ++ [step]) :
    Recounts s (callMarks marks s result) t := by
  refine ⟨[step], steps, ?_⟩
  have unrecorded : (marks.map RunMark.step).filter RunMark.isRecorded = [] := by simp [RunMark.isRecorded]
  rw [callMarks, List.filter_append, unrecorded]
  exact .cons (.call counts) .nil

theorem FollowTrace.recounts {number : UInt32} {result : Except AgentError Step} (marks : List StepMark)
    (h : p.FollowTrace number s result journal (.ok t)) (left : ∀ m ∈ journal, m.LeavesHistory) :
    Recounts s (callMarks marks s result ++ journal) t := by
  cases h with
  | failed counts _ failure =>
    exact (recounts_call counts (s.steps_withFailedStep _ _ _)).trans (failure.recounts left)
  | recorded counts _ record => exact (recounts_call counts (s.steps_withOutcome _ _)).trans (record.recounts left)

theorem PassTrace.recounts (h : p.PassTrace s journal (.ok t)) (left : ∀ m ∈ journal, m.LeavesHistory) :
    Recounts s journal t := by
  have begun : Recounts s [passMark s] s.withStepStarted := .of_unrecorded rfl rfl
  cases h with
  | interrupted before recovery =>
    simp only [List.forall_mem_cons, List.forall_mem_append] at left
    obtain ⟨-, left, left'⟩ := left
    exact begun.trans (before.recounts_recovery recovery rfl left left')
  | ended before _ =>
    simp only [List.forall_mem_cons] at left
    exact begun.trans (before.recounts left.2)
  | called before _ _ follows =>
    simp only [List.forall_mem_cons, List.forall_mem_append] at left
    obtain ⟨-, left, -, left'⟩ := left
    exact begun.trans ((before.recounts left).trans (follows.recounts _ left'))

/-! ## Runs -/

theorem LoopTrace.recounts {rounds : Nat} (h : p.LoopTrace rounds s journal (some (.ok t)))
    (left : ∀ m ∈ journal, m.LeavesHistory) : Recounts s journal t := by
  generalize hr : some (Except.ok t) = r at h
  induction h with
  | cutOff s => cases hr
  | stopped check =>
    cases hr
    refine .of_unrecorded ?_ rfl
    cases check <;> rfl
  | failed _ _ => cases hr
  | passed check pass _ ih =>
    obtain ⟨rfl, -⟩ := check.granted_of_proceed
    simp only [List.forall_mem_cons, List.forall_mem_append] at left
    obtain ⟨-, left, left'⟩ := left
    exact .cons rfl ((pass.recounts left).trans (ih left' hr))

theorem BeginTrace.recounts (h : p.BeginTrace s journal (.ok t)) (left : ∀ m ∈ journal, m.LeavesHistory) :
    Recounts s journal t := by
  have started (now : Instant) : Recounts s [] (s.withRunStarted now) := .of_unrecorded rfl rfl
  cases h with
  | interrupted began recovery =>
    obtain ⟨left, left'⟩ := List.forall_mem_append.1 left
    exact (started _).trans (began.recounts_recovery recovery rfl left left')
  | begun began =>
    have reported : Recounts t [.event (.executionStarted t.messages.length)] t := .of_unrecorded rfl rfl
    exact (started _).trans ((began.recounts (List.forall_mem_append.1 left).1).trans reported)

/-- At the end of a run, nothing is recorded, also where a handler fails. -/
theorem EndTrace.recounts (h : p.EndTrace s journal (.ok t)) (left : ∀ m ∈ journal, m.LeavesHistory) :
    Recounts s journal t := by
  have reported (u : ExecutionState) : [endMark u].filter RunMark.isRecorded = [] := rfl
  refine .of_unrecorded (h.steps left) ?_
  cases h with
  | failed ended _ _ =>
    rw [List.filter_append, ended.recorded, reported]
    rfl
  | finished ended _ =>
    rw [List.filter_append, ended.recorded, reported]
    rfl

theorem RunTrace.recounts {rounds : Nat} (h : p.RunTrace rounds s journal (some (.ok t)))
    (left : ∀ m ∈ journal, m.LeavesHistory) : Recounts s journal t := by
  cases h with
  | looped began loop close =>
    cases close with
    | ended finish =>
      simp only [List.forall_mem_append] at left
      obtain ⟨left, left', left''⟩ := left
      exact (began.recounts left).trans ((loop.recounts left').trans (finish.recounts left''))

/-! ## Failures at the end -/

/-- A run fails with the error of a handler that fails at its end. -/
theorem EndTrace.failed_of_failed_handler {u : ExecutionState} {e : AgentError} (h : p.EndTrace s journal (.ok t))
    (failed : .handled .afterExecution u (.error e) ∈ journal) :
    t.status = .failed ∧ t.termination = some (.error e.kind e.message) := by
  have elsewhere (v : ExecutionState) : RunMark.handled .afterExecution u (.error e) ≠ endMark v := nofun
  cases h with
  | failed ended _ same =>
    cases ended.result_of_failed (by simpa [elsewhere] using failed)
    have kept : (u.failed (.error e.kind e.message)).SameEnding True _ :=
      ExecutionState.sameEnding_ended rfl p.keepToolTraces
    rw [same]
    exact ⟨kept.status, kept.termination trivial⟩
  | finished ended _ => cases ended.result_of_failed (by simpa [elsewhere] using failed)

/-- Marks of a phase stand in no other part of a run. -/
theorem RunTrace.end_of_failed {rounds : Nat} {u : ExecutionState} {e : AgentError}
    (h : p.RunTrace rounds s journal (some (.ok t))) (failed : .handled .afterExecution u (.error e) ∈ journal) :
    t.status = .failed ∧ t.termination = some (.error e.kind e.message) := by
  cases h with
  | looped began loop close =>
    cases close with
    | ended finish =>
      simp only [List.mem_append] at failed
      rcases failed with h | h | h
      · exact absurd (began.within _ h) (by simp [RunMark.Within])
      · exact absurd (loop.within _ h) (by simp [RunMark.Within, passPhases])
      · exact finish.failed_of_failed_handler h

variable (p)

/-- As long as handlers and hooks leave the recorded steps alone, the history of a run that returns a state is this: for
each call of the driver, and for each handler that failed before the end of the run and not in the phase for failures,
one step is recorded, in their order. Runtime errors are recorded as failed steps with their kind and message. A runtime
error of a handler at the end of the run is not recorded; it fails the run and is the reason for that. One of a handler
for failures is lost. -/
theorem failures_recorded (token : Token) (rounds : Nat) (s t : ExecutionState) (frame : Frame) (w : World σ)
    (left : ∀ m ∈ ((p.run token rounds s).exec frame w).journal, m.LeavesHistory)
    (returned : ((p.run token rounds s).exec frame w).value = some (.ok t)) :
    Recounts s ((p.run token rounds s).exec frame w).journal t ∧
      ∀ u e, .handled .afterExecution u (.error e) ∈ ((p.run token rounds s).exec frame w).journal →
        t.status = .failed ∧ t.termination = some (.error e.kind e.message) := by
  have trace := p.runTrace_exec token rounds s frame w
  rw [returned] at trace
  exact ⟨trace.recounts left, fun u e failed => trace.end_of_failed failed⟩

/-- Two failures and an answer are recorded. -/
theorem failures_recorded_stumbled :
    (∀ m ∈ (stumbled .beforeExecution).journal, m.LeavesHistory) ∧
      ∃ t, (stumbled .beforeExecution).value = some (.ok t) ∧
        t.steps.map (fun step => step.failure) =
          [some ⟨.validation, "validation failed: broken"⟩, some ⟨.validation, "validation failed: rejected"⟩, none] ∧
        Recounts (.ofUser "question") (stumbled .beforeExecution).journal t := by
  have left : ∀ m ∈ (stumbled .beforeExecution).journal, m.LeavesHistory := leaves_stumbled _ _
  obtain ⟨t, returned, steps⟩ : ∃ t, (stumbled .beforeExecution).value = some (.ok t) ∧
      t.steps.map (fun step => step.failure) =
        [some ⟨.validation, "validation failed: broken"⟩, some ⟨.validation, "validation failed: rejected"⟩, none] := by
    decide +kernel
  have recounted := (stumbling .beforeExecution).failures_recorded (.run 0) 4 _ t _ _ left returned
  exact ⟨left, t, returned, steps, recounted.1⟩

/-- A handler fails in the phase for failures, or at the end of the run, and no step is recorded for it. -/
theorem failures_not_recorded :
    ((∀ m ∈ (stumbled .onError).journal, m.LeavesHistory) ∧
      (∃ u, .handled .onError u (.error (.validation "broken")) ∈ (stumbled .onError).journal) ∧
      ∃ t, (stumbled .onError).value = some (.ok t) ∧
        t.steps.map (fun step => step.failure) = [some ⟨.validation, "validation failed: rejected"⟩, none]) ∧
    (∀ m ∈ (stumbled .afterExecution).journal, m.LeavesHistory) ∧
      (∃ u, .handled .afterExecution u (.error (.validation "broken")) ∈ (stumbled .afterExecution).journal) ∧
      ∃ t, (stumbled .afterExecution).value = some (.ok t) ∧
        t.steps.map (fun step => step.failure) = [some ⟨.validation, "validation failed: rejected"⟩, none] := by
  have failed : (stumbled .onError).journal[8]? = some (.handled .onError _ (.error (.validation "broken"))) := rfl
  have failed' : (stumbled .afterExecution).journal[17]? =
      some (.handled .afterExecution _ (.error (.validation "broken"))) := rfl
  exact ⟨⟨leaves_stumbled _ _, ⟨_, List.mem_of_getElem? failed⟩, by decide +kernel⟩,
    leaves_stumbled _ _, ⟨_, List.mem_of_getElem? failed'⟩, by decide +kernel⟩

end Pipeline

end AgentLoop
