import AgentLoop.Proofs.Run.Calls
import AgentLoop.Proofs.Run.Errors
import AgentLoop.Proofs.Run.Limit

/-!
# Failed tools under a policy that stops for them

- `RunMark.skipsToolFailures`: a handler of the phase `executeStep` fails and is forgiven, so that the failed tools of
  the step are not looked at;
- otherwise a step with a failed tool leaves a failed state, whatever follows the call of the driver in its pass
  (`RecordTrace.failed`, `FollowTrace.failed_of_tools`);
- from a failed state the loop takes no further step (`LoopTrace.of_terminal`), and the end of the run leaves it failed
  (`EndTrace.failed_of_failed`);
- `failed_tool_ends_run`: after such a step the driver is not called again, and the run ends failed.
-/

namespace AgentLoop

/-- A handler of the phase `executeStep` fails, and the policy lets the run go on. -/
def RunMark.skipsToolFailures (policy : ErrorPolicy) : RunMark → Bool
  | handled .executeStep s (.error e) => !e.isProgramming && policy.forgives s e.kind
  | _ => false

/-- What a handler or hook did leaves the status alone. -/
def RunMark.LeavesStatus (m : RunMark) : Prop := m.Leaves fun s => s.status

instance : DecidablePred RunMark.LeavesStatus := inferInstanceAs (DecidablePred (RunMark.Leaves _))

namespace ExecutionState

theorem status_settled (s : ExecutionState) : s.settled.status = s.status := by
  obtain ⟨_, h⟩ := s.settled_eq
  rw [h]

/-- Under a policy that stops for failed tools, they end the run. -/
theorem status_toolFailures (s : ExecutionState) {policy : ErrorPolicy} (stop : policy.onToolError = .stop)
    {failed : Nat} (some : 0 < failed) : (s.withToolFailures policy failed).status = .failed := by
  have decision : policy.decision .tool = .stop := stop
  simp [withToolFailures, Nat.ne_of_gt some, decision, ErrorPolicy.shouldContinue, ExecutionState.failed, withStatus]

theorem status_concluded {s : ExecutionState} (failed : s.status = .failed) : s.concluded.status = .failed := by
  simp [concluded, failed]

end ExecutionState

namespace Pipeline

variable {σ : Type} {p : Pipeline σ} {phase : Phase} {s t : ExecutionState} {journal : List RunMark}

/-! ## Parts of a run -/

theorem PhaseTrace.leavesStatus {r : Except Interruption ExecutionState} (h : p.PhaseTrace phase s journal r)
    (left : ∀ m ∈ journal, m.LeavesStatus) : PhaseGood (fun t => t.status = s.status) r :=
  h.leaves ExecutionState.status_settled left

theorem FailureTrace.status {step : Step} (h : p.FailureTrace s step journal (.ok t))
    (left : ∀ m ∈ journal, m.LeavesStatus) :
    t.status = if p.errorPolicy.forgives s step.cause.kind then s.status else .failed := by
  have kept : t.status = _ := h.leaves ExecutionState.status_settled left
  rw [kept, s.status_withFailedStep]

theorem RecoveryTrace.status {i : Interruption} (h : p.RecoveryTrace i journal (.ok t))
    (left : ∀ m ∈ journal, m.LeavesStatus) :
    i.error.isProgramming = false ∧
      t.status = if p.errorPolicy.forgives i.state i.error.kind then i.state.status else .failed := by
  cases h with
  | recovered runtime failure => exact ⟨runtime, failure.status left⟩

/-- A step with a failed tool fails the run, unless a handler fails first and is forgiven. -/
theorem RecordTrace.failed {number : UInt32} {step : Step} (h : p.RecordTrace number s step journal (.ok t))
    (stop : p.errorPolicy.onToolError = .stop) (tools : 0 < step.failedToolCount)
    (left : ∀ m ∈ journal, m.LeavesStatus) (looked : ∀ m ∈ journal, m.skipsToolFailures p.errorPolicy = false) :
    t.status = .failed := by
  cases h with
  | @interrupted _ _ i _ executed recovery =>
    obtain ⟨-, left'⟩ := List.forall_mem_append.1 left
    obtain ⟨runtime, status⟩ := recovery.status left'
    have unforgiven : p.errorPolicy.forgives i.state i.error.kind = false := by
      have := looked _ (List.mem_append_left _ executed.failed_mem)
      simpa [RunMark.skipsToolFailures, runtime] using this
    rw [status, unforgiven, if_neg (by simp)]
  | @interruptedLate _ _ _ u i _ executed after recovery =>
    simp only [List.forall_mem_append] at left
    obtain ⟨-, left', left''⟩ := left
    have kept : i.state.status = _ := after.leavesStatus left'
    have failed : i.state.status = .failed := by rw [kept, u.status_toolFailures stop tools]
    rw [(recovery.status left'').2, failed]
    exact ite_self _
  | @completed _ _ u _ executed after =>
    simp only [List.forall_mem_append] at left
    obtain ⟨-, left', -⟩ := left
    have kept : t.status = _ := after.leavesStatus left'
    rw [kept, u.status_toolFailures stop tools]

theorem FollowTrace.failed_of_tools {number : UInt32} {step : Step}
    (h : p.FollowTrace number s (.ok step) journal (.ok t)) (stop : p.errorPolicy.onToolError = .stop)
    (tools : 0 < step.failedToolCount)
    (unforgiven : step.isError = true → p.errorPolicy.forgives s step.cause.kind = false)
    (left : ∀ m ∈ journal, m.LeavesStatus) (looked : ∀ m ∈ journal, m.skipsToolFailures p.errorPolicy = false) :
    t.status = .failed := by
  cases h with
  | failed counts isError failure =>
    cases counts with
    | step _ => rw [failure.status left, unforgiven isError, if_neg (by simp)]
  | recorded counts _ record =>
    cases counts with
    | step _ => exact record.failed stop tools left looked

theorem LoopTrace.of_terminal {rounds : Nat} {r : Option (Except AgentError ExecutionState)}
    (h : p.LoopTrace rounds s journal r) (terminal : s.isTerminal = true) :
    driverCalled journal = 0 ∧ (r = none ∨ r = some (.ok s)) := by
  cases h with
  | cutOff s => exact ⟨rfl, .inl rfl⟩
  | stopped check =>
    refine ⟨rfl, .inr ?_⟩
    cases check with
    | terminal _ => rfl
    | cancelled running => rw [terminal] at running; cases running
    | refused running _ => rw [terminal] at running; cases running
  | failed check _ =>
    obtain ⟨-, running, -⟩ := check.granted_of_proceed
    rw [terminal] at running
    cases running
  | passed check _ _ =>
    obtain ⟨-, running, -⟩ := check.granted_of_proceed
    rw [terminal] at running
    cases running

theorem EndTrace.failed_of_failed (h : p.EndTrace s journal (.ok t)) (failed : s.status = .failed)
    (left : ∀ m ∈ journal, m.LeavesStatus) : t.status = .failed := by
  have ended (u : ExecutionState) (failed : u.status = .failed) :
      (u.withBufferDrained p.keepToolTraces).concluded.status = .failed := by
    apply ExecutionState.status_concluded
    cases p.keepToolTraces <;> exact failed
  cases h with
  | failed _ _ same =>
    rw [same]
    exact ended _ rfl
  | @finished _ u _ phase same =>
    have kept : u.status = _ := phase.leavesStatus (List.forall_mem_append.1 left).1
    rw [same]
    exact ended _ (kept.trans failed)

/-! ## Runs -/

/-- What follows a call of the driver after which its pass leaves a failed state: no further call, and the loop leaves
that state. -/
theorem LoopRest.failed_of_tools {step : Step} {r : Option (Except AgentError ExecutionState)}
    (h : p.LoopRest s (.ok step) journal r) (stop : p.errorPolicy.onToolError = .stop)
    (tools : 0 < step.failedToolCount)
    (unforgiven : step.isError = true → p.errorPolicy.forgives s step.cause.kind = false)
    (left : ∀ m ∈ journal, m.LeavesStatus) (looked : ∀ m ∈ journal, m.skipsToolFailures p.errorPolicy = false) :
    driverCalled journal = 0 ∧ ∀ u, r = some (.ok u) → u.status = .failed := by
  cases h with
  | failed follows =>
    refine ⟨driverCalled_plain follows.plain, ?_⟩
    rintro u ⟨⟩
  | @passed _ _ _ _ v _ follows loop =>
    obtain ⟨left₁, -⟩ := List.forall_mem_append.1 left
    obtain ⟨looked₁, -⟩ := List.forall_mem_append.1 looked
    have failed := follows.failed_of_tools stop tools unforgiven left₁ looked₁
    have terminal : v.isTerminal = true := by simp [ExecutionState.isTerminal, failed, ExecutionStatus.isTerminal]
    obtain ⟨none, ends⟩ := loop.of_terminal terminal
    refine ⟨by rw [driverCalled_append, driverCalled_plain follows.plain, none], fun u hu => ?_⟩
    rcases ends with rfl | rfl
    · cases hu
    · cases hu
      exact failed

variable (p)

/-- Under a policy that stops for failed tools, as long as hooks and handlers leave the status alone: after a step with
a failed tool the driver is not called again, and the run ends failed, unless a programming error ends it. The
exceptions are a step that failed itself in a way that the policy forgives, and a forgiven failure of a handler of the
phase `executeStep`. -/
theorem failed_tool_ends_run (stop : p.errorPolicy.onToolError = .stop) (token : Token) (rounds : Nat)
    (s : ExecutionState) (frame : Frame) (w : World σ) {before after : List RunMark} {t : ExecutionState} {step : Step}
    (call : ((p.run token rounds s).exec frame w).journal = before ++ .drove t (.ok step) :: after)
    (tools : 0 < step.failedToolCount)
    (unforgiven : step.isError = true → p.errorPolicy.forgives t step.cause.kind = false)
    (left : ∀ m ∈ after, m.LeavesStatus) (looked : ∀ m ∈ after, m.skipsToolFailures p.errorPolicy = false) :
    let outcome := (p.run token rounds s).exec frame w
    driverCalled after = 0 ∧ (stepsBegun outcome.journal < rounds → outcome.value.isSome) ∧
      ∀ r, outcome.value = some r →
        (∃ u, r = .ok u ∧ u.status = .failed) ∨ ∃ e, r = .error e ∧ e.isProgramming = true := by
  intro outcome
  have trace : p.RunTrace rounds s outcome.journal outcome.value := p.runTrace_exec token rounds s frame w
  have faithful : Faithful outcome.journal (runBug outcome.value) := (p.tells_run token rounds s).exec frame w
  obtain ⟨_, middle, last, _, r', -, loop, close, -, before', after', -, call', rfl⟩ := trace.of_call call
  obtain ⟨left₁, left₂⟩ := List.forall_mem_append.1 left
  obtain ⟨looked₁, -⟩ := List.forall_mem_append.1 looked
  obtain ⟨none, failed⟩ := (loop.of_call call').failed_of_tools stop tools unforgiven left₁ looked₁
  refine ⟨by rw [driverCalled_append, none, driverCalled_plain close.plain], fun more => ?_, fun r hr => ?_⟩
  · cases hv : outcome.value with
    | some r => rfl
    | none =>
      rw [hv] at trace
      have := trace.begins_of_cutOff
      omega
  · rw [hr] at close faithful
    cases r with
    | error e => exact .inr ⟨e, rfl, faithful.isProgramming⟩
    | ok u =>
      cases close with
      | ended ended => exact .inl ⟨u, rfl, ended.failed_of_failed (failed _ rfl) left₂⟩

/-- A pipeline whose driver reports a failed tool and then answers, with a check that wants an answer of each step. -/
def wantsAnswer : Pipeline Nat where
  driver :=
    { name := "fails_then_answers"
      useTools := fun s _ _ => do
        let begun ← Program.perform (Act.modifyGet fun n => (n, n + 1))
        let now ← Program.readClock
        if begun = 0 then
          let failed : ToolExecution := .failure ⟨"1", "search", .null⟩ "broken" now now
          return .ok (.toolExecution s.inferenceMessages [] [failed] none now now)
        else return .ok (.finalResponse s.inferenceMessages [.assistant "answer"] none now now) }
  tools := .empty
  schemas := .lenient
  handlers := [(.executeStep, ⟨"check", fun _ s =>
    pure (if s.isAnswered then .ok s else .error (.validation "no answer yet"))⟩)]
  errorPolicy := .stopOnAnyError

theorem failed_tool_ends_run_wantsAnswer :
    let outcome := (wantsAnswer.run (.run 0) 3 (.ofUser "question")).exec ⟨fun _ => ⟨0, 0⟩, fun _ => 0, {}⟩ { own := 0 }
    ∃ before t step after, outcome.journal = before ++ .drove t (.ok step) :: after ∧ 0 < step.failedToolCount ∧
      (∀ m ∈ after, m.LeavesStatus) ∧
      (∀ m ∈ after, m.skipsToolFailures wantsAnswer.errorPolicy = false) ∧ driverCalled after = 0 ∧
      ∃ u, outcome.value = some (.ok u) ∧ u.status = .failed := by
  intro outcome
  have call : outcome.journal = outcome.journal.take 5 ++ .drove _ (.ok _) :: outcome.journal.drop 6 := rfl
  have left : ∀ m ∈ outcome.journal.drop 6, m.LeavesStatus := by decide +kernel
  have looked : ∀ m ∈ outcome.journal.drop 6, m.skipsToolFailures wantsAnswer.errorPolicy = false := by decide +kernel
  obtain ⟨none, -, failed⟩ :=
    wantsAnswer.failed_tool_ends_run rfl (.run 0) 3 (.ofUser "question") _ _ call (by decide) (by decide) left looked
  refine ⟨_, _, _, _, call, by decide, left, looked, none, _, rfl, ?_⟩
  rcases failed _ rfl with ⟨u, same, status⟩ | ⟨e, same, -⟩
  · cases same
    exact status
  · cases same

/-- A forgiven failure of the check hides the failed tool from the policy: the driver is called again, and the run ends
normally. -/
theorem driver_called_after_failed_tool :
    let p : Pipeline Nat := { wantsAnswer with errorPolicy := { onToolError := .stop } }
    let outcome := (p.run (.run 0) 3 (.ofUser "question")).exec ⟨fun _ => ⟨0, 0⟩, fun _ => 0, {}⟩ { own := 0 }
    p.errorPolicy.onToolError = .stop ∧ (∀ m ∈ outcome.journal, m.LeavesStatus) ∧
      ∃ before t step after, outcome.journal = before ++ .drove t (.ok step) :: after ∧ 0 < step.failedToolCount ∧
        driverCalled after = 1 ∧ ∃ u, outcome.value = some (.ok u) ∧ u.status = .completed := by
  intro p outcome
  have call : outcome.journal = outcome.journal.take 5 ++ .drove _ (.ok _) :: outcome.journal.drop 6 := rfl
  exact ⟨rfl, by decide +kernel, _, _, _, _, call, by decide, by decide +kernel, _, rfl, rfl⟩

end Pipeline

end AgentLoop
