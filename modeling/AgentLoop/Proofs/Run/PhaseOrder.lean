import Mathlib.Computability.RegularExpressions
import AgentLoop.Proofs.Run.Errors
import AgentLoop.Proofs.Run.Parts
import AgentLoop.Proofs.Run.Recording

/-!
# The order of the phases

- `Turn`: a phase is entered, or the driver is called; `runGrammar`: the order in which this happens in a run that
  returns a state, as a regular expression;
- `Passage`: what a part of a run looks like from outside: its turns, one after another, and what becomes of the failed
  steps of the history. Passages are composed by `Passage.trans`, and every part of a run is one (`PhaseTrace.passage`,
  `FailureTrace.passage`, `PassTrace.passage`, `LoopTrace.passage`, `RunTrace.passage`);
- `phases_in_order`: the turns of a run are a word of the grammar. The driver is called in running states only, and each
  time that the phase for failures is entered, one failed step has been recorded, and none otherwise.
-/

namespace AgentLoop

/-- What happens in turn in a run. -/
inductive Turn where
  | entered (phase : Phase)
  /-- The driver is called, and its step fails or not. -/
  | drove (failed : Bool)
  deriving DecidableEq, Repr

/-- Does a call of the driver come to a failed step, or to an error? -/
def callFails : Except AgentError Step → Bool
  | .ok step => step.isError
  | .error _ => true

/-- The turn that a mark shows. The checks between the passes are none. -/
def RunMark.turn? : RunMark → Option Turn
  | entered .shouldContinue _ => none
  | entered phase _ => some (.entered phase)
  | drove _ result => some (.drove (callFails result))
  | _ => none

/-! ## The grammar of runs -/

section Grammar

open RegularExpression

/-- A phase is entered. -/
def entering (phase : Phase) : RegularExpression Turn := char (.entered phase)

/-- The driver is called. -/
def driving (failed : Bool) : RegularExpression Turn := char (.drove failed)

/-- A pass of the loop. After the phase before the step, it may end, or fail; the step may fail in the driver, in the
phase that follows it, or after that. -/
def passGrammar : RegularExpression Turn :=
  entering .beforeStep *
    (1 +
      (entering .onError + driving true * entering .onError +
        driving false * entering .executeStep * entering .onError +
        driving false * entering .executeStep * entering .afterStep * (1 + entering .onError)))

/-- A run: its beginning, which may fail, passes, and its end. -/
def runGrammar : RegularExpression Turn :=
  entering .beforeExecution * (1 + entering .onError) * star passGrammar * entering .afterExecution

end Grammar

/-! ## Failed steps -/

/-- How many steps of the history failed. -/
def ExecutionState.failedSteps (s : ExecutionState) : Nat := s.steps.countP Step.isError

/-- How many failed steps a handler or hook added to the history, less those that it removed. -/
def RunMark.failedStepsAdded : RunMark → Int
  | handled _ s (.ok t) => t.failedSteps - s.failedSteps
  | dispatched before after => after.state.failedSteps - before.state.failedSteps
  | _ => 0

/-- How many failed steps handlers and hooks added to the history, less those that they removed. -/
def failedStepsAdded : List RunMark → Int
  | [] => 0
  | m :: rest => m.failedStepsAdded + failedStepsAdded rest

theorem failedStepsAdded_append (journal journal' : List RunMark) :
    failedStepsAdded (journal ++ journal') = failedStepsAdded journal + failedStepsAdded journal' := by
  induction journal with
  | nil => simp [failedStepsAdded]
  | cons m rest ih => rw [List.cons_append, failedStepsAdded, failedStepsAdded, ih, Int.add_assoc]

/-- How many failed steps the engine itself recorded from one state to another. -/
def failedStepsRecorded (s : ExecutionState) (journal : List RunMark) (t : ExecutionState) : Int :=
  t.failedSteps - s.failedSteps - failedStepsAdded journal

/-- Does a mark show that the phase for failures is entered? -/
def RunMark.entersFailure : RunMark → Bool
  | entered .onError _ => true
  | _ => false

/-- How often the phase for failures is entered. -/
def failuresEntered (journal : List RunMark) : Nat := journal.countP RunMark.entersFailure

/-- The driver is called in a running state, and the phase for failures is entered with a failed step that has just been
recorded. -/
def RunMark.InPlace (policy : ErrorPolicy) : RunMark → Prop
  | drove u _ => u.status = .running
  | entered .onError u =>
    ∃ (v : ExecutionState) (step : Step), step.isError = true ∧ u = v.withFailedStep policy step step.cause
  | _ => True

/-- What a part of a run from one state to another looks like: its turns, each of them in its place, and a failed step
for each time that the phase for failures is entered. -/
structure Passage (policy : ErrorPolicy) (s : ExecutionState) (journal : List RunMark) (t : ExecutionState)
    (word : List Turn) : Prop where
  turns : journal.filterMap RunMark.turn? = word
  inPlace : ∀ m ∈ journal, m.InPlace policy
  failures : failedStepsRecorded s journal t = failuresEntered journal

namespace Passage

variable {policy : ErrorPolicy} {s t u : ExecutionState} {journal journal' : List RunMark} {word word' : List Turn}
  {m : RunMark}

/-- Nothing happens. -/
theorem nil (same : t.failedSteps = s.failedSteps) : Passage policy s [] t [] where
  turns := rfl
  inPlace := by simp
  failures := by simp [failedStepsRecorded, failedStepsAdded, failuresEntered, same]

/-- A single mark, if it does not enter the phase for failures. Handlers and hooks answer for the failed steps that they
add. -/
theorem single (turn : m.turn?.toList = word) (place : m.InPlace policy) (quiet : m.entersFailure = false)
    (added : m.failedStepsAdded = t.failedSteps - s.failedSteps) : Passage policy s [m] t word where
  turns := by
    rw [← turn]
    cases h : m.turn? with
    | none => simp [h]
    | some turn => simp [h]
  inPlace := List.forall_mem_singleton.2 place
  failures := by simp [failedStepsRecorded, failedStepsAdded, failuresEntered, quiet, added]

/-- A single mark of the engine, which leaves the state alone. -/
theorem engine (turn : m.turn?.toList = word) (place : m.InPlace policy) (quiet : m.entersFailure = false)
    (added : m.failedStepsAdded = 0) : Passage policy s [m] s word :=
  single turn place quiet (added.trans (Int.sub_self _).symm)

theorem trans (h : Passage policy s journal t word) (h' : Passage policy t journal' u word') :
    Passage policy s (journal ++ journal') u (word ++ word') where
  turns := by rw [List.filterMap_append, h.turns, h'.turns]
  inPlace := List.forall_mem_append.2 ⟨h.inPlace, h'.inPlace⟩
  failures := by
    have entered : failuresEntered (journal ++ journal') = failuresEntered journal + failuresEntered journal' :=
      List.countP_append
    have first := h.failures
    have second := h'.failures
    unfold failedStepsRecorded at *
    rw [failedStepsAdded_append, entered]
    omega

/-- A part ends with all that records no failed step. -/
theorem of_same (h : Passage policy s journal t word) (same : u.failedSteps = t.failedSteps) :
    Passage policy s journal u word := by
  have whole := h.trans (.nil same)
  rwa [List.append_nil, List.append_nil] at whole

end Passage

namespace ExecutionState

theorem status_of_not_terminal {s : ExecutionState} (h : s.isTerminal = false) : s.status = .running := by
  cases hs : s.status with
  | running => rfl
  | completed => simp [isTerminal, hs, ExecutionStatus.isTerminal] at h
  | failed => simp [isTerminal, hs, ExecutionStatus.isTerminal] at h

theorem failedSteps_settled (s : ExecutionState) : s.settled.failedSteps = s.failedSteps := by
  rw [failedSteps, failedSteps, (sameConversation_settled s).steps]

theorem failedSteps_toolFailures (s : ExecutionState) (policy : ErrorPolicy) (failed : Nat) :
    (s.withToolFailures policy failed).failedSteps = s.failedSteps := by
  rw [failedSteps, failedSteps, (s.sameConversation_toolFailures policy failed).steps]

theorem failedSteps_ended (s : ExecutionState) (keepTraces : Bool) :
    (s.ended keepTraces).failedSteps = s.failedSteps := by
  rw [failedSteps, failedSteps, ended, (sameConversation_concluded _).steps]
  cases keepTraces <;> rfl

theorem failedSteps_withFailedStep (s : ExecutionState) (policy : ErrorPolicy) {step : Step} (failure : StepFailure)
    (failed : step.isError = true) : (s.withFailedStep policy step failure).failedSteps = s.failedSteps + 1 := by
  simp [failedSteps, steps_withFailedStep, failed]

theorem failedSteps_withOutcome (s : ExecutionState) {step : Step} (keepTraces : Bool) (fine : step.isError = false) :
    (s.withOutcome step keepTraces).failedSteps = s.failedSteps := by
  simp [failedSteps, steps_withOutcome, fine]

end ExecutionState

namespace Pipeline

variable {σ : Type} {p : Pipeline σ} {phase : Phase} {s t : ExecutionState} {journal : List RunMark}

/-! ## Phases and failures -/

theorem HandlerTrace.passage (policy : ErrorPolicy) {handlers : List (PhaseHandler σ)}
    {r : Except Interruption ExecutionState} (h : HandlerTrace phase handlers s journal r) :
    PhaseGood (fun t => Passage policy s journal t []) r := by
  induction h with
  | done s => exact .nil rfl
  | failed _ => exact .engine rfl trivial rfl rfl
  | @passed _ _ s t _ r _ _ ih =>
    have first : Passage policy s [.handled phase s (.ok t)] t [] := .single rfl trivial rfl rfl
    cases r with
    | ok u => exact first.trans ih
    | error i => exact first.trans ih

theorem HookTrace.passage (policy : ErrorPolicy) {trigger : HookTrigger} {ctx : HookContext}
    (h : p.HookTrace trigger ctx journal t) : Passage policy ctx.state journal t [] := by
  cases h with
  | unhandled _ => exact .nil rfl
  | dispatched _ _ => exact .single rfl trivial rfl rfl

/-- A phase is one turn, also where a handler fails. -/
theorem PhaseTrace.passage {r : Except Interruption ExecutionState} (h : p.PhaseTrace phase s journal r)
    (shown : phase ≠ .shouldContinue) (fine : phase ≠ .onError) :
    PhaseGood (fun t => Passage p.errorPolicy s journal t [.entered phase]) r := by
  have entered : Passage p.errorPolicy s [.entered phase s] s [.entered phase] := by
    cases phase with
    | shouldContinue => exact absurd rfl shown
    | onError => exact absurd rfl fine
    | _ => exact .engine rfl trivial rfl rfl
  cases h with
  | interrupted handlers => exact entered.trans (handlers.passage p.errorPolicy)
  | silent _ handlers =>
    have called : Passage p.errorPolicy s _ _ [] := handlers.passage p.errorPolicy
    exact (entered.trans called).of_same (ExecutionState.failedSteps_settled _)
  | hooked _ handlers hooks =>
    have called : Passage p.errorPolicy s _ _ [] := handlers.passage p.errorPolicy
    have fired : Passage p.errorPolicy _ _ _ [] := hooks.passage p.errorPolicy
    exact (entered.trans (called.trans fired)).of_same (ExecutionState.failedSteps_settled _)

theorem FailureHookTrace.passage (policy : ErrorPolicy) {failure : StepFailure}
    (h : p.FailureHookTrace s failure journal t) : Passage policy s journal t [] := by
  cases h with
  | unhandled _ => exact .nil rfl
  | @dispatched after _ _ =>
    have fired : Passage policy s [.dispatched (.forFailure s failure) after] after.state [] :=
      .single rfl trivial rfl rfl
    exact fired.of_same (ExecutionState.failedSteps_settled _)

/-- A failed step is recorded, and the phase for failures is entered with it. -/
theorem FailureTrace.passage {step : Step} (h : p.FailureTrace s step journal (.ok t)) (failed : step.isError = true) :
    Passage p.errorPolicy s journal t [.entered .onError] := by
  have entered : Passage p.errorPolicy s (p.failureMarks s step)
      (s.withFailedStep p.errorPolicy step step.cause) [.entered .onError] := by
    -- the one place where a failed step is recorded, and the phase for failures entered
    refine ⟨rfl, ?_, ?_⟩
    · have recorded : (RunMark.entered .onError (s.withFailedStep p.errorPolicy step step.cause)).InPlace
          p.errorPolicy := ⟨s, step, failed, rfl⟩
      exact List.forall_mem_cons.2 ⟨trivial, List.forall_mem_singleton.2 recorded⟩
    · have one : failuresEntered (p.failureMarks s step) = 1 := rfl
      have none : failedStepsAdded (p.failureMarks s step) = 0 := rfl
      rw [failedStepsRecorded, none, one, s.failedSteps_withFailedStep _ _ failed]
      omega
  cases h with
  | swallowed handlers _ hooks =>
    have called : Passage p.errorPolicy _ _ _ [] := handlers.passage p.errorPolicy
    exact entered.trans (called.trans (hooks.passage p.errorPolicy))
  | handled handlers hooks =>
    have called : Passage p.errorPolicy _ _ _ [] := handlers.passage p.errorPolicy
    exact entered.trans (called.trans (hooks.passage p.errorPolicy))

theorem RecoveryTrace.passage {i : Interruption} (h : p.RecoveryTrace i journal (.ok t)) :
    Passage p.errorPolicy i.state journal t [.entered .onError] := by
  cases h with
  | recovered _ failure => exact failure.passage rfl

/-! ## Passes -/

/-- What may follow a step that did not fail: one of its two phases fails, the second one once the first one is over, or
none. -/
def recordWords : List (List Turn) :=
  [[.entered .executeStep, .entered .onError], [.entered .executeStep, .entered .afterStep],
    [.entered .executeStep, .entered .afterStep, .entered .onError]]

theorem RecordTrace.passage {number : UInt32} {step : Step} (h : p.RecordTrace number s step journal (.ok t))
    (fine : step.isError = false) : ∃ word ∈ recordWords, Passage p.errorPolicy s journal t word := by
  have recorded : Passage p.errorPolicy s [] (s.withOutcome step p.keepToolTraces) [] :=
    .nil (s.failedSteps_withOutcome p.keepToolTraces fine)
  have counted (u : ExecutionState) :
      Passage p.errorPolicy u [] (u.withToolFailures p.errorPolicy step.failedToolCount) [] :=
    .nil (u.failedSteps_toolFailures p.errorPolicy step.failedToolCount)
  cases h with
  | interrupted executed recovery =>
    have executed : Passage p.errorPolicy _ _ _ _ := executed.passage (by decide) (by decide)
    exact ⟨_, List.mem_cons_self, recorded.trans (executed.trans recovery.passage)⟩
  | interruptedLate executed after recovery =>
    have executed : Passage p.errorPolicy _ _ _ _ := executed.passage (by decide) (by decide)
    have after : Passage p.errorPolicy _ _ _ _ := after.passage (by decide) (by decide)
    refine ⟨_, ?_, recorded.trans (executed.trans ((counted _).trans (after.trans recovery.passage)))⟩
    decide
  | completed executed after =>
    have executed : Passage p.errorPolicy _ _ _ _ := executed.passage (by decide) (by decide)
    have after : Passage p.errorPolicy _ _ _ _ := after.passage (by decide) (by decide)
    have reported (u : ExecutionState) :
        Passage p.errorPolicy u [.event (.stepCompleted number step.stepType)] u [] := .engine rfl trivial rfl rfl
    refine ⟨_, ?_, recorded.trans (executed.trans ((counted _).trans (after.trans (reported _))))⟩
    decide

/-- A call of the driver is one turn. -/
theorem passage_call (policy : ErrorPolicy) (marks : List StepMark) (result : Except AgentError Step)
    (running : s.isTerminal = false) :
    Passage policy s (callMarks marks s result) s [.drove (callFails result)] := by
  have steps : Passage policy s (marks.map .step) s [] := by
    induction marks with
    | nil => exact .nil rfl
    | cons m rest ih =>
      have first : Passage policy s [.step m] s [] := .engine rfl trivial rfl rfl
      exact first.trans ih
  have drove : Passage policy s [.drove s result] s [.drove (callFails result)] :=
    .engine rfl (ExecutionState.status_of_not_terminal running) rfl rfl
  exact steps.trans drove

/-- What a result counts as fails if the call does. -/
theorem CountsAs.isError {result : Except AgentError Step} {step : Step} (h : CountsAs s result (.ok step)) :
    step.isError = callFails result := by
  cases h <;> rfl

/-- What a call of the driver and what follows it may look like. -/
def callWords : List (List Turn) := [.drove true, .entered .onError] :: recordWords.map (.drove false :: ·)

theorem FollowTrace.passage {number : UInt32} {result : Except AgentError Step} (marks : List StepMark)
    (h : p.FollowTrace number s result journal (.ok t)) (running : s.isTerminal = false) :
    ∃ word ∈ callWords, Passage p.errorPolicy s (callMarks marks s result ++ journal) t word := by
  have call := passage_call p.errorPolicy marks result running
  cases h with
  | failed counts failed failure =>
    rw [← counts.isError, failed] at call
    exact ⟨_, List.mem_cons_self, call.trans (failure.passage failed)⟩
  | recorded counts fine record =>
    rw [← counts.isError, fine] at call
    obtain ⟨word, one, follows⟩ := record.passage fine
    exact ⟨_, List.mem_cons_of_mem _ (List.mem_map_of_mem one), call.trans follows⟩

/-- A pass of the loop is a word of its grammar. -/
theorem PassTrace.passage (h : p.PassTrace s journal (.ok t)) :
    ∃ word ∈ passGrammar.matches', Passage p.errorPolicy s journal t word := by
  have begun : Passage p.errorPolicy s [passMark s] s [] := .engine rfl trivial rfl rfl
  have counted : Passage p.errorPolicy s [] s.withStepStarted [] := .nil rfl
  cases h with
  | interrupted before recovery =>
    have before : Passage p.errorPolicy _ _ _ _ := before.passage (by decide) (by decide)
    refine ⟨_, ?_, begun.trans (counted.trans (before.trans recovery.passage))⟩
    decide
  | ended before _ =>
    have before : Passage p.errorPolicy _ _ _ _ := before.passage (by decide) (by decide)
    refine ⟨_, ?_, begun.trans (counted.trans before)⟩
    decide
  | @called _ _ marks _ _ _ before running _ follows =>
    have before : Passage p.errorPolicy _ _ _ _ := before.passage (by decide) (by decide)
    obtain ⟨word, one, follows⟩ := follows.passage marks running
    refine ⟨_, ?_, begun.trans (counted.trans (before.trans follows))⟩
    have words : ∀ word ∈ callWords, .entered .beforeStep :: word ∈ passGrammar.matches' := by decide
    exact words word one

/-! ## Runs -/

theorem CheckTrace.failedSteps_of_stop (h : p.CheckTrace s (.stop t)) : t.failedSteps = s.failedSteps := by
  cases h <;> rfl

/-- A loop is a word of passes. -/
theorem LoopTrace.passage {rounds : Nat} (h : p.LoopTrace rounds s journal (some (.ok t))) :
    ∃ word ∈ passGrammar.star.matches', Passage p.errorPolicy s journal t word := by
  have checked (s : ExecutionState) : Passage p.errorPolicy s [.entered .shouldContinue s] s [] :=
    .engine rfl trivial rfl rfl
  generalize hr : some (Except.ok t) = r at h
  induction h with
  | cutOff s => cases hr
  | stopped check =>
    cases hr
    exact ⟨[], Language.nil_mem_kstar _, (checked _).of_same check.failedSteps_of_stop⟩
  | failed _ _ => cases hr
  | passed check pass _ ih =>
    obtain ⟨rfl, -⟩ := check.granted_of_proceed
    obtain ⟨first, one, pass⟩ := pass.passage
    obtain ⟨rest, more, loop⟩ := ih hr
    refine ⟨first ++ rest, ?_, (checked _).trans (pass.trans loop)⟩
    -- a pass in front of a row of passes
    rw [RegularExpression.matches'_star, ← Language.one_add_self_mul_kstar_eq_kstar]
    exact .inr (Language.append_mem_mul one more)

/-- What the beginning of a run may look like. -/
def beginWords : List (List Turn) :=
  [[.entered .beforeExecution], [.entered .beforeExecution, .entered .onError]]

theorem BeginTrace.passage (h : p.BeginTrace s journal (.ok t)) :
    ∃ word ∈ beginWords, Passage p.errorPolicy s journal t word := by
  have started (now : Instant) : Passage p.errorPolicy s [] (s.withRunStarted now) [] := .nil rfl
  cases h with
  | interrupted began recovery =>
    have began : Passage p.errorPolicy _ _ _ _ := began.passage (by decide) (by decide)
    refine ⟨_, ?_, (started _).trans (began.trans recovery.passage)⟩
    decide
  | begun began =>
    have began : Passage p.errorPolicy _ _ _ _ := began.passage (by decide) (by decide)
    have reported : Passage p.errorPolicy t [.event (.executionStarted t.messages.length)] t [] :=
      .engine rfl trivial rfl rfl
    refine ⟨_, ?_, (started _).trans (began.trans reported)⟩
    decide

theorem EndTrace.passage (h : p.EndTrace s journal (.ok t)) :
    Passage p.errorPolicy s journal t [.entered .afterExecution] := by
  have reported (t : ExecutionState) : Passage p.errorPolicy t [endMark t] t [] := .engine rfl trivial rfl rfl
  cases h with
  | failed ended _ same =>
    have ended : Passage p.errorPolicy _ _ _ _ := ended.passage (by decide) (by decide)
    refine (ended.of_same ?_).trans (reported _)
    rw [same]
    exact ExecutionState.failedSteps_ended _ _
  | finished ended same =>
    have ended : Passage p.errorPolicy _ _ _ _ := ended.passage (by decide) (by decide)
    refine (ended.of_same ?_).trans (reported _)
    rw [same]
    exact ExecutionState.failedSteps_ended _ _

/-- A run is a word of its grammar. -/
theorem RunTrace.passage {rounds : Nat} (h : p.RunTrace rounds s journal (some (.ok t))) :
    ∃ word ∈ runGrammar.matches', Passage p.errorPolicy s journal t word := by
  cases h with
  | looped began loop close =>
    cases close with
    | ended finish =>
      obtain ⟨first, one, began⟩ := began.passage
      obtain ⟨middle, many, loop⟩ := loop.passage
      refine ⟨first ++ (middle ++ [.entered .afterExecution]), ?_, began.trans (loop.trans finish.passage)⟩
      have opening : ∀ word ∈ beginWords, word ∈ (entering .beforeExecution * (1 + entering .onError)).matches' := by
        decide
      rw [← List.append_assoc]
      exact Language.append_mem_mul (Language.append_mem_mul (opening first one) many) rfl

/-- The phases of a run and the calls of the driver are in order. -/
structure InOrder (policy : ErrorPolicy) (s : ExecutionState) (journal : List RunMark) (t : ExecutionState) : Prop where
  turns : journal.filterMap RunMark.turn? ∈ runGrammar.matches'
  running : ∀ u result, .drove u result ∈ journal → u.status = .running
  recorded : ∀ u, .entered .onError u ∈ journal →
    ∃ (v : ExecutionState) (step : Step), step.isError = true ∧ u = v.withFailedStep policy step step.cause
  failures : failedStepsRecorded s journal t = failuresEntered journal

variable (p)

/-- In a run that returns a state, phases are entered and the driver is called in the order of the grammar, so that the
phase after a step is never entered for a step that failed in the driver. The driver is called in running states only.
The phase for failures is entered each time with a failed step that has just been recorded, and no other failed step is
recorded. -/
theorem phases_in_order (token : Token) (rounds : Nat) (s t : ExecutionState) (frame : Frame) (w : World σ)
    (returned : ((p.run token rounds s).exec frame w).value = some (.ok t)) :
    InOrder p.errorPolicy s ((p.run token rounds s).exec frame w).journal t := by
  have trace := p.runTrace_exec token rounds s frame w
  rw [returned] at trace
  obtain ⟨word, run, passage⟩ := trace.passage
  refine ⟨?_, fun u result h => passage.inPlace _ h, fun u h => passage.inPlace _ h, passage.failures⟩
  rwa [passage.turns]

/-- A handler and the driver fail, each of them once, and then the driver answers. -/
theorem phases_in_order_stumbled :
    ∃ t, (stumbled .beforeExecution).value = some (.ok t) ∧ t.failedSteps = 2 ∧
      InOrder {} (.ofUser "question") (stumbled .beforeExecution).journal t ∧
      (stumbled .beforeExecution).journal.filterMap RunMark.turn? =
        [.entered .beforeExecution, .entered .onError,
          .entered .beforeStep, .drove true, .entered .onError,
          .entered .beforeStep, .drove false, .entered .executeStep, .entered .afterStep,
          .entered .afterExecution] := by
  obtain ⟨t, returned, failed⟩ :
      ∃ t, (stumbled .beforeExecution).value = some (.ok t) ∧ t.failedSteps = 2 := by decide +kernel
  refine ⟨t, returned, failed, ?_, by decide +kernel⟩
  exact (stumbling .beforeExecution).phases_in_order (.run 0) 4 _ t _ _ returned

end Pipeline

end AgentLoop
