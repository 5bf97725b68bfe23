import AgentLoop.Pipeline.Run
import AgentLoop.Proofs.Effect.Traces

/-!
# The traces of a run

For each part of a run, the journals and results that it may leave behind, as an inductive relation with one constructor
for each way in which the part can go:

- `HandlerTrace`, `HookTrace`, `PhaseTrace`: handlers, hooks and phases;
- `FailureTrace`, `RecoveryTrace`: what becomes of a failed step and of a failed handler;
- `CountsAs`, `RecordTrace`, `FollowTrace`, `PassTrace`: what a call of the driver counts as, what follows a step and a
  call, and a pass of the loop;
- `CheckTrace`, `LoopTrace`, `BeginTrace`, `EndTrace`, `CloseTrace`, `RunTrace`: the checks, the loop and the whole run.

`runTrace_exec`: every run leaves such a trace. What holds of the journals of all runs is proved by cases on these
relations, and no longer by taking the programs apart.
-/

namespace AgentLoop

namespace Pipeline

open Program

variable {σ : Type}

/-! ## Phases -/

/-- Handlers, one after another, up to the first error. -/
inductive HandlerTrace (phase : Phase) : List (PhaseHandler σ) → ExecutionState → List RunMark →
    Except Interruption ExecutionState → Prop
  | done (s : ExecutionState) : HandlerTrace phase [] s [] (.ok s)
  | failed {h : PhaseHandler σ} {rest : List (PhaseHandler σ)} {s : ExecutionState} {e : AgentError} :
      (h.handle phase s).MayGive (.error e) →
      HandlerTrace phase (h :: rest) s [.handled phase s (.error e)] (.error ⟨s, e⟩)
  | passed {h : PhaseHandler σ} {rest : List (PhaseHandler σ)} {s t : ExecutionState} {journal : List RunMark}
      {r : Except Interruption ExecutionState} : (h.handle phase s).MayGive (.ok t) →
      HandlerTrace phase rest t journal r → HandlerTrace phase (h :: rest) s (.handled phase s (.ok t) :: journal) r

variable (p : Pipeline σ)

/-- The hooks of a trigger, if there are any. -/
inductive HookTrace (t : HookTrigger) (ctx : HookContext) : List RunMark → ExecutionState → Prop
  | unhandled : p.hooks.handles t = false → HookTrace t ctx [] ctx.state
  | dispatched {after : HookContext} : p.hooks.handles t = true → (p.hooks.dispatch t ctx).MayGive after →
      HookTrace t ctx [.dispatched ctx after] after.state

/-- A phase: its handlers, and then its hooks. -/
inductive PhaseTrace (phase : Phase) (s : ExecutionState) : List RunMark → Except Interruption ExecutionState → Prop
  | interrupted {journal : List RunMark} {i : Interruption} :
      HandlerTrace phase (p.handlersOf phase) s journal (.error i) →
      PhaseTrace phase s (.entered phase s :: journal) (.error i)
  | silent {journal : List RunMark} {t : ExecutionState} : phase.trigger = none →
      HandlerTrace phase (p.handlersOf phase) s journal (.ok t) →
      PhaseTrace phase s (.entered phase s :: journal) (.ok t.settled)
  | hooked {trigger : HookTrigger} {journal journal' : List RunMark} {t u : ExecutionState} :
      phase.trigger = some trigger → HandlerTrace phase (p.handlersOf phase) s journal (.ok t) →
      p.HookTrace trigger { trigger, state := t } journal' u →
      PhaseTrace phase s (.entered phase s :: (journal ++ journal')) (.ok u.settled)

/-! ## Failures -/

/-- The hooks for failures, if there are any. -/
inductive FailureHookTrace (s : ExecutionState) (failure : StepFailure) : List RunMark → ExecutionState → Prop
  | unhandled : p.hooks.handles .onError = false → FailureHookTrace s failure [] s
  | dispatched {after : HookContext} : p.hooks.handles .onError = true →
      (p.hooks.dispatch .onError (.forFailure s failure)).MayGive after →
      FailureHookTrace s failure [.dispatched (.forFailure s failure) after] after.state.settled

/-- The marks with which the phase for failures begins. -/
def failureMarks (s : ExecutionState) (step : Step) : List RunMark :=
  [.event (.errorOccurred step.cause.kind step.cause.message),
    .entered .onError (s.withFailedStep p.errorPolicy step step.cause)]

/-- A failed step. A runtime error of a handler for failures changes nothing. -/
inductive FailureTrace (s : ExecutionState) (step : Step) : List RunMark → Except AgentError ExecutionState → Prop
  | bug {journal : List RunMark} {i : Interruption} :
      HandlerTrace .onError (p.handlersOf .onError) (s.withFailedStep p.errorPolicy step step.cause) journal
        (.error i) → i.error.isProgramming = true →
      FailureTrace s step (p.failureMarks s step ++ journal) (.error i.error)
  | swallowed {journal journal' : List RunMark} {i : Interruption} {u : ExecutionState} :
      HandlerTrace .onError (p.handlersOf .onError) (s.withFailedStep p.errorPolicy step step.cause) journal
        (.error i) → i.error.isProgramming = false → p.FailureHookTrace i.state step.cause journal' u →
      FailureTrace s step (p.failureMarks s step ++ (journal ++ journal')) (.ok u)
  | handled {journal journal' : List RunMark} {t u : ExecutionState} :
      HandlerTrace .onError (p.handlersOf .onError) (s.withFailedStep p.errorPolicy step step.cause) journal (.ok t) →
      p.FailureHookTrace t step.cause journal' u →
      FailureTrace s step (p.failureMarks s step ++ (journal ++ journal')) (.ok u)

/-- A phase that a handler interrupted: a runtime error becomes a failed step. -/
inductive RecoveryTrace (i : Interruption) : List RunMark → Except AgentError ExecutionState → Prop
  | bug : i.error.isProgramming = true → RecoveryTrace i [] (.error i.error)
  | recovered {now completedAt : Instant} {journal : List RunMark} {r : Except AgentError ExecutionState} :
      i.error.isProgramming = false →
      p.FailureTrace i.state (.failed i.error.kind i.error.message [] now completedAt) journal r →
      RecoveryTrace i journal r

/-! ## A pass of the loop -/

/-- The marks of a call of the driver. -/
def callMarks (marks : List StepMark) (s : ExecutionState) (result : Except AgentError Step) : List RunMark :=
  marks.map .step ++ [.drove s result]

/-- What the result of a call counts as: a runtime error is a failed step. -/
inductive CountsAs (s : ExecutionState) : Except AgentError Step → Except AgentError Step → Prop
  | step (step : Step) : CountsAs s (.ok step) (.ok step)
  | bug {e : AgentError} : e.isProgramming = true → CountsAs s (.error e) (.error e)
  | failure {e : AgentError} (startedAt completedAt : Instant) : e.isProgramming = false →
      CountsAs s (.error e) (.ok (.failed e.kind e.message s.inferenceMessages startedAt completedAt))

/-- What follows a step that did not fail. -/
inductive RecordTrace (number : UInt32) (s : ExecutionState) (step : Step) :
    List RunMark → Except AgentError ExecutionState → Prop
  | interrupted {journal journal' : List RunMark} {i : Interruption} {r : Except AgentError ExecutionState} :
      p.PhaseTrace .executeStep (s.withOutcome step p.keepToolTraces) journal (.error i) →
      p.RecoveryTrace i journal' r → RecordTrace number s step (journal ++ journal') r
  | interruptedLate {journal journal' journal'' : List RunMark} {t : ExecutionState} {i : Interruption}
      {r : Except AgentError ExecutionState} :
      p.PhaseTrace .executeStep (s.withOutcome step p.keepToolTraces) journal (.ok t) →
      p.PhaseTrace .afterStep (t.withToolFailures p.errorPolicy step.failedToolCount) journal' (.error i) →
      p.RecoveryTrace i journal'' r → RecordTrace number s step (journal ++ (journal' ++ journal'')) r
  | completed {journal journal' : List RunMark} {t u : ExecutionState} :
      p.PhaseTrace .executeStep (s.withOutcome step p.keepToolTraces) journal (.ok t) →
      p.PhaseTrace .afterStep (t.withToolFailures p.errorPolicy step.failedToolCount) journal' (.ok u) →
      RecordTrace number s step (journal ++ (journal' ++ [.event (.stepCompleted number step.stepType)])) (.ok u)

/-- What follows a call of the driver in its pass. -/
inductive FollowTrace (number : UInt32) (s : ExecutionState) (result : Except AgentError Step) :
    List RunMark → Except AgentError ExecutionState → Prop
  | bug {e : AgentError} : CountsAs s result (.error e) → FollowTrace number s result [] (.error e)
  | failed {journal : List RunMark} {step : Step} {r : Except AgentError ExecutionState} :
      CountsAs s result (.ok step) → step.isError = true → p.FailureTrace s step journal r →
      FollowTrace number s result journal r
  | recorded {journal : List RunMark} {step : Step} {r : Except AgentError ExecutionState} :
      CountsAs s result (.ok step) → step.isError = false → p.RecordTrace number s step journal r →
      FollowTrace number s result journal r

/-- The mark with which a pass begins. -/
def passMark (s : ExecutionState) : RunMark := .event (.stepStarted s.withStepStarted.stats.stepCounter)

/-- A pass of the loop: it calls the driver, unless the phase before the step ends it. -/
inductive PassTrace (s : ExecutionState) : List RunMark → Except AgentError ExecutionState → Prop
  | interrupted {journal journal' : List RunMark} {i : Interruption} {r : Except AgentError ExecutionState} :
      p.PhaseTrace .beforeStep s.withStepStarted journal (.error i) → p.RecoveryTrace i journal' r →
      PassTrace s (passMark s :: (journal ++ journal')) r
  | ended {journal : List RunMark} {t : ExecutionState} :
      p.PhaseTrace .beforeStep s.withStepStarted journal (.ok t) → t.isTerminal = true →
      PassTrace s (passMark s :: journal) (.ok t)
  | called {journal journal' : List RunMark} {marks : List StepMark} {t : ExecutionState}
      {result : Except AgentError Step} {r : Except AgentError ExecutionState} :
      p.PhaseTrace .beforeStep s.withStepStarted journal (.ok t) → t.isTerminal = false →
      (p.driver.useTools t p.tools p.executor).MayLeave marks result →
      p.FollowTrace s.withStepStarted.stats.stepCounter t result journal' r →
      PassTrace s (passMark s :: (journal ++ (callMarks marks t result ++ journal'))) r

/-! ## Runs -/

/-- A check before a pass. -/
inductive CheckTrace (s : ExecutionState) : Continuation → Prop
  | terminal : s.isTerminal = true → CheckTrace s (.stop s)
  | cancelled : s.isTerminal = false → CheckTrace s (.stop (s.completed .cancelled))
  | refused {elapsed : Nat} {name detail : String} : s.isTerminal = false →
      Criterion.firstStop p.criteria ⟨s, elapsed⟩ = some (name, detail) →
      CheckTrace s (.stop (s.completed (if s.isAnswered then .finalResponse else .criterion name detail)))
  | granted {elapsed : Nat} : s.isTerminal = false → Criterion.firstStop p.criteria ⟨s, elapsed⟩ = none →
      CheckTrace s (.proceed s)

/-- The loop, for a number of rounds. -/
inductive LoopTrace : Nat → ExecutionState → List RunMark → Option (Except AgentError ExecutionState) → Prop
  | cutOff (s : ExecutionState) : LoopTrace 0 s [] none
  | stopped {n : Nat} {s t : ExecutionState} : p.CheckTrace s (.stop t) →
      LoopTrace (n + 1) s [.entered .shouldContinue s] (some (.ok t))
  | failed {n : Nat} {s t : ExecutionState} {journal : List RunMark} {e : AgentError} : p.CheckTrace s (.proceed t) →
      p.PassTrace t journal (.error e) →
      LoopTrace (n + 1) s (.entered .shouldContinue s :: journal) (some (.error e))
  | passed {n : Nat} {s t u : ExecutionState} {journal journal' : List RunMark}
      {r : Option (Except AgentError ExecutionState)} : p.CheckTrace s (.proceed t) → p.PassTrace t journal (.ok u) →
      LoopTrace n u journal' r → LoopTrace (n + 1) s (.entered .shouldContinue s :: (journal ++ journal')) r

/-- The beginning of a run. -/
inductive BeginTrace (s : ExecutionState) : List RunMark → Except AgentError ExecutionState → Prop
  | interrupted {now : Instant} {journal journal' : List RunMark} {i : Interruption}
      {r : Except AgentError ExecutionState} :
      p.PhaseTrace .beforeExecution (s.withRunStarted now) journal (.error i) → p.RecoveryTrace i journal' r →
      BeginTrace s (journal ++ journal') r
  | begun {now : Instant} {journal : List RunMark} {t : ExecutionState} :
      p.PhaseTrace .beforeExecution (s.withRunStarted now) journal (.ok t) →
      BeginTrace s (journal ++ [.event (.executionStarted t.messages.length)]) (.ok t)

/-- The mark with which a run ends. -/
def endMark (s : ExecutionState) : RunMark := .event (.executionFinished s.status s.steps.length s.termination)

/-- The end of a run. -/
inductive EndTrace (s : ExecutionState) : List RunMark → Except AgentError ExecutionState → Prop
  | bug {journal : List RunMark} {i : Interruption} : p.PhaseTrace .afterExecution s journal (.error i) →
      i.error.isProgramming = true → EndTrace s journal (.error i.error)
  | failed {journal : List RunMark} {i : Interruption} {t : ExecutionState} :
      p.PhaseTrace .afterExecution s journal (.error i) → i.error.isProgramming = false →
      t = ((i.state.failed (.error i.error.kind i.error.message)).withBufferDrained p.keepToolTraces).concluded →
      EndTrace s (journal ++ [endMark t]) (.ok t)
  | finished {journal : List RunMark} {t u : ExecutionState} : p.PhaseTrace .afterExecution s journal (.ok t) →
      u = (t.withBufferDrained p.keepToolTraces).concluded → EndTrace s (journal ++ [endMark u]) (.ok u)

/-- What follows the loop: the end of the run, unless the loop was cut off or failed. -/
inductive CloseTrace : Option (Except AgentError ExecutionState) → List RunMark →
    Option (Except AgentError ExecutionState) → Prop
  | cutOff : CloseTrace none [] none
  | failed (e : AgentError) : CloseTrace (some (.error e)) [] (some (.error e))
  | ended {s : ExecutionState} {journal : List RunMark} {r : Except AgentError ExecutionState} :
      p.EndTrace s journal r → CloseTrace (some (.ok s)) journal (some r)

/-- A whole run, for a number of rounds. -/
inductive RunTrace (rounds : Nat) (s : ExecutionState) :
    List RunMark → Option (Except AgentError ExecutionState) → Prop
  | aborted {journal : List RunMark} {e : AgentError} : p.BeginTrace s journal (.error e) →
      RunTrace rounds s journal (some (.error e))
  | looped {journal journal' journal'' : List RunMark} {t : ExecutionState}
      {r r' : Option (Except AgentError ExecutionState)} : p.BeginTrace s journal (.ok t) →
      p.LoopTrace rounds t journal' r → p.CloseTrace r journal'' r' →
      RunTrace rounds s (journal ++ (journal' ++ journal'')) r'

/-! ## Every part leaves such a trace -/

variable {p} {phase : Phase} {s : ExecutionState} {journal : List RunMark}

theorem handlerTrace_of_mayLeave {handlers : List (PhaseHandler σ)} {r : Except Interruption ExecutionState}
    (h : (callHandlers phase handlers s).MayLeave journal r) : HandlerTrace phase handlers s journal r := by
  induction handlers generalizing s journal with
  | nil =>
    obtain ⟨rfl, rfl⟩ := h
    exact .done s
  | cons handler rest ih =>
    obtain ⟨_, result, _, called, h₁, rfl⟩ := MayLeave.of_bind h
    obtain ⟨_, _, _, wrote, h₂, rfl⟩ := MayLeave.of_bind h₁
    obtain ⟨rfl, gives⟩ := mayLeave_perform.1 called
    obtain rfl := mayLeave_note.1 wrote
    cases result with
    | ok t => exact .passed gives (ih h₂)
    | error e =>
      obtain ⟨rfl, rfl⟩ := h₂
      exact .failed gives

theorem hookTrace_of_mayLeave {t : HookTrigger} {ctx : HookContext} {u : ExecutionState}
    (h : (p.runHooks t ctx).MayLeave journal u) : p.HookTrace t ctx journal u := by
  unfold runHooks at h
  split at h
  · rename_i handles
    obtain ⟨_, _, _, run, ⟨rfl, rfl⟩, rfl⟩ := MayLeave.of_bind h
    obtain ⟨_, after, _, fired, h₁, rfl⟩ := MayLeave.of_bind run
    obtain ⟨_, _, _, wrote, ⟨rfl, rfl⟩, rfl⟩ := MayLeave.of_bind h₁
    obtain ⟨rfl, gives⟩ := mayLeave_perform.1 fired
    obtain rfl := mayLeave_note.1 wrote
    exact .dispatched handles gives
  · rename_i silent
    obtain ⟨rfl, rfl⟩ := h
    exact .unhandled (Bool.eq_false_iff.2 silent)

theorem phaseTrace_of_mayLeave {r : Except Interruption ExecutionState} (h : (p.runPhase phase s).MayLeave journal r) :
    p.PhaseTrace phase s journal r := by
  obtain ⟨_, r', _, handled, h₁, rfl⟩ := MayLeave.of_bind h
  obtain ⟨_, _, _, wrote, called, rfl⟩ := MayLeave.of_bind handled
  obtain rfl := mayLeave_note.1 wrote
  have called := handlerTrace_of_mayLeave called
  cases r' with
  | error i =>
    obtain ⟨rfl, rfl⟩ := h₁
    simpa using PhaseTrace.interrupted called
  | ok t =>
    dsimp only at h₁
    split at h₁
    · rename_i silent
      obtain ⟨rfl, rfl⟩ := h₁
      simpa using PhaseTrace.silent silent called
    · rename_i trigger hooked
      obtain ⟨_, u, _, fired, ⟨rfl, rfl⟩, rfl⟩ := MayLeave.of_bind h₁
      simpa using PhaseTrace.hooked hooked called (hookTrace_of_mayLeave fired)

theorem failureHookTrace_of_mayLeave {failure : StepFailure} {u : ExecutionState}
    (h : (p.afterFailure s failure).MayLeave journal u) : p.FailureHookTrace s failure journal u := by
  unfold afterFailure at h
  split at h
  · rename_i handles
    obtain ⟨_, _, _, fired, ⟨rfl, rfl⟩, rfl⟩ := MayLeave.of_bind h
    cases hookTrace_of_mayLeave fired with
    | unhandled silent => rw [silent] at handles; cases handles
    | dispatched _ gives => exact .dispatched handles gives
  · rename_i silent
    obtain ⟨rfl, rfl⟩ := h
    exact .unhandled (Bool.eq_false_iff.2 silent)

theorem failureTrace_of_mayLeave {step : Step} {r : Except AgentError ExecutionState}
    (h : (p.onError s step).MayLeave journal r) : p.FailureTrace s step journal r := by
  obtain ⟨_, _, _, wrote, h₁, rfl⟩ := MayLeave.of_bind h
  obtain rfl := mayLeave_note.1 wrote
  obtain ⟨_, r', _, handled, h₂, rfl⟩ := MayLeave.of_bind h₁
  obtain ⟨_, _, _, wrote, called, rfl⟩ := MayLeave.of_bind handled
  obtain rfl := mayLeave_note.1 wrote
  have called := handlerTrace_of_mayLeave called
  cases r' with
  | error i =>
    dsimp only at h₂
    split at h₂
    · rename_i programming
      obtain ⟨rfl, rfl⟩ := h₂
      simpa [failureMarks] using FailureTrace.bug called programming
    · rename_i runtime
      obtain ⟨_, u, _, fired, ⟨rfl, rfl⟩, rfl⟩ := MayLeave.of_bind h₂
      simpa [failureMarks] using
        FailureTrace.swallowed called (Bool.eq_false_iff.2 runtime) (failureHookTrace_of_mayLeave fired)
  | ok t =>
    obtain ⟨_, u, _, fired, ⟨rfl, rfl⟩, rfl⟩ := MayLeave.of_bind h₂
    simpa [failureMarks] using FailureTrace.handled called (failureHookTrace_of_mayLeave fired)

theorem recoveryTrace_of_mayLeave {i : Interruption} {r : Except AgentError ExecutionState}
    (h : (p.recover i).MayLeave journal r) : p.RecoveryTrace i journal r := by
  unfold recover at h
  split at h
  · rename_i programming
    obtain ⟨rfl, rfl⟩ := h
    exact .bug programming
  · rename_i runtime
    obtain ⟨_, now, _, read, h₁, rfl⟩ := MayLeave.of_bind h
    obtain ⟨_, completedAt, _, read', h₂, rfl⟩ := MayLeave.of_bind h₁
    obtain rfl := mayLeave_readClock.1 read
    obtain rfl := mayLeave_readClock.1 read'
    exact .recovered (Bool.eq_false_iff.2 runtime) (failureTrace_of_mayLeave h₂)

theorem mayLeave_drive {r : Except AgentError Step} (h : (p.drive s).MayLeave journal r) :
    ∃ marks result, (p.driver.useTools s p.tools p.executor).MayLeave marks result ∧
      journal = callMarks marks s result ∧ CountsAs s result r := by
  obtain ⟨_, startedAt, _, read, h₁, rfl⟩ := MayLeave.of_bind h
  obtain rfl := mayLeave_readClock.1 read
  obtain ⟨_, result, _, called, h₂, rfl⟩ := MayLeave.of_bind h₁
  obtain ⟨marks, drove, rfl⟩ := MayLeave.of_mapMarks called
  obtain ⟨_, _, _, wrote, h₃, rfl⟩ := MayLeave.of_bind h₂
  obtain rfl := mayLeave_note.1 wrote
  refine ⟨marks, result, drove, ?_⟩
  cases result with
  | ok step =>
    obtain ⟨rfl, rfl⟩ := h₃
    exact ⟨rfl, .step step⟩
  | error e =>
    dsimp only at h₃
    split at h₃
    · rename_i programming
      obtain ⟨rfl, rfl⟩ := h₃
      exact ⟨rfl, .bug programming⟩
    · rename_i runtime
      obtain ⟨_, completedAt, _, read, ⟨rfl, rfl⟩, rfl⟩ := MayLeave.of_bind h₃
      obtain rfl := mayLeave_readClock.1 read
      exact ⟨rfl, .failure startedAt completedAt (Bool.eq_false_iff.2 runtime)⟩

theorem recordTrace_of_mayLeave {number : UInt32} {step : Step} {r : Except AgentError ExecutionState}
    (h : (p.recordStep number s step).MayLeave journal r) : p.RecordTrace number s step journal r := by
  obtain ⟨_, r', _, executed, h₁, rfl⟩ := MayLeave.of_bind h
  have executed := phaseTrace_of_mayLeave executed
  cases r' with
  | error i => exact .interrupted executed (recoveryTrace_of_mayLeave h₁)
  | ok t =>
    obtain ⟨_, r', _, after, h₂, rfl⟩ := MayLeave.of_bind h₁
    have after := phaseTrace_of_mayLeave after
    cases r' with
    | error i => exact .interruptedLate executed after (recoveryTrace_of_mayLeave h₂)
    | ok u =>
      obtain ⟨_, _, _, wrote, ⟨rfl, rfl⟩, rfl⟩ := MayLeave.of_bind h₂
      obtain rfl := mayLeave_note.1 wrote
      exact .completed executed after

theorem passTrace_of_mayLeave {r : Except AgentError ExecutionState} (h : (p.runStep s).MayLeave journal r) :
    p.PassTrace s journal r := by
  obtain ⟨_, _, _, wrote, h₁, rfl⟩ := MayLeave.of_bind h
  obtain rfl := mayLeave_note.1 wrote
  obtain ⟨_, r', _, before, h₂, rfl⟩ := MayLeave.of_bind h₁
  have before := phaseTrace_of_mayLeave before
  cases r' with
  | error i => simpa [passMark] using PassTrace.interrupted before (recoveryTrace_of_mayLeave h₂)
  | ok t =>
    dsimp only at h₂
    split at h₂
    · rename_i terminal
      obtain ⟨rfl, rfl⟩ := h₂
      simpa [passMark] using PassTrace.ended before terminal
    · rename_i running
      have running := Bool.eq_false_iff.2 running
      obtain ⟨_, r', _, drove, h₃, rfl⟩ := MayLeave.of_bind h₂
      obtain ⟨marks, result, did, rfl, counts⟩ := mayLeave_drive drove
      cases r' with
      | error e =>
        obtain ⟨rfl, rfl⟩ := h₃
        simpa [passMark] using PassTrace.called before running did (.bug counts)
      | ok step =>
        dsimp only at h₃
        split at h₃
        · rename_i failed
          simpa [passMark] using
            PassTrace.called before running did (.failed counts failed (failureTrace_of_mayLeave h₃))
        · rename_i fine
          have fine := Bool.eq_false_iff.2 fine
          simpa [passMark] using
            PassTrace.called before running did (.recorded counts fine (recordTrace_of_mayLeave h₃))

theorem checkTrace_of_mayLeave {token : Token} {c : Continuation} (h : (p.continuation token s).MayLeave journal c) :
    journal = [.entered .shouldContinue s] ∧ p.CheckTrace s c := by
  obtain ⟨_, _, _, wrote, h₁, rfl⟩ := MayLeave.of_bind h
  obtain rfl := mayLeave_note.1 wrote
  split at h₁
  · rename_i terminal
    obtain ⟨rfl, rfl⟩ := h₁
    exact ⟨rfl, .terminal terminal⟩
  · rename_i running
    have running := Bool.eq_false_iff.2 running
    obtain ⟨_, cancelled, _, asked, h₂, rfl⟩ := MayLeave.of_bind h₁
    obtain rfl := mayLeave_askCancelled.1 asked
    cases cancelled with
    | true =>
      obtain ⟨rfl, rfl⟩ := h₂
      exact ⟨rfl, .cancelled running⟩
    | false =>
      obtain ⟨_, now, _, read, h₃, rfl⟩ := MayLeave.of_bind h₂
      obtain rfl := mayLeave_readClock.1 read
      dsimp only at h₃
      split at h₃
      · rename_i goesOn
        obtain ⟨rfl, rfl⟩ := h₃
        exact ⟨rfl, .granted running goesOn⟩
      · rename_i stops
        obtain ⟨rfl, rfl⟩ := h₃
        exact ⟨rfl, .refused running stops⟩

theorem loopTrace_of_mayLeave {token : Token} {rounds : Nat} {r : Option (Except AgentError ExecutionState)}
    (h : (p.loop token rounds s).MayLeave journal r) : p.LoopTrace rounds s journal r := by
  induction rounds generalizing s journal with
  | zero =>
    obtain ⟨rfl, rfl⟩ := h
    exact .cutOff s
  | succ n ih =>
    obtain ⟨_, c, _, looked, h₁, rfl⟩ := MayLeave.of_bind h
    obtain ⟨rfl, checked⟩ := checkTrace_of_mayLeave looked
    cases c with
    | stop t =>
      obtain ⟨rfl, rfl⟩ := h₁
      exact .stopped checked
    | proceed t =>
      obtain ⟨_, r', _, stepped, h₂, rfl⟩ := MayLeave.of_bind h₁
      have pass := passTrace_of_mayLeave stepped
      cases r' with
      | error e =>
        obtain ⟨rfl, rfl⟩ := h₂
        simpa using LoopTrace.failed checked pass
      | ok u => simpa using LoopTrace.passed checked pass (ih h₂)

theorem beginTrace_of_mayLeave {r : Except AgentError ExecutionState} (h : (p.beforeExecution s).MayLeave journal r) :
    p.BeginTrace s journal r := by
  obtain ⟨_, now, _, read, h₁, rfl⟩ := MayLeave.of_bind h
  obtain rfl := mayLeave_readClock.1 read
  obtain ⟨_, r', _, began, h₂, rfl⟩ := MayLeave.of_bind h₁
  have began := phaseTrace_of_mayLeave began
  cases r' with
  | error i => simpa using BeginTrace.interrupted began (recoveryTrace_of_mayLeave h₂)
  | ok t =>
    obtain ⟨_, _, _, wrote, ⟨rfl, rfl⟩, rfl⟩ := MayLeave.of_bind h₂
    obtain rfl := mayLeave_note.1 wrote
    simpa using BeginTrace.begun began

theorem mayLeave_finish {u : ExecutionState} (h : (p.finish s).MayLeave journal u) :
    u = (s.withBufferDrained p.keepToolTraces).concluded ∧ journal = [endMark u] := by
  obtain ⟨_, _, _, wrote, ⟨rfl, rfl⟩, rfl⟩ := MayLeave.of_bind h
  obtain rfl := mayLeave_note.1 wrote
  exact ⟨rfl, rfl⟩

theorem endTrace_of_mayLeave {r : Except AgentError ExecutionState} (h : (p.afterExecution s).MayLeave journal r) :
    p.EndTrace s journal r := by
  obtain ⟨_, r', _, ended, h₁, rfl⟩ := MayLeave.of_bind h
  have ended := phaseTrace_of_mayLeave ended
  cases r' with
  | error i =>
    dsimp only at h₁
    split at h₁
    · rename_i programming
      obtain ⟨rfl, rfl⟩ := h₁
      simpa using EndTrace.bug ended programming
    · rename_i runtime
      obtain ⟨_, t, _, finished, ⟨rfl, rfl⟩, rfl⟩ := MayLeave.of_bind h₁
      obtain ⟨same, rfl⟩ := mayLeave_finish finished
      simpa using EndTrace.failed ended (Bool.eq_false_iff.2 runtime) same
  | ok t =>
    obtain ⟨_, u, _, finished, ⟨rfl, rfl⟩, rfl⟩ := MayLeave.of_bind h₁
    obtain ⟨same, rfl⟩ := mayLeave_finish finished
    simpa using EndTrace.finished ended same

theorem runTrace_of_mayLeave {token : Token} {rounds : Nat} {r : Option (Except AgentError ExecutionState)}
    (h : (p.run token rounds s).MayLeave journal r) : p.RunTrace rounds s journal r := by
  obtain ⟨_, r', _, began, h₁, rfl⟩ := MayLeave.of_bind h
  have began := beginTrace_of_mayLeave began
  cases r' with
  | error e =>
    obtain ⟨rfl, rfl⟩ := h₁
    simpa using RunTrace.aborted began
  | ok t =>
    obtain ⟨_, r', _, looped, h₂, rfl⟩ := MayLeave.of_bind h₁
    have looped := loopTrace_of_mayLeave looped
    match r' with
    | none =>
      obtain ⟨rfl, rfl⟩ := h₂
      exact .looped began looped .cutOff
    | some (.error e) =>
      obtain ⟨rfl, rfl⟩ := h₂
      exact .looped began looped (.failed e)
    | some (.ok u) =>
      obtain ⟨_, r', _, ended, ⟨rfl, rfl⟩, rfl⟩ := MayLeave.of_bind h₂
      simpa using RunTrace.looped began looped (.ended (endTrace_of_mayLeave ended))

variable (p)

/-- Every run leaves a trace. -/
theorem runTrace_exec (token : Token) (rounds : Nat) (s : ExecutionState) (frame : Frame) (w : World σ) :
    p.RunTrace rounds s ((p.run token rounds s).exec frame w).journal ((p.run token rounds s).exec frame w).value :=
  runTrace_of_mayLeave (mayLeave_exec _ frame w)

end Pipeline

end AgentLoop
