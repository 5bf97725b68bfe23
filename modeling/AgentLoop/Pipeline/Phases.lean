import AgentLoop.Pipeline.Basic

/-!
# The phases of a run

- `Pipeline.runPhase`: the handlers of a phase, then the hooks of its trigger;
- `Pipeline.beforeExecution`, `Pipeline.continuation`, `Pipeline.runStep`, `Pipeline.afterExecution`: the four parts of
  a run;
- `Pipeline.onError`: what becomes of a failed step. Runtime failures are recorded and the error policy decides whether
  the run goes on; programming errors end it.
-/

namespace AgentLoop

/-- A phase that failed: the state before the handler that failed, and the error. -/
structure Interruption where
  state : ExecutionState
  error : AgentError

/-- May the loop take another step? -/
inductive Continuation where
  | proceed (s : ExecutionState)
  /-- The loop is over; the status is terminal. -/
  | stop (s : ExecutionState)

namespace ExecutionState

/-- A terminal status without a reason was set by a hook or a handler. -/
def settled (s : ExecutionState) : ExecutionState :=
  if s.termination.isSome then s
  else
    match s.status with
    | .running => s
    | .completed => s.completed .hookRequested
    | .failed => s.failed .hookRequested

/-- Records a step: a final answer joins the conversation, the outputs of another step wait in the buffer. -/
def withOutcome (s : ExecutionState) (step : Step) (keepTraces : Bool) : ExecutionState :=
  if step.isFinal then s.withFinalStep step keepTraces else (s.withBuffered step.outputMessages).withStep step

/-- The end of a run that nothing has ended yet. -/
def concluded (s : ExecutionState) : ExecutionState :=
  match s.status with
  | .running => if s.isAnswered then s.completed .finalResponse else s.withStatus .completed
  | _ => s

/-- Counts a step with so many failed tools. Failures that the policy ignores end the row of failures. -/
def withToolFailures (s : ExecutionState) (policy : ErrorPolicy) (failed : Nat) : ExecutionState :=
  if failed = 0 then s.withFailuresReset
  else
    let counted := s.withFailureRecorded .tool
    if policy.decision .tool = .ignore then counted.withFailuresReset
    else if policy.shouldContinue .tool counted.stats.consecutiveFailures then counted
    else counted.failed (.error .tool (toString failed ++ " tool execution(s) failed"))

/-- Records a failed step and counts it; the run fails unless the policy lets it go on. -/
def withFailedStep (s : ExecutionState) (policy : ErrorPolicy) (step : Step) (failure : StepFailure) : ExecutionState :=
  let counted := ((s.withBuffered step.outputMessages).withStep step).withFailureRecorded failure.kind
  if policy.shouldContinue failure.kind counted.stats.consecutiveFailures then counted
  else counted.failed (.error failure.kind failure.message)

end ExecutionState

/-- Why a step failed; a step may leave that open. -/
def Step.cause (s : Step) : StepFailure := s.failure.getD ⟨.unknown, "step failed"⟩

namespace Pipeline

variable {σ : Type} (p : Pipeline σ)

/-- Reports an event. -/
def report (e : RunEvent) : Program σ RunMark Unit := Program.note (.event e)

/-- Calls handlers one after another, up to the first error. -/
def callHandlers (phase : Phase) : List (PhaseHandler σ) → ExecutionState →
    Program σ RunMark (Except Interruption ExecutionState)
  | [], s => return .ok s
  | h :: rest, s => do
    let result ← Program.perform (h.handle phase s)
    Program.note (.handled phase s result)
    match result with
    | .ok next => callHandlers phase rest next
    | .error error => return .error ⟨s, error⟩

/-- Enters a phase and calls its handlers. -/
def runHandlers (phase : Phase) (s : ExecutionState) : Program σ RunMark (Except Interruption ExecutionState) := do
  Program.note (.entered phase s)
  callHandlers phase (p.handlersOf phase) s

/-- The state after the hooks of a trigger, if there are any. -/
def runHooks (t : HookTrigger) (ctx : HookContext) : Program σ RunMark ExecutionState := do
  if p.hooks.handles t then return (← p.hooks.run .dispatched t ctx).state
  else return ctx.state

/-- The handlers of a phase, then the hooks of its trigger. -/
def runPhase (phase : Phase) (s : ExecutionState) : Program σ RunMark (Except Interruption ExecutionState) := do
  match ← p.runHandlers phase s with
  | .error i => return .error i
  | .ok s =>
    match phase.trigger with
    | none => return .ok s.settled
    | some t => return .ok (← p.runHooks t { trigger := t, state := s }).settled

/-! ## Failures -/

/-- The state after the hooks for failures. -/
def afterFailure (s : ExecutionState) (failure : StepFailure) : Program σ RunMark ExecutionState := do
  if p.hooks.handles .onError then return (← p.runHooks .onError (.forFailure s failure)).settled
  else return s

/-- What becomes of a failed step. -/
def onError (s : ExecutionState) (step : Step) : Program σ RunMark (Except AgentError ExecutionState) := do
  let failure := step.cause
  report (.errorOccurred failure.kind failure.message)
  let s := s.withFailedStep p.errorPolicy step failure
  match ← p.runHandlers .onError s with
  | .error i =>
    if i.error.isProgramming then return .error i.error
    else return .ok (← p.afterFailure i.state failure)
  | .ok s => return .ok (← p.afterFailure s failure)

/-- What becomes of a runtime error: a failed step; a programming error stays one. -/
def recover (i : Interruption) : Program σ RunMark (Except AgentError ExecutionState) := do
  if i.error.isProgramming then return .error i.error
  else
    let now ← Program.readClock
    let completedAt ← Program.readClock
    p.onError i.state (.failed i.error.kind i.error.message [] now completedAt)

/-! ## The parts of a run -/

/-- The beginning of a run. -/
def beforeExecution (s : ExecutionState) : Program σ RunMark (Except AgentError ExecutionState) := do
  let now ← Program.readClock
  match ← p.runPhase .beforeExecution (s.withRunStarted now) with
  | .error i => p.recover i
  | .ok s =>
    report (.executionStarted s.messages.length)
    return .ok s

/-- May the loop take another step? It stops for a terminal status, then for a cancellation, then for a criterion. -/
def continuation (token : Token) (s : ExecutionState) : Program σ RunMark Continuation := do
  Program.note (.entered .shouldContinue s)
  if s.isTerminal then return .stop s
  else if ← Program.askCancelled token then return .stop (s.completed .cancelled)
  else
    let elapsed := (s.elapsed (← Program.readClock)).getD 0
    match Criterion.firstStop p.criteria ⟨s, elapsed⟩ with
    | none => return .proceed s
    | some (name, detail) =>
      let reason := if s.isAnswered then .finalResponse else .criterion name detail
      return .stop (s.completed reason)

/-- Calls the driver. A runtime error becomes a failed step. -/
def drive (s : ExecutionState) : Program σ RunMark (Except AgentError Step) := do
  let startedAt ← Program.readClock
  let result ← (p.driver.useTools s p.tools p.executor).mapMarks .step
  Program.note (.drove s result)
  match result with
  | .ok step => return .ok step
  | .error e =>
    if e.isProgramming then return .error e
    else
      let completedAt ← Program.readClock
      return .ok (.failed e.kind e.message s.inferenceMessages startedAt completedAt)

/-- What follows a step that did not fail. -/
def recordStep (number : UInt32) (s : ExecutionState) (step : Step) :
    Program σ RunMark (Except AgentError ExecutionState) := do
  match ← p.runPhase .executeStep (s.withOutcome step p.keepToolTraces) with
  | .error i => p.recover i
  | .ok s =>
    match ← p.runPhase .afterStep (s.withToolFailures p.errorPolicy step.failedToolCount) with
    | .error i => p.recover i
    | .ok s =>
      report (.stepCompleted number step.stepType)
      return .ok s

/-- One pass of the loop. -/
def runStep (s : ExecutionState) : Program σ RunMark (Except AgentError ExecutionState) := do
  let s := s.withStepStarted
  let number := s.stats.stepCounter
  report (.stepStarted number)
  match ← p.runPhase .beforeStep s with
  | .error i => p.recover i
  | .ok s =>
    if s.isTerminal then return .ok s
    else
      match ← p.drive s with
      | .error e => return .error e
      | .ok step => if step.isError then p.onError s step else p.recordStep number s step

/-- What the run leaves behind: the buffer is emptied, and a status that is still running becomes terminal. -/
def finish (s : ExecutionState) : Program σ RunMark ExecutionState := do
  let s := (s.withBufferDrained p.keepToolTraces).concluded
  report (.executionFinished s.status s.steps.length s.termination)
  return s

/-- The end of a run. -/
def afterExecution (s : ExecutionState) : Program σ RunMark (Except AgentError ExecutionState) := do
  match ← p.runPhase .afterExecution s with
  | .error i =>
    if i.error.isProgramming then return .error i.error
    else return .ok (← p.finish (i.state.failed (.error i.error.kind i.error.message)))
  | .ok s => return .ok (← p.finish s)

end Pipeline

end AgentLoop
