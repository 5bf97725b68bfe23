import AgentLoop.State.Basic

/-!
# Continuation criteria

- `Criterion`: may the loop take another step? A criterion looks at the state and the time since the run began;
- `firstStop`: the first of several criteria that stops the run;
- the ready-made criteria: `stepsLimit`, `tokenUsageLimit`, `executionTimeLimit`, `toolCallPresence`, `finishReason`,
  `errorPresence`.
-/

namespace AgentLoop

/-- What a criterion sees at the top of an iteration. -/
structure ContinuationContext where
  state : ExecutionState
  /-- The nanoseconds since the run began. -/
  elapsed : Nat

/-- A rule that may stop the loop. -/
structure Criterion where
  name : String
  /-- Why the loop stops, or nothing if it may go on. -/
  evaluate : ContinuationContext → Option String

namespace Criterion

/-- The name and the reason of the first criterion that stops the loop. -/
def firstStop (criteria : List Criterion) (ctx : ContinuationContext) : Option (String × String) :=
  criteria.findSome? fun c => (c.evaluate ctx).map fun detail => (c.name, detail)

/-- Stops once so many steps have begun in the run. -/
def stepsLimit (max : UInt32) : Criterion where
  name := "steps_limit"
  evaluate ctx :=
    let steps := ctx.state.stats.stepCounter
    if max ≤ steps then some (toString steps.toNat ++ " of " ++ toString max.toNat ++ " steps used") else none

/-- Stops once the steps of the run have consumed so many tokens. -/
def tokenUsageLimit (max : UInt64) : Criterion where
  name := "token_usage_limit"
  evaluate ctx :=
    let used := ctx.state.runUsage.total
    if max ≤ used then some (toString used.toNat ++ " tokens used, budget " ++ toString max.toNat) else none

/-- The nanoseconds of a millisecond. -/
def millisecond : Nat := 1000000

/-- Stops once the run has taken so many milliseconds. -/
def executionTimeLimit (ms : UInt64) : Criterion where
  name := "execution_time_limit"
  evaluate ctx :=
    if ms.toNat * millisecond ≤ ctx.elapsed then
      some (toString (ctx.elapsed / millisecond) ++ "ms elapsed, limit " ++ toString ms.toNat ++ "ms")
    else none

/-- Stops once the run has a final answer. -/
def toolCallPresence : Criterion where
  name := "tool_call_presence"
  evaluate ctx := if ctx.state.isAnswered then some "final response produced" else none

/-- Stops when the latest inference ended for one of the given reasons. -/
def finishReason (reasons : List StopReason) : Criterion where
  name := "finish_reason"
  evaluate ctx := do
    let reason := (← (← ctx.state.currentStep).inference).stopReason
    if reasons.contains reason then return "inference finished with " ++ reason.diagnostic else none

/-- Stops when the latest step failed. -/
def errorPresence : Criterion where
  name := "error_presence"
  evaluate ctx := do
    let failure ← (← ctx.state.currentStep).failure
    return failure.kind.name ++ ": " ++ failure.message

end Criterion

end AgentLoop
