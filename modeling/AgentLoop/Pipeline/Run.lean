import AgentLoop.Pipeline.Phases

/-!
# Runs

- `Pipeline.loop`: steps until a continuation check stops them, for a number of rounds;
- `Pipeline.run`: the whole run;
- `Stage`, `Pipeline.pull`: the run pulled step by step: each pull gives the next state, the last one what the run
  returns.
-/

namespace AgentLoop

/-- How far a run is that is pulled step by step. -/
inductive Stage where
  /-- Nothing has happened yet. -/
  | fresh (s : ExecutionState)
  /-- Before a continuation check. -/
  | between (s : ExecutionState)
  /-- The run was not let in. -/
  | refused
  /-- Nothing follows. -/
  | ended

namespace Stage

/-- Does the run hold its agent? -/
def holds : Stage → Bool
  | fresh _ | between _ => true
  | refused | ended => false

end Stage

namespace Pipeline

variable {σ : Type} (p : Pipeline σ)

/-- Steps until a continuation check stops them; nothing if they would go on after so many rounds. -/
def loop (token : Token) : (rounds : Nat) → ExecutionState →
    Program σ RunMark (Option (Except AgentError ExecutionState))
  | 0, _ => return none
  | rounds + 1, s => do
    match ← p.continuation token s with
    | .stop s => return some (.ok s)
    | .proceed s =>
      match ← p.runStep s with
      | .error e => return some (.error e)
      | .ok s => loop token rounds s

/-- A whole run; nothing if its loop would go on after so many rounds. -/
def run (token : Token) (rounds : Nat) (s : ExecutionState) :
    Program σ RunMark (Option (Except AgentError ExecutionState)) := do
  match ← p.beforeExecution s with
  | .error e => return some (.error e)
  | .ok s =>
    match ← p.loop token rounds s with
    | none => return none
    | some (.error e) => return some (.error e)
    | some (.ok s) => return some (← p.afterExecution s)

/-- Takes the next step of a run, or ends it. -/
def pullStep (token : Token) (s : ExecutionState) :
    Program σ RunMark (Option (Except AgentError ExecutionState) × Stage) := do
  match ← p.continuation token s with
  | .stop s => return (some (← p.afterExecution s), .ended)
  | .proceed s =>
    match ← p.runStep s with
    | .error e => return (some (.error e), .ended)
    | .ok s => return (some (.ok s), .between s)

/-- Pulls the next item of a run: a state, an error, or nothing when the run is over. -/
def pull (token : Token) : Stage → Program σ RunMark (Option (Except AgentError ExecutionState) × Stage)
  | .ended => return (none, .ended)
  | .refused => return (some (.error .reentrantRun), .ended)
  | .between s => p.pullStep token s
  | .fresh s => do
    match ← p.beforeExecution s with
    | .error e => return (some (.error e), .ended)
    | .ok s => p.pullStep token s

end Pipeline

end AgentLoop
