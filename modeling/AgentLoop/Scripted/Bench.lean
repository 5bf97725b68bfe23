import AgentLoop.Backend.Script
import AgentLoop.Driver.Basic

/-!
# The bench of scripted collaborators

- `GivenReply`: a reply as a rehearsal gives it;
- `Bench`: what scripted tools, hooks, handlers, drivers and backends share while an agent is rehearsed: a log, the
  script of the backend, the steps that a scripted driver still has, and how often each tool was invoked;
- `Bench.backend`: the scripted backend, which for some of the replies streams pieces that are given;
- `Bench.driver`: a driver that takes its steps from the bench.
-/

namespace AgentLoop

/-- What a scripted driver does when it is called. -/
inductive ScriptedStep where
  /-- It fails. -/
  | failure (e : AgentError)
  /-- It gives this step. -/
  | ready (s : Step)
  /-- It executes these calls. -/
  | execute (calls : List ToolCall)

/-- A reply as a rehearsal gives it. -/
structure GivenReply where
  reply : Reply
  /-- The pieces of which its stream is to consist, if they are given. -/
  pieces : Option (List (Except BackendError StreamEvent)) := none

/-- What scripted collaborators share. -/
structure Bench where
  /-- What was logged, the latest first. -/
  log : List String := []
  script : Script := {}
  /-- For each reply that waits, the pieces of which its stream is to consist, if they are given. -/
  streams : List (Option (List (Except BackendError StreamEvent))) := []
  /-- The steps that a scripted driver still has. -/
  steps : List ScriptedStep := []
  /-- How often each tool was invoked. -/
  invoked : Nat → Nat := fun _ => 0

namespace Bench

/-- Where the script of the backend lies. -/
def theScript : Lens Bench Script := ⟨Bench.script, fun script b => { b with script }⟩

/-- Adds replies to the script. -/
def enqueue (b : Bench) (replies : List GivenReply) : Bench :=
  { b with script := b.script.enqueue (replies.map (·.reply)), streams := b.streams ++ replies.map (·.pieces) }

/-- The backend that answers from the script. -/
def backend (info : BackendInfo) : Backend Bench :=
  let scripted := Backend.scripted info theScript
  let given : Act Bench (Option (List (Except BackendError StreamEvent))) := .modifyGet fun b =>
    (b.streams.head?.join, { b with streams := b.streams.tail })
  { info
    generate := fun params => do
      let _ ← given
      scripted.generate params
    stream := fun params => do
      let pieces ← given
      let answer ← scripted.stream params
      return pieces.elim answer .ok }

/-- Adds an entry to the log. -/
def write (entry : String) : Act Bench Unit := .modify fun b => { b with log := entry :: b.log }

/-- Counts an invocation of a tool; gives its number, from 1. -/
def countInvocation (tool : Nat) : Act Bench Nat := .modifyGet fun b =>
  let number := b.invoked tool + 1
  (number, { b with invoked := fun t => if t = tool then number else b.invoked t })

/-- Takes the next step of a scripted driver. -/
def nextStep : Act Bench ScriptedStep := .modifyGet fun b =>
  (b.steps.headD (.failure (.contractViolation "list driver exhausted")), { b with steps := b.steps.tail })

/-- A driver that takes its steps from the bench. -/
def driver (name : String) : Driver Bench where
  name := name
  useTools state tools executor := do
    match ← Program.perform nextStep with
    | .failure e => return .error e
    | .ready s => return .ok s
    | .execute calls =>
      let startedAt ← Program.readClock
      match ← executor.execute calls state tools with
      | .error e => return .error e
      | .ok executions =>
        let outputs := executions.map fun e => ChatMessage.toolResultFull e.toToolResult
        let completedAt ← Program.readClock
        return .ok (.toolExecution state.inferenceMessages outputs executions none startedAt completedAt)

end Bench

end AgentLoop
