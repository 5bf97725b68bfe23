import AgentLoop.Journal
import AgentLoop.Tool.Turns
import AgentLoop.Tool.Validation

/-!
# Executing tool calls

- `Executor.prepare`: hooks may veto or edit a call; then its tool is looked up and its arguments are checked. A call
  that passes is ready, any other one is settled by a failure;
- `Executor.inOrder`: the ready calls one after another, up to the first misuse;
- `Executor.interleaved`: the ready calls side by side: the schedule picks which one goes on until its next pause. No
  number of turns is given: there are as many as the tools take;
- `Executor.execute`: both, and then the hooks after tool use. The records stand in the order of the calls.
-/

namespace AgentLoop

/-- How tool calls are executed. -/
structure Executor (σ : Type) where
  /-- What checks arguments. -/
  schemas : SchemaLibrary
  hooks : HookStack σ := .empty
  /-- The calls of a step run side by side. -/
  parallel : Bool := false
  /-- Which of the unfinished calls goes on at each turn, counted from the one that waits longest. -/
  schedule : Nat → Nat := fun _ => 0

/-- A call after its preparation. -/
inductive PreparedCall (σ : Type) where
  /-- Nothing will be invoked. -/
  | settled (e : ToolExecution)
  | ready (call : ToolCall) (tool : Tool σ)

namespace Executor

variable {σ : Type}

/-- Reports an event. -/
def report (e : StepEvent) : Program σ StepMark Unit := Program.note (.event e)

/-! ## Before the tools -/

/-- The call after the hooks before tool use; a call that a hook drops stays as it was requested. -/
def pending (x : Executor σ) (state : ExecutionState) (call : ToolCall) : Program σ StepMark PendingToolCall := do
  if x.hooks.handles .beforeToolUse then
    let ctx ← x.hooks.run .dispatched .beforeToolUse (.forToolCall state call)
    return ctx.toolCall.getD { call }
  else
    return { call }

/-- Settles a call by a failure. -/
def reject (call : ToolCall) (error : String) : Program σ StepMark (PreparedCall σ) := do
  return .settled (.rejected call error (← Program.readClock))

/-- Prepares a call. -/
def prepare (x : Executor σ) (state : ExecutionState) (tools : ToolRegistry σ) (call : ToolCall) :
    Program σ StepMark (PreparedCall σ) := do
  let { call, blocked } ← x.pending state call
  match blocked with
  | some reason =>
    report (.toolCallBlocked call.id call.name reason)
    reject call reason
  | none =>
    match tools.get? call.name with
    | none => reject call ("Unknown tool: " ++ call.name)
    | some tool =>
      match x.schemas.validate tool.definition.parameters call.arguments with
      | .error detail =>
        let message := "Invalid arguments for tool '" ++ call.name ++ "': " ++ detail
        report (.validationFailed message)
        reject call message
      | .ok () => return .ready call tool

/-! ## The tools -/

/-- Invokes a tool; gives the time. -/
def start (call : ToolCall) : Program σ StepMark Instant := do
  report (.toolCallStarted call.id call.name)
  let startedAt ← Program.readClock
  Program.note (.invoked call)
  return startedAt

/-- The record of a tool that has finished, unless it was misused. -/
def conclude (call : ToolCall) (startedAt : Instant) (result : Except ToolError Json) :
    Program σ StepMark (Except AgentError ToolExecution) := do
  let completedAt ← Program.readClock
  let record (e : ToolExecution) : Program σ StepMark (Except AgentError ToolExecution) := do
    report (.toolCallCompleted e.toolCall.id e.toolCall.name e.isSuccess e.durationMs)
    return .ok e
  match result with
  | .ok value => record (.success call value startedAt completedAt)
  | .error e =>
    if e.misuse then return .error (.toolMisuse call.name e.message)
    else record (.failure call e.message startedAt completedAt)

/-- Lets a tool work until it has its result. -/
def work : Invocation σ → Program σ StepMark (Except ToolError Json)
  | .last a => Program.perform a
  | .turn a next => do
    let (slot, own, result) ← Program.perform a.watched
    match result with
    | some result => return result
    | none => work (next slot own)

/-- Brings a call to its end. -/
def finish : PreparedCall σ → Program σ StepMark (Except AgentError ToolExecution)
  | .settled e => return .ok e
  | .ready call tool => do
    let startedAt ← start call
    conclude call startedAt (← work (tool.invoke call.arguments))

/-- Brings calls to their ends, one after another. -/
def inOrder : List (PreparedCall σ) → Program σ StepMark (Except AgentError (List ToolExecution))
  | [] => return .ok []
  | p :: rest => do
    match ← finish p with
    | .error e => return .error e
    | .ok execution =>
      match ← inOrder rest with
      | .error e => return .error e
      | .ok executions => return .ok (execution :: executions)

/-- The results of calls that have ended, with the places of the calls. -/
abbrev Results := List (Nat × Except AgentError ToolExecution)

/-- Sorts calls into results and work to do, counting from `index`. -/
def sorted : (index : Nat) → List (PreparedCall σ) → Results × List (RunningCall σ)
  | _, [] => ([], [])
  | index, .settled e :: rest =>
    let (results, running) := sorted (index + 1) rest
    ((index, .ok e) :: results, running)
  | index, .ready call tool :: rest =>
    let (results, running) := sorted (index + 1) rest
    (results, ⟨index, call, none, tool.invoke call.arguments⟩ :: running)

/-- The time at which a call began. Its tool is invoked if it has not been yet. -/
def begun (c : RunningCall σ) : Program σ StepMark Instant :=
  match c.startedAt with
  | some t => return t
  | none => start c.call

/-- A turn of a call that has begun: it ends with a result, or it waits again. -/
def goOn (startedAt : Instant) : (c : RunningCall σ) → Program σ StepMark (Except AgentError ToolExecution ⊕ c.Left)
  | ⟨_, call, _, .last a⟩ => return .inl (← conclude call startedAt (← Program.perform a))
  | ⟨index, call, _, .turn a next⟩ => do
    let (slot, own, result) ← Program.perform a.watched
    match result with
    | some result => return .inl (← conclude call startedAt result)
    | none => return .inr ⟨⟨index, call, some startedAt, next slot own⟩, .next a next slot own⟩

/-- Lets a call go on until its next pause. -/
def advance (c : RunningCall σ) : Program σ StepMark (Except AgentError ToolExecution ⊕ c.Left) := do
  goOn (← begun c) c

/-- Lets calls go on side by side until all have ended. -/
def interleave (schedule : Nat → Nat) (turn : Nat) (results : Results) (running : List (RunningCall σ)) :
    Program σ StepMark Results :=
  let n := schedule turn % running.length
  match _picked : running[n]? with
  | none => return results
  | some c => do
    match ← advance c with
    | .inl result => interleave schedule (turn + 1) ((c.index, result) :: results) (running.eraseIdx n)
    | .inr left => interleave schedule (turn + 1) results (running.eraseIdx n ++ [left.val])
termination_by Waiting.mk running
decreasing_by
  · exact Waiting.fewer_of_ended _picked
  · exact Waiting.fewer_of_left _picked left

/-- Brings calls to their ends, side by side. -/
def interleaved (schedule : Nat → Nat) (calls : List (PreparedCall σ)) :
    Program σ StepMark (Except AgentError (List ToolExecution)) := do
  let (results, running) := sorted 0 calls
  let results ← interleave schedule 0 results running
  let inRequestOrder := (List.range calls.length).filterMap fun i => results.lookup i
  return inRequestOrder.mapM id

/-! ## After the tools -/

/-- The record after the hooks after tool use; a record that a hook drops stays as it was. -/
def reviewed (x : Executor σ) (state : ExecutionState) (e : ToolExecution) : Program σ StepMark ToolExecution := do
  let ctx ← x.hooks.run .dispatched .afterToolUse (.forToolExecution state e)
  return ctx.toolExecution.getD e

/-- Executes the tool calls of a step. -/
def execute (x : Executor σ) (calls : List ToolCall) (state : ExecutionState) (tools : ToolRegistry σ) :
    Program σ StepMark (Except AgentError (List ToolExecution)) := do
  let prepared ← calls.mapM (x.prepare state tools)
  match ← (if x.parallel then interleaved x.schedule prepared else inOrder prepared) with
  | .error e => return .error e
  | .ok executions =>
    if x.hooks.handles .afterToolUse then return .ok (← executions.mapM (x.reviewed state))
    else return .ok executions

end Executor

end AgentLoop
