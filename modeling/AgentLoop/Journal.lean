import AgentLoop.Backend.Request
import AgentLoop.Effect.Program
import AgentLoop.Event
import AgentLoop.Hook.Stack

/-!
# What runs write down

- `StepMark`: the journal of a step: its events, the requests that were sent, the tools that were invoked, the hooks
  that were dispatched;
- `RunMark`: the journal of a run: its events, the journals of its steps, the phases that were entered, what handlers,
  hooks and the driver were given and what they returned.
-/

namespace AgentLoop

/-- A mark in the journal of a step. -/
inductive StepMark where
  | event (e : StepEvent)
  /-- A request was sent to the backend. -/
  | requested (params : ChatParams)
  /-- A tool was invoked for a call. -/
  | invoked (call : ToolCall)
  /-- Hooks were dispatched. -/
  | dispatched (before after : HookContext)

/-- A mark in the journal of a run. -/
inductive RunMark where
  | event (e : RunEvent)
  /-- A mark of a step. -/
  | step (m : StepMark)
  /-- A phase was entered with a state. -/
  | entered (phase : Phase) (s : ExecutionState)
  /-- A handler was called. -/
  | handled (phase : Phase) (before : ExecutionState) (result : Except AgentError ExecutionState)
  /-- Hooks were dispatched. -/
  | dispatched (before after : HookContext)
  /-- The driver was called. -/
  | drove (before : ExecutionState) (result : Except AgentError Step)

/-- The event that a mark records. -/
def StepMark.event? : StepMark → Option AgentEvent
  | event e => some (.step e)
  | _ => none

/-- The request that a mark records. -/
def StepMark.request? : StepMark → Option ChatParams
  | requested params => some params
  | _ => none

/-- The call that a mark shows to be invoked. -/
def StepMark.invoked? : StepMark → Option ToolCall
  | invoked call => some call
  | _ => none

/-- The event that a mark records. -/
def RunMark.event? : RunMark → Option AgentEvent
  | event e => some (.run e)
  | step m => m.event?
  | _ => none

/-- The request that a mark records. -/
def RunMark.request? : RunMark → Option ChatParams
  | step m => m.request?
  | _ => none

/-- The state that a mark shows: the one with which a phase is entered, or that a collaborator is given. -/
def RunMark.state? : RunMark → Option ExecutionState
  | entered _ s | handled _ s _ | drove s _ => some s
  | dispatched before _ => some before.state
  | _ => none

/-- Dispatches hooks and writes that down. -/
def HookStack.run {σ μ : Type} (s : HookStack σ) (written : HookContext → HookContext → μ) (t : HookTrigger)
    (ctx : HookContext) : Program σ μ HookContext := do
  let after ← Program.perform (s.dispatch t ctx)
  Program.note (written ctx after)
  return after

end AgentLoop
