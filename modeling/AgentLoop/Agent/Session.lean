import AgentLoop.Pipeline.Run

/-!
# Agents

- `Session`: an agent between calls: who holds it, and what its collaborators have come to;
- `Session.run`: a run, unless another one holds the agent;
- `Session.iterate`, `Session.pull`, `Session.drop`: a run pulled step by step. It holds the agent from the beginning
  until its last item, its first error, or until it is dropped;
- `Session.runPanic?`, `Session.pullPanic?`: the panic that ends a run or a pull, if there is one. What `Session.run`
  and `Session.pull` give is then not reached;
- `Session.cancelCurrent`, `Session.cancelAll`: cancellation of the active or next run, and of every run.
-/

namespace AgentLoop

/-- An agent between calls. -/
structure Session (σ : Type) where
  slot : Slot := {}
  world : World σ

/-- A run that is pulled step by step. -/
structure Iteration where
  stage : Stage
  /-- What ends the run. -/
  token : Token

namespace Session

variable {σ : Type}

/-- Frees the agent for the next run. -/
def released (session : Session σ) : Session σ :=
  { session with slot := session.slot.release session.world.cancelled }

/-- Runs a pipeline from a state. -/
def run (p : Pipeline σ) (frame : Frame) (rounds : Nat) (s : ExecutionState) (session : Session σ) :
    Option (Except AgentError ExecutionState) × Session σ × List RunMark :=
  match session.slot.acquire with
  | none => (some (.error .reentrantRun), session, [])
  | some slot =>
    let o := (p.run slot.token rounds s).exec { frame with slot } session.world
    (o.value, released ⟨slot, o.world⟩, o.journal)

/-- The message of the panic in a run, if somebody panics. -/
def runPanic? (p : Pipeline σ) (frame : Frame) (rounds : Nat) (s : ExecutionState) (session : Session σ) :
    Option String := do
  let slot ← session.slot.acquire
  (p.run slot.token rounds s).panic? { frame with slot } session.world

/-- Begins a run that is pulled step by step. -/
def iterate (s : ExecutionState) (session : Session σ) : Iteration × Session σ :=
  match session.slot.acquire with
  | none => (⟨.refused, session.slot.token⟩, session)
  | some slot => (⟨.fresh s, slot.token⟩, { session with slot })

/-- Pulls the next item. -/
def pull (p : Pipeline σ) (frame : Frame) (it : Iteration) (session : Session σ) :
    Option (Except AgentError ExecutionState) × Iteration × Session σ × List RunMark :=
  let o := (p.pull it.token it.stage).exec { frame with slot := session.slot } session.world
  let (item, stage) := o.value
  let next : Session σ := { session with world := o.world }
  (item, { it with stage }, if it.stage.holds && !stage.holds then next.released else next, o.journal)

/-- The message of the panic in a pull, if somebody panics. -/
def pullPanic? (p : Pipeline σ) (frame : Frame) (it : Iteration) (session : Session σ) : Option String :=
  (p.pull it.token it.stage).panic? { frame with slot := session.slot } session.world

/-- Gives up a run that is pulled step by step. -/
def drop (it : Iteration) (session : Session σ) : Session σ := if it.stage.holds then session.released else session

/-- Cancels a token. -/
def cancel (t : Token) (session : Session σ) : Session σ :=
  { session with world := { session.world with cancelled := session.world.cancelled ++ [t] } }

/-- Cancels the active run, or the next one. -/
def cancelCurrent (session : Session σ) : Session σ := session.cancel session.slot.token

/-- Cancels every run. -/
def cancelAll (session : Session σ) : Session σ := session.cancel .all

/-- Is the active run cancelled, or the next one? -/
def isCancelled (session : Session σ) : Bool := session.slot.token.isCancelled session.world.cancelled

end Session

end AgentLoop
