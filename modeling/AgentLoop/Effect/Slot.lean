/-!
# Cancellation and the run slot

- `Token`: what can be cancelled: every run at once, or a single run;
- `Token.isCancelled`: a run is also cancelled by the cancellation of all runs;
- `Slot`: which run holds an agent, and which token ends it; `acquire`, `release`.
-/

namespace AgentLoop

/-- What can be cancelled. -/
inductive Token where
  /-- Every run. -/
  | all
  /-- The run with this number. -/
  | run (n : Nat)
  deriving DecidableEq, Repr

namespace Token

/-- Is a token cancelled, given everything that was cancelled? -/
def isCancelled (cancelled : List Token) (t : Token) : Bool := cancelled.contains t || cancelled.contains all

/-- The number after that of a run's token. -/
def next : Token → Nat
  | all => 0
  | run n => n + 1

/-- A number beyond every run that was cancelled. -/
def beyond (cancelled : List Token) : Nat := (cancelled.map next).foldl max 0

end Token

/-- Which run holds an agent. -/
structure Slot where
  /-- Is there a run? -/
  active : Bool := false
  /-- The number of the active run, or of the next one. -/
  current : Nat := 0
  deriving DecidableEq, Repr, Inhabited

namespace Slot

/-- The token that ends the active run, or the next one. -/
def token (s : Slot) : Token := .run s.current

/-- Takes the slot for a run, unless it is taken. -/
def acquire (s : Slot) : Option Slot := if s.active then none else some { s with active := true }

/-- Frees the slot. A token that was cancelled is replaced by a fresh one. -/
def release (s : Slot) (cancelled : List Token) : Slot where
  active := false
  current := if s.token.isCancelled cancelled then max (s.current + 1) (Token.beyond cancelled) else s.current

end Slot

end AgentLoop
