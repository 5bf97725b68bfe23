import AgentLoop.Hook.Basic

/-!
# Hooks by priority

- `HookStack`: hooks in the order in which they run: higher priorities first, equal ones as they were added;
- `HookStack.dispatch`: threads a context through the hooks for a trigger, each of which sees that trigger.
-/

namespace AgentLoop

/-- A hook at its priority. -/
structure RankedHook (σ : Type) where
  hook : Hook σ
  priority : Int

/-- Hooks in the order in which they run. -/
structure HookStack (σ : Type) where
  entries : List (RankedHook σ) := []

namespace HookStack

variable {σ : Type}

/-- No hooks. -/
def empty : HookStack σ := {}

/-- Puts a hook in front of the first one with a lower priority. -/
def place (e : RankedHook σ) : List (RankedHook σ) → List (RankedHook σ)
  | [] => [e]
  | head :: rest => if head.priority < e.priority then e :: head :: rest else head :: place e rest

/-- The stack with another hook. -/
def insert (s : HookStack σ) (hook : Hook σ) (priority : Int) : HookStack σ := ⟨place ⟨hook, priority⟩ s.entries⟩

/-- How many hooks there are. -/
def size (s : HookStack σ) : Nat := s.entries.length

/-- Are there no hooks? -/
def isEmpty (s : HookStack σ) : Bool := s.entries.isEmpty

/-- The names of the hooks, as they run. -/
def names (s : HookStack σ) : List String := s.entries.map (·.hook.name)

/-- Does a hook fire on a trigger? -/
def handles (s : HookStack σ) (t : HookTrigger) : Bool := s.entries.any fun e => e.hook.triggers.contains t

/-- What a single hook does at a trigger. -/
def fire (t : HookTrigger) (ctx : HookContext) (e : RankedHook σ) : Act σ HookContext :=
  if e.hook.triggers.contains t then e.hook.handle { ctx with trigger := t } else pure ctx

/-- Threads a context through the hooks for a trigger. -/
def dispatch (s : HookStack σ) (t : HookTrigger) (ctx : HookContext) : Act σ HookContext :=
  s.entries.foldlM (fire t) ctx

end HookStack

end AgentLoop
