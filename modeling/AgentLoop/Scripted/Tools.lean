import AgentLoop.Scripted.Bench

/-!
# Scripted tools

- `Behaviour`: what a scripted tool returns;
- `Behaviour.tool`: a tool that logs when it is invoked and when it finishes, and pauses in between.
-/

namespace AgentLoop

/-- What a scripted tool returns. -/
inductive Behaviour where
  /-- Its arguments. -/
  | echo
  | const (value : Json)
  /-- It fails. -/
  | fail (message : String)
  /-- It was used incorrectly. -/
  | misuse (message : String)
  /-- The sum of its arguments `a` and `b`. -/
  | add
  /-- The number of the invocation. -/
  | count
  /-- It fails so many times, then recovers. -/
  | flaky (fails : Nat) (message : String)

namespace Behaviour

/-- A double in JSON; `null` if it is not finite. -/
def double (x : Float) : Json := if x.isFinite then .num (.float x) else .null

/-- An argument as a double; zero if it is no number. -/
def operand (arguments : Json) (name : String) : Float := ((arguments.get? name).bind Json.float?).getD 0

/-- The result of the invocation with this number. -/
def result (number : Nat) (arguments : Json) : Behaviour → Except ToolError Json
  | echo => .ok arguments
  | const value => .ok value
  | fail message => .error { message }
  | misuse message => .error { message, misuse := true }
  | add => .ok (double (operand arguments "a" + operand arguments "b"))
  | count => .ok (.ofNat number)
  | flaky fails message => if number ≤ fails then .error { message } else .ok (.str "recovered")

/-- So many pauses, then what is left. -/
def pausing : (pauses : Nat) → Act Bench (Except ToolError Json) → Invocation Bench
  | 0, ends => .last ends
  | pauses + 1, ends => .turn (pure none) fun _ _ => pausing pauses ends

/-- The tool, with a number that tells it from others, and the pauses between its beginning and its end. -/
def tool (b : Behaviour) (definition : ToolDefinition) (number pauses : Nat) : Tool Bench where
  definition := definition
  invoke arguments :=
    let begins := Bench.write ("call " ++ definition.name)
    let ends : Act Bench (Except ToolError Json) := do
      Bench.write ("end " ++ definition.name)
      return b.result (← Bench.countInvocation number) arguments
    match pauses with
    | 0 => .last (do begins; ends)
    | pauses + 1 => .turn (do begins; return none) fun _ _ => pausing pauses ends

end Behaviour

end AgentLoop
