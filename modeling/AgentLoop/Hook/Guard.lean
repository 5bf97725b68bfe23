import AgentLoop.Hook.Basic
import AgentLoop.Text.Search

/-!
# A guard for tool calls

- `ToolCallGuard`: blocks calls whose arguments hold a denied text, at any depth;
- `ToolCallGuard.dangerousCommands`: a guard against destructive shell commands.
-/

namespace AgentLoop

mutual
/-- The texts within a value, keys left out. -/
def Json.texts : Json → List String
  | .str s => [s]
  | .arr items => Json.textsOfItems items
  | .obj entries => Json.textsOfEntries entries
  | _ => []
/-- The texts within each item. -/
def Json.textsOfItems : List Json → List String
  | [] => []
  | v :: rest => Json.texts v ++ Json.textsOfItems rest
/-- The texts within each entry's value. -/
def Json.textsOfEntries : List (String × Json) → List String
  | [] => []
  | (_, v) :: rest => Json.texts v ++ Json.textsOfEntries rest
end

/-- A guard for tool calls. -/
structure ToolCallGuard where
  /-- What is said of a blocked call. -/
  reason : String
  /-- The denied texts. -/
  patterns : List String
  /-- The tools that are guarded; all if there is no list. -/
  tools : Option (List String) := none

namespace ToolCallGuard

/-- A guard against destructive shell commands. -/
def dangerousCommands : ToolCallGuard where
  reason := "Dangerous command blocked"
  patterns := ["rm -rf", "rm -fr", "mkfs", "dd if=", ":()\x7b :|:& \x7d;:", "> /dev/sda", "chmod -R 777 /", "shutdown"]

/-- The guard for some tools only. -/
def forTools (g : ToolCallGuard) (tools : List String) : ToolCallGuard := { g with tools := some tools }

/-- The first denied text that the arguments hold. -/
def matchingPattern (g : ToolCallGuard) (arguments : Json) : Option String :=
  g.patterns.find? fun p => arguments.texts.any fun s => holds s p

/-- Is a tool guarded? -/
def guards (g : ToolCallGuard) (tool : String) : Bool := g.tools.all fun tools => tools.contains tool

/-- What the guard does before a tool is used. -/
def inspect (g : ToolCallGuard) (ctx : HookContext) : HookContext :=
  match ctx.toolCall with
  | none => ctx
  | some pending =>
    if g.guards pending.call.name then
      match g.matchingPattern pending.call.arguments with
      | some p => ctx.block (g.reason ++ ": matched '" ++ p ++ "'")
      | none => ctx
    else ctx

/-- The guard as a hook. -/
def hook {σ : Type} (g : ToolCallGuard) : Hook σ := .ofFunction "tool_call_guard" [.beforeToolUse] g.inspect

end ToolCallGuard

end AgentLoop
