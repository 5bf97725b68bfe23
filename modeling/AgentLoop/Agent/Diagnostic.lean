import AgentLoop.Agent.Builder
import AgentLoop.Backend.Script

/-!
# Diagnostics

- `Diagnostic.record`, `Diagnostic.list`, `Diagnostic.option`: how diagnostics write values;
- the diagnostic texts of drivers, registries, hook stacks, pipelines, builders and their parts.
-/

namespace AgentLoop

namespace Diagnostic

/-- Fields with their names; `more` says that not all of them are shown. -/
def record (name : String) (fields : List (String × String)) (more : Bool) : String :=
  let shown := fields.map (fun f => f.1 ++ ": " ++ f.2) ++ if more then [".."] else []
  name ++ " \x7b " ++ ", ".intercalate shown ++ " \x7d"

/-- A list. -/
def list {α : Type} (f : α → String) (xs : List α) : String := "[" ++ ", ".intercalate (xs.map f) ++ "]"

/-- A value that may be absent. -/
def option {α : Type} (f : α → String) : Option α → String
  | none => "None"
  | some a => "Some(" ++ f a ++ ")"

/-- A pair. -/
def pair (a b : String) : String := "(" ++ a ++ ", " ++ b ++ ")"

/-- A truth value. -/
def flag (b : Bool) : String := if b then "true" else "false"

/-- Something of which only the name is shown. -/
def named (type name : String) : String := record type [("name", quoted name)] true

/-- A message. -/
def message (m : ChatMessage) : String := m.toJson.render

/-- A temperature. -/
def temperature (t : Float32) : String := (Json.ofF32 t).render

/-- A phase handler. -/
def handler (name : String) : String := named "FnPhaseHandler" name

/-- A hook made of a function. -/
def hook (name : String) (triggers : List HookTrigger) : String :=
  record "FnHook" [("name", quoted name), ("triggers", list HookTrigger.diagnostic triggers)] true

/-- A criterion made of a function. -/
def criterion (name : String) : String := named "CustomCriterion" name

/-- A tool made of a function. -/
def tool (name : String) : String := named "FnToolHandler" name

/-- Criteria. -/
def criteria (cs : List Criterion) : String := list (fun c => quoted c.name) cs

/-- What hands events to so many listeners. -/
def emitter (listeners : Nat) : String := record "EventEmitter" [("listeners", toString listeners)] false

/-- A scripted backend. -/
def scriptedBackend (info : BackendInfo) (script : Script) : String :=
  let described := record "ProviderMetadata"
    [("name", quoted info.name), ("model", quoted info.model), ("context_window", toString info.contextWindow.toNat),
      ("capabilities", "\x7b" ++ ", ".intercalate (info.capabilities.map Capability.name) ++ "\x7d")] false
  record "MockProvider"
    [("meta", described), ("remaining", toString script.queue.length),
      ("recorded_calls", toString script.received.length)] false

end Diagnostic

open Diagnostic

/-- A policy as diagnostics show it. -/
def ErrorPolicy.diagnostic (p : ErrorPolicy) : String :=
  record "ErrorPolicy"
    [("on_model_error", p.onModelError.diagnostic), ("on_rate_limit", p.onRateLimit.diagnostic),
      ("on_timeout", p.onTimeout.diagnostic), ("on_validation_error", p.onValidationError.diagnostic),
      ("on_tool_error", p.onToolError.diagnostic), ("on_unknown_error", p.onUnknownError.diagnostic),
      ("max_retries", toString p.maxRetries.toNat)] false

/-- Settings as diagnostics show them. -/
def AgentConfig.diagnostic (c : AgentConfig) : String :=
  record "AgentConfig"
    [("max_steps", toString c.maxSteps.toNat), ("token_budget", option (fun n => toString n.toNat) c.tokenBudget),
      ("timeout_ms", option (fun n => toString n.toNat) c.timeoutMs),
      ("parallel_tool_execution", flag c.parallelToolExecution), ("tool_choice", c.toolChoice.diagnostic),
      ("inference_mode", c.inferenceMode.diagnostic), ("keep_tool_traces", flag c.keepToolTraces),
      ("max_tokens", option (fun n => toString n.toNat) c.maxTokens),
      ("temperature", option Diagnostic.temperature c.temperature),
      ("system_prompt", option quoted c.systemPrompt), ("error_policy", c.errorPolicy.diagnostic)] false

variable {σ : Type}

/-- A registry as diagnostics show it. -/
def ToolRegistry.diagnostic (r : ToolRegistry σ) : String :=
  record "ToolRegistry" [("tools", list quoted r.names)] false

/-- A hook stack as diagnostics show it. -/
def HookStack.diagnostic (s : HookStack σ) : String :=
  record "HookStack" [("hooks", list (fun e => pair (quoted e.hook.name) (toString e.priority)) s.entries)] false

/-- How a driver asks its backend, as diagnostics show it. -/
def Inference.diagnostic (i : Inference σ) : String :=
  record "Inference" [("provider", quoted i.backend.info.name), ("mode", i.mode.diagnostic)] true

/-- A tool-calling driver as diagnostics show it. -/
def ToolCalling.diagnostic (d : ToolCalling σ) : String :=
  record "ToolCallingDriver"
    [("inference", d.inference.diagnostic), ("cached_context", list Diagnostic.message d.cachedContext),
      ("system_prompt", option quoted d.systemPrompt), ("tool_choice", d.toolChoice.diagnostic),
      ("temperature", option Diagnostic.temperature d.temperature),
      ("max_tokens", option (fun n => toString n.toNat) d.maxTokens)] false

/-- A ReAct driver as diagnostics show it. -/
def ReAct.diagnostic (d : ReAct σ) : String :=
  record "ReActDriver"
    [("inference", d.inference.diagnostic), ("cached_context", list Diagnostic.message d.cachedContext),
      ("instructions", option quoted d.instructions), ("temperature", option Diagnostic.temperature d.temperature),
      ("max_tokens", option (fun n => toString n.toNat) d.maxTokens), ("finalize_via_inference", flag d.finalize)] false

/-- A pipeline as diagnostics show it. -/
def Pipeline.diagnostic (p : Pipeline σ) : String :=
  record "ExecutionPipeline"
    [("driver", quoted p.driver.name), ("tools", list quoted p.tools.names), ("hooks", p.hooks.diagnostic),
      ("handlers", list (fun h => pair h.1.diagnostic (quoted h.2.name)) p.handlers),
      ("criteria", Diagnostic.criteria p.criteria),
      ("error_policy", p.errorPolicy.diagnostic), ("keep_tool_traces", flag p.keepToolTraces),
      ("parallel_tools", flag p.parallelTools)] true

/-- A builder as diagnostics show it. -/
def AgentBuilder.diagnostic (b : AgentBuilder σ) : String :=
  record "AgentBuilder"
    [("config", b.config.diagnostic), ("driver", quoted b.driver.name), ("tools", list quoted b.tools.names),
      ("hooks", b.hooks.diagnostic), ("handlers", toString b.handlers.length),
      ("criteria", toString b.criteria.length)] true

end AgentLoop
