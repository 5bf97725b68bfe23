import AgentLoop.Backend.Error
import AgentLoop.Json.Decoder

/-!
# Engine errors

- `Phase`: the phases of a run;
- `ErrorKind`: the kinds of runtime failure;
- `AgentError`: everything the engine can raise. Runtime failures are recorded in the state of a run; programming errors
  (`AgentError.isProgramming`) end it.
-/

namespace AgentLoop

/-- The phases of a run. -/
inductive Phase where
  /-- Once, before the loop. -/
  | beforeExecution
  /-- At the top of every iteration. -/
  | shouldContinue
  /-- Before the driver is called. -/
  | beforeStep
  /-- After the driver's step has been recorded. -/
  | executeStep
  /-- After a step that did not fail. -/
  | afterStep
  /-- Once, after the loop. -/
  | afterExecution
  /-- After a runtime failure was recorded. -/
  | onError
  deriving DecidableEq, Repr

namespace Phase

/-- The name of a phase. -/
def name : Phase → String
  | beforeExecution => "before_execution"
  | shouldContinue => "should_continue"
  | beforeStep => "before_step"
  | executeStep => "execute_step"
  | afterStep => "after_step"
  | afterExecution => "after_execution"
  | onError => "on_error"

/-- Every phase. -/
def all : List Phase :=
  [beforeExecution, shouldContinue, beforeStep, executeStep, afterStep, afterExecution, onError]

/-- A phase in JSON. -/
def toJson (p : Phase) : Json := .str p.name

/-- A phase in JSON. -/
def decoder : Decoder Phase := .choice "Phase" (all.map fun p => .unit p.name p)

/-- A phase as diagnostics name it. -/
def diagnostic : Phase → String
  | beforeExecution => "BeforeExecution"
  | shouldContinue => "ShouldContinue"
  | beforeStep => "BeforeStep"
  | executeStep => "ExecuteStep"
  | afterStep => "AfterStep"
  | afterExecution => "AfterExecution"
  | onError => "OnError"

end Phase

/-- The kinds of runtime failure. -/
inductive ErrorKind where
  /-- The backend failed for another reason than the next two. -/
  | model
  /-- The backend asked for fewer requests. -/
  | rateLimit
  /-- The backend ran out of time. -/
  | timeout
  /-- A decision or a set of arguments was invalid. -/
  | validation
  /-- A tool failed. -/
  | tool
  | unknown
  deriving DecidableEq, Repr

namespace ErrorKind

/-- The name of a kind. -/
def name : ErrorKind → String
  | model => "model"
  | rateLimit => "rate_limit"
  | timeout => "timeout"
  | validation => "validation"
  | tool => "tool"
  | unknown => "unknown"

/-- Every kind. -/
def all : List ErrorKind := [model, rateLimit, timeout, validation, tool, unknown]

/-- A kind in JSON. -/
def toJson (k : ErrorKind) : Json := .str k.name

/-- A kind in JSON. -/
def decoder : Decoder ErrorKind := .choice "ErrorKind" (all.map fun k => .unit k.name k)

end ErrorKind

/-- Everything the engine can raise. -/
inductive AgentError where
  /-- The backend failed. -/
  | inference (error : BackendError)
  /-- A decision of the model or a set of arguments was rejected. -/
  | validation (message : String)
  /-- A phase handler failed. -/
  | handler (phase : Phase) (message : String)
  /-- A run was started while another one was active. -/
  | reentrantRun
  /-- An operation was invoked in a state it does not allow. -/
  | contractViolation (message : String)
  /-- A tool reported that it was used incorrectly. -/
  | toolMisuse (tool message : String)
  deriving DecidableEq, Repr

namespace AgentError

/-- The wording of an error. -/
def message : AgentError → String
  | inference e => "inference failed: " ++ e.message
  | validation text => "validation failed: " ++ text
  | handler phase text => phase.name ++ " handler failed: " ++ text
  | reentrantRun => "agent is already running"
  | contractViolation text => "contract violation: " ++ text
  | toolMisuse tool text => "tool '" ++ tool ++ "' misused: " ++ text

/-- The name of the sort of error. -/
def sort : AgentError → String
  | inference _ => "inference"
  | validation _ => "validation"
  | handler _ _ => "handler"
  | reentrantRun => "reentrant_run"
  | contractViolation _ => "contract_violation"
  | toolMisuse _ _ => "tool_misuse"

/-- Is it a bug, which no run absorbs? -/
def isProgramming : AgentError → Bool
  | reentrantRun | contractViolation _ | toolMisuse _ _ => true
  | _ => false

/-- The kind of failure, for the decisions of an error policy. -/
def kind : AgentError → ErrorKind
  | inference e => if e.isRateLimited then .rateLimit else if e.isTimeout then .timeout else .model
  | validation _ => .validation
  | toolMisuse _ _ => .tool
  | _ => .unknown

/-- The failure that an error reports on. -/
def source : AgentError → Option BackendError
  | inference e => some e
  | _ => none

/-- An error in JSON: its wording and its class. -/
def toJson (e : AgentError) : Json :=
  .obj [("kind", e.kind.toJson), ("kind_text", .str e.kind.name), ("programming", .bool e.isProgramming),
    ("source", .ofOption (fun s => .str s.message) e.source), ("text", .str e.message)]

end AgentError

end AgentLoop
