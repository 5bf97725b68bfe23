import AgentLoop.Error

/-!
# Error policies

- `ErrorDecision`: what to do about a kind of runtime failure;
- `ErrorPolicy`: a decision for each kind, with the presets;
- `ErrorPolicy.shouldContinue`: may a run go on after so many failures in a row?
-/

namespace AgentLoop

/-- What to do about a runtime failure. -/
inductive ErrorDecision where
  /-- The run fails. -/
  | stop
  /-- The run goes on while the failures in a row stay within the retries. -/
  | retry
  /-- The run goes on. -/
  | ignore
  deriving DecidableEq, Repr

namespace ErrorDecision

/-- The name of a decision. -/
def name : ErrorDecision → String
  | stop => "stop"
  | retry => "retry"
  | ignore => "ignore"

/-- A decision in JSON. -/
def toJson (d : ErrorDecision) : Json := .str d.name

/-- A decision in JSON. -/
def decoder : Decoder ErrorDecision :=
  .choice "ErrorDecision" ([stop, retry, ignore].map fun d => .unit d.name d)

/-- A decision as diagnostics name it. -/
def diagnostic : ErrorDecision → String
  | stop => "Stop"
  | retry => "Retry"
  | ignore => "Ignore"

end ErrorDecision

/-- Decisions for the kinds of runtime failure. -/
structure ErrorPolicy where
  onModelError : ErrorDecision := .stop
  onRateLimit : ErrorDecision := .retry
  onTimeout : ErrorDecision := .retry
  onValidationError : ErrorDecision := .retry
  onToolError : ErrorDecision := .ignore
  onUnknownError : ErrorDecision := .stop
  /-- The failures in a row that a retry tolerates. -/
  maxRetries : UInt32 := 3
  deriving DecidableEq, Repr, Inhabited

namespace ErrorPolicy

/-- The same decision for every kind. -/
def uniform (d : ErrorDecision) (maxRetries : UInt32) : ErrorPolicy := ⟨d, d, d, d, d, d, maxRetries⟩

/-- Every failure ends the run, also failed tools. -/
def stopOnAnyError : ErrorPolicy := uniform .stop 0

/-- Every failure is retried. -/
def retryAll (maxRetries : UInt32) : ErrorPolicy := uniform .retry maxRetries

/-- Failed tools never end the run. -/
def ignoreToolErrors : ErrorPolicy := { onToolError := .ignore }

/-- Steps with failed tools are retried. -/
def retryToolErrors (maxRetries : UInt32) : ErrorPolicy := { onToolError := .retry, maxRetries }

/-- The presets by name; some take a number of retries. -/
def preset? (name : String) (maxRetries : UInt32) : Option ErrorPolicy :=
  match name with
  | "default" => some {}
  | "stop_on_any_error" => some stopOnAnyError
  | "retry_all" => some (retryAll maxRetries)
  | "ignore_tool_errors" => some ignoreToolErrors
  | "retry_tool_errors" => some (retryToolErrors maxRetries)
  | _ => none

/-- The decision for a kind. -/
def decision (p : ErrorPolicy) : ErrorKind → ErrorDecision
  | .model => p.onModelError
  | .rateLimit => p.onRateLimit
  | .timeout => p.onTimeout
  | .validation => p.onValidationError
  | .tool => p.onToolError
  | .unknown => p.onUnknownError

/-- May the run go on after a failure, the last of so many in a row? -/
def shouldContinue (p : ErrorPolicy) (kind : ErrorKind) (consecutive : UInt32) : Bool :=
  match p.decision kind with
  | .stop => false
  | .retry => consecutive ≤ p.maxRetries
  | .ignore => true

/-- A policy in JSON. -/
def toJson (p : ErrorPolicy) : Json :=
  .obj [("max_retries", .ofU32 p.maxRetries), ("on_model_error", p.onModelError.toJson),
    ("on_rate_limit", p.onRateLimit.toJson), ("on_timeout", p.onTimeout.toJson),
    ("on_tool_error", p.onToolError.toJson), ("on_unknown_error", p.onUnknownError.toJson),
    ("on_validation_error", p.onValidationError.toJson)]

/-- A policy in JSON; what is not there is as in the default policy. -/
def decoder : Decoder ErrorPolicy :=
  .record "ErrorPolicy"
    (ErrorPolicy.mk <$> .withDefault "on_model_error" ErrorDecision.decoder .stop <*>
      .withDefault "on_rate_limit" ErrorDecision.decoder .retry <*>
      .withDefault "on_timeout" ErrorDecision.decoder .retry <*>
      .withDefault "on_validation_error" ErrorDecision.decoder .retry <*>
      .withDefault "on_tool_error" ErrorDecision.decoder .ignore <*>
      .withDefault "on_unknown_error" ErrorDecision.decoder .stop <*> .withDefault "max_retries" .u32 3)

end ErrorPolicy

end AgentLoop
