import AgentLoop.Json.Fault
import AgentLoop.Text.Search

/-!
# Backend failures

- `BackendError`: the failures of requests, with their wording;
- `isRetryable`, `isRateLimited`, `isTimeout`: how failures are classified.
-/

namespace AgentLoop

/-- Why a request failed. -/
inductive BackendError where
  /-- A failure of the transport; there is no status when no response arrived. -/
  | http (status : Option Nat) (message : String) (retryable : Bool)
  /-- The credentials were refused. -/
  | auth (message : String)
  /-- The request was malformed. -/
  | invalidRequest (message : String)
  /-- A failure under the backend's own code. -/
  | provider (code message : String) (retryable : Bool)
  /-- The response could not be understood. -/
  | responseFormat (message raw : String)
  /-- The request took too long. -/
  | timeout (elapsedMs : UInt64)
  /-- The transport gave up after repeated attempts. -/
  | retryExhausted (attempts : UInt32) (last : BackendError)
  deriving DecidableEq, Repr, Inhabited

namespace BackendError

/-- A status as diagnostics name it. -/
def statusText : Option Nat → String
  | none => "None"
  | some n => "Some(" ++ toString n ++ ")"

/-- The wording of a failure. -/
def message : BackendError → String
  | http status text _ => "HTTP error (status=" ++ statusText status ++ "): " ++ text
  | auth text => "Authentication error: " ++ text
  | invalidRequest text => "Invalid request: " ++ text
  | provider code text _ => "Provider error (" ++ code ++ "): " ++ text
  | responseFormat text _ => "Response format error: " ++ text
  | timeout ms => "Operation timed out after " ++ toString ms.toNat ++ "ms"
  | retryExhausted attempts last =>
    "Retry exhausted after " ++ toString attempts.toNat ++ " attempts: " ++ last.message

/-- May the request succeed when it is sent again? -/
def isRetryable : BackendError → Bool
  | http _ _ retryable | provider _ _ retryable => retryable
  | timeout _ => true
  | _ => false

/-- Does the backend ask for fewer requests: status 429, or a code that mentions it? -/
def isRateLimited : BackendError → Bool
  | http status _ _ => status == some 429
  | provider code _ _ =>
    let code := String.ofList (code.toList.map Char.toLower)
    holds code "rate" || holds code "too_many_requests"
  | retryExhausted _ last => last.isRateLimited
  | _ => false

/-- Did the request run out of time: a deadline, or status 504? -/
def isTimeout : BackendError → Bool
  | timeout _ => true
  | http status _ _ => status == some 504
  | retryExhausted _ last => last.isTimeout
  | _ => false

/-- The failure that a failure reports on. -/
def source : BackendError → Option BackendError
  | retryExhausted _ last => some last
  | _ => none

/-- The raw response that could not be understood. -/
def raw : BackendError → Option String
  | responseFormat _ raw => some raw
  | _ => none

/-- A failure in JSON: its wording and its class. -/
def toJson (e : BackendError) : Json :=
  .obj [("rate_limited", .bool e.isRateLimited), ("raw", .ofOption .str e.raw), ("retryable", .bool e.isRetryable),
    ("source", .ofOption (fun s => .str s.message) e.source), ("text", .str e.message), ("timeout", .bool e.isTimeout)]

/-- A response that is no JSON. -/
def ofFault (f : Fault) : BackendError := responseFormat f.message ""

/-- The backend's own sign of too many requests. -/
def rateLimited : BackendError := http (some 429) "rate limited" true

end BackendError

end AgentLoop
