import AgentLoop.State.Step

/-!
# The state of a run

- `ExecutionState`: the snapshot that is passed between the phases of a run: the conversation, the history of steps,
  the buffer of tool traces that wait for a final answer, annotations, status and bookkeeping;
- the queries: `inferenceMessages`, `runSteps`, `runUsage`, `elapsed`, `finalText`, …;
- the transformations, each giving a new snapshot: `withStep`, `withFinalStep`, `withRunStarted`, …
-/

namespace AgentLoop

/-- How far a run is. -/
inductive ExecutionStatus where
  /-- Further steps may be taken. -/
  | running
  /-- The run ended normally. -/
  | completed
  /-- The run ended because of a failure. -/
  | failed
  deriving DecidableEq, Repr, Inhabited

namespace ExecutionStatus

/-- Will no further steps be taken? -/
def isTerminal : ExecutionStatus → Bool
  | running => false
  | _ => true

/-- The name of a status. -/
def name : ExecutionStatus → String
  | running => "running"
  | completed => "completed"
  | failed => "failed"

/-- Every status. -/
def all : List ExecutionStatus := [running, completed, failed]

/-- A status in JSON. -/
def toJson (s : ExecutionStatus) : Json := .str s.name

/-- A status in JSON. -/
def decoder : Decoder ExecutionStatus := .choice "ExecutionStatus" (all.map fun s => .unit s.name s)

end ExecutionStatus

/-- Why a run stopped. -/
inductive TerminationReason where
  /-- The model answered. -/
  | finalResponse
  /-- A continuation criterion refused another step. -/
  | criterion (name detail : String)
  /-- A hook or a handler set a terminal status. -/
  | hookRequested
  /-- The run was cancelled between steps. -/
  | cancelled
  /-- A failure. -/
  | error (kind : ErrorKind) (message : String)
  deriving DecidableEq, Repr

namespace TerminationReason

/-- A reason in JSON. -/
def toJson : TerminationReason → Json
  | finalResponse => .obj [("reason", .str "final_response")]
  | criterion name detail => .obj [("detail", .str detail), ("name", .str name), ("reason", .str "criterion")]
  | hookRequested => .obj [("reason", .str "hook_requested")]
  | cancelled => .obj [("reason", .str "cancelled")]
  | error kind message => .obj [("kind", kind.toJson), ("message", .str message), ("reason", .str "error")]

/-- A reason in JSON. -/
def decoder : Decoder TerminationReason :=
  .tagged "TerminationReason" "reason"
    [.unit "final_response" finalResponse,
      .record "criterion" "Criterion" (criterion <$> .required "name" .string <*> .required "detail" .string),
      .unit "hook_requested" hookRequested, .unit "cancelled" cancelled,
      .record "error" "Error"
        (error <$> .required "kind" ErrorKind.decoder.allowingEmpty <*> .required "message" .string)]

end TerminationReason

/-- Tool traces that wait for a final answer. -/
structure ExecutionBuffer where
  messages : List ChatMessage

namespace ExecutionBuffer

/-- Nothing waits. -/
def empty : ExecutionBuffer := ⟨[]⟩

/-- The calls announced in the traces. -/
def toolCalls (b : ExecutionBuffer) : List ToolCall := b.messages.flatMap ChatMessage.toolCalls

/-- A buffer in JSON. -/
def toJson (b : ExecutionBuffer) : Json := .obj [("messages", .ofList ChatMessage.toJson b.messages)]

/-- A buffer in JSON. -/
def decoder : Decoder ExecutionBuffer :=
  .record "ExecutionBuffer" (ExecutionBuffer.mk <$> .required "messages" (.list ChatMessage.decoder))

end ExecutionBuffer

/-- The bookkeeping of the current run. -/
structure RunStats where
  startedAt : Option Instant := none
  /-- Steps begun. -/
  stepCounter : UInt32 := 0
  /-- Failures in a row of the kind in `lastFailure`. -/
  consecutiveFailures : UInt32 := 0
  totalFailures : UInt32 := 0
  /-- The kind that `consecutiveFailures` counts. -/
  lastFailure : Option ErrorKind := none
  deriving DecidableEq, Repr

namespace RunStats

/-- A bookkeeping record in JSON. -/
def toJson (s : RunStats) : Json :=
  .obj [("consecutive_failures", .ofU32 s.consecutiveFailures),
    ("last_failure", .ofOption ErrorKind.toJson s.lastFailure), ("started_at", .ofOption Instant.toJson s.startedAt),
    ("step_counter", .ofU32 s.stepCounter), ("total_failures", .ofU32 s.totalFailures)]

/-- A bookkeeping record in JSON. -/
def decoder : Decoder RunStats :=
  .record "RunStats"
    (RunStats.mk <$> .optional "started_at" Instant.decoder <*> .required "step_counter" .u32 <*>
      .required "consecutive_failures" .u32 <*> .required "total_failures" .u32 <*>
      .withDefault "last_failure" (.option ErrorKind.decoder) none)

end RunStats

/-- The snapshot passed between phases. -/
structure ExecutionState where
  /-- The conversation. -/
  messages : List ChatMessage := []
  /-- The history of steps, oldest first. -/
  steps : List Step := []
  /-- The latest step of the current run. -/
  currentStep : Option Step := none
  metadata : Metadata := .empty
  buffer : ExecutionBuffer := .empty
  status : ExecutionStatus := .running
  stats : RunStats := {}
  /-- Why the run stopped. -/
  termination : Option TerminationReason := none

namespace ExecutionState

/-- A fresh state with a conversation. -/
def ofMessages (messages : List ChatMessage) : ExecutionState := { messages }

/-- A fresh state with one user message. -/
def ofUser (text : String) : ExecutionState := ofMessages [.user text]

variable (s : ExecutionState)

/-! ## Queries -/

/-- Will no further steps be taken? -/
def isTerminal : Bool := s.status.isTerminal

/-- What the next request sees: the conversation, then the traces that wait. -/
def inferenceMessages : List ChatMessage := s.messages ++ s.buffer.messages

/-- The usage of every step for which a backend answered, summed. -/
def usageOf (steps : List Step) : Usage := .sum (steps.filterMap fun s => s.inference.map (·.usage))

/-- The tokens of the whole history. -/
def totalUsage : Usage := usageOf s.steps

/-- The steps begun in the current run; all steps before any run started. -/
def runSteps : List Step :=
  match s.stats.startedAt with
  | none => s.steps
  | some t => s.steps.filter fun step => t ≤ step.startedAt

/-- The tokens of the current run. -/
def runUsage : Usage := usageOf s.runSteps

/-- The nanoseconds since the current run started, if that is not in the future. -/
def elapsed (now : Instant) : Option Nat := do
  let span := now.since (← s.stats.startedAt)
  if span < 0 then none else return span.toNat

/-- The text of the last assistant message. -/
def finalText : Option String := (s.messages.reverse.find? fun m => m.role == .assistant).bind ChatMessage.text?

/-- Is the latest step a final answer? -/
def isAnswered : Bool := s.currentStep.any Step.isFinal

/-! ## Transformations -/

/-- Adds a message to the conversation. -/
def withMessage (m : ChatMessage) : ExecutionState := { s with messages := s.messages ++ [m] }

/-- Puts a message in front of the conversation. -/
def withMessagePrepended (m : ChatMessage) : ExecutionState := { s with messages := m :: s.messages }

/-- Sets an annotation. -/
def withMetadata (key : String) (value : Json) : ExecutionState := { s with metadata := s.metadata.insert key value }

/-- Removes an annotation. -/
def withoutMetadata (key : String) : ExecutionState := { s with metadata := s.metadata.erase key }

/-- Records a step. -/
def withStep (step : Step) : ExecutionState := { s with steps := s.steps ++ [step], currentStep := some step }

/-- Adds traces to the buffer. -/
def withBuffered (messages : List ChatMessage) : ExecutionState :=
  { s with buffer := ⟨s.buffer.messages ++ messages⟩ }

/-- Discards the buffer. -/
def withBufferCleared : ExecutionState := { s with buffer := .empty }

/-- Moves the buffer into the conversation. -/
def withBufferFolded : ExecutionState :=
  { s with messages := s.messages ++ s.buffer.messages, buffer := .empty }

/-- Empties the buffer, into the conversation if the traces are kept. -/
def withBufferDrained (keepTraces : Bool) : ExecutionState :=
  if keepTraces then s.withBufferFolded else s.withBufferCleared

/-- Records a final answer: the buffer is emptied, then the step's outputs join the conversation. -/
def withFinalStep (step : Step) (keepTraces : Bool) : ExecutionState :=
  let next := (s.withBufferDrained keepTraces).withStep step
  { next with messages := next.messages ++ step.outputMessages }

/-- Sets the status. -/
def withStatus (status : ExecutionStatus) : ExecutionState := { s with status }

/-- The run is completed. -/
def completed (reason : TerminationReason) : ExecutionState :=
  { s.withStatus .completed with termination := some reason }

/-- The run has failed. -/
def failed (reason : TerminationReason) : ExecutionState :=
  { s.withStatus .failed with termination := some reason }

/-- A new run starts: no latest step, fresh bookkeeping; conversation and history are kept. -/
def withRunStarted (now : Instant) : ExecutionState :=
  { s with status := .running, termination := none, currentStep := none, stats := { startedAt := some now } }

/-- Counts a step that is about to begin. -/
def withStepStarted : ExecutionState :=
  { s with stats := { s.stats with stepCounter := cappedSucc s.stats.stepCounter } }

/-- Counts a failure. One of another kind than the last one begins a new row. -/
def withFailureRecorded (kind : ErrorKind) : ExecutionState :=
  { s with
    stats := { s.stats with
      consecutiveFailures := if s.stats.lastFailure = some kind then cappedSucc s.stats.consecutiveFailures else 1
      lastFailure := some kind
      totalFailures := cappedSucc s.stats.totalFailures } }

/-- Ends the row of failures. -/
def withFailuresReset : ExecutionState :=
  { s with stats := { s.stats with consecutiveFailures := 0, lastFailure := none } }

/-! ## Records -/

/-- A state in JSON. -/
def toRecord : Json :=
  .obj [("buffer", s.buffer.toJson), ("current_step", .ofOption Step.toRecord s.currentStep),
    ("messages", .ofList ChatMessage.toJson s.messages), ("metadata", s.metadata.toJson), ("stats", s.stats.toJson),
    ("status", s.status.toJson), ("steps", .ofList Step.toRecord s.steps),
    ("termination", .ofOption TerminationReason.toJson s.termination)]

/-- A state in JSON. -/
def decoder : Decoder ExecutionState :=
  .record "ExecutionState"
    (ExecutionState.mk <$> .required "messages" (.list ChatMessage.decoder) <*>
      .required "steps" (.list Step.decoder) <*> .optional "current_step" Step.decoder <*>
      .withDefault "metadata" .metadata .empty <*>
      .withDefault "buffer" ExecutionBuffer.decoder .empty <*> .required "status" ExecutionStatus.decoder <*>
      .withDefault "stats" RunStats.decoder {} <*> .optional "termination" TerminationReason.decoder)

/-- Reads a state from its record. -/
def ofRecord (v : Json) : Except Cause ExecutionState := decoder.ofJson v

instance : BEq ExecutionState where
  beq a b :=
    a.messages == b.messages && a.steps == b.steps && a.currentStep == b.currentStep && a.metadata == b.metadata &&
      a.buffer.messages == b.buffer.messages && a.status == b.status && a.stats == b.stats &&
      a.termination == b.termination

end ExecutionState

end AgentLoop
