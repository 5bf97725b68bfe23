import AgentLoop.State.Basic

/-!
# Edits of states

- `StateEdit`: the transformations of a state as data.
-/

namespace AgentLoop

/-- A transformation of a state. -/
inductive StateEdit where
  | message (m : ChatMessage)
  | messagePrepended (m : ChatMessage)
  | metadata (key : String) (value : Json)
  | withoutMetadata (key : String)
  | step (s : Step)
  | buffered (messages : List ChatMessage)
  | bufferCleared
  | bufferFolded
  | finalStep (s : Step) (keepTraces : Bool)
  | status (s : ExecutionStatus)
  | completed (reason : TerminationReason)
  | failed (reason : TerminationReason)
  | runStarted (now : Instant)
  | stepStarted
  | failureRecorded (kind : ErrorKind)
  | failuresReset

/-- The state after an edit. -/
def ExecutionState.edit (s : ExecutionState) : StateEdit → ExecutionState
  | .message m => s.withMessage m
  | .messagePrepended m => s.withMessagePrepended m
  | .metadata key value => s.withMetadata key value
  | .withoutMetadata key => s.withoutMetadata key
  | .step step => s.withStep step
  | .buffered messages => s.withBuffered messages
  | .bufferCleared => s.withBufferCleared
  | .bufferFolded => s.withBufferFolded
  | .finalStep step keepTraces => s.withFinalStep step keepTraces
  | .status status => s.withStatus status
  | .completed reason => s.completed reason
  | .failed reason => s.failed reason
  | .runStarted now => s.withRunStarted now
  | .stepStarted => s.withStepStarted
  | .failureRecorded kind => s.withFailureRecorded kind
  | .failuresReset => s.withFailuresReset

end AgentLoop
