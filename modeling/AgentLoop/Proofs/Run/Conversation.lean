import Mathlib.Data.List.DropRight
import AgentLoop.Proofs.Run.Invariant
import AgentLoop.Proofs.Run.Updates

/-!
# No message is lost

A run whose hooks and handlers leave messages, buffer and steps alone accounts for every message:

- `Accounts`: what a state holds after some steps were recorded. Recording another step keeps it
  (`Accounts.withOutcome`, `Accounts.withFailedStep`), and so does whatever leaves the conversation alone
  (`Accounts.of_same`);
- `conversation_accounted`: every state that a run shows accounts for the steps recorded so far, and so does what the
  run returns, with an empty buffer.
-/

namespace AgentLoop

/-- What steps add to the conversation. -/
def outputs (steps : List Step) : List ChatMessage := steps.flatMap fun s => s.outputMessages

theorem outputs_append (a b : List Step) : outputs (a ++ b) = outputs a ++ outputs b := List.flatMap_append

theorem outputs_singleton (step : Step) : outputs [step] = step.outputMessages := List.append_nil _

/-- The traces that wait for a final answer after some steps: those of the steps since the last final answer. If there
was none, they follow what waited before. -/
def waiting (before : List ChatMessage) (steps : List Step) : List ChatMessage :=
  (if steps.any Step.isFinal then [] else before) ++ outputs (steps.rtakeWhile fun s => !s.isFinal)

theorem waiting_final (before : List ChatMessage) (steps : List Step) {step : Step} (h : step.isFinal = true) :
    waiting before (steps ++ [step]) = [] := by
  simp [waiting, h, outputs]

theorem waiting_other (before : List ChatMessage) (steps : List Step) {step : Step} (h : step.isFinal = false) :
    waiting before (steps ++ [step]) = waiting before steps ++ step.outputMessages := by
  simp [waiting, h, outputs_append, outputs_singleton]

/-- A failed step is no final answer. -/
theorem Step.isFinal_of_isError {step : Step} (h : step.isError = true) : step.isFinal = false := by
  have : step.stepType = .error := by simpa [isError] using h
  simp [isFinal, this]

namespace ExecutionState

/-- Two states with the same messages, buffer and steps. -/
structure SameConversation (s t : ExecutionState) : Prop where
  messages : t.messages = s.messages
  buffer : t.buffer = s.buffer
  steps : t.steps = s.steps

theorem sameConversation_settled (s : ExecutionState) : s.SameConversation s.settled := by
  obtain ⟨_, h⟩ := s.settled_eq
  rw [h]
  exact ⟨rfl, rfl, rfl⟩

theorem sameConversation_toolFailures (s : ExecutionState) (policy : ErrorPolicy) (failed : Nat) :
    s.SameConversation (s.withToolFailures policy failed) := by
  obtain ⟨_, _, _, h, -⟩ := s.withToolFailures_eq policy failed
  rw [h]
  exact ⟨rfl, rfl, rfl⟩

theorem sameConversation_concluded (s : ExecutionState) : s.SameConversation s.concluded := by
  unfold concluded
  split
  · split <;> exact ⟨rfl, rfl, rfl⟩
  · exact ⟨rfl, rfl, rfl⟩

end ExecutionState

/-- What a handler or hook did leaves messages, buffer and steps alone. -/
def RunMark.LeavesConversation : RunMark → Prop
  | handled _ s (.ok t) => s.SameConversation t
  | dispatched before after => before.state.SameConversation after.state
  | _ => True

/-- What a state holds when some steps were recorded since the state `start`. With traces kept, messages and buffer
together hold all that was there and all that the steps added, in order. Otherwise the messages grow by the final
answers only, and the buffer holds the traces that wait. -/
def Accounts (keepTraces : Bool) (start : ExecutionState) (recorded : List Step) (t : ExecutionState) : Prop :=
  t.steps = start.steps ++ recorded ∧
    if keepTraces then
      t.messages ++ t.buffer.messages = start.messages ++ start.buffer.messages ++ outputs recorded
    else
      t.messages = start.messages ++ outputs (recorded.filter Step.isFinal) ∧
        t.buffer.messages = waiting start.buffer.messages recorded

/-- Nothing was recorded since the start. -/
theorem accounts_nil (keepTraces : Bool) (start : ExecutionState) : Accounts keepTraces start [] start := by
  cases keepTraces <;> simp [Accounts, outputs, waiting]

namespace Accounts

variable {keepTraces : Bool} {start s t : ExecutionState} {recorded : List Step} {step : Step}

theorem of_same (h : Accounts keepTraces start recorded s) (same : s.SameConversation t) :
    Accounts keepTraces start recorded t := by
  unfold Accounts
  rw [same.messages, same.buffer, same.steps]
  exact h

/-- A step that is no final answer waits in the buffer. -/
theorem withBuffered (h : Accounts keepTraces start recorded s) (hstep : step.isFinal = false) :
    Accounts keepTraces start (recorded ++ [step]) ((s.withBuffered step.outputMessages).withStep step) := by
  refine ⟨?_, ?_⟩
  · simp [ExecutionState.withBuffered, ExecutionState.withStep, h.1]
  · cases keepTraces with
    | true =>
      have all : s.messages ++ s.buffer.messages = _ := h.2
      simp only [ExecutionState.withBuffered, ExecutionState.withStep, outputs_append, outputs_singleton, if_true]
      rw [← List.append_assoc, all, List.append_assoc]
    | false =>
      obtain ⟨messages, buffer⟩ : s.messages = _ ∧ s.buffer.messages = _ := h.2
      simp [ExecutionState.withBuffered, ExecutionState.withStep, messages, buffer, hstep, waiting_other]

/-- A final answer joins the conversation. -/
theorem withFinalStep (h : Accounts keepTraces start recorded s) (hstep : step.isFinal = true) :
    Accounts keepTraces start (recorded ++ [step]) (s.withFinalStep step keepTraces) := by
  cases keepTraces with
  | true =>
    have all : s.messages ++ s.buffer.messages = _ := h.2
    refine ⟨by simp [ExecutionState.withFinalStep, ExecutionState.withBufferDrained, ExecutionState.withBufferFolded,
      ExecutionState.withStep, h.1], ?_⟩
    simp [ExecutionState.withFinalStep, ExecutionState.withBufferDrained, ExecutionState.withBufferFolded,
      ExecutionState.withStep, ExecutionBuffer.empty, all, outputs_append, outputs_singleton]
  | false =>
    obtain ⟨messages, -⟩ : s.messages = _ ∧ s.buffer.messages = _ := h.2
    refine ⟨by simp [ExecutionState.withFinalStep, ExecutionState.withBufferDrained, ExecutionState.withBufferCleared,
      ExecutionState.withStep, h.1], ?_⟩
    simp [ExecutionState.withFinalStep, ExecutionState.withBufferDrained, ExecutionState.withBufferCleared,
      ExecutionState.withStep, ExecutionBuffer.empty, messages, hstep, outputs_append, outputs_singleton,
      waiting_final]

theorem withOutcome (h : Accounts keepTraces start recorded s) (step : Step) :
    Accounts keepTraces start (recorded ++ [step]) (s.withOutcome step keepTraces) := by
  unfold ExecutionState.withOutcome
  split
  · rename_i hstep
    exact h.withFinalStep hstep
  · rename_i hstep
    exact h.withBuffered (Bool.eq_false_iff.2 hstep)

/-- A failed step is no final answer. -/
theorem withFailedStep (h : Accounts keepTraces start recorded s) (policy : ErrorPolicy) (hstep : step.isError = true)
    (failure : StepFailure) :
    Accounts keepTraces start (recorded ++ [step]) (s.withFailedStep policy step failure) := by
  have other : step.isFinal = false := Step.isFinal_of_isError hstep
  unfold ExecutionState.withFailedStep
  dsimp only
  split <;> exact (h.withBuffered other).of_same ⟨rfl, rfl, rfl⟩

end Accounts

namespace Pipeline

variable {σ : Type} (p : Pipeline σ)

/-- Each state of a run accounts for the steps recorded so far. -/
theorem accounts_invariant (start : ExecutionState) :
    p.Invariant RunMark.LeavesConversation fun t => ∃ recorded, Accounts p.keepToolTraces start recorded t where
  handled allowed := fun ⟨recorded, h⟩ => ⟨recorded, h.of_same allowed⟩
  dispatched allowed := fun ⟨recorded, h⟩ => ⟨recorded, h.of_same allowed⟩
  settled := fun ⟨recorded, h⟩ => ⟨recorded, h.of_same (ExecutionState.sameConversation_settled _)⟩
  stepStarted := fun ⟨recorded, h⟩ => ⟨recorded, h.of_same ⟨rfl, rfl, rfl⟩⟩
  outcome _ := fun ⟨_, h⟩ => ⟨_, h.withOutcome _⟩
  toolFailures failed := fun ⟨recorded, h⟩ =>
    ⟨recorded, h.of_same (ExecutionState.sameConversation_toolFailures _ _ failed)⟩
  failedStep hstep := fun ⟨_, h⟩ => ⟨_, h.withFailedStep _ hstep _⟩
  completed _ := fun ⟨recorded, h⟩ => ⟨recorded, h.of_same ⟨rfl, rfl, rfl⟩⟩
  failed _ := fun ⟨recorded, h⟩ => ⟨recorded, h.of_same ⟨rfl, rfl, rfl⟩⟩

/-- The end of a state that accounts for some steps: the buffer is empty, and the messages hold everything, or
everything but the traces. -/
theorem ended_accounts {keepTraces : Bool} {start s : ExecutionState} {recorded : List Step}
    (h : Accounts keepTraces start recorded s) :
    (s.ended keepTraces).steps = start.steps ++ recorded ∧ (s.ended keepTraces).buffer.messages = [] ∧
      (s.ended keepTraces).messages =
        if keepTraces then start.messages ++ start.buffer.messages ++ outputs recorded
        else start.messages ++ outputs (recorded.filter Step.isFinal) := by
  have same := ExecutionState.sameConversation_concluded (s.withBufferDrained keepTraces)
  unfold ExecutionState.ended
  rw [same.messages, same.buffer, same.steps]
  cases keepTraces with
  | true => exact ⟨h.1, rfl, h.2⟩
  | false => exact ⟨h.1, rfl, h.2.1⟩

/-- Every state of a run accounts for the steps recorded so far. What the run returns has an empty buffer, and its
messages hold everything, or everything but the traces. -/
theorem conversation_accounted (token : Token) (rounds : Nat) (s : ExecutionState) (frame : Frame) (w : World σ)
    (left : ∀ m ∈ ((p.run token rounds s).exec frame w).journal, m.LeavesConversation) :
    (∀ m ∈ ((p.run token rounds s).exec frame w).journal, ∀ t, m.state? = some t →
      ∃ recorded, Accounts p.keepToolTraces s recorded t) ∧
      ∀ t, ((p.run token rounds s).exec frame w).value = some (.ok t) →
        ∃ recorded, t.steps = s.steps ++ recorded ∧ t.buffer.messages = [] ∧
          t.messages =
            if p.keepToolTraces then s.messages ++ s.buffer.messages ++ outputs recorded
            else s.messages ++ outputs (recorded.filter Step.isFinal) := by
  have start (now : Instant) : ∃ recorded, Accounts p.keepToolTraces s recorded (s.withRunStarted now) :=
    ⟨[], (accounts_nil _ s).of_same ⟨rfl, rfl, rfl⟩⟩
  obtain ⟨shown, good⟩ := ((p.accounts_invariant s).run token rounds start).exec frame w left
  refine ⟨shown, fun t ht => ?_⟩
  rw [ht] at good
  obtain ⟨u, ⟨recorded, h⟩, rfl⟩ := good
  exact ⟨recorded, ended_accounts h⟩

/-- A pipeline whose driver leaves a trace before it answers, with a handler that only annotates. -/
def traceThenAnswer : Pipeline Nat where
  driver :=
    { name := "trace_then_answer"
      useTools := fun s _ _ => do
        let begun ← Program.perform (Act.modifyGet fun n => (n, n + 1))
        let now ← Program.readClock
        if begun = 0 then return .ok (.toolExecution s.inferenceMessages [.toolResult "1" "found"] [] none now now)
        else return .ok (.finalResponse s.inferenceMessages [.assistant "answer"] none now now) }
  tools := {}
  schemas := .lenient
  handlers := [(.afterStep, ⟨"annotate", fun _ s => pure (.ok (s.withMetadata "seen" (.bool true)))⟩)]
  keepToolTraces := true

theorem conversation_accounted_traceThenAnswer :
    let outcome :=
      (traceThenAnswer.run (.run 0) 3 (.ofUser "question")).exec ⟨fun _ => ⟨0, 0⟩, fun _ => 0, {}⟩ { own := 0 }
    (∀ m ∈ outcome.journal, m.LeavesConversation) ∧
      ∃ t, outcome.value = some (.ok t) ∧ ∃ recorded, t.steps = [] ++ recorded ∧ t.buffer.messages = [] ∧
        t.messages = [.user "question"] ++ outputs recorded := by
  intro outcome
  have left : ∀ m ∈ outcome.journal, m.LeavesConversation := by
    refine List.forall_iff_forall_mem.1 ?_
    repeat' first | exact trivial | exact ⟨rfl, rfl, rfl⟩ | constructor
  obtain ⟨-, returned⟩ := traceThenAnswer.conversation_accounted (.run 0) 3 (.ofUser "question") _ _ left
  exact ⟨left, _, rfl, returned _ rfl⟩

end Pipeline

end AgentLoop
