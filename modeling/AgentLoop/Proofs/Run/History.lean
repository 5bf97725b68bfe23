import AgentLoop.Proofs.Run.Evolution
import AgentLoop.Proofs.Run.FinalAnswer
import AgentLoop.Proofs.Run.Parts

/-!
# The history of a run

- `ExecutionState.Extends`: one state has the steps of another one and some more, the last of which is its latest step,
  and the same annotations. This is a preorder, and runs respect it (`extends_evolution`);
- `history_grows`: as long as handlers and hooks leave steps and annotations alone, the history of a run only grows, and
  the latest step is the last one that the run has recorded.
-/

namespace AgentLoop

/-- What a handler or hook did leaves the recorded steps, the latest step and the annotations alone. -/
structure RunMark.LeavesRecords (m : RunMark) : Prop where
  steps : m.LeavesSteps
  metadata : m.Leaves fun s => s.metadata

namespace ExecutionState

/-- A state has the steps of another one and some more, of which the last one is its latest step. -/
structure Extends (s t : ExecutionState) : Prop where
  recorded : ∃ more, t.steps = s.steps ++ more ∧ t.currentStep = more.getLast?.or s.currentStep
  metadata : t.metadata = s.metadata

variable {s t u : ExecutionState}

theorem Extends.of_same (steps : t.steps = s.steps) (latest : t.currentStep = s.currentStep)
    (metadata : t.metadata = s.metadata) : s.Extends t :=
  ⟨⟨[], by rw [steps, List.append_nil], latest⟩, metadata⟩

theorem Extends.trans (h : s.Extends t) (h' : t.Extends u) : s.Extends u := by
  obtain ⟨first, steps, latest⟩ := h.recorded
  obtain ⟨second, steps', latest'⟩ := h'.recorded
  refine ⟨⟨first ++ second, by rw [steps', steps, List.append_assoc], ?_⟩, h'.metadata.trans h.metadata⟩
  rw [latest', latest, List.getLast?_append, Option.or_assoc]

theorem Extends.of_recorded {step : Step} (steps : t.steps = s.steps ++ [step]) (latest : t.currentStep = some step)
    (metadata : t.metadata = s.metadata) : s.Extends t :=
  ⟨⟨[step], steps, latest⟩, metadata⟩

/-- The steps of a state are the first ones of a state that extends it. -/
theorem Extends.firstSteps (h : s.Extends t) : s.steps <+: t.steps := by
  obtain ⟨more, steps, -⟩ := h.recorded
  exact ⟨more, steps.symm⟩

theorem extends_ended (s : ExecutionState) (keepTraces : Bool) : s.Extends (s.ended keepTraces) := by
  obtain ⟨_, _, _, _, same⟩ := s.ended_eq keepTraces
  rw [same]
  exact .of_same rfl rfl rfl

end ExecutionState

namespace Pipeline

variable {σ : Type} (p : Pipeline σ)

open ExecutionState (Extends)

/-- Whatever a run does, the next state extends the one before. -/
theorem extends_evolution : p.Evolution (fun _ => True) (fun _ => True) RunMark.LeavesRecords Extends where
  refl s := .of_same rfl rfl rfl
  trans := .trans
  handled left := .of_same left.steps.1 left.steps.2 left.metadata
  dispatched left := .of_same left.steps.1 left.steps.2 left.metadata
  settled s := by
    obtain ⟨_, same⟩ := s.settled_eq
    rw [same]
    exact .of_same rfl rfl rfl
  stepStarted s := .of_same rfl rfl rfl
  driver s := Program.EnsuresAt.of_forall fun _ _ _ _ => trivial
  raised _ _ _ _ _ _ := trivial
  outcome s step _ _ := by
    obtain ⟨_, _, same⟩ := s.withOutcome_eq step p.keepToolTraces
    rw [same]
    exact .of_recorded rfl rfl rfl
  toolFailures s failed := by
    obtain ⟨_, _, _, same, -⟩ := s.withToolFailures_eq p.errorPolicy failed
    rw [same]
    exact .of_same rfl rfl rfl
  failedStep s step _ _ := by
    obtain ⟨_, _, same, -⟩ := s.withFailedStep_eq p.errorPolicy step step.cause
    rw [same]
    exact .of_recorded rfl rfl rfl
  completed s reason := .of_same rfl rfl rfl
  failed s reason := .of_same rfl rfl rfl

/-- A state of a run on an input: the steps of the input come first, and after them those that the run has recorded, the
last of which is the latest step. There is no latest step before. The annotations are those of the input. -/
structure Continues (s t : ExecutionState) : Prop where
  recorded : ∃ recorded, t.steps = s.steps ++ recorded ∧ t.currentStep = recorded.getLast?
  metadata : t.metadata = s.metadata

theorem continues_of_extends {s t : ExecutionState} {now : Instant} (h : (s.withRunStarted now).Extends t) :
    Continues s t := by
  obtain ⟨recorded, steps, latest⟩ := h.recorded
  exact ⟨⟨recorded, steps, latest.trans (Option.or_none)⟩, h.metadata⟩

/-- As long as handlers and hooks leave the recorded steps, the latest step and the annotations alone, whatever else
they do: every state that a run shows or returns has the steps of the input first and then those that the run has
recorded, of which the latest step is the last one; the steps of a state are the first ones of all later states; and
the annotations are those of the input. -/
theorem history_grows (token : Token) (rounds : Nat) (s : ExecutionState) (frame : Frame) (w : World σ)
    (left : ∀ m ∈ ((p.run token rounds s).exec frame w).journal, m.LeavesRecords) :
    (∀ t ∈ ((p.run token rounds s).exec frame w).states, Continues s t) ∧
      ((p.run token rounds s).exec frame w).states.Pairwise fun t u => t.steps <+: u.steps := by
  have related :=
    p.extends_evolution.states (fun s => s.extends_ended _) token rounds s frame w (fun _ _ => trivial) left
  obtain ⟨extend, later⟩ := List.pairwise_cons.1 related
  exact ⟨fun t mem => continues_of_extends (extend t mem), later.imp Extends.firstSteps⟩

/-- An input with a step and an annotation of an earlier run. -/
def kept : ExecutionState :=
  { ExecutionState.ofUser "question" with
    steps := [.finalResponse [] [.assistant "first answer"] none ⟨0, 0⟩ ⟨0, 0⟩]
    currentStep := some (.finalResponse [] [.assistant "first answer"] none ⟨0, 0⟩ ⟨0, 0⟩)
    metadata := .ofEntries [("topic", .str "weather")] }

/-- What comes of a run on it in which a handler and the driver fail before the answer. -/
def keptOn : Outcome Nat RunMark (Option (Except AgentError ExecutionState)) :=
  ((stumbling .beforeExecution).run (.run 0) 4 kept).exec ⟨fun _ => ⟨0, 0⟩, fun _ => 0, {}⟩ { own := 0 }

/-- The earlier step stays the first one, and three more are recorded. -/
theorem history_grows_kept :
    (∀ m ∈ keptOn.journal, m.LeavesRecords) ∧ keptOn.states.length = 15 ∧
      (∃ t, keptOn.value = some (.ok t) ∧ t.steps.length = 4 ∧ t.currentStep.isSome = true) ∧
      (∀ t ∈ keptOn.states, Continues kept t) ∧ keptOn.states.Pairwise fun t u => t.steps <+: u.steps := by
  have left {α : Type} (view : ExecutionState → α) : ∀ m ∈ keptOn.journal, m.Leaves view := by
    refine List.forall_iff_forall_mem.1 ?_
    repeat' first | exact trivial | constructor
  have records : ∀ m ∈ keptOn.journal, m.LeavesRecords := fun m hm =>
    ⟨⟨left (fun s => s.steps) m hm, left (fun s => s.currentStep) m hm⟩, left (fun s => s.metadata) m hm⟩
  exact ⟨records, by decide +kernel, by decide +kernel,
    (stumbling .beforeExecution).history_grows (.run 0) 4 kept _ _ records⟩

end Pipeline

end AgentLoop
