import AgentLoop.Backend.Script
import AgentLoop.Hook.ReadyMade
import AgentLoop.Proofs.Run.History

/-!
# The steps that the limits of a run count

Which steps belong to a run is told by when they began:

- `ExecutionState.Prolongs`: one state has the steps of another one and some more, none of which began before a time; as
  long as the clock never goes back, runs with a built-in driver respect this (`prolongs_evolution`);
- `CountsOnly`: the budget for tokens and the limit for failed tools count some steps and no others;
- `run_steps_counted`: they count the steps that the run has recorded, and those of earlier runs that did not begin
  before this one. They count the recorded ones alone if and only if there are no others
  (`earlier_steps_counted` is a run for which there is one).
-/

namespace AgentLoop

open ExecutionState (usageOf)

namespace ExecutionState

/-- A state of the same run with some more steps, none of which began before a time. -/
structure Prolongs (start : Instant) (s t : ExecutionState) : Prop where
  startedAt : t.stats.startedAt = s.stats.startedAt
  recorded : ∃ more, t.steps = s.steps ++ more ∧ ∀ step ∈ more, start ≤ step.startedAt

variable {start : Instant} {s t u : ExecutionState}

theorem Prolongs.of_same (startedAt : t.stats.startedAt = s.stats.startedAt) (steps : t.steps = s.steps) :
    Prolongs start s t :=
  ⟨startedAt, [], by rw [steps, List.append_nil], List.forall_mem_nil _⟩

theorem Prolongs.of_recorded {step : Step} (startedAt : t.stats.startedAt = s.stats.startedAt)
    (steps : t.steps = s.steps ++ [step]) (began : start ≤ step.startedAt) : Prolongs start s t :=
  ⟨startedAt, [step], steps, List.forall_mem_singleton.2 began⟩

theorem Prolongs.trans (h : Prolongs start s t) (h' : Prolongs start t u) : Prolongs start s u := by
  obtain ⟨first, steps, began⟩ := h.recorded
  obtain ⟨second, steps', began'⟩ := h'.recorded
  refine ⟨h'.startedAt.trans h.startedAt, first ++ second, by rw [steps', steps, List.append_assoc], ?_⟩
  exact List.forall_mem_append.2 ⟨began, began'⟩

theorem prolongs_ended (s : ExecutionState) (keepTraces : Bool) : Prolongs start s (s.ended keepTraces) := by
  obtain ⟨_, _, _, _, same⟩ := s.ended_eq keepTraces
  rw [same]
  exact .of_same rfl rfl

/-- Of the steps before a run, those count that did not begin before it. -/
theorem Prolongs.runSteps (h : Prolongs start (s.withRunStarted start) t) :
    ∃ recorded, t.steps = s.steps ++ recorded ∧
      t.runSteps = s.steps.filter (fun earlier => start ≤ earlier.startedAt) ++ recorded := by
  obtain ⟨recorded, steps, began⟩ := h.recorded
  have startedAt : t.stats.startedAt = some start := h.startedAt
  refine ⟨recorded, steps, ?_⟩
  have all : recorded.filter (fun step => decide (start ≤ step.startedAt)) = recorded :=
    List.filter_eq_self.2 fun step hs => decide_eq_true (began step hs)
  rw [ExecutionState.runSteps, startedAt, steps]
  exact (List.filter_append ..).trans (congrArg (_ ++ ·) all)

end ExecutionState

/-- What a handler or hook did leaves the start of the run and the recorded steps alone, except that it may have
recorded more steps, which did not begin before a time. -/
def RunMark.Prolongs (start : Instant) : RunMark → Prop
  | handled _ s (.ok t) => ExecutionState.Prolongs start s t
  | dispatched before after => ExecutionState.Prolongs start before.state after.state
  | _ => True

/-- How many of the tools that some steps executed have failed. -/
def failedTools (steps : List Step) : Nat :=
  (steps.flatMap fun step => step.toolExecutions).countP fun e => !e.isSuccess

theorem ExecutionState.failedToolCount_eq (t : ExecutionState) : t.failedToolCount = failedTools t.runSteps := by
  unfold failedToolCount failedTools
  induction t.runSteps with
  | nil => rfl
  | cons step rest ih => rw [List.foldr_cons, ih, List.flatMap_cons, List.countP_append, Step.failedToolCount]

/-- The limits of a state count some steps and no others: the budget for tokens stops the loop once these have used it
up, and the limit for failed tools fails the run once so many of theirs have failed. -/
structure CountsOnly (counted : List Step) (t : ExecutionState) : Prop where
  runSteps : t.runSteps = counted
  tokens (max : UInt64) (elapsed : Nat) :
    ((Criterion.tokenUsageLimit max).evaluate ⟨t, elapsed⟩).isSome = true ↔ max ≤ (usageOf counted).total
  tools {σ : Type} (max : Nat) (ctx : HookContext) (slot : Slot) (own : σ) : ctx.state = t →
    ((Hook.toolFailureLimit max).handle ctx slot own).value =
      if failedTools counted < max then ctx
      else ctx.withState (t.failed (.error .tool
        (toString (failedTools counted) ++ " tool executions failed (limit " ++ toString max ++ ")")))

theorem countsOnly_iff {counted : List Step} {t : ExecutionState} : CountsOnly counted t ↔ t.runSteps = counted := by
  refine ⟨fun h => h.runSteps, ?_⟩
  rintro rfl
  refine ⟨rfl, fun max elapsed => ?_, ?_⟩
  · unfold Criterion.tokenUsageLimit ExecutionState.runUsage
    dsimp only
    split <;> simp [*]
  · rintro σ max ctx slot own rfl
    rw [← ctx.state.failedToolCount_eq]
    rfl

namespace Pipeline

variable {σ : Type} (p : Pipeline σ)

open ExecutionState (Prolongs)

/-- While the clock shows no time before the start of a run with a built-in driver, each state prolongs those before. -/
theorem prolongs_evolution (b : BuiltIn σ) (builtIn : p.driver = b.driver) (start : Instant) :
    p.Evolution (start ≤ ·) (fun step => start ≤ step.startedAt) (RunMark.Prolongs start) (Prolongs start) where
  refl s := .of_same rfl rfl
  trans := .trans
  handled prolongs := prolongs
  dispatched prolongs := prolongs
  settled s := by
    obtain ⟨_, same⟩ := s.settled_eq
    rw [same]
    exact .of_same rfl rfl
  stepStarted s := .of_same rfl rfl
  driver s := by
    rw [builtIn]
    exact Program.EnsuresAt.mono (b.gives_step s p.tools p.executor) fun _ _ gives step h => (gives step h).startedAt
  raised _ _ _ _ _ began := began
  outcome s step _ began := by
    obtain ⟨_, _, same⟩ := s.withOutcome_eq step p.keepToolTraces
    rw [same]
    exact .of_recorded rfl rfl began
  toolFailures s failed := by
    obtain ⟨_, _, _, same, -⟩ := s.withToolFailures_eq p.errorPolicy failed
    exact .of_same (s.startedAt_withToolFailures p.errorPolicy failed) (by rw [same])
  failedStep s step _ began := by
    obtain ⟨_, _, same, -⟩ := s.withFailedStep_eq p.errorPolicy step step.cause
    exact .of_recorded (s.startedAt_withFailedStep p.errorPolicy step step.cause) (by rw [same]) began
  completed s reason := .of_same rfl rfl
  failed s reason := .of_same rfl rfl

/-- In a run with a built-in driver and a clock that never goes back, whose handlers and hooks leave the start of the
run and the recorded steps alone, except that they may record more steps that began since, the limits count in every
state that is shown or returned: the steps that the run has recorded, after those of the input that did not begin before
the run. So they count the recorded ones alone if and only if all steps of the input began before the run. -/
theorem run_steps_counted (b : BuiltIn σ) (builtIn : p.driver = b.driver) (token : Token) (rounds : Nat)
    (s : ExecutionState) (frame : Frame) (w : World σ) (forward : ∀ m n, m ≤ n → frame.clock m ≤ frame.clock n)
    (left : ∀ m ∈ ((p.run token rounds s).exec frame w).journal, m.Prolongs (frame.clock w.ticks)) :
    ∀ t ∈ ((p.run token rounds s).exec frame w).states, ∃ recorded, t.steps = s.steps ++ recorded ∧
      CountsOnly (s.steps.filter (fun earlier => frame.clock w.ticks ≤ earlier.startedAt) ++ recorded) t ∧
      (CountsOnly recorded t ↔ ∀ earlier ∈ s.steps, ¬ frame.clock w.ticks ≤ earlier.startedAt) := by
  intro t mem
  have evolution := p.prolongs_evolution b builtIn (frame.clock w.ticks)
  have related := evolution.states (fun s => s.prolongs_ended _) token rounds s frame w (forward w.ticks) left
  have prolongs := (List.pairwise_cons.1 related).1 t mem
  obtain ⟨recorded, steps, counted⟩ := prolongs.runSteps
  refine ⟨recorded, steps, countsOnly_iff.2 counted, ?_⟩
  rw [countsOnly_iff, counted, List.append_left_eq_self, List.filter_eq_nil_iff]
  simp only [decide_eq_true_eq]

/-- An input with a step of an earlier run, which used fifteen tokens. -/
def dated (time : Instant) : ExecutionState :=
  { ExecutionState.ofUser "question" with
    steps := [.finalResponse [] [] (some ⟨{ Usage.zero with inputTokens := 10, outputTokens := 5 }, .endTurn, "m"⟩)
      time time] }

/-- The driver that calls tools, with a backend that answers. -/
def answering : BuiltIn Script :=
  .toolCalling { inference := { backend := .scripted (Backend.scriptedInfo "m" "m") .whole } }

/-- A pipeline with this driver and a budget of ten tokens. -/
def budgeted : Pipeline Script where
  driver := answering.driver
  tools := .empty
  schemas := .lenient
  criteria := [.toolCallPresence, .tokenUsageLimit 10]

/-- A clock that never goes back. -/
def ticking : Frame := ⟨fun n => ⟨n, 0⟩, fun _ => 0, {}⟩

theorem ticking_forward (m n : Nat) (later : m ≤ n) : ticking.clock m ≤ ticking.clock n := by
  refine Bool.or_eq_true_iff.2 ?_
  rcases Nat.lt_or_eq_of_le later with before | rfl
  · exact .inl (decide_eq_true (Int.ofNat_lt.2 before))
  · exact .inr (by simp)

/-- What comes of its run on this input. -/
def budgetedOn (time : Instant) : Outcome Script RunMark (Option (Except AgentError ExecutionState)) :=
  (budgeted.run (.run 0) 4 (dated time)).exec ticking { own := { queue := [.text "m" "answer"] } }

/-- The earlier step began before the run, so that only the answer counts. -/
theorem run_steps_counted_budgeted :
    (∃ t, (budgetedOn ⟨-1, 0⟩).value = some (.ok t) ∧ t.termination = some .finalResponse ∧ t.steps.length = 2) ∧
      ∀ t ∈ (budgetedOn ⟨-1, 0⟩).states, ∃ recorded, t.steps = (dated ⟨-1, 0⟩).steps ++ recorded ∧
        CountsOnly recorded t := by
  have left : ∀ m ∈ (budgetedOn ⟨-1, 0⟩).journal, m.Prolongs ⟨0, 0⟩ := by
    refine List.forall_iff_forall_mem.1 ?_
    repeat' first | exact trivial | constructor
  refine ⟨by decide +kernel, fun t mem => ?_⟩
  obtain ⟨recorded, steps, -, alone⟩ :=
    budgeted.run_steps_counted answering rfl (.run 0) 4 _ _ _ ticking_forward left t mem
  exact ⟨recorded, steps, alone.2 (List.forall_mem_singleton.2 (by decide))⟩

/-- An earlier step that carries a later time counts: its tokens end the run before the driver is called. -/
theorem earlier_steps_counted :
    (∀ m n, m ≤ n → ticking.clock m ≤ ticking.clock n) ∧ (∀ m ∈ (budgetedOn ⟨100, 0⟩).journal, m.Prolongs ⟨0, 0⟩) ∧
      (budgetedOn ⟨100, 0⟩).journal.filter RunMark.drives = [] ∧
      ∃ t, (budgetedOn ⟨100, 0⟩).value = some (.ok t) ∧
        t.termination = some (.criterion "token_usage_limit" "15 tokens used, budget 10") ∧
        t.steps = (dated ⟨100, 0⟩).steps ∧ ¬ CountsOnly [] t := by
  have left : ∀ m ∈ (budgetedOn ⟨100, 0⟩).journal, m.Prolongs ⟨0, 0⟩ := by
    refine List.forall_iff_forall_mem.1 ?_
    repeat' first | exact trivial | constructor
  refine ⟨ticking_forward, left, rfl, _, rfl, rfl, rfl, fun alone => ?_⟩
  have counted := countsOnly_iff.1 alone
  cases counted

end Pipeline

end AgentLoop
