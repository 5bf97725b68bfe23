import AgentLoop.Proofs.Run.Recording

/-!
# Final answers

A run whose criteria look for a final answer takes no further step once it has one:

- `ExecutionState.isClosed`: no further step is taken from a state;
- `RunMark.reopens`: a mark after which there may be one all the same: a handler fails after the answer and the policy
  forgives it, so that the failure is recorded as the latest step; or a handler or hook sets the status back;
- `Stays`: what was closed stays closed, unless a mark reopens it. So it is in every part of a run that records nothing
  (`PhaseTrace.stays`), and a pass that records an answer leaves a closed state (`PassTrace.records`);
- `driver_rests_after_answer`: at each call of the driver, the run has recorded no more answers than it was reopened
  before, and at its end at most one more.
-/

namespace AgentLoop

/-- No further step is taken from the state: it is terminal, or its latest step is a final answer. -/
def ExecutionState.isClosed (s : ExecutionState) : Bool := s.isTerminal || s.isAnswered

/-- After a mark, a closed run may take another step: a handler fails after the answer and is forgiven, or the state is
not closed any more. -/
def RunMark.reopens (policy : ErrorPolicy) : RunMark → Bool
  | handled phase s (.error e) =>
    (phase == .executeStep || phase == .afterStep) && !s.isTerminal && s.isAnswered && !e.isProgramming &&
      policy.forgives s e.kind
  | handled _ s (.ok t) => s.isClosed && !t.isClosed
  | dispatched before after => before.state.isClosed && !after.state.isClosed
  | _ => false

/-- What a handler or hook did leaves the recorded steps alone, and which one is the latest. -/
def RunMark.LeavesSteps (m : RunMark) : Prop := m.LeavesHistory ∧ m.Leaves fun s => s.currentStep

/-- How often a journal reopens the run. -/
def reopened (policy : ErrorPolicy) (journal : List RunMark) : Nat := journal.countP (RunMark.reopens policy)

/-- How many of some steps are final answers. -/
def answers (steps : List Step) : Nat := steps.countP Step.isFinal

section Counts

variable {policy : ErrorPolicy} {j j' : List RunMark} {a b : List Step}

theorem reopened_append : reopened policy (j ++ j') = reopened policy j + reopened policy j' := List.countP_append

theorem reopened_cons (m : RunMark) : reopened policy (m :: j) = reopened policy j + (m.reopens policy).toNat := by
  rw [reopened, List.countP_cons]
  cases m.reopens policy <;> rfl

theorem answers_append : answers (a ++ b) = answers a + answers b := List.countP_append

theorem SilentFailures.answers_eq (h : SilentFailures a) : answers a = 0 :=
  List.countP_eq_zero.2 fun step hs => by simp [Step.isFinal_of_isError (h step hs).1]

theorem answers_cons (step : Step) (h : SilentFailures a) : answers (step :: a) = step.isFinal.toNat := by
  have rest : answers a = 0 := h.answers_eq
  unfold answers at *
  rw [List.countP_cons, rest]
  cases step.isFinal <;> rfl

end Counts

/-- What was closed is still closed, unless a mark in between has reopened it. -/
def Stays (policy : ErrorPolicy) (s : ExecutionState) (journal : List RunMark) (t : ExecutionState) : Prop :=
  s.isClosed.toNat ≤ reopened policy journal + t.isClosed.toNat

namespace ExecutionState

theorem isClosed_settled (s : ExecutionState) : s.settled.isClosed = s.isClosed := by
  obtain ⟨_, h⟩ := s.settled_eq
  rw [h]
  rfl

theorem isAnswered_le_isClosed (s : ExecutionState) : s.isAnswered.toNat ≤ s.isClosed.toNat := by
  unfold isClosed
  cases s.isAnswered <;> simp

theorem currentStep_settled (s : ExecutionState) : s.settled.currentStep = s.currentStep := by
  obtain ⟨_, h⟩ := s.settled_eq
  rw [h]

theorem currentStep_withOutcome (s : ExecutionState) (step : Step) (keepTraces : Bool) :
    (s.withOutcome step keepTraces).currentStep = some step := by
  obtain ⟨_, _, h⟩ := s.withOutcome_eq step keepTraces
  rw [h]

theorem currentStep_toolFailures (s : ExecutionState) (policy : ErrorPolicy) (failed : Nat) :
    (s.withToolFailures policy failed).currentStep = s.currentStep := by
  obtain ⟨_, _, _, h, -⟩ := s.withToolFailures_eq policy failed
  rw [h]

end ExecutionState

namespace Stays

variable {policy : ErrorPolicy} {s t u : ExecutionState} {journal journal' : List RunMark}

theorem refl (s : ExecutionState) : Stays policy s [] s := by
  unfold Stays
  omega

theorem trans (h : Stays policy s journal t) (h' : Stays policy t journal' u) :
    Stays policy s (journal ++ journal') u := by
  unfold Stays at *
  rw [reopened_append]
  omega

theorem cons {m : RunMark} (h : Stays policy t journal u)
    (mark : s.isClosed.toNat ≤ (m.reopens policy).toNat + t.isClosed.toNat) : Stays policy s (m :: journal) u := by
  unfold Stays at *
  rw [reopened_cons]
  omega

theorem of_settled (h : Stays policy s journal t) : Stays policy s journal t.settled := by
  unfold Stays at *
  rwa [t.isClosed_settled]

end Stays

namespace Pipeline

variable {σ : Type} {p : Pipeline σ} {policy : ErrorPolicy} {phase : Phase} {s t u : ExecutionState}
  {journal journal' before after : List RunMark}

/-! ## What stays closed -/

theorem HandlerTrace.stays {handlers : List (PhaseHandler σ)} {r : Except Interruption ExecutionState}
    (h : HandlerTrace phase handlers s journal r) : PhaseGood (Stays policy s journal) r := by
  induction h with
  | done s => exact Stays.refl s
  | failed _ => exact (Stays.refl _).cons (Nat.le_add_left _ _)
  | @passed _ _ s t _ r _ _ ih =>
    have mark : s.isClosed.toNat ≤ ((RunMark.handled phase s (.ok t)).reopens policy).toNat + t.isClosed.toNat := by
      cases hs : s.isClosed <;> cases ht : t.isClosed <;> simp [RunMark.reopens, hs, ht]
    cases r with
    | ok u => exact Stays.cons ih mark
    | error i => exact Stays.cons ih mark

theorem HookTrace.stays {trigger : HookTrigger} {ctx : HookContext} (h : p.HookTrace trigger ctx journal t) :
    Stays policy ctx.state journal t := by
  cases h with
  | unhandled _ => exact Stays.refl _
  | @dispatched after _ _ =>
    refine (Stays.refl _).cons ?_
    cases hs : ctx.state.isClosed <;> cases ht : after.state.isClosed <;> simp [RunMark.reopens, hs, ht]

theorem PhaseTrace.stays {r : Except Interruption ExecutionState} (h : p.PhaseTrace phase s journal r) :
    PhaseGood (Stays policy s journal) r := by
  have entered : s.isClosed.toNat ≤ ((RunMark.entered phase s).reopens policy).toNat + s.isClosed.toNat :=
    Nat.le_add_left _ _
  cases h with
  | interrupted handlers => exact Stays.cons handlers.stays entered
  | silent _ handlers =>
    have kept : Stays policy s _ _ := handlers.stays
    exact (Stays.cons kept entered).of_settled
  | hooked _ handlers hooks =>
    have kept : Stays policy s _ _ := handlers.stays
    exact (Stays.cons (kept.trans hooks.stays) entered).of_settled

theorem FailureHookTrace.stays {failure : StepFailure} (h : p.FailureHookTrace s failure journal t) :
    Stays policy s journal t := by
  cases h with
  | unhandled _ => exact Stays.refl s
  | dispatched handles gives => exact (HookTrace.dispatched handles gives).stays.of_settled

theorem FailureTrace.closes {step : Step} (h : p.FailureTrace s step journal (.ok t))
    (ends : s.isTerminal = true ∨ p.errorPolicy.forgives s step.cause.kind = false) :
    1 ≤ reopened p.errorPolicy journal + t.isClosed.toNat := by
  have stays : Stays p.errorPolicy (s.withFailedStep p.errorPolicy step step.cause) journal t := by
    have first (u : ExecutionState) : Stays p.errorPolicy u (p.failureMarks s step) u := by
      simp [Stays, failureMarks, reopened, RunMark.reopens]
    cases h with
    | swallowed handlers _ hooks => exact (first _).trans (Stays.trans handlers.stays hooks.stays)
    | handled handlers hooks => exact (first _).trans (Stays.trans handlers.stays hooks.stays)
  have terminal : (s.withFailedStep p.errorPolicy step step.cause).isTerminal = true := by
    unfold ExecutionState.isTerminal at ends ⊢
    rw [s.status_withFailedStep]
    rcases ends with terminal | stops
    · split
      · exact terminal
      · rfl
    · simp [stops, ExecutionStatus.isTerminal]
  simpa [Stays, ExecutionState.isClosed, terminal] using stays

/-! ## Passes -/

/-- Where a handler fails after an answer, the run is closed, or a mark reopens it. -/
theorem PhaseTrace.recovers {i : Interruption} (h : p.PhaseTrace phase s journal (.error i))
    (late : phase = .executeStep ∨ phase = .afterStep) (recovery : p.RecoveryTrace i journal' (.ok t))
    (left : ∀ m ∈ journal, m.LeavesSteps) :
    s.isAnswered.toNat ≤ reopened p.errorPolicy (journal ++ journal') + t.isClosed.toNat := by
  have kept : i.state.currentStep = s.currentStep :=
    h.leaves ExecutionState.currentStep_settled fun m hm => (left m hm).2
  have answered : i.state.isAnswered = s.isAnswered := by simp [ExecutionState.isAnswered, kept]
  rw [reopened_append, ← answered]
  cases recovery with
  | recovered runtime failure =>
    have := i.state.isAnswered.toNat_le
    by_cases ends : i.state.isTerminal = true ∨ p.errorPolicy.forgives i.state i.error.kind = false
    · have closes : 1 ≤ _ := failure.closes ends
      omega
    · -- the failure itself reopens the run
      obtain ⟨running, forgiven⟩ : i.state.isTerminal = false ∧ p.errorPolicy.forgives i.state i.error.kind = true := by
        simpa using ends
      cases final : i.state.isAnswered with
      | false => exact Nat.zero_le _
      | true =>
        have reopens : (RunMark.handled phase i.state (.error i.error)).reopens p.errorPolicy = true := by
          rcases late with rfl | rfl <;> simp [RunMark.reopens, running, final, runtime, forgiven]
        have : 0 < reopened p.errorPolicy journal := List.countP_pos_iff.2 ⟨_, h.failed_mem, reopens⟩
        simp only [Bool.toNat_true]
        omega

/-- A step that answers closes the run, unless a mark reopens it. -/
theorem RecordTrace.closes {number : UInt32} {step : Step} (h : p.RecordTrace number s step journal (.ok t))
    (left : ∀ m ∈ journal, m.LeavesSteps) :
    step.isFinal.toNat ≤ reopened p.errorPolicy journal + t.isClosed.toNat := by
  have current := s.currentStep_withOutcome step p.keepToolTraces
  have answered {u : ExecutionState} (h : u.currentStep = (s.withOutcome step p.keepToolTraces).currentStep) :
      u.isAnswered = step.isFinal := by simp [ExecutionState.isAnswered, h, current]
  have counted {u : ExecutionState} (h : u.currentStep = (s.withOutcome step p.keepToolTraces).currentStep) :
      (u.withToolFailures p.errorPolicy step.failedToolCount).currentStep = _ :=
    (u.currentStep_toolFailures p.errorPolicy step.failedToolCount).trans h
  cases h with
  | interrupted executed recovery =>
    obtain ⟨left, -⟩ := List.forall_mem_append.1 left
    have recovers := executed.recovers (.inl rfl) recovery left
    rwa [answered rfl] at recovers
  | @interruptedLate _ _ _ u i _ executed after recovery =>
    simp only [List.forall_mem_append] at left
    obtain ⟨left, left', -⟩ := left
    have kept : u.currentStep = _ := executed.leaves ExecutionState.currentStep_settled fun m hm => (left m hm).2
    have recovers := after.recovers (.inr rfl) recovery left'
    rw [answered (counted kept)] at recovers
    rw [reopened_append]
    omega
  | @completed _ journal' u _ executed after =>
    simp only [List.forall_mem_append] at left
    obtain ⟨left, -⟩ := left
    have kept : u.currentStep = _ := executed.leaves ExecutionState.currentStep_settled fun m hm => (left m hm).2
    have stays : Stays p.errorPolicy (u.withToolFailures p.errorPolicy step.failedToolCount) journal' t := after.stays
    have closed := (u.withToolFailures p.errorPolicy step.failedToolCount).isAnswered_le_isClosed
    rw [answered (counted kept)] at closed
    unfold Stays at stays
    rw [reopened_append, reopened_append]
    omega

/-- A pass adds to the recorded steps. For an answer among them it is closed, or a mark has reopened it. -/
theorem PassTrace.records (h : p.PassTrace s journal (.ok t)) (left : ∀ m ∈ journal, m.LeavesSteps) :
    ∃ recorded, t.steps = s.steps ++ recorded ∧
      answers recorded ≤ reopened p.errorPolicy journal + t.isClosed.toNat := by
  have history : ∀ m ∈ journal, m.LeavesHistory := fun m hm => (left m hm).1
  cases h with
  | @interrupted _ _ i _ before recovery =>
    simp only [List.forall_mem_cons, List.forall_mem_append] at history
    obtain ⟨-, history, history'⟩ := history
    have kept : i.state.steps = s.withStepStarted.steps := before.steps history
    obtain ⟨failed, silent, steps⟩ := recovery.steps history'
    refine ⟨failed, by rw [steps, kept]; rfl, ?_⟩
    rw [silent.answers_eq]
    exact Nat.zero_le _
  | ended before _ =>
    have kept : t.steps = s.withStepStarted.steps := before.steps (List.forall_mem_cons.1 history).2
    exact ⟨[], by rw [kept, List.append_nil]; rfl, Nat.zero_le _⟩
  | @called _ last marks u _ _ before _ _ follows =>
    simp only [List.forall_mem_cons, List.forall_mem_append] at history left
    obtain ⟨-, history, -, history'⟩ := history
    obtain ⟨-, -, -, left'⟩ := left
    have kept : u.steps = s.withStepStarted.steps := before.steps history
    have recorded : ∃ recorded, t.steps = u.steps ++ recorded ∧
        answers recorded ≤ reopened p.errorPolicy last + t.isClosed.toNat := by
      cases follows with
      | @failed _ step _ _ isError failure =>
        refine ⟨[step], failure.steps history', ?_⟩
        rw [answers_cons step .nil, Step.isFinal_of_isError isError]
        exact Nat.zero_le _
      | @recorded _ step _ _ _ record =>
        obtain ⟨failed, silent, steps⟩ := record.steps history'
        refine ⟨step :: failed, steps, ?_⟩
        rw [answers_cons step silent]
        exact record.closes left'
    obtain ⟨recorded, steps, bound⟩ := recorded
    refine ⟨recorded, by rw [steps, kept]; rfl, ?_⟩
    rw [reopened_cons, reopened_append, reopened_append]
    omega

/-! ## The loop -/

section Loop

variable {rounds : Nat} {r : Option (Except AgentError ExecutionState)}

theorem CheckTrace.open_of_proceed (h : p.CheckTrace s (.proceed t)) (checked : .toolCallPresence ∈ p.criteria) :
    t = s ∧ s.isClosed = false := by
  obtain ⟨same, running, elapsed, allowed⟩ := h.granted_of_proceed
  have unanswered := allowed _ checked
  simp only [Criterion.toolCallPresence, ite_eq_right_iff, reduceCtorEq, imp_false, Bool.not_eq_true] at unanswered
  exact ⟨same, by simp [ExecutionState.isClosed, running, unanswered]⟩

/-- At each call of the driver, the loop has recorded no more answers than it was reopened before. If it was closed at
its beginning, one reopening was needed for that. -/
theorem LoopTrace.answers_of_call {result : Except AgentError Step} (h : p.LoopTrace rounds s journal r)
    (checked : .toolCallPresence ∈ p.criteria) (left : ∀ m ∈ journal, m.LeavesSteps)
    (call : journal = before ++ .drove t result :: after) :
    ∃ recorded, t.steps = s.steps ++ recorded ∧
      answers recorded + s.isClosed.toNat ≤ reopened p.errorPolicy before := by
  -- in the first pass nothing is recorded before the call
  have first {s v : ExecutionState} {journal before after : List RunMark} {r : Except AgentError ExecutionState}
      (check : p.CheckTrace s (.proceed v)) (pass : p.PassTrace v journal r) (left : ∀ m ∈ journal, m.LeavesSteps)
      (call : journal = before ++ .drove t result :: after) (k : Nat) :
      ∃ recorded, t.steps = s.steps ++ recorded ∧ answers recorded + s.isClosed.toNat ≤ k := by
    obtain ⟨rfl, opened⟩ := check.open_of_proceed checked
    refine ⟨[], by rw [pass.steps_of_call call fun m hm => (left m hm).1, List.append_nil], ?_⟩
    rw [opened]
    exact Nat.zero_le k
  induction h generalizing before with
  | cutOff s => simp at call
  | stopped _ =>
    obtain ⟨before', -, call₁⟩ := split_cons rfl rfl call
    simp at call₁
  | failed check pass =>
    obtain ⟨before', rfl, call₁⟩ := split_cons rfl rfl call
    exact first check pass (List.forall_mem_cons.1 left).2 call₁ _
  | @passed _ s v u _ _ _ check pass _ ih =>
    obtain ⟨before', rfl, call₁⟩ := split_cons rfl rfl call
    obtain ⟨left₁, left₂⟩ := List.forall_mem_append.1 (List.forall_mem_cons.1 left).2
    rcases split_append call₁ with ⟨last, call₂, -⟩ | ⟨last, rfl, call₂⟩
    · exact first check pass left₁ call₂ _
    · obtain ⟨rfl, opened⟩ := check.open_of_proceed checked
      obtain ⟨recorded, steps, bound⟩ := pass.records left₁
      obtain ⟨recorded', steps', bound'⟩ := ih left₂ call₂
      refine ⟨recorded ++ recorded', by rw [steps', steps, List.append_assoc], ?_⟩
      rw [answers_append, reopened_cons, reopened_append, opened]
      simp only [Bool.toNat_false]
      omega

theorem LoopTrace.answers_of_end (h : p.LoopTrace rounds s journal (some (.ok t)))
    (checked : .toolCallPresence ∈ p.criteria) (left : ∀ m ∈ journal, m.LeavesSteps) :
    ∃ recorded, t.steps = s.steps ++ recorded ∧
      answers recorded + s.isClosed.toNat ≤ reopened p.errorPolicy journal + 1 := by
  generalize hr : some (Except.ok t) = r at h
  induction h with
  | cutOff s => cases hr
  | failed _ _ => cases hr
  | @stopped _ s u check =>
    cases hr
    have steps : t.steps = s.steps := by cases check <;> rfl
    have := s.isClosed.toNat_le
    refine ⟨[], by rw [steps, List.append_nil], ?_⟩
    simp only [answers, List.countP_nil]
    omega
  | @passed _ s v u _ _ _ check pass _ ih =>
    obtain ⟨left₁, left₂⟩ := List.forall_mem_append.1 (List.forall_mem_cons.1 left).2
    obtain ⟨rfl, opened⟩ := check.open_of_proceed checked
    obtain ⟨recorded, steps, bound⟩ := pass.records left₁
    obtain ⟨recorded', steps', bound'⟩ := ih left₂ hr
    refine ⟨recorded ++ recorded', by rw [steps', steps, List.append_assoc], ?_⟩
    rw [answers_append, reopened_cons, reopened_append, opened]
    simp only [Bool.toNat_false]
    omega

end Loop

/-! ## Runs -/

theorem RunTrace.answers_of_call {rounds : Nat} {r : Option (Except AgentError ExecutionState)}
    {result : Except AgentError Step} (h : p.RunTrace rounds s journal r) (checked : .toolCallPresence ∈ p.criteria)
    (left : ∀ m ∈ journal, m.LeavesSteps) (call : journal = before ++ .drove t result :: after) :
    ∃ recorded, t.steps = s.steps ++ recorded ∧ answers recorded ≤ reopened p.errorPolicy before := by
  obtain ⟨first, middle, last, u, r', began, loop, -, rfl, before', after', rfl, call', -⟩ := h.of_call call
  simp only [List.forall_mem_append] at left
  obtain ⟨left₁, left₂, -⟩ := left
  obtain ⟨failed, silent, steps⟩ := began.steps fun m hm => (left₁ m hm).1
  obtain ⟨recorded, steps', bound⟩ := loop.answers_of_call checked left₂ call'
  refine ⟨failed ++ recorded, by rw [steps', steps, List.append_assoc], ?_⟩
  rw [answers_append, silent.answers_eq, reopened_append]
  omega

theorem RunTrace.answers_of_end {rounds : Nat} (h : p.RunTrace rounds s journal (some (.ok t)))
    (checked : .toolCallPresence ∈ p.criteria) (left : ∀ m ∈ journal, m.LeavesSteps) :
    ∃ recorded, t.steps = s.steps ++ recorded ∧ answers recorded ≤ reopened p.errorPolicy journal + 1 := by
  cases h with
  | looped began loop close =>
    cases close with
    | ended ended =>
      simp only [List.forall_mem_append] at left
      obtain ⟨left₁, left₂, left₃⟩ := left
      obtain ⟨failed, silent, steps⟩ := began.steps fun m hm => (left₁ m hm).1
      obtain ⟨recorded, steps', bound⟩ := loop.answers_of_end checked left₂
      have same := ended.steps fun m hm => (left₃ m hm).1
      refine ⟨failed ++ recorded, by rw [same, steps', steps, List.append_assoc], ?_⟩
      rw [answers_append, silent.answers_eq, reopened_append, reopened_append]
      omega

variable (p)

/-- As long as handlers and hooks leave the recorded steps alone: with a check for final answers among its criteria, a
run has recorded at each call of the driver no more final answers than it was reopened before, and at its end at most
one more. So unless it is reopened, the driver is not called after a final answer, and there is at most one. -/
theorem driver_rests_after_answer (checked : .toolCallPresence ∈ p.criteria) (token : Token) (rounds : Nat)
    (s : ExecutionState) (frame : Frame) (w : World σ)
    (left : ∀ m ∈ ((p.run token rounds s).exec frame w).journal, m.LeavesSteps) :
    let outcome := (p.run token rounds s).exec frame w
    (∀ before t result after, outcome.journal = before ++ .drove t result :: after →
      ∃ recorded, t.steps = s.steps ++ recorded ∧ answers recorded ≤ reopened p.errorPolicy before) ∧
      ∀ t, outcome.value = some (.ok t) →
        ∃ recorded, t.steps = s.steps ++ recorded ∧ answers recorded ≤ reopened p.errorPolicy outcome.journal + 1 := by
  intro outcome
  have trace := p.runTrace_exec token rounds s frame w
  constructor
  · intro before t result after call
    exact trace.answers_of_call checked left call
  · intro t returned
    rw [returned] at trace
    exact trace.answers_of_end checked left

/-- A pipeline whose driver always answers, with a check after each step that fails once. -/
def rejectedOnce : Pipeline Nat where
  driver :=
    { name := "answers"
      useTools := fun s _ _ => do
        let now ← Program.readClock
        return .ok (.finalResponse s.inferenceMessages [.assistant "answer"] none now now) }
  tools := .empty
  schemas := .lenient
  handlers := [(.afterStep, ⟨"check", fun _ s => do
    let seen ← Act.modifyGet fun n => (n, n + 1)
    if seen = 0 then return .error (.validation "rejected") else return .ok s⟩)]

theorem driver_rests_after_answer_rejectedOnce :
    let outcome :=
      (rejectedOnce.run (.run 0) 3 (.ofUser "question")).exec ⟨fun _ => ⟨0, 0⟩, fun _ => 0, {}⟩ { own := 0 }
    .toolCallPresence ∈ rejectedOnce.criteria ∧ (∀ m ∈ outcome.journal, m.LeavesSteps) ∧
      reopened rejectedOnce.errorPolicy outcome.journal = 1 ∧
      ∃ t, outcome.value = some (.ok t) ∧ ∃ recorded, t.steps = [] ++ recorded ∧ answers recorded ≤ 2 := by
  intro outcome
  have checked : .toolCallPresence ∈ rejectedOnce.criteria := List.mem_singleton.2 rfl
  have left : ∀ m ∈ outcome.journal, m.LeavesSteps := by
    refine List.forall_iff_forall_mem.1 ?_
    repeat' first | exact trivial | exact ⟨trivial, trivial⟩ | exact ⟨rfl, rfl⟩ | constructor
  have once : reopened rejectedOnce.errorPolicy outcome.journal = 1 := by decide +kernel
  obtain ⟨-, returned⟩ := rejectedOnce.driver_rests_after_answer checked (.run 0) 3 (.ofUser "question") _ _ left
  obtain ⟨recorded, steps, bound⟩ := returned _ rfl
  have atMostTwo : answers recorded ≤ reopened rejectedOnce.errorPolicy outcome.journal + 1 := bound
  rw [once] at atMostTwo
  exact ⟨checked, left, once, _, rfl, recorded, steps, atMostTwo⟩

/-- A failure after the answer hides it from the check: the driver is called again, and answers twice. -/
theorem driver_called_after_answer :
    let outcome :=
      (rejectedOnce.run (.run 0) 3 (.ofUser "question")).exec ⟨fun _ => ⟨0, 0⟩, fun _ => 0, {}⟩ { own := 0 }
    .toolCallPresence ∈ rejectedOnce.criteria ∧ (∀ m ∈ outcome.journal, m.LeavesSteps) ∧
      (∃ t result, .drove t result ∈ outcome.journal ∧ answers t.steps = 1) ∧
      ∃ t, outcome.value = some (.ok t) ∧ answers t.steps = 2 := by
  intro outcome
  have left : ∀ m ∈ outcome.journal, m.LeavesSteps := by
    refine List.forall_iff_forall_mem.1 ?_
    repeat' first | exact trivial | exact ⟨trivial, trivial⟩ | exact ⟨rfl, rfl⟩ | constructor
  have again : outcome.journal[14]? = some (.drove _ _) := rfl
  exact ⟨List.mem_singleton.2 rfl, left, ⟨_, _, List.mem_of_getElem? again, by decide +kernel⟩, _, rfl,
    by decide +kernel⟩

end Pipeline

end AgentLoop
