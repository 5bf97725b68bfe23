import AgentLoop.Agent.Builder
import AgentLoop.Agent.Session
import AgentLoop.Backend.Script
import AgentLoop.Proofs.Run.Marks
import AgentLoop.Proofs.Run.StepCount

/-!
# The limit of steps

- A pass begins one step and calls the driver at most once (`PassTrace.begins`, `PassTrace.calls_le`), so that a loop
  calls the driver at most as often as it begins steps, and is cut off only where it has begun one step for each of its
  rounds (`LoopTrace.calls_le`, `LoopTrace.begins_of_cutOff`);
- a pass counts the step that it begins, whatever becomes of it (`PassTrace.stepCounter`);
- `steps_limit_ends_run`: with a limit of steps among its criteria, a run begins no more steps than that, and ends.
-/

namespace AgentLoop

/-- What a handler or hook did leaves the counter of steps alone. -/
def RunMark.LeavesCounter (m : RunMark) : Prop := m.Leaves fun s => s.stats.stepCounter

instance : DecidablePred RunMark.LeavesCounter := inferInstanceAs (DecidablePred (RunMark.Leaves _))

/-- How often the driver was called, as a journal says. -/
def driverCalled (journal : List RunMark) : Nat := journal.countP RunMark.drives

theorem driverCalled_append (j j' : List RunMark) : driverCalled (j ++ j') = driverCalled j + driverCalled j' :=
  List.countP_append

section Plain

variable {journal : List RunMark} (plain : ∀ m ∈ journal, m.isPlain = true)

include plain

theorem stepsBegun_plain : stepsBegun journal = 0 := by
  refine List.countP_eq_zero.2 fun m hm => ?_
  have := plain m hm
  cases m with
  | event e => cases e <;> simp_all [RunMark.isPlain, RunMark.beginsStep]
  | _ => simp [RunMark.beginsStep]

theorem driverCalled_plain : driverCalled journal = 0 :=
  List.countP_eq_zero.2 fun m hm => by simp [RunMark.drives_of_isPlain (plain m hm)]

end Plain

namespace Pipeline

variable {σ : Type} {p : Pipeline σ} {n : UInt32} {rounds : Nat} {s t : ExecutionState} {journal : List RunMark}

/-! ## Passes -/

theorem PassTrace.begins {r : Except AgentError ExecutionState} (h : p.PassTrace s journal r) :
    stepsBegun journal = 1 := by
  have called (marks : List StepMark) (t : ExecutionState) (result : Except AgentError Step) :
      stepsBegun (callMarks marks t result) = 0 := by
    simp [stepsBegun, callMarks, RunMark.beginsStep, List.countP_map, Function.comp_def]
  have first (rest : List RunMark) : stepsBegun (passMark s :: rest) = stepsBegun rest + 1 :=
    List.countP_cons_of_pos rfl
  cases h with
  | interrupted before recovery =>
    rw [first, stepsBegun_append, stepsBegun_plain before.plain, stepsBegun_plain recovery.plain]
  | ended before _ => rw [first, stepsBegun_plain before.plain]
  | called before _ _ follows =>
    rw [first, stepsBegun_append, stepsBegun_append, called, stepsBegun_plain before.plain,
      stepsBegun_plain follows.plain]

theorem PassTrace.calls_le {r : Except AgentError ExecutionState} (h : p.PassTrace s journal r) :
    driverCalled journal ≤ 1 := by
  have called (marks : List StepMark) (t : ExecutionState) (result : Except AgentError Step) :
      driverCalled (callMarks marks t result) = 1 := by
    simp [driverCalled, callMarks, RunMark.drives, List.countP_map, Function.comp_def]
  have first (rest : List RunMark) : driverCalled (passMark s :: rest) = driverCalled rest :=
    List.countP_cons_of_neg (by simp [passMark, RunMark.drives])
  cases h with
  | interrupted before recovery =>
    rw [first, driverCalled_append, driverCalled_plain before.plain, driverCalled_plain recovery.plain]
    exact Nat.zero_le 1
  | ended before _ =>
    rw [first, driverCalled_plain before.plain]
    exact Nat.zero_le 1
  | called before _ _ follows =>
    refine Nat.le_of_eq ?_
    rw [first, driverCalled_append, driverCalled_append, called, driverCalled_plain before.plain,
      driverCalled_plain follows.plain]

/-- The counter of steps changes only where a step begins. -/
theorem stepCounter_unrecorded : Unrecorded fun s => s.stats.stepCounter where
  settled s := by
    obtain ⟨_, h⟩ := s.settled_eq
    rw [h]
  outcome s step keepTraces := by
    obtain ⟨_, _, h⟩ := s.withOutcome_eq step keepTraces
    rw [h]
  toolFailures s policy failed := by
    obtain ⟨_, _, _, h, same⟩ := s.withToolFailures_eq policy failed
    rw [h]
    exact same
  failedStep s policy step failure := by
    obtain ⟨_, _, h, same⟩ := s.withFailedStep_eq policy step failure
    rw [h]
    exact same

/-! ## The loop -/

theorem LoopTrace.calls_le {r : Option (Except AgentError ExecutionState)} (h : p.LoopTrace rounds s journal r) :
    driverCalled journal ≤ stepsBegun journal := by
  have first (s : ExecutionState) (rest : List RunMark) :
      driverCalled (.entered .shouldContinue s :: rest) = driverCalled rest ∧
        stepsBegun (.entered .shouldContinue s :: rest) = stepsBegun rest :=
    ⟨List.countP_cons_of_neg (by simp [RunMark.drives]), List.countP_cons_of_neg (by simp [RunMark.beginsStep])⟩
  induction h with
  | cutOff s => exact Nat.le_refl 0
  | stopped _ => exact Nat.le_refl 0
  | failed _ pass =>
    rw [(first _ _).1, (first _ _).2, pass.begins]
    exact pass.calls_le
  | passed _ pass _ ih =>
    rw [(first _ _).1, (first _ _).2, driverCalled_append, stepsBegun_append, pass.begins]
    exact Nat.add_le_add pass.calls_le ih

theorem LoopTrace.begins_of_cutOff (h : p.LoopTrace rounds s journal none) : stepsBegun journal = rounds := by
  generalize hr : (none : Option (Except AgentError ExecutionState)) = r at h
  induction h with
  | cutOff s => rfl
  | stopped _ => cases hr
  | failed _ _ => cases hr
  | @passed n s _ _ journal journal' _ _ pass _ ih =>
    have first : stepsBegun (.entered .shouldContinue s :: (journal ++ journal')) = stepsBegun (journal ++ journal') :=
      List.countP_cons_of_neg (by simp [RunMark.beginsStep])
    rw [first, stepsBegun_append, pass.begins, ih hr, Nat.add_comm]

/-- From a state within the limit, a loop begins no more steps than are left. -/
theorem LoopTrace.begins_le {r : Option (Except AgentError ExecutionState)} (h : p.LoopTrace rounds s journal r)
    (limited : .stepsLimit n ∈ p.criteria) (left : ∀ m ∈ journal, m.LeavesCounter)
    (within : s.stats.stepCounter.toNat ≤ n.toNat) : stepsBegun journal + s.stats.stepCounter.toNat ≤ n.toNat := by
  -- where the loop goes on, the limit is not reached yet, so that the counter does not stop at its largest value
  have goesOn {s t : ExecutionState} (check : p.CheckTrace s (.proceed t)) :
      t = s ∧ s.stats.stepCounter.toNat < n.toNat := by
    obtain ⟨same, -, elapsed, allowed⟩ := check.granted_of_proceed
    refine ⟨same, UInt32.lt_iff_toNat_lt.1 (UInt32.not_le.1 fun reached => ?_)⟩
    have := allowed _ limited
    simp [Criterion.stepsLimit, reached] at this
  have first (s : ExecutionState) (rest : List RunMark) :
      stepsBegun (.entered .shouldContinue s :: rest) = stepsBegun rest :=
    List.countP_cons_of_neg (by simp [RunMark.beginsStep])
  induction h with
  | cutOff s => simpa [stepsBegun] using within
  | stopped _ => simpa [stepsBegun, RunMark.beginsStep] using within
  | failed check pass =>
    obtain ⟨-, below⟩ := goesOn check
    rw [first, pass.begins]
    omega
  | @passed _ s t u _ _ _ check pass _ ih =>
    obtain ⟨rfl, below⟩ := goesOn check
    obtain ⟨left, left'⟩ := List.forall_mem_append.1 (List.forall_mem_cons.1 left).2
    have counted : u.stats.stepCounter.toNat = t.stats.stepCounter.toNat + 1 := by
      have kept : u.stats.stepCounter = cappedSucc t.stats.stepCounter := pass.keeps stepCounter_unrecorded left
      have := n.toNat_lt
      rw [kept, toNat_cappedSucc, UInt32.size]
      omega
    have rest := ih left' (by omega)
    rw [first, stepsBegun_append, pass.begins]
    omega

end Pipeline

/-! ## Runs -/

/-- A run that begins at most so many steps, calls the driver at most so often, and ends if it is given more rounds. -/
structure EndsWithin (limit rounds : Nat) (value : Option (Except AgentError ExecutionState))
    (journal : List RunMark) : Prop where
  begins : stepsBegun journal ≤ limit
  calls : driverCalled journal ≤ limit
  ends : limit < rounds → value.isSome

namespace Pipeline

variable {σ : Type} {p : Pipeline σ} {n : UInt32} {rounds : Nat} {s : ExecutionState} {journal : List RunMark}

theorem RunTrace.begins_of_cutOff (h : p.RunTrace rounds s journal none) : stepsBegun journal = rounds := by
  cases h with
  | looped began loop close =>
    cases close with
    | cutOff =>
      rw [stepsBegun_append, stepsBegun_append, stepsBegun_plain began.plain, loop.begins_of_cutOff]
      exact Nat.zero_add rounds

/-- A run begins within the limit, and its steps are those of its loop. -/
theorem RunTrace.endsWithin {r : Option (Except AgentError ExecutionState)} (h : p.RunTrace rounds s journal r)
    (limited : .stepsLimit n ∈ p.criteria) (left : ∀ m ∈ journal, m.LeavesCounter) :
    EndsWithin n.toNat rounds r journal := by
  cases h with
  | aborted began =>
    refine ⟨?_, ?_, fun _ => rfl⟩
    · rw [stepsBegun_plain began.plain]
      exact Nat.zero_le _
    · rw [driverCalled_plain began.plain]
      exact Nat.zero_le _
  | @looped first middle last t r _ began loop close =>
    simp only [List.forall_mem_append] at left
    obtain ⟨left, left', -⟩ := left
    have zero : t.stats.stepCounter.toNat = 0 := by
      obtain ⟨now, kept⟩ := began.keeps stepCounter_unrecorded left
      rw [kept]
      rfl
    have steps := loop.begins_le limited left' (by omega)
    have calls := loop.calls_le
    -- what stands before and after the marks of the loop begins no step and calls no driver
    have same : stepsBegun (first ++ (middle ++ last)) = stepsBegun middle := by
      rw [stepsBegun_append, stepsBegun_append, stepsBegun_plain began.plain, stepsBegun_plain close.plain]
      omega
    have same' : driverCalled (first ++ (middle ++ last)) = driverCalled middle := by
      rw [driverCalled_append, driverCalled_append, driverCalled_plain began.plain, driverCalled_plain close.plain]
      omega
    refine ⟨by omega, by omega, fun more => ?_⟩
    cases close with
    | cutOff =>
      have := loop.begins_of_cutOff
      omega
    | failed e => rfl
    | ended _ => rfl

end Pipeline

namespace AgentBuilder

/-- The settings of an agent limit its steps. -/
theorem stepsLimit_mem_criteria {σ : Type} (b : AgentBuilder σ) :
    .stepsLimit b.config.maxSteps ∈ b.pipeline.criteria := by
  rw [criteria_pipeline]
  simp [AgentConfig.criteria]

end AgentBuilder

/-- Whatever handlers and hooks do and however steps fail, as long as the counter of steps is left alone: with a limit
of steps among its criteria, a run begins no more steps than that, calls the driver no more often, and ends. Every
agent has such a limit. -/
theorem steps_limit_ends_run {σ : Type} :
    (∀ (p : Pipeline σ) (n : UInt32), .stepsLimit n ∈ p.criteria →
      ∀ (token : Token) (rounds : Nat) (s : ExecutionState) (frame : Frame) (w : World σ),
        let outcome := (p.run token rounds s).exec frame w
        (∀ m ∈ outcome.journal, m.LeavesCounter) → EndsWithin n.toNat rounds outcome.value outcome.journal) ∧
      ∀ (b : AgentBuilder σ) (schedule : Nat → Nat) (frame : Frame) (rounds : Nat) (s : ExecutionState)
        (session : Session σ),
        let ran := session.run { b.pipeline with schedule } frame rounds s
        (∀ m ∈ ran.2.2, m.LeavesCounter) → EndsWithin b.config.maxSteps.toNat rounds ran.1 ran.2.2 := by
  constructor
  · intro p n limited token rounds s frame w outcome left
    exact (p.runTrace_exec token rounds s frame w).endsWithin limited left
  · intro b schedule frame rounds s session
    unfold Session.run
    cases session.slot.acquire with
    | none => exact fun _ => ⟨Nat.zero_le _, Nat.zero_le _, fun _ => rfl⟩
    | some slot =>
      have trace := Pipeline.runTrace_exec { b.pipeline with schedule } slot.token rounds s { frame with slot }
        session.world
      exact fun left => trace.endsWithin b.stepsLimit_mem_criteria left

/-- An agent whose driver never comes to a decision, with two steps and more retries than that. -/
def undecidedAgent : AgentBuilder Script where
  backend := .scripted (Backend.scriptedInfo "mock" "model") .whole
  schemas := .lenient
  config := { maxSteps := 2, errorPolicy := .retryAll 9 }
  choice := .custom ⟨"undecided", fun _ _ _ => pure (.error (.validation "no decision"))⟩

theorem steps_limit_ends_run_undecidedAgent :
    let p := { undecidedAgent.pipeline with schedule := fun _ => 0 }
    let frame : Frame := { clock := fun _ => ⟨0, 0⟩, random := fun _ => 0 }
    let outcome := (p.run (.run 0) 5 (.ofUser "question")).exec frame { own := {} }
    let ran := Session.run p frame 5 (.ofUser "question") { world := { own := {} } }
    EndsWithin 2 5 outcome.value outcome.journal ∧ stepsBegun outcome.journal = 2 ∧
      EndsWithin 2 5 ran.1 ran.2.2 ∧ driverCalled ran.2.2 = 2 := by
  intro p frame outcome ran
  have limited : .stepsLimit 2 ∈ p.criteria := undecidedAgent.stepsLimit_mem_criteria
  have left : ∀ m ∈ outcome.journal, m.LeavesCounter := by decide +kernel
  have left' : ∀ m ∈ ran.2.2, m.LeavesCounter := by decide +kernel
  obtain ⟨pipelines, agents⟩ := steps_limit_ends_run (σ := Script)
  exact ⟨pipelines p 2 limited (.run 0) 5 _ frame _ left, by decide +kernel,
    agents undecidedAgent (fun _ => 0) frame 5 _ _ left', by decide +kernel⟩

end AgentLoop
