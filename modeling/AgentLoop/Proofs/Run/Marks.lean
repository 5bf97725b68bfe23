import AgentLoop.Proofs.Run.Invariant
import AgentLoop.Proofs.Run.Traces
import AgentLoop.Proofs.Run.Updates

/-!
# The marks of a run

- `RunMark.isPlain`: the marks of everything but the beginning of a step and a call of the driver. Every part of a run
  but a pass of the loop writes only these;
- `RunMark.Leaves`: what a handler or hook did leaves a view of the state alone. As long as all marks do, a phase leaves
  the view alone (`PhaseTrace.leaves`), and a failure changes it only by recording the failed step
  (`FailureTrace.leaves`);
- `RunMark.isOwn`: the marks of what is neither done by a handler nor by hooks;
- `Unrecorded`: nor does the engine itself change a view when it records steps and failures; then nothing but the
  beginning of steps does (`PassTrace.keeps`);
- `CheckTrace.granted_of_proceed`: the loop goes on only from a state that is not terminal and that no criterion
  refuses.
-/

namespace AgentLoop

/-- Neither does a step begin with a mark, nor does it belong to a call of the driver. -/
def RunMark.isPlain : RunMark → Bool
  | event (.stepStarted _) | step _ | drove _ _ => false
  | _ => true

/-- Does a mark say that the driver was called? -/
def RunMark.drives : RunMark → Bool
  | drove _ _ => true
  | _ => false

theorem RunMark.drives_of_isPlain {m : RunMark} (h : m.isPlain = true) : m.drives = false := by
  cases m with
  | drove _ _ => cases h
  | _ => rfl

/-- What a handler or hook did leaves a view of the state alone. -/
def RunMark.Leaves {α : Type} (view : ExecutionState → α) : RunMark → Prop
  | handled _ s (.ok t) => view t = view s
  | dispatched before after => view after.state = view before.state
  | _ => True

instance {α : Type} [DecidableEq α] (view : ExecutionState → α) : DecidablePred (RunMark.Leaves view)
  | .handled _ s (.ok t) => inferInstanceAs (Decidable (view t = view s))
  | .dispatched before after => inferInstanceAs (Decidable (view after.state = view before.state))
  | .handled _ _ (.error _) | .event _ | .step _ | .entered _ _ | .drove _ _ => inferInstanceAs (Decidable True)

/-- Neither a handler was called with a mark, nor were hooks dispatched. -/
def RunMark.isOwn : RunMark → Bool
  | handled _ _ _ | dispatched _ _ => false
  | _ => true

/-- What is neither done by a handler nor by hooks leaves every view alone. -/
theorem RunMark.leaves_of_isOwn {α : Type} {view : ExecutionState → α} {m : RunMark} (h : m.isOwn = true) :
    m.Leaves view := by
  cases m with
  | handled _ _ _ => cases h
  | dispatched _ _ => cases h
  | _ => trivial

namespace Pipeline

variable {σ : Type} {p : Pipeline σ} {phase : Phase} {s t : ExecutionState} {journal : List RunMark}

/-! ## Plain marks -/

theorem HandlerTrace.plain {handlers : List (PhaseHandler σ)} {r : Except Interruption ExecutionState}
    (h : HandlerTrace phase handlers s journal r) : ∀ m ∈ journal, m.isPlain = true := by
  induction h with
  | done s => simp
  | failed _ => simp [RunMark.isPlain]
  | passed _ _ ih => simpa [RunMark.isPlain] using ih

theorem HookTrace.plain {trigger : HookTrigger} {ctx : HookContext} (h : p.HookTrace trigger ctx journal t) :
    ∀ m ∈ journal, m.isPlain = true := by
  cases h <;> simp [RunMark.isPlain]

theorem PhaseTrace.plain {r : Except Interruption ExecutionState} (h : p.PhaseTrace phase s journal r) :
    ∀ m ∈ journal, m.isPlain = true := by
  cases h with
  | interrupted handlers => simpa [RunMark.isPlain] using handlers.plain
  | silent _ handlers => simpa [RunMark.isPlain] using handlers.plain
  | hooked _ handlers hooks =>
    simp only [List.forall_mem_cons, List.forall_mem_append]
    exact ⟨rfl, handlers.plain, hooks.plain⟩

theorem FailureHookTrace.plain {failure : StepFailure} (h : p.FailureHookTrace s failure journal t) :
    ∀ m ∈ journal, m.isPlain = true := by
  cases h <;> simp [RunMark.isPlain]

theorem FailureTrace.plain {step : Step} {r : Except AgentError ExecutionState}
    (h : p.FailureTrace s step journal r) : ∀ m ∈ journal, m.isPlain = true := by
  have first : ∀ m ∈ p.failureMarks s step, m.isPlain = true := by simp [failureMarks, RunMark.isPlain]
  cases h with
  | bug handlers _ =>
    simp only [List.forall_mem_append]
    exact ⟨first, handlers.plain⟩
  | swallowed handlers _ hooks =>
    simp only [List.forall_mem_append]
    exact ⟨first, handlers.plain, hooks.plain⟩
  | handled handlers hooks =>
    simp only [List.forall_mem_append]
    exact ⟨first, handlers.plain, hooks.plain⟩

theorem RecoveryTrace.plain {i : Interruption} {r : Except AgentError ExecutionState}
    (h : p.RecoveryTrace i journal r) : ∀ m ∈ journal, m.isPlain = true := by
  cases h with
  | bug _ => simp
  | recovered _ failure => exact failure.plain

theorem RecordTrace.plain {number : UInt32} {step : Step} {r : Except AgentError ExecutionState}
    (h : p.RecordTrace number s step journal r) : ∀ m ∈ journal, m.isPlain = true := by
  cases h with
  | interrupted executed recovery =>
    simp only [List.forall_mem_append]
    exact ⟨executed.plain, recovery.plain⟩
  | interruptedLate executed after recovery =>
    simp only [List.forall_mem_append]
    exact ⟨executed.plain, after.plain, recovery.plain⟩
  | completed executed after =>
    simp only [List.forall_mem_append, List.forall_mem_singleton]
    exact ⟨executed.plain, after.plain, rfl⟩

theorem BeginTrace.plain {r : Except AgentError ExecutionState} (h : p.BeginTrace s journal r) :
    ∀ m ∈ journal, m.isPlain = true := by
  cases h with
  | interrupted began recovery =>
    simp only [List.forall_mem_append]
    exact ⟨began.plain, recovery.plain⟩
  | begun began =>
    simp only [List.forall_mem_append, List.forall_mem_singleton]
    exact ⟨began.plain, rfl⟩

theorem EndTrace.plain {r : Except AgentError ExecutionState} (h : p.EndTrace s journal r) :
    ∀ m ∈ journal, m.isPlain = true := by
  cases h with
  | bug ended _ => exact ended.plain
  | failed ended _ _ =>
    simp only [List.forall_mem_append, List.forall_mem_singleton]
    exact ⟨ended.plain, rfl⟩
  | finished ended _ =>
    simp only [List.forall_mem_append, List.forall_mem_singleton]
    exact ⟨ended.plain, rfl⟩

theorem CloseTrace.plain {r r' : Option (Except AgentError ExecutionState)} (h : p.CloseTrace r journal r') :
    ∀ m ∈ journal, m.isPlain = true := by
  cases h with
  | cutOff => simp
  | failed _ => simp
  | ended ended => exact ended.plain

theorem FollowTrace.plain {number : UInt32} {result : Except AgentError Step} {r : Except AgentError ExecutionState}
    (h : p.FollowTrace number s result journal r) : ∀ m ∈ journal, m.isPlain = true := by
  cases h with
  | bug _ => simp
  | failed _ _ failure => exact failure.plain
  | recorded _ _ record => exact record.plain

/-- Where a phase fails, the last handler that it called has failed. -/
theorem HandlerTrace.failed_mem {handlers : List (PhaseHandler σ)} {i : Interruption}
    (h : HandlerTrace phase handlers s journal (.error i)) : .handled phase i.state (.error i.error) ∈ journal := by
  generalize hr : Except.error i = r at h
  induction h with
  | done s => cases hr
  | failed _ =>
    cases hr
    exact List.mem_singleton.2 rfl
  | passed _ _ ih => exact List.mem_cons_of_mem _ (ih hr)

theorem PhaseTrace.failed_mem {i : Interruption} (h : p.PhaseTrace phase s journal (.error i)) :
    .handled phase i.state (.error i.error) ∈ journal := by
  cases h with
  | interrupted handlers => exact List.mem_cons_of_mem _ handlers.failed_mem

/-! ## What is left alone -/

section Leaves

variable {α : Type} {view : ExecutionState → α}

theorem HandlerTrace.leaves {handlers : List (PhaseHandler σ)} {r : Except Interruption ExecutionState}
    (h : HandlerTrace phase handlers s journal r) (left : ∀ m ∈ journal, m.Leaves view) :
    PhaseGood (fun t => view t = view s) r := by
  induction h with
  | done s => rfl
  | failed _ => rfl
  | passed _ _ ih =>
    obtain ⟨same, left⟩ := List.forall_mem_cons.1 left
    have rest := ih left
    rwa [show view _ = view _ from same] at rest

theorem HookTrace.leaves {trigger : HookTrigger} {ctx : HookContext} (h : p.HookTrace trigger ctx journal t)
    (left : ∀ m ∈ journal, m.Leaves view) : view t = view ctx.state := by
  cases h with
  | unhandled _ => rfl
  | dispatched _ _ => exact left _ List.mem_cons_self

/-- A phase leaves a view alone, also where a handler fails. -/
theorem PhaseTrace.leaves {r : Except Interruption ExecutionState} (h : p.PhaseTrace phase s journal r)
    (settled : ∀ s, view s.settled = view s) (left : ∀ m ∈ journal, m.Leaves view) :
    PhaseGood (fun t => view t = view s) r := by
  cases h with
  | interrupted handlers => exact handlers.leaves (List.forall_mem_cons.1 left).2
  | silent _ handlers =>
    have same : view _ = view s := handlers.leaves (List.forall_mem_cons.1 left).2
    exact (settled _).trans same
  | hooked _ handlers hooks =>
    obtain ⟨-, left⟩ := List.forall_mem_cons.1 left
    obtain ⟨left, left'⟩ := List.forall_mem_append.1 left
    have same : view _ = view s := handlers.leaves left
    exact (settled _).trans ((hooks.leaves left').trans same)

theorem FailureHookTrace.leaves {failure : StepFailure} (h : p.FailureHookTrace s failure journal t)
    (settled : ∀ s, view s.settled = view s) (left : ∀ m ∈ journal, m.Leaves view) : view t = view s := by
  cases h with
  | unhandled _ => rfl
  | dispatched _ _ => exact (settled _).trans (left _ List.mem_cons_self)

/-- A failure changes a view only by recording the failed step. -/
theorem FailureTrace.leaves {step : Step} {r : Except AgentError ExecutionState} (h : p.FailureTrace s step journal r)
    (settled : ∀ s, view s.settled = view s) (left : ∀ m ∈ journal, m.Leaves view) :
    PartGood (fun t => view t = view (s.withFailedStep p.errorPolicy step step.cause)) r := by
  cases h with
  | bug _ _ => trivial
  | swallowed handlers _ hooks =>
    obtain ⟨-, left⟩ := List.forall_mem_append.1 left
    obtain ⟨left, left'⟩ := List.forall_mem_append.1 left
    have same : view _ = view (s.withFailedStep p.errorPolicy step step.cause) := handlers.leaves left
    exact (hooks.leaves settled left').trans same
  | handled handlers hooks =>
    obtain ⟨-, left⟩ := List.forall_mem_append.1 left
    obtain ⟨left, left'⟩ := List.forall_mem_append.1 left
    have same : view _ = view (s.withFailedStep p.errorPolicy step step.cause) := handlers.leaves left
    exact (hooks.leaves settled left').trans same

end Leaves

/-! ## What the engine does not record -/

/-- Whatever the engine records of steps and failures leaves a view of the state alone. -/
structure Unrecorded {α : Type} (view : ExecutionState → α) : Prop where
  settled (s : ExecutionState) : view s.settled = view s
  outcome (s : ExecutionState) (step : Step) (keepTraces : Bool) : view (s.withOutcome step keepTraces) = view s
  toolFailures (s : ExecutionState) (policy : ErrorPolicy) (failed : Nat) :
    view (s.withToolFailures policy failed) = view s
  failedStep (s : ExecutionState) (policy : ErrorPolicy) (step : Step) (failure : StepFailure) :
    view (s.withFailedStep policy step failure) = view s

section Unrecorded

variable {α : Type} {view : ExecutionState → α} (unrecorded : Unrecorded view)

include unrecorded

theorem FailureTrace.keeps {step : Step} (h : p.FailureTrace s step journal (.ok t))
    (left : ∀ m ∈ journal, m.Leaves view) : view t = view s := by
  have kept : view t = _ := h.leaves unrecorded.settled left
  rw [kept, unrecorded.failedStep]

theorem RecoveryTrace.keeps {i : Interruption} (h : p.RecoveryTrace i journal (.ok t))
    (left : ∀ m ∈ journal, m.Leaves view) : view t = view i.state := by
  cases h with
  | recovered _ failure => exact failure.keeps unrecorded left

theorem RecordTrace.keeps {number : UInt32} {step : Step} (h : p.RecordTrace number s step journal (.ok t))
    (left : ∀ m ∈ journal, m.Leaves view) : view t = view s := by
  cases h with
  | @interrupted _ _ i _ executed recovery =>
    obtain ⟨left, left'⟩ := List.forall_mem_append.1 left
    have kept : view i.state = _ := executed.leaves unrecorded.settled left
    rw [recovery.keeps unrecorded left', kept, unrecorded.outcome]
  | @interruptedLate _ _ _ u i _ executed after recovery =>
    simp only [List.forall_mem_append] at left
    obtain ⟨left, left', left''⟩ := left
    have kept : view u = _ := executed.leaves unrecorded.settled left
    have kept' : view i.state = _ := after.leaves unrecorded.settled left'
    rw [recovery.keeps unrecorded left'', kept', unrecorded.toolFailures, kept, unrecorded.outcome]
  | @completed _ _ u _ executed after =>
    simp only [List.forall_mem_append] at left
    obtain ⟨left, left', -⟩ := left
    have kept : view u = _ := executed.leaves unrecorded.settled left
    have kept' : view t = _ := after.leaves unrecorded.settled left'
    rw [kept', unrecorded.toolFailures, kept, unrecorded.outcome]

theorem FollowTrace.keeps {number : UInt32} {result : Except AgentError Step}
    (h : p.FollowTrace number s result journal (.ok t)) (left : ∀ m ∈ journal, m.Leaves view) : view t = view s := by
  cases h with
  | failed _ _ failure => exact failure.keeps unrecorded left
  | recorded _ _ record => exact record.keeps unrecorded left

/-- What is not recorded of a step changes in a pass only by its beginning. -/
theorem PassTrace.keeps (h : p.PassTrace s journal (.ok t)) (left : ∀ m ∈ journal, m.Leaves view) :
    view t = view s.withStepStarted := by
  cases h with
  | @interrupted _ _ i _ before recovery =>
    simp only [List.forall_mem_cons, List.forall_mem_append] at left
    obtain ⟨-, left, left'⟩ := left
    have kept : view i.state = _ := before.leaves unrecorded.settled left
    rw [recovery.keeps unrecorded left', kept]
  | ended before _ => exact before.leaves unrecorded.settled (List.forall_mem_cons.1 left).2
  | @called _ _ _ u _ _ before _ _ follows =>
    simp only [List.forall_mem_cons, List.forall_mem_append] at left
    obtain ⟨-, left, -, left'⟩ := left
    have kept : view u = _ := before.leaves unrecorded.settled left
    rw [follows.keeps unrecorded left', kept]

/-- At the end of its beginning, a run has of it what it was started with. -/
theorem BeginTrace.keeps (h : p.BeginTrace s journal (.ok t)) (left : ∀ m ∈ journal, m.Leaves view) :
    ∃ now, view t = view (s.withRunStarted now) := by
  cases h with
  | @interrupted now _ _ i _ began recovery =>
    obtain ⟨left, left'⟩ := List.forall_mem_append.1 left
    have kept : view i.state = _ := began.leaves unrecorded.settled left
    exact ⟨now, by rw [recovery.keeps unrecorded left', kept]⟩
  | @begun now _ _ began =>
    exact ⟨now, began.leaves unrecorded.settled (List.forall_mem_append.1 left).1⟩

end Unrecorded

/-! ## Checks -/

theorem CheckTrace.granted_of_proceed (h : p.CheckTrace s (.proceed t)) :
    t = s ∧ s.isTerminal = false ∧ ∃ elapsed, ∀ c ∈ p.criteria, c.evaluate ⟨s, elapsed⟩ = none := by
  cases h with
  | @granted elapsed running goesOn =>
    refine ⟨rfl, running, elapsed, fun c hc => ?_⟩
    exact Option.map_eq_none_iff.1 (List.findSome?_eq_none_iff.1 goesOn c hc)

end Pipeline

end AgentLoop
