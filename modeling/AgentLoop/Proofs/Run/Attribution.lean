import AgentLoop.Proofs.Run.Iteration
import AgentLoop.Proofs.Run.Marks

/-!
# Reasons for the end of a run

A hook or handler may end a run by a terminal status alone; a phase then finds a reason for it.

- `ExecutionState.Explained`: a state that is not terminal, or has a reason. A phase that does not fail leaves such a
  state (`PhaseTrace.explained`);
- `ExplainsFailures`: what becomes of a failure is explained, too: because hooks are registered for failures, or because
  the handlers take care of it (`FailureTrace.explained`, `PhaseTrace.explained_recovery`);
- `end_states_explained`: then every state is explained that the beginning of a run, a pass of the loop or an item of an
  iteration gives, the last item aside.
-/

namespace AgentLoop

/-- A terminal state has a reason. -/
def ExecutionState.Explained (s : ExecutionState) : Prop := s.isTerminal = true → s.termination.isSome = true

instance (s : ExecutionState) : Decidable s.Explained :=
  inferInstanceAs (Decidable (s.isTerminal = true → s.termination.isSome = true))

/-- A handler for failures does not end a run without a reason, and none that fails and is forgiven has been handed
such an end. -/
def RunMark.Explains (policy : ErrorPolicy) : RunMark → Prop
  | handled phase s (.ok t) => phase = .onError → s.Explained → t.Explained
  | handled _ s (.error e) => e.isProgramming = false → policy.forgives s e.kind = true → s.Explained
  | _ => True

/-- A phase leaves its state with a reason. -/
theorem ExecutionState.explained_settled (s : ExecutionState) : s.settled.Explained := by
  intro terminal
  unfold settled at *
  split
  · assumption
  · cases h : s.status with
    | running =>
      rw [if_neg ‹_›, h] at terminal
      simp [isTerminal, h, ExecutionStatus.isTerminal] at terminal
    | completed => rfl
    | failed => rfl

/-- A failure that is not forgiven is a reason. -/
theorem ExecutionState.explained_withFailedStep {s : ExecutionState} {policy : ErrorPolicy} {failure : StepFailure}
    (step : Step) (hs : policy.forgives s failure.kind = true → s.Explained) :
    (s.withFailedStep policy step failure).Explained := by
  have same : policy.shouldContinue failure.kind (((s.withBuffered step.outputMessages).withStep
      step).withFailureRecorded failure.kind).stats.consecutiveFailures = policy.forgives s failure.kind := rfl
  unfold withFailedStep
  simp only [same]
  cases forgiven : policy.forgives s failure.kind with
  | true => exact hs forgiven
  | false => exact fun _ => rfl

namespace Pipeline

open Program

variable {σ : Type} {p : Pipeline σ} {phase : Phase} {s t : ExecutionState} {journal journal' : List RunMark}

variable (p) in
/-- What becomes of failures is explained: a reason is found after the hooks for failures, or the handlers see to it. -/
def ExplainsFailures (journal : List RunMark) : Prop :=
  p.hooks.handles .onError = true ∨ ∀ m ∈ journal, m.Explains p.errorPolicy

theorem ExplainsFailures.of_subset (h : p.ExplainsFailures journal) (part : journal' ⊆ journal) :
    p.ExplainsFailures journal' :=
  h.imp id fun explains m hm => explains m (part hm)

/-! ## Phases and failures -/

/-- A phase that does not fail finds a reason. -/
theorem PhaseTrace.explained (h : p.PhaseTrace phase s journal (.ok t)) : t.Explained := by
  cases h with
  | silent _ _ => exact ExecutionState.explained_settled _
  | hooked _ _ _ => exact ExecutionState.explained_settled _

theorem HandlerTrace.explained {handlers : List (PhaseHandler σ)} {r : Except Interruption ExecutionState}
    (h : HandlerTrace .onError handlers s journal r) (hs : s.Explained)
    (explains : ∀ m ∈ journal, m.Explains p.errorPolicy) : PhaseGood ExecutionState.Explained r := by
  induction h with
  | done s => exact hs
  | failed _ => exact hs
  | passed _ _ ih =>
    obtain ⟨first, rest⟩ := List.forall_mem_cons.1 explains
    exact ih (first rfl hs) rest

/-- After the hooks for failures, a state is explained; without such hooks, if it was before. -/
theorem FailureHookTrace.explained {failure : StepFailure} (h : p.FailureHookTrace s failure journal t)
    (hs : p.hooks.handles .onError = false → s.Explained) : t.Explained := by
  cases h with
  | unhandled silent => exact hs silent
  | dispatched _ _ => exact ExecutionState.explained_settled _

/-- What becomes of a failed step is explained, unless the step is forgiven in a state that was not. -/
theorem FailureTrace.explained {step : Step} (h : p.FailureTrace s step journal (.ok t))
    (explains : p.ExplainsFailures journal)
    (hs : p.hooks.handles .onError = false → p.errorPolicy.forgives s step.cause.kind = true → s.Explained) :
    t.Explained := by
  -- without hooks for failures, it is up to the handlers
  have handlers {own : List RunMark} {r : Except Interruption ExecutionState} (part : own ⊆ journal)
      (called : HandlerTrace .onError (p.handlersOf .onError) (s.withFailedStep p.errorPolicy step step.cause) own r)
      (silent : p.hooks.handles .onError = false) : PhaseGood ExecutionState.Explained r := by
    rcases explains with handles | explains
    · rw [silent] at handles
      cases handles
    · have entered := ExecutionState.explained_withFailedStep step (hs silent)
      exact called.explained entered fun m hm => explains m (part hm)
  cases h with
  | swallowed called _ hooks => exact hooks.explained (handlers (fun m hm => by simp [hm]) called)
  | handled called hooks => exact hooks.explained (handlers (fun m hm => by simp [hm]) called)

/-- What becomes of a phase that a handler interrupted is explained. -/
theorem PhaseTrace.explained_recovery {i : Interruption} (h : p.PhaseTrace phase s journal (.error i))
    (recovery : p.RecoveryTrace i journal' (.ok t)) (explains : p.ExplainsFailures (journal ++ journal')) :
    t.Explained := by
  cases recovery with
  | recovered runtime failure =>
    refine failure.explained (explains.of_subset (by simp)) fun silent forgiven => ?_
    rcases explains with handles | explains
    · rw [silent] at handles
      cases handles
    · exact explains _ (List.mem_append_left _ h.failed_mem) runtime forgiven

/-! ## The parts of a run -/

theorem RecordTrace.explained {number : UInt32} {step : Step} (h : p.RecordTrace number s step journal (.ok t))
    (explains : p.ExplainsFailures journal) : t.Explained := by
  cases h with
  | interrupted executed recovery => exact executed.explained_recovery recovery explains
  | interruptedLate _ after recovery => exact after.explained_recovery recovery (explains.of_subset (by simp))
  | completed _ after => exact after.explained

theorem PassTrace.explained (h : p.PassTrace s journal (.ok t)) (explains : p.ExplainsFailures journal) :
    t.Explained := by
  cases h with
  | interrupted before recovery => exact before.explained_recovery recovery (explains.of_subset (by simp))
  | ended before _ => exact before.explained
  | @called _ _ _ u _ _ _ running _ follows =>
    have unended : u.Explained := fun terminal => by rw [running] at terminal; cases terminal
    cases follows with
    | failed _ _ failure => exact failure.explained (explains.of_subset fun m hm => by simp [hm]) fun _ _ => unended
    | recorded _ _ record => exact record.explained (explains.of_subset fun m hm => by simp [hm])

theorem BeginTrace.explained (h : p.BeginTrace s journal (.ok t)) (explains : p.ExplainsFailures journal) :
    t.Explained := by
  cases h with
  | interrupted began recovery => exact began.explained_recovery recovery explains
  | begun began => exact began.explained

/-- A pass that gives a state gives one that is explained. -/
theorem explained_runStep {frame : Frame} {w : World σ} (value : ((p.runStep s).exec frame w).value = .ok t)
    (explains : p.ExplainsFailures ((p.runStep s).exec frame w).journal) : t.Explained := by
  have trace := passTrace_of_mayLeave (mayLeave_exec (p.runStep s) frame w)
  rw [value] at trace
  exact trace.explained explains

theorem explained_beforeExecution {frame : Frame} {w : World σ}
    (value : ((p.beforeExecution s).exec frame w).value = .ok t)
    (explains : p.ExplainsFailures ((p.beforeExecution s).exec frame w).journal) : t.Explained := by
  have trace := beginTrace_of_mayLeave (mayLeave_exec (p.beforeExecution s) frame w)
  rw [value] at trace
  exact trace.explained explains

/-- So is every state that the rounds of a loop leave behind. -/
theorem Rounds.explained {token : Token} {frame : Frame} {n : Nat} {w w' : World σ} {states : List ExecutionState}
    {r : Option (Except AgentError ExecutionState)} (h : p.Rounds token frame n s w states r w' journal)
    (explains : p.ExplainsFailures journal) : ∀ t ∈ states, t.Explained := by
  induction h with
  | cutOff _ _ => simp
  | stopped _ _ => simp
  | failed _ _ => simp
  | stepped _ stepped _ ih =>
    refine List.forall_mem_cons.2 ⟨?_, ih (explains.of_subset (by simp))⟩
    exact explained_runStep (by rw [stepped]) (explains.of_subset (by rw [stepped]; simp))

end Pipeline

namespace Session

variable {σ : Type} {p : Pipeline σ} {frame : Frame} {s : ExecutionState} {session : Session σ} {k : Nat}

/-- The items of an iteration before the last one are explained. -/
theorem explained_items (explains : p.ExplainsFailures (session.iteratePulled p frame s k).journal) :
    ∀ t, .ok t ∈ (session.iteratePulled p frame s k).items.dropLast → t.Explained := by
  cases k with
  | zero => simp [iteratePulled, pulls]
  | succ k =>
    obtain ⟨states, r, course⟩ := exists_course p frame (k + 1) s session
    obtain ⟨items, -, -⟩ := course.agree
    have states_explained : ∀ t ∈ states, t.Explained := by
      cases course with
      | refused _ => simp
      | failed _ _ => simp
      | @ran slot _ _ _ j j' _ _ acquired began rounds =>
        have journal : (session.iteratePulled p frame s (k + 1)).journal = j ++ j' := by
          simp [iteratePulled, iterate, acquired, pulls_fresh began, pulls_of_rounds rounds]
        exact rounds.explained (explains.of_subset (by rw [journal]; simp))
    intro t ht
    rw [items] at ht
    have early : (.ok t : Except AgentError ExecutionState) ∈ states.map .ok := by
      cases r with
      | none =>
        rw [Option.toList_none, List.append_nil] at ht
        exact List.dropLast_subset _ ht
      | some last =>
        rw [Option.toList_some, List.dropLast_concat] at ht
        exact ht
    obtain ⟨u, hu, same⟩ := List.mem_map.1 early
    cases same
    exact states_explained t hu

/-- If hooks are registered for failures, or handlers never leave a failure with a terminal status alone: a terminal
state has a reason wherever one is given before the end of a run, by its beginning, by a pass of the loop, and as an
item of an iteration, the last item aside. -/
theorem end_states_explained (p : Pipeline σ) (frame : Frame) (s : ExecutionState) :
    (∀ w t, ((p.beforeExecution s).exec frame w).value = .ok t →
        p.ExplainsFailures ((p.beforeExecution s).exec frame w).journal → t.Explained) ∧
      (∀ w t, ((p.runStep s).exec frame w).value = .ok t →
        p.ExplainsFailures ((p.runStep s).exec frame w).journal → t.Explained) ∧
      ∀ (session : Session σ) k t, .ok t ∈ (session.iteratePulled p frame s k).items.dropLast →
        p.ExplainsFailures (session.iteratePulled p frame s k).journal → t.Explained :=
  ⟨fun _ _ value explains => Pipeline.explained_beforeExecution value explains,
    fun _ _ value explains => Pipeline.explained_runStep value explains,
    fun _ _ t item explains => explained_items explains t item⟩

/-- A pipeline whose driver always fails, with a handler that completes the run after a failure. -/
def rescued : Pipeline Unit where
  driver := { name := "fails", useTools := fun _ _ _ => pure (.error (.validation "no decision")) }
  tools := .empty
  schemas := .lenient
  handlers := [(.onError, ⟨"rescue", fun _ s => pure (.ok (s.withStatus .completed))⟩)]

/-- A hook that looks at failures. -/
def watchHook : Hook Unit where
  name := "watch"
  triggers := [.onError]
  handle := fun ctx => pure ctx

theorem end_states_explained_watched :
    let p := { rescued with hooks := HookStack.empty.insert watchHook 0 }
    let frame : Frame := ⟨fun _ => ⟨0, 0⟩, fun _ => 0, {}⟩
    let pulled := (⟨{}, { own := () }⟩ : Session Unit).iteratePulled p frame (.ofUser "question") 2
    p.ExplainsFailures pulled.journal ∧ ∃ t, .ok t ∈ pulled.items.dropLast ∧ t.isTerminal = true ∧
      t.termination.isSome = true := by
  intro p frame pulled
  have explains : p.ExplainsFailures pulled.journal := .inl rfl
  obtain ⟨-, -, items⟩ := end_states_explained p frame (.ofUser "question")
  have item : .ok _ ∈ pulled.items.dropLast := List.mem_cons_self
  exact ⟨explains, _, item, rfl, items _ 2 _ item explains rfl⟩

/-- Without such a hook, nobody asks why the handler completed the run. -/
theorem end_state_unexplained :
    ∃ t, ((rescued.runStep (.ofUser "question")).exec ⟨fun _ => ⟨0, 0⟩, fun _ => 0, {}⟩ { own := () }).value = .ok t ∧
      t.isTerminal = true ∧ t.termination = none :=
  ⟨_, rfl, rfl, rfl⟩

end Session

end AgentLoop
