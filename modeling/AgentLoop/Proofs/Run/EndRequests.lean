import AgentLoop.Proofs.Run.ToolErrors

/-!
# Requests to end a run

A handler or hook asks for the end of a run by leaving a terminal status. As long as no handler fails and nobody touches
the status after that:

- `ExecutionState.EndsAs`: the run ends with that status. As far as reasons count, that is, if nobody touches them
  either, it ends with the reason that came with the status, which is a request of a hook if there was none;
  `ExecutionState.Stands`: so far, the reason may still be missing;
- each part of a run in which there is such a request leaves a state in which it stands (`PhaseTrace.request`,
  `FailureTrace.request`, `RecordTrace.request`, `PassTrace.request`, `LoopTrace.request`), and each part after the
  request leaves it alone (`PhaseTrace.leavesEnding`, `CloseTrace.leavesEnding`);
- `FailedToolsOverride`: the one exception. Failed tools are counted after the phase `executeStep`, and may fail the run
  whatever a handler of that phase has asked for;
- `requested_end_stands`: the run ends as it was asked to.
-/

namespace AgentLoop

/-- The state that a handler or hook left, as a mark says. -/
def RunMark.left? : RunMark → Option ExecutionState
  | handled _ _ (.ok t) => some t
  | dispatched _ after => some after.state
  | _ => none

/-- Does a handler fail? -/
def RunMark.fails : RunMark → Bool
  | handled _ _ (.error _) => true
  | _ => false

/-- What a handler or hook did leaves the reason for the end of the run alone. -/
def RunMark.LeavesReason (m : RunMark) : Prop := m.Leaves fun s => s.termination

instance : DecidablePred RunMark.LeavesReason := inferInstanceAs (DecidablePred (RunMark.Leaves _))

/-- No handler fails, and what handlers and hooks do leaves the status alone, and the reason as far as reasons count. -/
structure RunMark.LeavesEnding (reasons : Prop) (m : RunMark) : Prop where
  fails : m.fails = false
  status : m.LeavesStatus
  reason : reasons → m.LeavesReason

namespace ExecutionState

/-- Two states have the same status, and the same reason as far as reasons count. -/
structure SameEnding (reasons : Prop) (s t : ExecutionState) : Prop where
  status : t.status = s.status
  termination : reasons → t.termination = s.termination

/-- The second state ends as the first one asks: with its status and its reason, and as requested by a hook if there is
no reason. -/
structure EndsAs (reasons : Prop) (v t : ExecutionState) : Prop where
  status : t.status = v.status
  termination : reasons → t.termination = some (v.termination.getD .hookRequested)

/-- What the first state asks for stands in the second one, in which a reason may be missing that was missing then. -/
def Stands (reasons : Prop) (v t : ExecutionState) : Prop := v.SameEnding reasons t ∨ v.EndsAs reasons t

/-- A step with failed tools has failed the run. -/
structure FailedByTools (reasons : Prop) (policy : ErrorPolicy) (step : Step) (t : ExecutionState) : Prop where
  tools : 0 < step.failedToolCount
  decision : policy.onToolError ≠ .ignore
  status : t.status = .failed
  termination : reasons →
    t.termination = some (.error .tool (toString step.failedToolCount ++ " tool execution(s) failed"))

variable {reasons : Prop} {s t u v : ExecutionState} {policy : ErrorPolicy} {step : Step}

theorem SameEnding.refl (s : ExecutionState) : s.SameEnding reasons s := ⟨rfl, fun _ => rfl⟩

theorem SameEnding.trans (h : s.SameEnding reasons t) (h' : t.SameEnding reasons u) : s.SameEnding reasons u :=
  ⟨h'.status.trans h.status, fun counts => (h'.termination counts).trans (h.termination counts)⟩

theorem isTerminal_of_status (same : t.status = v.status) (terminal : v.isTerminal = true) : t.isTerminal = true := by
  rwa [isTerminal, same]

theorem Stands.same (h : v.Stands reasons t) (same : t.SameEnding reasons u) : v.Stands reasons u := by
  rcases h with h | h
  · exact .inl (h.trans same)
  · exact .inr ⟨same.status.trans h.status, fun counts => (same.termination counts).trans (h.termination counts)⟩

theorem Stands.isTerminal (h : v.Stands reasons t) (terminal : v.isTerminal = true) : t.isTerminal = true := by
  rcases h with h | h
  · exact isTerminal_of_status h.status terminal
  · exact isTerminal_of_status h.status terminal

/-- What stands in a state that ends as asked stood before. -/
theorem Stands.endsAs (h : v.Stands reasons t) (h' : t.EndsAs reasons u) : v.EndsAs reasons u := by
  rcases h with h | h
  · exact ⟨h'.status.trans h.status, fun counts => by rw [h'.termination counts, h.termination counts]⟩
  · exact ⟨h'.status.trans h.status, fun counts => by rw [h'.termination counts, h.termination counts]; rfl⟩

/-- A phase finds the missing reason. -/
theorem endsAs_settled (terminal : t.isTerminal = true) : t.EndsAs reasons t.settled := by
  unfold settled
  cases reason : t.termination with
  | some r => exact ⟨rfl, fun _ => by simp [reason]⟩
  | none =>
    cases status : t.status with
    | running => simp [isTerminal, status, ExecutionStatus.isTerminal] at terminal
    | completed => exact ⟨by simp [completed, withStatus, status], fun _ => by simp [completed, reason]⟩
    | failed => exact ⟨by simp [failed, withStatus, status], fun _ => by simp [failed, reason]⟩

theorem Stands.settled (h : v.Stands reasons t) (terminal : v.isTerminal = true) : v.EndsAs reasons t.settled :=
  h.endsAs (endsAs_settled (h.isTerminal terminal))

/-- Counting failed tools leaves status and reason alone, or fails the run. -/
theorem sameEnding_toolFailures (s : ExecutionState) (policy : ErrorPolicy) (step : Step) :
    s.SameEnding reasons (s.withToolFailures policy step.failedToolCount) ∨
      (s.withToolFailures policy step.failedToolCount).FailedByTools reasons policy step := by
  unfold withToolFailures
  split
  · exact .inl ⟨rfl, fun _ => rfl⟩
  · rename_i some
    dsimp only
    split
    · exact .inl ⟨rfl, fun _ => rfl⟩
    · rename_i decision
      split
      · exact .inl ⟨rfl, fun _ => rfl⟩
      · exact .inr ⟨Nat.pos_of_ne_zero some, decision, rfl, fun _ => rfl⟩

theorem FailedByTools.isTerminal (h : t.FailedByTools reasons policy step) : t.isTerminal = true := by
  simp [ExecutionState.isTerminal, h.status, ExecutionStatus.isTerminal]

theorem FailedByTools.endsAs (h : t.FailedByTools reasons policy step) (h' : t.EndsAs reasons u) :
    u.FailedByTools reasons policy step :=
  ⟨h.tools, h.decision, h'.status.trans h.status,
    fun counts => by rw [h'.termination counts, h.termination counts]; rfl⟩

/-- At the end of a run, a terminal state keeps its status and its reason. -/
theorem sameEnding_ended (terminal : s.isTerminal = true) (keepTraces : Bool) :
    s.SameEnding reasons (s.ended keepTraces) := by
  have drained : s.SameEnding reasons (s.withBufferDrained keepTraces) := by
    cases keepTraces <;> exact ⟨rfl, fun _ => rfl⟩
  have kept : (s.withBufferDrained keepTraces).concluded = s.withBufferDrained keepTraces := by
    unfold concluded
    split
    · rename_i running
      rw [ExecutionState.isTerminal, ← drained.status, running] at terminal
      cases terminal
    · rfl
  rw [ended, kept]
  exact drained

theorem EndsAs.ended (h : v.EndsAs reasons t) (terminal : v.isTerminal = true) (keepTraces : Bool) :
    v.EndsAs reasons (t.ended keepTraces) :=
  have kept := sameEnding_ended (isTerminal_of_status h.status terminal) keepTraces
  ⟨kept.status.trans h.status, fun counts => (kept.termination counts).trans (h.termination counts)⟩

end ExecutionState

namespace RunMark.LeavesEnding

variable {reasons : Prop}

theorem sameEnding_handled {phase : Phase} {s t : ExecutionState}
    (h : (handled phase s (.ok t)).LeavesEnding reasons) : s.SameEnding reasons t := ⟨h.status, h.reason⟩

theorem sameEnding_dispatched {before after : HookContext} (h : (dispatched before after).LeavesEnding reasons) :
    before.state.SameEnding reasons after.state := ⟨h.status, h.reason⟩

theorem not_failed {phase : Phase} {s : ExecutionState} {e : AgentError} :
    ¬(handled phase s (.error e)).LeavesEnding reasons := by
  intro h
  cases h.fails

end RunMark.LeavesEnding

open ExecutionState (FailedByTools endsAs_settled sameEnding_toolFailures)

/-- Failed tools override a request: a handler of the phase `executeStep` has made it, and the failed tools of the step
are counted after that. -/
def FailedToolsOverride (reasons : Prop) (policy : ErrorPolicy) (before : List RunMark) (m : RunMark)
    (t : ExecutionState) : Prop :=
  (∃ u v, m = .handled .executeStep u (.ok v)) ∧
    ∃ front x step rest, before = front ++ .drove x (.ok step) :: rest ∧ (∀ n ∈ rest, n.drives = false) ∧
      t.FailedByTools reasons policy step

section FailedToolsOverride

variable {reasons : Prop} {policy : ErrorPolicy} {before : List RunMark} {m : RunMark} {t u : ExecutionState}

theorem FailedToolsOverride.prepend (h : FailedToolsOverride reasons policy before m t) (marks : List RunMark) :
    FailedToolsOverride reasons policy (marks ++ before) m t := by
  obtain ⟨handler, front, x, step, rest, rfl, quiet, failed⟩ := h
  exact ⟨handler, marks ++ front, x, step, rest, by rw [List.append_assoc], quiet, failed⟩

theorem FailedToolsOverride.isTerminal (h : FailedToolsOverride reasons policy before m t) : t.isTerminal = true := by
  obtain ⟨-, _, _, _, _, -, -, failed⟩ := h
  exact failed.isTerminal

theorem FailedToolsOverride.endsAs (h : FailedToolsOverride reasons policy before m t) (ends : t.EndsAs reasons u) :
    FailedToolsOverride reasons policy before m u := by
  obtain ⟨handler, front, x, step, rest, split, quiet, failed⟩ := h
  exact ⟨handler, front, x, step, rest, split, quiet, failed.endsAs ends⟩

end FailedToolsOverride

namespace Pipeline

variable {σ : Type} {p : Pipeline σ} {phase : Phase} {reasons : Prop} {s t v : ExecutionState}
  {journal before after : List RunMark} {m : RunMark}

/-- A request is not among the marks that leave no state. -/
theorem not_mem_silent {a : List RunMark} (left : m.left? = some v) (silent : ∀ n ∈ a, n.left? = none) : m ∉ a := by
  intro hm
  rw [silent m hm] at left
  cases left

theorem split_silent {a b : List RunMark} (left : m.left? = some v) (silent : ∀ n ∈ a, n.left? = none)
    (split : a ++ b = before ++ m :: after) : ∃ rest, before = a ++ rest ∧ b = rest ++ m :: after :=
  split_not_mem (not_mem_silent left silent) split

theorem callMarks_silent (marks : List StepMark) (s : ExecutionState) (result : Except AgentError Step) :
    ∀ n ∈ callMarks marks s result, n.left? = none := by
  intro n hn
  rcases List.mem_append.1 hn with step | drove
  · obtain ⟨_, -, rfl⟩ := List.mem_map.1 step
    rfl
  · rw [List.mem_singleton.1 drove]
    rfl

theorem no_request {a : List RunMark} (left : m.left? = some v) (silent : ∀ n ∈ a, n.left? = none)
    (split : a = before ++ m :: after) : False := by
  subst split
  exact not_mem_silent left silent (by simp)

/-! ## Phases -/

theorem HandlerTrace.leavesEnding {handlers : List (PhaseHandler σ)} {r : Except Interruption ExecutionState}
    (h : HandlerTrace phase handlers s journal r) (leaves : ∀ n ∈ journal, n.LeavesEnding reasons) :
    ∃ t, r = .ok t ∧ s.SameEnding reasons t := by
  induction h with
  | done s => exact ⟨s, rfl, .refl s⟩
  | failed _ => exact absurd (leaves _ List.mem_cons_self) RunMark.LeavesEnding.not_failed
  | passed _ _ ih =>
    obtain ⟨first, rest⟩ := List.forall_mem_cons.1 leaves
    obtain ⟨t, same, ending⟩ := ih rest
    exact ⟨t, same, first.sameEnding_handled.trans ending⟩

/-- What a handler asks for is left alone by the handlers after it. -/
theorem HandlerTrace.request {handlers : List (PhaseHandler σ)} {r : Except Interruption ExecutionState}
    (h : HandlerTrace phase handlers s journal r) (split : journal = before ++ m :: after) (left : m.left? = some v)
    (leaves : ∀ n ∈ after, n.LeavesEnding reasons) :
    (∃ u, m = .handled phase u (.ok v)) ∧ ∃ t, r = .ok t ∧ v.SameEnding reasons t := by
  induction h generalizing before with
  | done s => simp at split
  | failed _ =>
    exact (no_request left (List.forall_mem_singleton.2 rfl) split).elim
  | passed _ rest ih =>
    cases before with
    | nil =>
      obtain ⟨rfl, rfl⟩ := List.cons.inj split
      cases left
      exact ⟨⟨_, rfl⟩, rest.leavesEnding leaves⟩
    | cons n before => exact ih (List.cons.inj split).2

theorem HookTrace.leavesEnding {trigger : HookTrigger} {ctx : HookContext} (h : p.HookTrace trigger ctx journal t)
    (leaves : ∀ n ∈ journal, n.LeavesEnding reasons) : ctx.state.SameEnding reasons t := by
  cases h with
  | unhandled _ => exact .refl _
  | dispatched _ _ => exact (leaves _ List.mem_cons_self).sameEnding_dispatched

theorem HookTrace.request {trigger : HookTrigger} {ctx : HookContext} (h : p.HookTrace trigger ctx journal t)
    (split : journal = before ++ m :: after) (left : m.left? = some v) : v = t := by
  cases h with
  | unhandled _ => simp at split
  | dispatched _ _ =>
    cases before with
    | nil =>
      obtain ⟨rfl, -⟩ := List.cons.inj split
      cases left
      rfl
    | cons n before => simp at split

/-- A phase leaves a request alone, and finds its reason. -/
theorem PhaseTrace.leavesEnding {r : Except Interruption ExecutionState} (h : p.PhaseTrace phase s journal r)
    (stands : v.Stands reasons s) (terminal : v.isTerminal = true) (leaves : ∀ n ∈ journal, n.LeavesEnding reasons) :
    ∃ t, r = .ok t ∧ v.EndsAs reasons t := by
  cases h with
  | interrupted handlers =>
    obtain ⟨_, impossible, -⟩ := handlers.leavesEnding (List.forall_mem_cons.1 leaves).2
    cases impossible
  | silent _ handlers =>
    obtain ⟨t, same, ending⟩ := handlers.leavesEnding (List.forall_mem_cons.1 leaves).2
    cases same
    exact ⟨_, rfl, (stands.same ending).settled terminal⟩
  | hooked _ handlers hooks =>
    obtain ⟨-, leaves⟩ := List.forall_mem_cons.1 leaves
    obtain ⟨leaves, leaves'⟩ := List.forall_mem_append.1 leaves
    obtain ⟨t, same, ending⟩ := handlers.leavesEnding leaves
    cases same
    exact ⟨_, rfl, ((stands.same ending).same (hooks.leavesEnding leaves')).settled terminal⟩

/-- A phase in which there is a request. In the phase `executeStep`, a handler has made it. -/
theorem PhaseTrace.request {r : Except Interruption ExecutionState} (h : p.PhaseTrace phase s journal r)
    (split : journal = before ++ m :: after) (left : m.left? = some v) (terminal : v.isTerminal = true)
    (leaves : ∀ n ∈ after, n.LeavesEnding reasons) :
    (phase = .executeStep → ∃ u, m = .handled .executeStep u (.ok v)) ∧ ∃ t, r = .ok t ∧ v.EndsAs reasons t := by
  have entered : ∀ n ∈ [RunMark.entered phase s], n.left? = none := List.forall_mem_singleton.2 rfl
  cases h with
  | interrupted handlers =>
    obtain ⟨_, -, split'⟩ := split_silent left entered split
    obtain ⟨-, _, impossible, -⟩ := handlers.request split' left leaves
    cases impossible
  | silent _ handlers =>
    obtain ⟨_, -, split'⟩ := split_silent left entered split
    obtain ⟨handler, t, same, ending⟩ := handlers.request split' left leaves
    cases same
    refine ⟨fun execute => ?_, _, rfl, ExecutionState.Stands.settled (.inl ending) terminal⟩
    subst execute
    exact handler
  | @hooked trigger _ _ _ _ hooked handlers hooks =>
    have other : phase ≠ .executeStep := by
      rintro rfl
      cases hooked
    obtain ⟨_, -, split'⟩ := split_silent left entered split
    refine ⟨fun execute => absurd execute other, ?_⟩
    rcases split_append split' with ⟨rest, split'', rfl⟩ | ⟨rest, -, split''⟩
    · obtain ⟨leaves, leaves'⟩ := List.forall_mem_append.1 leaves
      obtain ⟨-, t, same, ending⟩ := handlers.request split'' left leaves
      cases same
      have stands : v.Stands reasons _ := .inl (ending.trans (hooks.leavesEnding leaves'))
      exact ⟨_, rfl, stands.settled terminal⟩
    · obtain rfl := hooks.request split'' left
      exact ⟨_, rfl, endsAs_settled terminal⟩

/-! ## Failures -/

theorem FailureHookTrace.leavesEnding {failure : StepFailure} (h : p.FailureHookTrace s failure journal t)
    (stands : v.Stands reasons s) (terminal : v.isTerminal = true) (leaves : ∀ n ∈ journal, n.LeavesEnding reasons) :
    v.Stands reasons t := by
  cases h with
  | unhandled _ => exact stands
  | dispatched _ _ =>
    exact .inr ((stands.same (leaves _ List.mem_cons_self).sameEnding_dispatched).settled terminal)

theorem FailureHookTrace.request {failure : StepFailure} (h : p.FailureHookTrace s failure journal t)
    (split : journal = before ++ m :: after) (left : m.left? = some v) (terminal : v.isTerminal = true) :
    v.Stands reasons t := by
  cases h with
  | unhandled _ => simp at split
  | dispatched _ _ =>
    cases before with
    | nil =>
      obtain ⟨rfl, -⟩ := List.cons.inj split
      cases left
      exact .inr (endsAs_settled terminal)
    | cons n before => simp at split

/-- What is asked for after a failure stands. -/
theorem FailureTrace.request {step : Step} {r : Except AgentError ExecutionState}
    (h : p.FailureTrace s step journal r) (split : journal = before ++ m :: after) (left : m.left? = some v)
    (terminal : v.isTerminal = true) (leaves : ∀ n ∈ after, n.LeavesEnding reasons) :
    ∃ t, r = .ok t ∧ v.Stands reasons t := by
  have opening : ∀ n ∈ p.failureMarks s step, n.left? = none := by simp [failureMarks, RunMark.left?]
  cases h with
  | bug handlers _ =>
    obtain ⟨_, -, split'⟩ := split_silent left opening split
    obtain ⟨-, _, impossible, -⟩ := handlers.request split' left leaves
    cases impossible
  | swallowed handlers _ hooks =>
    obtain ⟨_, -, split'⟩ := split_silent left opening split
    rcases split_append split' with ⟨rest, split'', rfl⟩ | ⟨rest, -, split''⟩
    · obtain ⟨-, _, impossible, -⟩ := handlers.request split'' left (List.forall_mem_append.1 leaves).1
      cases impossible
    · exact ⟨_, rfl, hooks.request split'' left terminal⟩
  | handled handlers hooks =>
    obtain ⟨_, -, split'⟩ := split_silent left opening split
    rcases split_append split' with ⟨rest, split'', rfl⟩ | ⟨rest, -, split''⟩
    · obtain ⟨leaves, leaves'⟩ := List.forall_mem_append.1 leaves
      obtain ⟨-, t, same, ending⟩ := handlers.request split'' left leaves
      cases same
      exact ⟨_, rfl, hooks.leavesEnding (.inl ending) terminal leaves'⟩
    · exact ⟨_, rfl, hooks.request split'' left terminal⟩

theorem RecoveryTrace.request {i : Interruption} {r : Except AgentError ExecutionState}
    (h : p.RecoveryTrace i journal r) (split : journal = before ++ m :: after) (left : m.left? = some v)
    (terminal : v.isTerminal = true) (leaves : ∀ n ∈ after, n.LeavesEnding reasons) :
    ∃ t, r = .ok t ∧ v.Stands reasons t := by
  cases h with
  | bug _ => simp at split
  | recovered _ failure => exact failure.request split left terminal leaves

/-- After a request, no phase is interrupted. -/
theorem PhaseTrace.not_interrupted {i : Interruption} (h : p.PhaseTrace phase s journal (.error i))
    (leaves : ∀ n ∈ journal, n.LeavesEnding reasons) : False :=
  RunMark.LeavesEnding.not_failed (leaves _ h.failed_mem)

/-- Nor is the phase in which it is made. -/
theorem PhaseTrace.not_requested {i : Interruption} (h : p.PhaseTrace phase s journal (.error i))
    (split : journal = before ++ m :: after) (left : m.left? = some v) (terminal : v.isTerminal = true)
    (leaves : ∀ n ∈ after, n.LeavesEnding reasons) : False := by
  obtain ⟨-, _, impossible, -⟩ := h.request split left terminal leaves
  cases impossible

/-- What is asked for while a failed phase is dealt with stands. -/
theorem PhaseTrace.request_recovery {i : Interruption} {r : Except AgentError ExecutionState}
    {journal' : List RunMark} (h : p.PhaseTrace phase s journal (.error i)) (recovery : p.RecoveryTrace i journal' r)
    (split : journal ++ journal' = before ++ m :: after) (left : m.left? = some v) (terminal : v.isTerminal = true)
    (leaves : ∀ n ∈ after, n.LeavesEnding reasons) : ∃ t, r = .ok t ∧ v.Stands reasons t := by
  rcases split_append split with ⟨rest, split', rfl⟩ | ⟨rest, -, split'⟩
  · exact (h.not_requested split' left terminal (List.forall_mem_append.1 leaves).1).elim
  · exact recovery.request split' left terminal leaves

/-! ## Passes -/

/-- What is asked for after a step stands, unless failed tools override it. -/
theorem RecordTrace.request {number : UInt32} {step : Step} {r : Except AgentError ExecutionState}
    (h : p.RecordTrace number s step journal r) (split : journal = before ++ m :: after) (left : m.left? = some v)
    (terminal : v.isTerminal = true) (leaves : ∀ n ∈ after, n.LeavesEnding reasons) :
    ∃ t, r = .ok t ∧ (v.Stands reasons t ∨
      (∃ u, m = .handled .executeStep u (.ok v)) ∧ t.FailedByTools reasons p.errorPolicy step) := by
  cases h with
  | interrupted executed recovery =>
    obtain ⟨t, same, stands⟩ := executed.request_recovery recovery split left terminal leaves
    exact ⟨t, same, .inl stands⟩
  | interruptedLate executed late recovery =>
    rcases split_append split with ⟨rest, -, rfl⟩ | ⟨rest, -, split'⟩
    · simp only [List.forall_mem_append] at leaves
      exact (late.not_interrupted leaves.2.1).elim
    · obtain ⟨t, same, stands⟩ := late.request_recovery recovery split' left terminal leaves
      exact ⟨t, same, .inl stands⟩
  | @completed _ _ w u executed late =>
    rcases split_append split with ⟨rest, split', rfl⟩ | ⟨rest, -, split'⟩
    · simp only [List.forall_mem_append] at leaves
      obtain ⟨leaves, leaves', -⟩ := leaves
      obtain ⟨handler, t, same, ends⟩ := executed.request split' left terminal leaves
      cases same
      refine ⟨u, rfl, ?_⟩
      rcases sameEnding_toolFailures w p.errorPolicy step with same | failed
      · have stands : v.Stands reasons _ := ExecutionState.Stands.same (.inr ends) same
        obtain ⟨_, same, ends⟩ := late.leavesEnding stands terminal leaves'
        cases same
        exact .inl (.inr ends)
      · obtain ⟨_, same, ends⟩ := late.leavesEnding (.inl (.refl _)) failed.isTerminal leaves'
        cases same
        exact .inr ⟨handler rfl, failed.endsAs ends⟩
    · rcases split_append split' with ⟨rest, split'', rfl⟩ | ⟨rest, -, split''⟩
      · obtain ⟨-, t, same, ends⟩ := late.request split'' left terminal (List.forall_mem_append.1 leaves).1
        cases same
        exact ⟨u, rfl, .inl (.inr ends)⟩
      · exact (no_request left (List.forall_mem_singleton.2 rfl) split'').elim

/-- So it does in a pass. -/
theorem PassTrace.request {r : Except AgentError ExecutionState} (h : p.PassTrace s journal r)
    (split : journal = before ++ m :: after) (left : m.left? = some v) (terminal : v.isTerminal = true)
    (leaves : ∀ n ∈ after, n.LeavesEnding reasons) :
    ∃ t, r = .ok t ∧ (v.Stands reasons t ∨ FailedToolsOverride reasons p.errorPolicy before m t) := by
  have opening : ∀ n ∈ [passMark s], n.left? = none := List.forall_mem_singleton.2 rfl
  cases h with
  | interrupted phase recovery =>
    obtain ⟨_, -, split'⟩ := split_silent left opening split
    obtain ⟨t, same, stands⟩ := phase.request_recovery recovery split' left terminal leaves
    exact ⟨t, same, .inl stands⟩
  | ended phase _ =>
    obtain ⟨_, -, split'⟩ := split_silent left opening split
    obtain ⟨-, t, same, ends⟩ := phase.request split' left terminal leaves
    cases same
    exact ⟨_, rfl, .inl (.inr ends)⟩
  | @called first last marks u result _ phase running _ follows =>
    obtain ⟨rest, rfl, split'⟩ := split_silent left opening split
    rcases split_append split' with ⟨rest', split'', rfl⟩ | ⟨rest', rfl, split''⟩
    -- after a request before the step, the driver is not called
    · obtain ⟨-, t, same, ends⟩ := phase.request split'' left terminal (List.forall_mem_append.1 leaves).1
      cases same
      rw [ExecutionState.isTerminal_of_status ends.status terminal] at running
      cases running
    · obtain ⟨rest'', rfl, split₃⟩ := split_silent left (callMarks_silent marks u result) split''
      cases follows with
      | bug _ => simp at split₃
      | failed _ _ failure =>
        obtain ⟨t, same, stands⟩ := failure.request split₃ left terminal leaves
        exact ⟨t, same, .inl stands⟩
      | recorded counts fine record =>
        obtain ⟨t, same, stands | ⟨⟨u', handler⟩, failed⟩⟩ := record.request split₃ left terminal leaves
        · exact ⟨t, same, .inl stands⟩
        · refine ⟨t, same, .inr ⟨⟨u', v, handler⟩, passMark s :: (first ++ marks.map .step), u, _, rest'', ?_, ?_,
            failed⟩⟩
          · cases counts with
            | step _ => simp [callMarks]
            | failure _ _ _ => cases fine
          · intro n hn
            exact RunMark.drives_of_isPlain (record.plain n (by rw [split₃]; simp [hn]))

/-! ## Runs -/

theorem LoopTrace.request {rounds : Nat} {r : Option (Except AgentError ExecutionState)}
    (h : p.LoopTrace rounds s journal r) (split : journal = before ++ m :: after) (left : m.left? = some v)
    (terminal : v.isTerminal = true) (leaves : ∀ n ∈ after, n.LeavesEnding reasons) :
    r = none ∨ ∃ t, r = some (.ok t) ∧ (v.Stands reasons t ∨ FailedToolsOverride reasons p.errorPolicy before m t) := by
  have check (s : ExecutionState) : ∀ n ∈ [RunMark.entered .shouldContinue s], n.left? = none :=
    List.forall_mem_singleton.2 rfl
  induction h generalizing before with
  | cutOff s => simp at split
  | stopped _ =>
    exact (no_request left (check _) split).elim
  | failed _ pass =>
    obtain ⟨_, -, split'⟩ := split_silent left (check _) split
    obtain ⟨_, impossible, -⟩ := pass.request split' left terminal leaves
    cases impossible
  | @passed _ s _ u _ _ _ _ pass loop ih =>
    obtain ⟨rest, rfl, split'⟩ := split_silent left (check s) split
    rcases split_append split' with ⟨rest', split'', rfl⟩ | ⟨rest', rfl, split''⟩
    · obtain ⟨t, same, request⟩ := pass.request split'' left terminal (List.forall_mem_append.1 leaves).1
      cases same
      have ended_now : u.isTerminal = true := by
        rcases request with stands | override
        · exact stands.isTerminal terminal
        · exact override.isTerminal
      rcases (loop.of_terminal ended_now).2 with none | some
      · exact .inl none
      · exact .inr ⟨u, some, request.imp_right fun override => override.prepend _⟩
    · rcases ih split'' with none | ⟨t, same, request⟩
      · exact .inl none
      · refine .inr ⟨t, same, request.imp_right fun override => ?_⟩
        rw [← List.append_assoc]
        exact override.prepend _

/-- The end of a run leaves a request alone. -/
theorem EndTrace.leavesEnding {r : Except AgentError ExecutionState} (h : p.EndTrace s journal r)
    (stands : v.Stands reasons s) (terminal : v.isTerminal = true)
    (leaves : ∀ n ∈ journal, n.LeavesEnding reasons) : ∃ t, r = .ok t ∧ v.EndsAs reasons t := by
  cases h with
  | bug phase _ => exact (phase.not_interrupted leaves).elim
  | failed phase _ _ => exact (phase.not_interrupted (List.forall_mem_append.1 leaves).1).elim
  | finished phase same =>
    obtain ⟨t, ok, ends⟩ := phase.leavesEnding stands terminal (List.forall_mem_append.1 leaves).1
    cases ok
    subst same
    exact ⟨_, rfl, ends.ended terminal p.keepToolTraces⟩

theorem EndTrace.request {r : Except AgentError ExecutionState} (h : p.EndTrace s journal r)
    (split : journal = before ++ m :: after) (left : m.left? = some v) (terminal : v.isTerminal = true)
    (leaves : ∀ n ∈ after, n.LeavesEnding reasons) : ∃ t, r = .ok t ∧ v.EndsAs reasons t := by
  cases h with
  | bug phase _ => exact (phase.not_requested split left terminal leaves).elim
  | failed phase _ _ =>
    rcases split_append split with ⟨rest, split', rfl⟩ | ⟨rest, -, split'⟩
    · exact (phase.not_requested split' left terminal (List.forall_mem_append.1 leaves).1).elim
    · exact (no_request left (List.forall_mem_singleton.2 rfl) split').elim
  | finished phase same =>
    rcases split_append split with ⟨rest, split', rfl⟩ | ⟨rest, -, split'⟩
    · obtain ⟨-, t, ok, ends⟩ := phase.request split' left terminal (List.forall_mem_append.1 leaves).1
      cases ok
      subst same
      exact ⟨_, rfl, ends.ended terminal p.keepToolTraces⟩
    · exact (no_request left (List.forall_mem_singleton.2 rfl) split').elim

/-- A request at the beginning of a run stands when the loop is entered. -/
theorem BeginTrace.request {r : Except AgentError ExecutionState} (h : p.BeginTrace s journal r)
    (split : journal = before ++ m :: after) (left : m.left? = some v) (terminal : v.isTerminal = true)
    (leaves : ∀ n ∈ after, n.LeavesEnding reasons) :
    ∃ t, r = .ok t ∧ v.Stands reasons t := by
  cases h with
  | interrupted phase recovery => exact phase.request_recovery recovery split left terminal leaves
  | begun phase =>
    rcases split_append split with ⟨rest, split', rfl⟩ | ⟨rest, -, split'⟩
    · obtain ⟨-, t, ok, ends⟩ := phase.request split' left terminal (List.forall_mem_append.1 leaves).1
      cases ok
      exact ⟨_, rfl, .inr ends⟩
    · exact (no_request left (List.forall_mem_singleton.2 rfl) split').elim

/-- The end of a run that follows a loop leaves alone what stands when the loop ends. -/
theorem CloseTrace.leavesEnding {r : Option (Except AgentError ExecutionState)}
    (h : p.CloseTrace (some (.ok s)) journal r) (stands : v.Stands reasons s) (terminal : v.isTerminal = true)
    (leaves : ∀ n ∈ journal, n.LeavesEnding reasons) : ∃ t, r = some (.ok t) ∧ v.EndsAs reasons t := by
  cases h with
  | ended finish =>
    obtain ⟨t, rfl, ends⟩ := finish.leavesEnding stands terminal leaves
    exact ⟨t, rfl, ends⟩

/-- A run in which there is a request is cut off, or ends as it was asked to, unless failed tools override it. -/
theorem RunTrace.request {rounds : Nat} {r : Option (Except AgentError ExecutionState)}
    (h : p.RunTrace rounds s journal r) (split : journal = before ++ m :: after) (left : m.left? = some v)
    (terminal : v.isTerminal = true) (leaves : ∀ n ∈ after, n.LeavesEnding reasons) :
    r = none ∨ ∃ t, r = some (.ok t) ∧ (v.EndsAs reasons t ∨ FailedToolsOverride reasons p.errorPolicy before m t) := by
  cases h with
  | aborted begins =>
    obtain ⟨_, impossible, -⟩ := begins.request split left terminal leaves
    cases impossible
  | @looped _ _ _ u _ _ begins loop close =>
    rcases split_append split with ⟨rest, split', rfl⟩ | ⟨rest, rfl, split'⟩
    -- the request is made at the beginning, so that the loop does not start a step
    · obtain ⟨leaves, leaves'⟩ := List.forall_mem_append.1 leaves
      obtain ⟨t, ok, stands⟩ := begins.request split' left terminal leaves
      cases ok
      rcases (loop.of_terminal (stands.isTerminal terminal)).2 with rfl | rfl
      · cases close
        exact .inl rfl
      · obtain ⟨t, ended, ends⟩ := close.leavesEnding stands terminal (List.forall_mem_append.1 leaves').2
        exact .inr ⟨t, ended, .inl ends⟩
    · rcases split_append split' with ⟨rest', split'', rfl⟩ | ⟨rest', rfl, split''⟩
      -- it is made in the loop, which it ends
      · obtain ⟨leaves, leaves'⟩ := List.forall_mem_append.1 leaves
        rcases loop.request split'' left terminal leaves with rfl | ⟨t, rfl, stands | override⟩
        · cases close
          exact .inl rfl
        · obtain ⟨t, ended, ends⟩ := close.leavesEnding stands terminal leaves'
          exact .inr ⟨t, ended, .inl ends⟩
        · obtain ⟨t', ended, ends⟩ := close.leavesEnding (.inl (.refl t)) override.isTerminal leaves'
          exact .inr ⟨t', ended, .inr ((override.endsAs ends).prepend _)⟩
      -- it is made when the loop has ended
      · cases close with
        | cutOff => simp at split''
        | failed _ => simp at split''
        | ended finish =>
          obtain ⟨t, rfl, ends⟩ := finish.request split'' left terminal leaves
          exact .inr ⟨t, rfl, .inl ends⟩

variable (p)

/-- If a handler or hook leaves a terminal status, and after that no handler fails and nobody touches the status: the
run ends with that status. If nobody touches the reason either, it ends with the reason that came with the status, or as
requested by a hook if there was none. The exception are failed tools, which are counted after the handlers of the phase
`executeStep`. -/
theorem requested_end_stands (token : Token) (rounds : Nat) (s : ExecutionState) (frame : Frame) (w : World σ)
    {before after : List RunMark} {m : RunMark} {v : ExecutionState}
    (request : ((p.run token rounds s).exec frame w).journal = before ++ m :: after) (left : m.left? = some v)
    (terminal : v.isTerminal = true) (leaves : ∀ n ∈ after, n.fails = false ∧ n.LeavesStatus) :
    let outcome := (p.run token rounds s).exec frame w
    let reasons := ∀ n ∈ after, n.LeavesReason
    (stepsBegun outcome.journal < rounds → outcome.value.isSome) ∧ ∀ r, outcome.value = some r →
      ∃ t, r = .ok t ∧ (v.EndsAs reasons t ∨ FailedToolsOverride reasons p.errorPolicy before m t) := by
  intro outcome reasons
  have trace : p.RunTrace rounds s outcome.journal outcome.value := p.runTrace_exec token rounds s frame w
  have leaves : ∀ n ∈ after, n.LeavesEnding reasons := fun n hn =>
    ⟨(leaves n hn).1, (leaves n hn).2, fun counts => counts n hn⟩
  constructor
  · intro more
    cases value : outcome.value with
    | some r => rfl
    | none =>
      rw [value] at trace
      have := trace.begins_of_cutOff
      omega
  · intro r value
    rcases trace.request request left terminal leaves with none | ⟨t, returned, ends⟩
    · rw [value] at none
      cases none
    · rw [value] at returned
      cases returned
      exact ⟨t, rfl, ends⟩

/-- A pipeline whose driver reports a failed tool in each step, with a handler that completes the run. -/
def completing (phase : Phase) : Pipeline Unit where
  driver :=
    { name := "fails_tools"
      useTools := fun s _ _ => do
        let now ← Program.readClock
        let failed : ToolExecution := .failure ⟨"1", "search", .null⟩ "broken" now now
        return .ok (.toolExecution s.inferenceMessages [] [failed] none now now) }
  tools := .empty
  schemas := .lenient
  handlers := [(phase, ⟨"complete", fun _ s => pure (.ok (s.withStatus .completed))⟩)]
  errorPolicy := .stopOnAnyError

/-- A pipeline whose driver fails, with handlers that set the run going again and complete it before its second step. -/
def rescuedOnce : Pipeline Unit where
  driver := { name := "fails", useTools := fun _ _ _ => pure (.error (.validation "no decision")) }
  tools := .empty
  schemas := .lenient
  handlers := [(.onError, ⟨"rescue", fun _ s => pure (.ok (s.withStatus .running))⟩),
    (.beforeStep, ⟨"complete", fun _ s => pure (.ok (if s.stats.stepCounter = 2 then s.withStatus .completed else s))⟩)]
  errorPolicy := .stopOnAnyError

/-- A run of such a pipeline. -/
def runOnce (p : Pipeline Unit) : Outcome Unit RunMark (Option (Except AgentError ExecutionState)) :=
  (p.run (.run 0) 3 (.ofUser "question")).exec ⟨fun _ => ⟨0, 0⟩, fun _ => 0, {}⟩ { own := () }

/-- A handler has completed a run that was going on, without a reason, and nobody has failed or touched status and
reason after that. -/
def Completes (before : List RunMark) (phase : Phase) (u : ExecutionState) (after journal : List RunMark) : Prop :=
  journal = before ++ .handled phase u (.ok (u.withStatus .completed)) :: after ∧ u.status = .running ∧
    ∀ n ∈ after, (n.fails = false ∧ n.LeavesStatus) ∧ n.LeavesReason

theorem requested_end_stands_completing :
    ∃ before u after, Completes before .beforeStep u after (runOnce (completing .beforeStep)).journal ∧
      ∃ t, (runOnce (completing .beforeStep)).value = some (.ok t) ∧ t.status = .completed ∧
        t.termination = some .hookRequested := by
  have request : (runOnce (completing .beforeStep)).journal =
      (runOnce (completing .beforeStep)).journal.take 5 ++
        .handled .beforeStep _ (.ok _) :: (runOnce (completing .beforeStep)).journal.drop 6 := rfl
  have leaves : ∀ n ∈ (runOnce (completing .beforeStep)).journal.drop 6,
      (n.fails = false ∧ n.LeavesStatus) ∧ n.LeavesReason := by decide +kernel
  obtain ⟨-, ends⟩ := (completing .beforeStep).requested_end_stands (.run 0) 3 (.ofUser "question") _ _ request rfl rfl
    fun n hn => (leaves n hn).1
  refine ⟨_, _, _, ⟨request, rfl, leaves⟩, _, rfl, ?_⟩
  rcases ends _ rfl with ⟨t, same, ends | ⟨⟨_, _, other⟩, -⟩⟩
  · cases same
    exact ⟨ends.status, ends.termination fun n hn => (leaves n hn).2⟩
  · cases other

/-- The failed tools of a step override a handler of the phase `executeStep`, and a run that was rescued from a failure
ends for the old reason. -/
theorem requests_not_granted :
    (∃ before u after, Completes before .executeStep u after (runOnce (completing .executeStep)).journal ∧
      ∃ t, (runOnce (completing .executeStep)).value = some (.ok t) ∧ t.status = .failed) ∧
      ∃ before u after, Completes before .beforeStep u after (runOnce rescuedOnce).journal ∧
        ∃ t, (runOnce rescuedOnce).value = some (.ok t) ∧ t.status = .completed ∧
          t.termination = some (.error .validation "validation failed: no decision") := by
  constructor
  · refine ⟨(runOnce (completing .executeStep)).journal.take 7, _,
      (runOnce (completing .executeStep)).journal.drop 8, ⟨rfl, rfl, ?_⟩, _, rfl, rfl⟩
    decide +kernel
  · refine ⟨(runOnce rescuedOnce).journal.take 13, _, (runOnce rescuedOnce).journal.drop 14, ⟨rfl, rfl, ?_⟩, _, rfl,
      rfl, rfl⟩
    decide +kernel

end Pipeline

end AgentLoop
