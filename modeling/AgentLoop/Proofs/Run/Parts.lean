import AgentLoop.Proofs.Run.Marks

/-!
# The phases of the parts of a run

- `RunMark.isCollaboration`: the marks of handlers and hooks. A phase is entered, and after that only they act
  (`PhaseTrace.opens`, `FailureTrace.opens`), so that a view of the journal that does not look at them sees the entry
  alone (`filterMap_collaborations`);
- `RunMark.Within`: what a mark shows belongs to one of some phases. The beginning of a run, its loop and its end keep
  to phases of their own (`BeginTrace.within`, `LoopTrace.within`, `CloseTrace.within`);
- `failedIn`: a handler of a phase has failed, which happens in the phase's own part of a run (`failedIn_of_within`) and
  fails the phase (`PhaseTrace.result_of_failed`);
- `stumbled`: an example of a run that goes on after failures.
-/

namespace AgentLoop

/-- Did a handler or hook act? -/
def RunMark.isCollaboration : RunMark → Bool
  | handled _ _ _ | dispatched _ _ => true
  | _ => false

/-- A phase that is entered, the handlers of a phase and the hooks of its trigger belong to one of some phases. -/
def RunMark.Within (phases : List Phase) : RunMark → Prop
  | entered phase _ | handled phase _ _ => phase ∈ phases
  | dispatched before _ => ∃ phase ∈ phases, phase.trigger = some before.trigger
  | event _ | step _ | drove _ _ => True

/-- Does a handler of a phase fail? -/
def RunMark.failsIn (phase : Phase) : RunMark → Bool
  | handled p _ (.error _) => p = phase
  | _ => false

/-- Did a handler of a phase fail, as a journal says? -/
def failedIn (phase : Phase) (journal : List RunMark) : Bool := journal.any (RunMark.failsIn phase)

/-- Nothing is seen of handlers and hooks in a view that does not look at them. -/
theorem filterMap_collaborations {α : Type} {view : RunMark → Option α} {journal : List RunMark}
    (blind : ∀ m, m.isCollaboration = true → view m = none) (h : ∀ m ∈ journal, m.isCollaboration = true) :
    journal.filterMap view = [] :=
  List.filterMap_eq_nil_iff.2 fun m hm => blind m (h m hm)

theorem RunMark.Within.mono {phases phases' : List Phase} {m : RunMark} (h : m.Within phases)
    (part : phases ⊆ phases') : m.Within phases' := by
  cases m with
  | entered _ _ => exact part h
  | handled _ _ _ => exact part h
  | dispatched _ _ =>
    obtain ⟨phase, member, trigger⟩ := h
    exact ⟨phase, part member, trigger⟩
  | event _ => trivial
  | step _ => trivial
  | drove _ _ => trivial

section FailedIn

variable {phase : Phase} {journal : List RunMark}

theorem failedIn_append (phase : Phase) (journal journal' : List RunMark) :
    failedIn phase (journal ++ journal') = (failedIn phase journal || failedIn phase journal') := List.any_append

theorem failedIn_eq_true_iff : failedIn phase journal = true ↔ ∃ s e, .handled phase s (.error e) ∈ journal := by
  rw [failedIn, List.any_eq_true]
  constructor
  · rintro ⟨m, hm, fails⟩
    cases m with
    | handled q s r =>
      cases r with
      | error e =>
        obtain rfl := of_decide_eq_true fails
        exact ⟨s, e, hm⟩
      | ok _ => cases fails
    | _ => cases fails
  · rintro ⟨s, e, hm⟩
    exact ⟨_, hm, decide_eq_true rfl⟩

/-- A phase fails in its own part of a run. -/
theorem failedIn_of_within {phases : List Phase} (within : ∀ m ∈ journal, m.Within phases) (other : phase ∉ phases) :
    failedIn phase journal = false := by
  refine Bool.eq_false_iff.2 fun failed => ?_
  obtain ⟨s, e, hm⟩ := failedIn_eq_true_iff.1 failed
  exact other (within _ hm)

end FailedIn

/-- The marks of some phases are marks of more phases. -/
theorem within_mono {phases phases' : List Phase} {journal : List RunMark} (part : phases ⊆ phases')
    (h : ∀ m ∈ journal, m.Within phases) : ∀ m ∈ journal, m.Within phases' :=
  fun m hm => (h m hm).mono part

namespace Pipeline

variable {σ : Type} {p : Pipeline σ} {phase : Phase} {s t : ExecutionState} {journal : List RunMark}

/-! ## Entries -/

theorem HandlerTrace.collaborations {handlers : List (PhaseHandler σ)} {r : Except Interruption ExecutionState}
    (h : HandlerTrace phase handlers s journal r) : ∀ m ∈ journal, m.isCollaboration = true := by
  induction h with
  | done s => simp
  | failed _ => simp [RunMark.isCollaboration]
  | passed _ _ ih => simpa [RunMark.isCollaboration] using ih

theorem HookTrace.collaborations {trigger : HookTrigger} {ctx : HookContext} (h : p.HookTrace trigger ctx journal t) :
    ∀ m ∈ journal, m.isCollaboration = true := by
  cases h <;> simp [RunMark.isCollaboration]

/-- A phase is entered, and after that only handlers and hooks act. -/
theorem PhaseTrace.opens {r : Except Interruption ExecutionState} (h : p.PhaseTrace phase s journal r) :
    ∃ rest, journal = .entered phase s :: rest ∧ ∀ m ∈ rest, m.isCollaboration = true := by
  cases h with
  | interrupted handlers => exact ⟨_, rfl, handlers.collaborations⟩
  | silent _ handlers => exact ⟨_, rfl, handlers.collaborations⟩
  | hooked _ handlers hooks =>
    exact ⟨_, rfl, List.forall_mem_append.2 ⟨handlers.collaborations, hooks.collaborations⟩⟩

theorem FailureHookTrace.collaborations {failure : StepFailure} (h : p.FailureHookTrace s failure journal t) :
    ∀ m ∈ journal, m.isCollaboration = true := by
  cases h <;> simp [RunMark.isCollaboration]

/-- A failure is reported, its phase is entered, and after that only handlers and hooks act. -/
theorem FailureTrace.opens {step : Step} {r : Except AgentError ExecutionState}
    (h : p.FailureTrace s step journal r) :
    ∃ rest, journal = p.failureMarks s step ++ rest ∧ ∀ m ∈ rest, m.isCollaboration = true := by
  cases h with
  | bug handlers _ => exact ⟨_, rfl, handlers.collaborations⟩
  | swallowed handlers _ hooks =>
    exact ⟨_, rfl, List.forall_mem_append.2 ⟨handlers.collaborations, hooks.collaborations⟩⟩
  | handled handlers hooks =>
    exact ⟨_, rfl, List.forall_mem_append.2 ⟨handlers.collaborations, hooks.collaborations⟩⟩

/-! ## Whose phases they are -/

theorem HandlerTrace.within {handlers : List (PhaseHandler σ)} {r : Except Interruption ExecutionState}
    (h : HandlerTrace phase handlers s journal r) : ∀ m ∈ journal, m.Within [phase] := by
  induction h with
  | done s => simp
  | failed _ => simp [RunMark.Within]
  | passed _ _ ih => exact List.forall_mem_cons.2 ⟨List.mem_singleton.2 rfl, ih⟩

theorem HookTrace.within {trigger : HookTrigger} {ctx : HookContext} (h : p.HookTrace trigger ctx journal t)
    (fires : phase.trigger = some ctx.trigger) : ∀ m ∈ journal, m.Within [phase] := by
  cases h with
  | unhandled _ => simp
  | dispatched _ _ => exact List.forall_mem_singleton.2 ⟨phase, List.mem_singleton.2 rfl, fires⟩

theorem PhaseTrace.within {r : Except Interruption ExecutionState} (h : p.PhaseTrace phase s journal r) :
    ∀ m ∈ journal, m.Within [phase] := by
  have entry : (RunMark.entered phase s).Within [phase] := List.mem_singleton.2 rfl
  cases h with
  | interrupted handlers => exact List.forall_mem_cons.2 ⟨entry, handlers.within⟩
  | silent _ handlers => exact List.forall_mem_cons.2 ⟨entry, handlers.within⟩
  | hooked fires handlers hooks =>
    exact List.forall_mem_cons.2 ⟨entry, List.forall_mem_append.2 ⟨handlers.within, hooks.within fires⟩⟩

theorem FailureHookTrace.within {failure : StepFailure} (h : p.FailureHookTrace s failure journal t) :
    ∀ m ∈ journal, m.Within [.onError] := by
  cases h with
  | unhandled _ => simp
  | dispatched _ _ => exact List.forall_mem_singleton.2 ⟨.onError, List.mem_singleton.2 rfl, rfl⟩

theorem FailureTrace.within {step : Step} {r : Except AgentError ExecutionState}
    (h : p.FailureTrace s step journal r) : ∀ m ∈ journal, m.Within [.onError] := by
  have entry : ∀ m ∈ p.failureMarks s step, m.Within [.onError] := by simp [failureMarks, RunMark.Within]
  cases h with
  | bug handlers _ => exact List.forall_mem_append.2 ⟨entry, handlers.within⟩
  | swallowed handlers _ hooks =>
    exact List.forall_mem_append.2 ⟨entry, List.forall_mem_append.2 ⟨handlers.within, hooks.within⟩⟩
  | handled handlers hooks =>
    exact List.forall_mem_append.2 ⟨entry, List.forall_mem_append.2 ⟨handlers.within, hooks.within⟩⟩

theorem RecoveryTrace.within {i : Interruption} {r : Except AgentError ExecutionState}
    (h : p.RecoveryTrace i journal r) : ∀ m ∈ journal, m.Within [.onError] := by
  cases h with
  | bug _ => simp
  | recovered _ failure => exact failure.within

/-- The phases of a pass of the loop. -/
def passPhases : List Phase := [.beforeStep, .executeStep, .afterStep, .onError]

theorem RecordTrace.within {number : UInt32} {step : Step} {r : Except AgentError ExecutionState}
    (h : p.RecordTrace number s step journal r) : ∀ m ∈ journal, m.Within passPhases := by
  cases h with
  | interrupted executed recovery =>
    simp only [List.forall_mem_append]
    exact ⟨within_mono (by decide) executed.within, within_mono (by decide) recovery.within⟩
  | interruptedLate executed after recovery =>
    simp only [List.forall_mem_append]
    exact ⟨within_mono (by decide) executed.within, within_mono (by decide) after.within,
      within_mono (by decide) recovery.within⟩
  | completed executed after =>
    simp only [List.forall_mem_append, List.forall_mem_singleton]
    exact ⟨within_mono (by decide) executed.within, within_mono (by decide) after.within, trivial⟩

theorem PassTrace.within {r : Except AgentError ExecutionState} (h : p.PassTrace s journal r) :
    ∀ m ∈ journal, m.Within passPhases := by
  have first : (passMark s).Within passPhases := trivial
  cases h with
  | interrupted before recovery =>
    simp only [List.forall_mem_cons, List.forall_mem_append]
    exact ⟨first, within_mono (by decide) before.within, within_mono (by decide) recovery.within⟩
  | ended before _ => exact List.forall_mem_cons.2 ⟨first, within_mono (by decide) before.within⟩
  | @called _ _ marks u result _ before _ _ follows =>
    have call : ∀ m ∈ callMarks marks u result, m.Within passPhases := by
      simp [callMarks, RunMark.Within, or_imp, forall_and]
    simp only [List.forall_mem_cons, List.forall_mem_append]
    refine ⟨first, within_mono (by decide) before.within, call, ?_⟩
    cases follows with
    | bug _ => simp
    | failed _ _ failure => exact within_mono (by decide) failure.within
    | recorded _ _ record => exact record.within

theorem LoopTrace.within {rounds : Nat} {r : Option (Except AgentError ExecutionState)}
    (h : p.LoopTrace rounds s journal r) : ∀ m ∈ journal, m.Within (.shouldContinue :: passPhases) := by
  have check (s : ExecutionState) : (RunMark.entered .shouldContinue s).Within (.shouldContinue :: passPhases) :=
    List.mem_cons_self
  induction h with
  | cutOff s => simp
  | stopped _ => exact List.forall_mem_singleton.2 (check _)
  | failed _ pass => exact List.forall_mem_cons.2 ⟨check _, within_mono (List.subset_cons_self _ _) pass.within⟩
  | passed _ pass _ ih =>
    have passed := within_mono (List.subset_cons_self .shouldContinue passPhases) pass.within
    exact List.forall_mem_cons.2 ⟨check _, List.forall_mem_append.2 ⟨passed, ih⟩⟩

theorem BeginTrace.within {r : Except AgentError ExecutionState} (h : p.BeginTrace s journal r) :
    ∀ m ∈ journal, m.Within [.beforeExecution, .onError] := by
  cases h with
  | interrupted began recovery =>
    exact List.forall_mem_append.2
      ⟨within_mono (by decide) began.within, within_mono (by decide) recovery.within⟩
  | begun began =>
    exact List.forall_mem_append.2 ⟨within_mono (by decide) began.within, List.forall_mem_singleton.2 trivial⟩

theorem CloseTrace.within {r r' : Option (Except AgentError ExecutionState)} (h : p.CloseTrace r journal r') :
    ∀ m ∈ journal, m.Within [.afterExecution] := by
  cases h with
  | cutOff => simp
  | failed _ => simp
  | ended finish =>
    cases finish with
    | bug ended _ => exact ended.within
    | failed ended _ _ => exact List.forall_mem_append.2 ⟨ended.within, List.forall_mem_singleton.2 trivial⟩
    | finished ended _ => exact List.forall_mem_append.2 ⟨ended.within, List.forall_mem_singleton.2 trivial⟩

/-! ## Failures of handlers -/

/-- A handler that failed was the last one of its phase. -/
theorem HandlerTrace.result_of_failed {handlers : List (PhaseHandler σ)} {r : Except Interruption ExecutionState}
    {u : ExecutionState} {e : AgentError} (h : HandlerTrace phase handlers s journal r)
    (failed : .handled phase u (.error e) ∈ journal) : r = .error ⟨u, e⟩ := by
  induction h with
  | done _ => simp at failed
  | failed _ =>
    simp only [List.mem_singleton, RunMark.handled.injEq, Except.error.injEq, true_and] at failed
    rw [failed.1, failed.2]
  | passed _ _ ih => exact ih (by simpa using failed)

theorem PhaseTrace.result_of_failed {r : Except Interruption ExecutionState} {u : ExecutionState} {e : AgentError}
    (h : p.PhaseTrace phase s journal r) (failed : .handled phase u (.error e) ∈ journal) : r = .error ⟨u, e⟩ := by
  cases h with
  | interrupted handlers => exact handlers.result_of_failed (by simpa using failed)
  | silent _ handlers => cases handlers.result_of_failed (by simpa using failed)
  | hooked _ handlers hooks =>
    cases hooks with
    | unhandled _ => cases handlers.result_of_failed (by simpa using failed)
    | dispatched _ _ => cases handlers.result_of_failed (by simpa using failed)

/-! ## Runs in which a handler fails -/

/-- Whether a run returns a certain state can be computed. -/
instance decidableReturned {P : ExecutionState → Prop} [DecidablePred P] :
    (value : Option (Except AgentError ExecutionState)) → Decidable (∃ t, value = some (.ok t) ∧ P t)
  | none | some (.error _) => .isFalse (by simp)
  | some (.ok t) => decidable_of_iff (P t) ⟨fun h => ⟨t, rfl, h⟩, by rintro ⟨_, ⟨⟩, h⟩; exact h⟩

/-- A pipeline whose driver fails once and answers after that, with a handler for one of the phases, which always
fails. -/
def stumbling (phase : Phase) (hooks : HookStack Nat := .empty) : Pipeline Nat where
  driver :=
    { name := "stumbles"
      useTools := fun s _ _ => do
        let seen ← Program.perform (Act.modifyGet fun n => (n, n + 1))
        if seen = 0 then return .error (.validation "rejected")
        let now ← Program.readClock
        return .ok (.finalResponse s.inferenceMessages [.assistant "answer"] none now now) }
  tools := .empty
  schemas := .lenient
  hooks
  handlers := [(phase, ⟨"check", fun _ _ => pure (.error (.validation "broken"))⟩)]

/-- What comes of its run. -/
def stumbled (phase : Phase) (hooks : HookStack Nat := .empty) :
    Outcome Nat RunMark (Option (Except AgentError ExecutionState)) :=
  ((stumbling phase hooks).run (.run 0) 4 (.ofUser "question")).exec ⟨fun _ => ⟨0, 0⟩, fun _ => 0, {}⟩ { own := 0 }

/-- Its handler never returns a state. -/
theorem leaves_stumbled {α : Type} (view : ExecutionState → α) (phase : Phase) :
    ∀ m ∈ (stumbled phase).journal, m.Leaves view := by
  cases phase <;> refine List.forall_iff_forall_mem.1 ?_ <;> repeat' first | exact trivial | constructor

end Pipeline

end AgentLoop
