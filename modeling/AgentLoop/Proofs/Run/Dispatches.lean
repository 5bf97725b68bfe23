import AgentLoop.Proofs.Hook.Priority
import AgentLoop.Proofs.Run.Calls
import AgentLoop.Proofs.Run.Limit
import AgentLoop.Proofs.Run.Parts

/-!
# Hooks before a call of the driver

- `HookStack.Threads`: a context goes through hooks, one after another; a dispatch is that for the hooks that fire on
  its trigger (`HookStack.threads_dispatch`);
- `Pipeline.FiredOnce`: there is a single dispatch for a trigger, in which each of its hooks is called once. So it is in
  a phase that is over (`PhaseTrace.firedOnce`);
- `hooks_fire_before_calls`: the hooks for a step have fired in the pass of each call of the driver, and the hooks for
  the beginning of a run in front of its first call, unless a handler failed at the beginning: then they never fire.
-/

namespace AgentLoop

namespace HookStack

variable {σ : Type} {t : HookTrigger} {ctx after : HookContext}

/-- A context goes through hooks: each of them is called once, with what the one in front of it has returned, and sees
the trigger. -/
inductive Threads (t : HookTrigger) : List (RankedHook σ) → HookContext → HookContext → Prop
  | done (ctx : HookContext) : Threads t [] ctx ctx
  | fired {e : RankedHook σ} {rest : List (RankedHook σ)} {ctx next after : HookContext} :
      (e.hook.handle { ctx with trigger := t }).MayGive next → Threads t rest next after →
      Threads t (e :: rest) ctx after

/-- A dispatch calls each hook for its trigger once. -/
theorem threads_dispatch {s : HookStack σ} (h : (s.dispatch t ctx).MayGive after) :
    Threads t (s.firing t) ctx after := by
  obtain ⟨slot, own, rfl⟩ := h
  rw [dispatch_eq_thread]
  induction s.firing t generalizing ctx own with
  | nil => exact .done ctx
  | cons e rest ih =>
    -- the other hooks get what the first one leaves, of the context and of the collaborators' own state
    have others := @ih (e.hook.handle { ctx with trigger := t } slot own).value
      (e.hook.handle { ctx with trigger := t } slot own).own
    rw [thread, List.foldlM_cons, Act.value_bind]
    exact .fired ⟨slot, own, rfl⟩ others

end HookStack

/-- What a dispatch for a trigger was given and what it returned. -/
def RunMark.dispatch? (t : HookTrigger) : RunMark → Option (HookContext × HookContext)
  | dispatched before after => if before.trigger = t then some (before, after) else none
  | _ => none

/-- The dispatches for a trigger, as a journal says. -/
def dispatches (t : HookTrigger) (journal : List RunMark) : List (HookContext × HookContext) :=
  journal.filterMap (RunMark.dispatch? t)

theorem dispatches_append (t : HookTrigger) (journal journal' : List RunMark) :
    dispatches t (journal ++ journal') = dispatches t journal ++ dispatches t journal' := List.filterMap_append

/-- There are none in parts of a run that have other triggers. -/
theorem dispatches_of_within {t : HookTrigger} {phases : List Phase} {journal : List RunMark}
    (within : ∀ m ∈ journal, m.Within phases) (other : ∀ phase ∈ phases, phase.trigger ≠ some t) :
    dispatches t journal = [] := by
  refine List.filterMap_eq_nil_iff.2 fun m hm => ?_
  cases m with
  | dispatched before _ =>
    obtain ⟨phase, member, trigger⟩ := within _ hm
    refine if_neg ?_
    rintro rfl
    exact other phase member trigger
  | _ => rfl

namespace Pipeline

variable {σ : Type} {p : Pipeline σ} {phase : Phase} {trigger : HookTrigger} {s t : ExecutionState}
  {journal : List RunMark}

/-! ## Phases -/

variable (p) in
/-- If there are hooks for a trigger, there is a single dispatch for it, in which each of them is called once. -/
def FiredOnce (trigger : HookTrigger) (journal : List RunMark) : Prop :=
  p.hooks.handles trigger = true → ∃ before after, dispatches trigger journal = [(before, after)] ∧
    HookStack.Threads trigger (p.hooks.firing trigger) before after

theorem HandlerTrace.dispatches {handlers : List (PhaseHandler σ)} {r : Except Interruption ExecutionState}
    (h : HandlerTrace phase handlers s journal r) (trigger : HookTrigger) : dispatches trigger journal = [] := by
  induction h with
  | done _ => rfl
  | failed _ => rfl
  | passed _ _ ih => exact ih

theorem PhaseTrace.firedOnce (h : p.PhaseTrace phase s journal (.ok t)) (fires : phase.trigger = some trigger) :
    p.FiredOnce trigger journal := by
  intro handles
  cases h with
  | silent none _ => simp [none] at fires
  | @hooked own first _ u _ hooked handlers hooks =>
    obtain rfl : own = trigger := Option.some.inj (hooked.symm.trans fires)
    cases hooks with
    | unhandled silent => simp [silent] at handles
    | @dispatched after _ gives =>
      refine ⟨{ trigger := own, state := u }, after, ?_, HookStack.threads_dispatch gives⟩
      have last : dispatches own [.dispatched { trigger := own, state := u } after] =
          [({ trigger := own, state := u }, after)] := by simp [dispatches, RunMark.dispatch?]
      change dispatches own (first ++ [.dispatched { trigger := own, state := u } after]) = _
      rw [dispatches_append, handlers.dispatches, last, List.nil_append]

/-- Where a handler fails, no hooks fire. -/
theorem PhaseTrace.dispatches_of_interrupted {i : Interruption} (h : p.PhaseTrace phase s journal (.error i))
    (trigger : HookTrigger) : dispatches trigger journal = [] := by
  cases h with
  | interrupted handlers => exact handlers.dispatches trigger

/-- More marks without a dispatch. -/
theorem FiredOnce.append {journal' : List RunMark} (h : p.FiredOnce trigger journal)
    (none : dispatches trigger journal' = []) : p.FiredOnce trigger (journal ++ journal') := by
  intro handles
  obtain ⟨before, after, single, threads⟩ := h handles
  exact ⟨before, after, by rw [dispatches_append, single, none, List.append_nil], threads⟩

/-! ## Runs -/

theorem exists_call (h : 0 < driverCalled journal) :
    ∃ before u result after, journal = before ++ .drove u result :: after := by
  obtain ⟨m, hm, drives⟩ := List.countP_pos_iff.1 h
  obtain ⟨before, after, rfl⟩ := List.append_of_mem hm
  cases m with
  | drove u result => exact ⟨before, u, result, after, rfl⟩
  | _ => cases drives

theorem BeginTrace.firedOnce (h : p.BeginTrace s journal (.ok t))
    (fine : failedIn .beforeExecution journal = false) : p.FiredOnce .beforeExecution journal := by
  cases h with
  | interrupted began _ =>
    rw [failedIn_eq_true_iff.2 ⟨_, _, List.mem_append_left _ began.failed_mem⟩] at fine
    cases fine
  | begun began => exact (began.firedOnce rfl).append rfl

/-- Where a handler fails at the beginning of a run, the hooks for the beginning do not fire. -/
theorem BeginTrace.dispatches_of_failed {r : Except AgentError ExecutionState} (h : p.BeginTrace s journal r)
    (failed : failedIn .beforeExecution journal = true) : dispatches .beforeExecution journal = [] := by
  obtain ⟨u, e, failed⟩ := failedIn_eq_true_iff.1 failed
  cases h with
  | interrupted began recovery =>
    rw [dispatches_append, began.dispatches_of_interrupted, dispatches_of_within recovery.within (by decide)]
    rfl
  | begun began => cases began.result_of_failed (by simpa using failed)

/-- A call of the driver follows, in its pass, the phase before the step. -/
theorem RunTrace.step_of_call {rounds : Nat} {before after : List RunMark} {result : Except AgentError Step}
    {r : Option (Except AgentError ExecutionState)} (h : p.RunTrace rounds s journal r)
    (call : journal = before ++ .drove t result :: after) :
    ∃ front number opening, before = front ++ .event (.stepStarted number) :: opening ∧
      stepsBegun opening = 0 ∧ p.FiredOnce .beforeStep opening := by
  obtain ⟨first, _, _, _, _, -, loop, -, -, before, _, rfl, inLoop, -⟩ := h.of_call call
  obtain ⟨front, opening, _, _, v, _, pass, rfl, -⟩ := loop.pass_of_call inLoop
  obtain ⟨phase, marks, rfl, began, -, -⟩ := pass.of_call rfl
  refine ⟨first ++ front, v.withStepStarted.stats.stepCounter, phase ++ marks.map .step, by simp [passMark], ?_, ?_⟩
  · have marking : stepsBegun (marks.map .step) = 0 := List.countP_eq_zero.2 (by simp [RunMark.beginsStep])
    rw [stepsBegun_append, stepsBegun_plain began.plain, marking]
  · exact (began.firedOnce rfl).append (by simp [dispatches, RunMark.dispatch?])

/-- A call of the driver follows the beginning of the run, unless a handler failed there. -/
theorem RunTrace.begun_of_call {rounds : Nat} {before after : List RunMark} {result : Except AgentError Step}
    {r : Option (Except AgentError ExecutionState)} (h : p.RunTrace rounds s journal r)
    (call : journal = before ++ .drove t result :: after)
    (fine : failedIn .beforeExecution journal = false) :
    p.FiredOnce .beforeExecution before ∧ dispatches .beforeExecution after = [] := by
  obtain ⟨first, middle, last, _, _, began, loop, close, rfl, before, after, rfl, inLoop, rfl⟩ := h.of_call call
  have quiet : dispatches .beforeExecution middle = [] := dispatches_of_within loop.within (by decide)
  rw [inLoop, dispatches_append, List.append_eq_nil_iff] at quiet
  have quiet' : dispatches .beforeExecution after = [] := quiet.2
  rw [failedIn_append, Bool.or_eq_false_iff] at fine
  constructor
  · exact (began.firedOnce fine.1).append quiet.1
  · rw [dispatches_append, quiet', dispatches_of_within close.within (by decide)]
    rfl

/-- Where a handler fails at the beginning of a run, the hooks for the beginning never fire. -/
theorem RunTrace.dispatches_of_failed {rounds : Nat} {r : Option (Except AgentError ExecutionState)}
    (h : p.RunTrace rounds s journal r) (failed : failedIn .beforeExecution journal = true) :
    dispatches .beforeExecution journal = [] := by
  cases h with
  | aborted began => exact began.dispatches_of_failed failed
  | looped began loop close =>
    rw [failedIn_append, failedIn_append, failedIn_of_within loop.within (by decide),
      failedIn_of_within close.within (by decide), Bool.or_false, Bool.or_false] at failed
    rw [dispatches_append, dispatches_append, began.dispatches_of_failed failed,
      dispatches_of_within loop.within (by decide), dispatches_of_within close.within (by decide)]
    rfl

variable (p)

/-- Before a call of the driver, the hooks for a step have been dispatched once since the beginning of that step,
whatever happened before. The hooks for the beginning of a run have been dispatched once before the call, and are not
dispatched after it, if no handler failed at the beginning. If one did, they are never dispatched, though the driver is
called. -/
theorem hooks_fire_before_calls (token : Token) (rounds : Nat) (s u : ExecutionState) (frame : Frame) (w : World σ)
    (before after : List RunMark) (result : Except AgentError Step)
    (call : ((p.run token rounds s).exec frame w).journal = before ++ .drove u result :: after) :
    (∃ front number opening, before = front ++ .event (.stepStarted number) :: opening ∧ stepsBegun opening = 0 ∧
      p.FiredOnce .beforeStep opening) ∧
    (failedIn .beforeExecution ((p.run token rounds s).exec frame w).journal = false →
      p.FiredOnce .beforeExecution before ∧ dispatches .beforeExecution after = []) ∧
    (failedIn .beforeExecution ((p.run token rounds s).exec frame w).journal = true →
      dispatches .beforeExecution ((p.run token rounds s).exec frame w).journal = []) :=
  have trace := p.runTrace_exec token rounds s frame w
  ⟨trace.step_of_call call, trace.begun_of_call call, trace.dispatches_of_failed⟩

/-- A hook that fires at the beginning of a run and of each step. -/
def greeting : HookStack Nat := HookStack.empty.insert (.ofFunction "greet" [.beforeExecution, .beforeStep] id) 0

/-- It fires before the driver is called, also where the driver and a handler for failures fail. -/
theorem hooks_fire_before_calls_greeting :
    greeting.handles .beforeExecution = true ∧ greeting.handles .beforeStep = true ∧
    ∃ before u result after, (stumbled .onError greeting).journal = before ++ .drove u result :: after ∧
      (stumbling .onError greeting).FiredOnce .beforeExecution before ∧
      ∃ front number opening, before = front ++ .event (.stepStarted number) :: opening ∧ stepsBegun opening = 0 ∧
        (stumbling .onError greeting).FiredOnce .beforeStep opening := by
  have called : 0 < driverCalled (stumbled .onError greeting).journal := by decide +kernel
  obtain ⟨before, u, result, after, split⟩ := exists_call called
  obtain ⟨step, fine, -⟩ :=
    (stumbling .onError greeting).hooks_fire_before_calls (.run 0) 4 _ u _ _ before after result split
  have begun := fine (by decide +kernel)
  exact ⟨by decide +kernel, by decide +kernel, before, u, result, after, split, begun.1, step⟩

/-- Where a handler fails at the beginning of a run, the driver is called and the hooks for the beginning never fire. -/
theorem hooks_not_fired :
    greeting.handles .beforeExecution = true ∧ driverCalled (stumbled .beforeExecution greeting).journal = 2 ∧
      dispatches .beforeExecution (stumbled .beforeExecution greeting).journal = [] := by
  decide +kernel

end Pipeline

end AgentLoop
