import Mathlib.Data.List.Induction
import AgentLoop.Hook.ReadyMade
import AgentLoop.Proofs.Run.Chronicle
import AgentLoop.Proofs.Run.Dispatches
import AgentLoop.Proofs.Run.Panics
import AgentLoop.Proofs.Tool.Functional

/-!
# Steps counted in an annotation

- `Hook.LeavesKey`, `PhaseHandler.LeavesKey`: hooks and handlers that do not touch an annotation;
- `HookStack.dispatch_counts`: among such hooks a step counter adds one before a step; otherwise they leave the
  annotation alone (`HookStack.dispatch_leavesKey`);
- `CountedTo`: so many steps have been counted since a state. If nobody minds the panics, such counts add up, and begin
  again after the largest one (`CountedModulo.trans`);
- `CountsSteps.overflow`, `CountsSteps.bounded`: a step counter panics when it finds the largest count; so what was
  counted up to any point of an attempt is a count;
- `stepCounter_counts`: at each point of an attempt of a run, its step counter has counted the dispatches before a step.
-/

namespace AgentLoop

theorem Json.count?_ofU64 (n : UInt64) : (Json.ofU64 n).count? = some n := by
  have inside : 0 ≤ (n.toNat : Int) ∧ (n.toNat : Int) < UInt64.size := ⟨by omega, by exact_mod_cast n.toNat_lt_size⟩
  unfold ofU64 ofNat count?
  dsimp only
  rw [if_pos inside, Int.toNat_natCast, UInt64.ofNat_toNat]

variable {σ : Type} {key : String}

/-! ## Hooks and handlers -/

/-- A hook returns the annotation with which it is called at a trigger. -/
def Hook.LeavesKey (key : String) (t : HookTrigger) (h : Hook σ) : Prop :=
  h.triggers.contains t = true → ∀ (ctx : HookContext) (slot : Slot) (own : σ), ctx.trigger = t →
    (h.handle ctx slot own).value.state.metadata.get? key = ctx.state.metadata.get? key

/-- If a handler of a phase does not fail, it returns the annotation with which it is called. -/
def PhaseHandler.LeavesKey (key : String) (phase : Phase) (h : PhaseHandler σ) : Prop :=
  ∀ s t, (h.handle phase s).MayGive (.ok t) → t.metadata.get? key = s.metadata.get? key

namespace Hook

/-- A step counter counts one more; after the largest count it panics. -/
theorem value_stepCounter (ctx : HookContext) (slot : Slot) (own : σ) :
    ((Hook.stepCounter key : Hook σ).handle ctx slot own).value =
      ctx.withState (ctx.state.withMetadata key (.ofU64 (ctx.state.counter key + 1))) := by
  unfold stepCounter
  rw [Act.value_bind, Act.value_add]
  rfl

theorem panicked_stepCounter (ctx : HookContext) (slot : Slot) (own : σ) :
    ((Hook.stepCounter key : Hook σ).handle ctx slot own).panicked =
      if (ctx.state.counter key).toNat + 1 < UInt64.size then none else some "attempt to add with overflow" := by
  unfold stepCounter
  rw [Act.panicked_bind, Act.panicked_add]
  exact Option.or_none

end Hook

/-- What holds the same annotation has the same count. -/
theorem ExecutionState.counter_congr {s t : ExecutionState} (same : t.metadata.get? key = s.metadata.get? key) :
    t.counter key = s.counter key := by
  rw [counter, same]
  rfl

/-- A step counter only fires before a step. -/
theorem Hook.leavesKey_stepCounter {t : HookTrigger} (other : t ≠ .beforeStep) :
    (Hook.stepCounter key : Hook σ).LeavesKey key t := by
  intro fires
  exact absurd (List.mem_singleton.1 (List.contains_iff_mem.1 fires)) other

namespace HookStack

variable {e : RankedHook σ} {t : HookTrigger} {entries before after : List (RankedHook σ)} {ctx : HookContext}
  {slot : Slot} {own : σ}

theorem fire_stepCounter {priority : Int} :
    fire .beforeStep ctx ⟨Hook.stepCounter key, priority⟩ =
      (Hook.stepCounter key : Hook σ).handle { ctx with trigger := .beforeStep } := rfl

theorem fire_leavesKey (leaves : e.hook.LeavesKey key t) :
    (fire t ctx e slot own).value.state.metadata.get? key = ctx.state.metadata.get? key := by
  rw [fire_value]
  split
  · rename_i fires
    exact leaves fires { ctx with trigger := t } slot own rfl
  · rfl

theorem dispatch_leavesKey (leave : ∀ e ∈ entries, e.hook.LeavesKey key t) :
    ((⟨entries⟩ : HookStack σ).dispatch t ctx slot own).value.state.metadata.get? key =
      ctx.state.metadata.get? key := by
  induction entries generalizing ctx own with
  | nil => rfl
  | cons e rest ih =>
    obtain ⟨first, others⟩ := List.forall_mem_cons.1 leave
    rw [dispatch_cons, ih others, fire_leavesKey first]

/-- Wherever the step counter stands, it adds one to what the annotation held. -/
theorem dispatch_counts {priority : Int} (leave : ∀ e ∈ before ++ after, e.hook.LeavesKey key .beforeStep) :
    ((⟨before ++ ⟨Hook.stepCounter key, priority⟩ :: after⟩ : HookStack σ).dispatch .beforeStep ctx slot
        own).value.state.metadata.get? key = some (.ofU64 (ctx.state.counter key + 1)) := by
  induction before generalizing ctx own with
  | nil =>
    have others : ∀ e ∈ after, e.hook.LeavesKey key .beforeStep := leave
    rw [List.nil_append, dispatch_cons, dispatch_leavesKey others, fire_stepCounter, Hook.value_stepCounter]
    show (ctx.state.withMetadata key _).metadata.get? key = _
    rw [ExecutionState.withMetadata, Metadata.get?_insert, if_pos rfl]
  | cons e rest ih =>
    obtain ⟨first, others⟩ := List.forall_mem_cons.1 leave
    rw [List.cons_append, dispatch_cons, ih others, ExecutionState.counter_congr (fire_leavesKey first)]

/-! ## Panics -/

/-- The first panic of the hooks is the first one of a single hook. -/
theorem panicked_dispatch_cons (e : RankedHook σ) (rest : List (RankedHook σ)) (t : HookTrigger) (ctx : HookContext)
    (slot : Slot) (own : σ) :
    ((⟨e :: rest⟩ : HookStack σ).dispatch t ctx slot own).panicked =
      (fire t ctx e slot own).panicked.or
        ((⟨rest⟩ : HookStack σ).dispatch t (fire t ctx e slot own).value slot
          (fire t ctx e slot own).own).panicked := by
  unfold dispatch
  rw [List.foldlM_cons, Act.panicked_bind]

/-- Only hooks that fire can panic. -/
theorem calm_fire (calm : e.hook.triggers.contains t = true → ∀ ctx, (e.hook.handle ctx).Calm) :
    (fire t ctx e).Calm := by
  unfold fire
  split
  · rename_i fires
    exact calm fires _
  · exact fun _ _ => rfl

theorem calm_dispatch (calm : ∀ e ∈ entries, e.hook.triggers.contains t = true → ∀ ctx, (e.hook.handle ctx).Calm) :
    ((⟨entries⟩ : HookStack σ).dispatch t ctx).Calm := by
  induction entries generalizing ctx with
  | nil => exact fun _ _ => rfl
  | cons e rest ih =>
    obtain ⟨first, others⟩ := List.forall_mem_cons.1 calm
    intro slot own
    rw [panicked_dispatch_cons, calm_fire first, Option.none_or]
    exact ih others _ _

section StepCounter

variable {priority : Int} (leave : ∀ e ∈ before ++ after, e.hook.LeavesKey key .beforeStep)

include leave

/-- If the hooks do not panic before a step, the count has not been the largest one. -/
theorem fits_of_dispatch
    (still : ((⟨before ++ ⟨Hook.stepCounter key, priority⟩ :: after⟩ : HookStack σ).dispatch .beforeStep ctx slot
      own).panicked = none) : (ctx.state.counter key).toNat + 1 < UInt64.size := by
  induction before generalizing ctx own with
  | nil =>
    rw [List.nil_append, panicked_dispatch_cons, Option.or_eq_none_iff, fire_stepCounter,
      Hook.panicked_stepCounter] at still
    by_contra large
    rw [if_neg large] at still
    cases still.1
  | cons e rest ih =>
    obtain ⟨first, others⟩ := List.forall_mem_cons.1 leave
    rw [List.cons_append, panicked_dispatch_cons, Option.or_eq_none_iff] at still
    rw [← ExecutionState.counter_congr (fire_leavesKey first)]
    exact ih others still.2

/-- If they do although the other ones never panic, the count has been the largest one. -/
theorem overflow_of_dispatch (calm : ∀ e ∈ before ++ after, ∀ ctx, (e.hook.handle ctx).Calm) {message : String}
    (panics : ((⟨before ++ ⟨Hook.stepCounter key, priority⟩ :: after⟩ : HookStack σ).dispatch .beforeStep ctx slot
      own).panicked = some message) :
    message = "attempt to add with overflow" ∧ (ctx.state.counter key).toNat + 1 = UInt64.size := by
  induction before generalizing ctx own with
  | nil =>
    have others (ctx : HookContext) : ((⟨after⟩ : HookStack σ).dispatch .beforeStep ctx).Calm :=
      calm_dispatch fun e he _ => calm e he
    rw [List.nil_append, panicked_dispatch_cons, others, Option.or_none, fire_stepCounter,
      Hook.panicked_stepCounter] at panics
    split at panics
    · cases panics
    · rename_i large
      have large : ¬(ctx.state.counter key).toNat + 1 < UInt64.size := large
      have bound := (ctx.state.counter key).toNat_lt_size
      exact ⟨(Option.some.inj panics).symm, by omega⟩
  | cons e rest ih =>
    obtain ⟨first, others⟩ := List.forall_mem_cons.1 leave
    obtain ⟨still, calm⟩ := List.forall_mem_cons.1 calm
    rw [List.cons_append, panicked_dispatch_cons, calm_fire (fun _ => still), Option.none_or] at panics
    rw [← ExecutionState.counter_congr (fire_leavesKey first)]
    exact ih others calm panics

end StepCounter

end HookStack

/-! ## Counts -/

/-- The annotation has counted so many steps since a state. -/
structure CountedTo (key : String) (s : ExecutionState) (n : Nat) (t : ExecutionState) : Prop where
  /-- Before the first one it is as it was. -/
  untouched : n = 0 → t.metadata.get? key = s.metadata.get? key
  /-- From the first one on it is a count. -/
  stored : 0 < n → t.metadata.get? key = some (.ofU64 (t.counter key))
  /-- The count is what it began with, zero if that was no count, and one for each step. -/
  count : (t.counter key).toNat = (s.counter key).toNat + n

/-- The same if nobody minds the panics: the count begins again after the largest one. -/
structure CountedModulo (key : String) (s : ExecutionState) (n : Nat) (t : ExecutionState) : Prop where
  untouched : n = 0 → t.metadata.get? key = s.metadata.get? key
  stored : 0 < n → t.metadata.get? key = some (.ofU64 (t.counter key))
  count : (t.counter key).toNat = ((s.counter key).toNat + n) % UInt64.size

namespace CountedModulo

variable {s t u : ExecutionState} {n n' : Nat}

theorem of_get? (same : t.metadata.get? key = s.metadata.get? key) : CountedModulo key s 0 t where
  untouched _ := same
  stored some := absurd some (Nat.lt_irrefl 0)
  count := by
    rw [ExecutionState.counter_congr same]
    exact (Nat.mod_eq_of_lt (s.counter key).toNat_lt).symm

theorem of_same (same : t.metadata = s.metadata) : CountedModulo key s 0 t := of_get? (by rw [same])

theorem of_succ (counted : t.metadata.get? key = some (.ofU64 (s.counter key + 1))) : CountedModulo key s 1 t := by
  have next : t.counter key = s.counter key + 1 := by
    rw [ExecutionState.counter, counted, Option.bind_some, Json.count?_ofU64, Option.getD_some]
  refine ⟨nofun, fun _ => by rw [counted, next], ?_⟩
  rw [next, UInt64.toNat_add, UInt64.toNat_one]

theorem trans (h : CountedModulo key s n t) (h' : CountedModulo key t n' u) : CountedModulo key s (n + n') u where
  untouched none := by rw [h'.untouched (by omega), h.untouched (by omega)]
  stored some := by
    by_cases later : 0 < n'
    · exact h'.stored later
    · have same := h'.untouched (by omega)
      rw [same, h.stored (by omega), ExecutionState.counter_congr same]
  count := by rw [h'.count, h.count, Nat.mod_add_mod, Nat.add_assoc]

/-- As long as the sum is a count, the annotation holds it. -/
theorem countedTo (h : CountedModulo key s n t) (fits : (s.counter key).toNat + n < UInt64.size) :
    CountedTo key s n t where
  untouched := h.untouched
  stored := h.stored
  count := h.count.trans (Nat.mod_eq_of_lt fits)

end CountedModulo

namespace Pipeline

variable {p : Pipeline σ}

/-- One of the hooks is a step counter, and no other hook and no handler touches its annotation. -/
def CountsSteps (p : Pipeline σ) (key : String) : Prop :=
  (∃ before priority after, p.hooks.entries = before ++ ⟨Hook.stepCounter key, priority⟩ :: after ∧
    ∀ e ∈ before ++ after, ∀ t, e.hook.LeavesKey key t) ∧
  ∀ e ∈ p.handlers, e.2.LeavesKey key e.1

/-- How many dispatches before a step there were, as a journal says. -/
def stepDispatches (journal : List RunMark) : Nat := (dispatches .beforeStep journal).length

theorem stepDispatches_append (journal journal' : List RunMark) :
    stepDispatches (journal ++ journal') = stepDispatches journal + stepDispatches journal' := by
  rw [stepDispatches, dispatches_append, List.length_append]
  rfl

theorem stepDispatches_of_trigger {ctx : HookContext} (trigger : ctx.trigger = .beforeStep) (after : HookContext) :
    stepDispatches [.dispatched ctx after] = 1 := by simp [stepDispatches, dispatches, RunMark.dispatch?, trigger]

theorem stepDispatches_of_other {ctx : HookContext} (other : ctx.trigger ≠ .beforeStep) (after : HookContext) :
    stepDispatches [.dispatched ctx after] = 0 := by simp [stepDispatches, dispatches, RunMark.dispatch?, other]

/-- The step counter stands among hooks that leave its annotation alone. -/
theorem CountsSteps.hooks_eq (counts : p.CountsSteps key) :
    ∃ before priority after, p.hooks = ⟨before ++ ⟨Hook.stepCounter key, priority⟩ :: after⟩ ∧
      ∀ e ∈ before ++ after, ∀ t, e.hook.LeavesKey key t := by
  obtain ⟨⟨before, priority, after, split, leave⟩, -⟩ := counts
  exact ⟨before, priority, after, by rw [← split], leave⟩

/-- A dispatch counts, if it is one before a step. -/
theorem CountsSteps.dispatched (counts : p.CountsSteps key) {ctx after : HookContext}
    (h : (p.hooks.dispatch ctx.trigger ctx).MayGive after) :
    CountedModulo key ctx.state (stepDispatches [.dispatched ctx after]) after.state := by
  obtain ⟨front, priority, back, hooks, leave⟩ := counts.hooks_eq
  obtain ⟨slot, own, rfl⟩ := h
  rw [hooks]
  by_cases trigger : ctx.trigger = .beforeStep
  · rw [stepDispatches_of_trigger trigger, trigger]
    exact .of_succ (HookStack.dispatch_counts fun e he => leave e he _)
  · rw [stepDispatches_of_other trigger]
    refine .of_get? (HookStack.dispatch_leavesKey fun e he => ?_)
    rcases List.mem_cons.1 (List.perm_middle.mem_iff.1 he) with rfl | other
    · exact Hook.leavesKey_stepCounter trigger
    · exact leave e other _

/-- Everything else leaves the annotation alone. -/
theorem CountsSteps.chronicle (counts : p.CountsSteps key) :
    p.Chronicle fun s journal t => CountedModulo key s (stepDispatches journal) t where
  refl _ := .of_same rfl
  trans first second := by
    rw [stepDispatches_append]
    exact first.trans second
  quiet {m} s none := by
    cases m with
    | dispatched _ _ => cases none
    | _ => exact .of_same rfl
  handled {phase _ _ _} member gives := by
    obtain ⟨e, he, rfl⟩ := List.mem_map.1 member
    obtain ⟨registered, own⟩ := List.mem_filter.1 he
    have own : e.1 = phase := by simpa using own
    subst own
    exact .of_get? (counts.2 e registered _ _ gives)
  dispatched gives := counts.dispatched gives
  settled s := by
    obtain ⟨_, same⟩ := s.settled_eq
    rw [same]
    exact .of_same rfl
  runStarted _ _ := .of_same rfl
  stepStarted _ := .of_same rfl
  outcome s step := by
    obtain ⟨_, _, same⟩ := s.withOutcome_eq step p.keepToolTraces
    rw [same]
    exact .of_same rfl
  toolFailures s failed := by
    obtain ⟨_, _, _, same, -⟩ := s.withToolFailures_eq p.errorPolicy failed
    rw [same]
    exact .of_same rfl
  failedStep s step := by
    obtain ⟨_, _, same, -⟩ := s.withFailedStep_eq p.errorPolicy step step.cause
    rw [same]
    exact .of_same rfl
  completed _ _ := .of_same rfl
  failed _ _ := .of_same rfl
  ended s := by
    obtain ⟨_, _, _, _, same⟩ := s.ended_eq p.keepToolTraces
    rw [same]
    exact .of_same rfl

/-! ## Attempts -/

/-- Nobody but the step counter panics. -/
structure CalmButCounter (p : Pipeline σ) (key : String) : Prop where
  butHooks : p.CalmButHooks
  hooks {before after : List (RankedHook σ)} {priority : Int} :
    p.hooks.entries = before ++ ⟨Hook.stepCounter key, priority⟩ :: after →
      ∀ e ∈ before ++ after, ∀ ctx, (e.hook.handle ctx).Calm

/-- A dispatch before a step that ends without a panic has found a count to which one can be added. -/
theorem CountsSteps.fits (counts : p.CountsSteps key) {ctx : HookContext} (trigger : ctx.trigger = .beforeStep)
    {slot : Slot} {own : σ} (still : (p.hooks.dispatch ctx.trigger ctx slot own).panicked = none) :
    (ctx.state.counter key).toNat + 1 < UInt64.size := by
  obtain ⟨front, priority, back, hooks, leave⟩ := counts.hooks_eq
  rw [hooks, trigger] at still
  exact HookStack.fits_of_dispatch (fun e he => leave e he _) still

/-- If only the step counter may panic and a dispatch does, it is one before a step that has found the largest count. -/
theorem CountsSteps.overflow (counts : p.CountsSteps key) (calm : p.CalmButCounter key) {ctx : HookContext}
    {slot : Slot} {own : σ} {message : String}
    (panics : (p.hooks.dispatch ctx.trigger ctx slot own).panicked = some message) :
    message = "attempt to add with overflow" ∧ (ctx.state.counter key).toNat + 1 = UInt64.size := by
  obtain ⟨front, priority, back, hooks, leave⟩ := counts.hooks_eq
  have others := calm.hooks (congrArg HookStack.entries hooks)
  rw [hooks] at panics
  by_cases trigger : ctx.trigger = .beforeStep
  · rw [trigger] at panics
    exact HookStack.overflow_of_dispatch (fun e he => leave e he _) others panics
  · rw [HookStack.calm_dispatch (fun e he fires => ?_)] at panics
    · cases panics
    · rcases List.mem_cons.1 (List.perm_middle.mem_iff.1 he) with rfl | other
      · exact absurd (List.mem_singleton.1 (List.contains_iff_mem.1 fires)) trigger
      · exact others e other

/-- What was counted up to any point of an attempt is a count, since no dispatch so far has panicked. -/
theorem CountsSteps.bounded (counts : p.CountsSteps key) {s : ExecutionState} {journal rest : List RunMark}
    {last : Option ExecutionState}
    (counted : HoldsAlong (fun s journal t => CountedModulo key s (stepDispatches journal) t) s (journal ++ rest) last)
    (still : ∀ m ∈ journal, p.DispatchEnds none m) {front back : List RunMark} (split : journal = front ++ back) :
    (s.counter key).toNat + stepDispatches front < UInt64.size := by
  induction front using List.reverseRecOn generalizing back with
  | nil => exact (s.counter key).toNat_lt_size
  | append_singleton front m ih =>
    have split : journal = front ++ m :: back := by rw [split, List.append_assoc]; rfl
    have before := ih split
    have quiet (none : stepDispatches [m] = 0) :
        (s.counter key).toNat + stepDispatches (front ++ [m]) < UInt64.size := by
      rw [stepDispatches_append, none]
      exact before
    cases m with
    | dispatched ctx after =>
      by_cases trigger : ctx.trigger = .beforeStep
      · have place : journal ++ rest = front ++ .dispatched ctx after :: (back ++ rest) := by
          rw [split, List.append_assoc]; rfl
        obtain ⟨slot, own, ended⟩ := still (.dispatched ctx after) (by rw [split]; simp)
        have fits := counts.fits trigger ended
        rw [((counted.given place rfl).countedTo before).count] at fits
        rw [stepDispatches_append, stepDispatches_of_trigger trigger]
        omega
      · exact quiet (stepDispatches_of_other trigger after)
    | _ => exact quiet rfl

variable (p)

/-- A step counter whose annotation is touched by no other hook and no handler: at each point of a run it has counted
the dispatches before a step so far, from what the annotation held at first, or from zero if that was no count. The sum
is always a count; it never begins again. If nobody else panics, a run only ends in a panic when one more is to be added
to the largest count. -/
theorem stepCounter_counts (counts : p.CountsSteps key) (token : Token) (rounds : Nat) (s : ExecutionState)
    (frame : Frame) (w : World σ) :
    let outcome := (p.run token rounds s).attempt frame w
    HoldsAlong (fun s journal t => CountedTo key s (stepDispatches journal) t) s outcome.journal outcome.returned? ∧
      (s.counter key).toNat + stepDispatches outcome.journal < UInt64.size ∧
      (p.CalmButCounter key → ∀ message, outcome.value = .error message →
        message = "attempt to add with overflow" ∧
          (s.counter key).toNat + stepDispatches outcome.journal + 1 = UInt64.size) := by
  intro outcome
  obtain ⟨still, broke⟩ := p.attempt_run token rounds s frame w
  obtain ⟨rest, journal⟩ := (p.run token rounds s).journal_of_attempt frame w
  have counted : HoldsAlong (fun s journal t => CountedModulo key s (stepDispatches journal) t) s
      (outcome.journal ++ rest) (((p.run token rounds s).exec frame w).value.bind Except.toOption) :=
    journal ▸ counts.chronicle.run token rounds s frame w
  have upTo {front back : List RunMark} (split : outcome.journal = front ++ back) :
      (s.counter key).toNat + stepDispatches front < UInt64.size := counts.bounded counted still split
  have all := upTo (List.append_nil _).symm
  refine ⟨counted.front (fun front back u split h => h.countedTo (upTo split)) ?_, all, ?_⟩
  · exact fun t same => counts.chronicle.ends_attempt token rounds s frame w same
  · intro calm message panics
    obtain ⟨ctx, after, others, slot, own, continues, panicked⟩ := broke calm.butHooks message panics
    obtain ⟨same, large⟩ := counts.overflow calm panicked
    have place : outcome.journal ++ rest = outcome.journal ++ .dispatched ctx after :: others :=
      journal.symm.trans continues
    rw [((counted.given place rfl).countedTo all).count] at large
    exact ⟨same, large⟩

/-- A pipeline that counts its steps, between a hook and a handler that do something else, and whose driver answers. -/
def countsSteps : Pipeline Nat where
  driver :=
    { name := "answers"
      useTools := fun s _ _ => do
        let now ← Program.readClock
        return .ok (.finalResponse s.inferenceMessages [.assistant "answer"] none now now) }
  tools := .empty
  schemas := .lenient
  hooks := (HookStack.empty.insert Hook.observer 1).insert (Hook.stepCounter Hook.stepCounterKey) 0
  handlers := [(.afterStep, ⟨"note", fun _ s => pure (.ok (s.withMessage (.user "Go on.")))⟩)]

theorem countsSteps_countsSteps : countsSteps.CountsSteps Hook.stepCounterKey := by
  refine ⟨⟨[⟨Hook.observer, 1⟩], 0, [], rfl, ?_⟩, ?_⟩
  · rintro e he _ - ctx slot own -
    obtain rfl := List.mem_singleton.1 he
    rfl
  · rintro e he s t ⟨slot, own, gives⟩
    obtain rfl := List.mem_singleton.1 he
    obtain rfl := Except.ok.inj gives
    rfl

theorem calmButCounter_countsSteps : countsSteps.CalmButCounter Hook.stepCounterKey := by
  refine ⟨⟨?_, fun s _ => trivial⟩, ?_⟩
  · intro e he s slot own
    obtain rfl := List.mem_singleton.1 he
    rfl
  · intro before after priority split e he ctx
    match before, split with
    | [], split =>
      have other : Hook.observer = Hook.stepCounter Hook.stepCounterKey :=
        congrArg RankedHook.hook (List.cons.inj split).1
      have names : "tracing" = "step_counter" := congrArg Hook.name other
      exact absurd names (by decide)
    | [first], split =>
      obtain ⟨rfl, rest⟩ := List.cons.inj split
      obtain ⟨-, rfl⟩ := List.cons.inj rest
      obtain rfl := List.mem_singleton.1 he
      exact fun _ _ => rfl
    | first :: second :: more, split =>
      have length :
          2 = (first :: second :: (more ++ ⟨Hook.stepCounter Hook.stepCounterKey, priority⟩ :: after)).length :=
        congrArg List.length split
      simp at length

/-- What was no count is counted from zero: after the only step there is one. From the largest count on, there is no
dispatch before a step. -/
theorem stepCounter_counts_countsSteps :
    let s := (ExecutionState.ofUser "question").withMetadata Hook.stepCounterKey (.str "many")
    let full := (ExecutionState.ofUser "question").withMetadata Hook.stepCounterKey (.ofNat (UInt64.size - 1))
    let frame : Frame := ⟨fun _ => ⟨0, 0⟩, fun _ => 0, {}⟩
    let outcome := (countsSteps.run (.run 0) 3 s).attempt frame { own := 0 }
    let broken := (countsSteps.run (.run 0) 3 full).attempt frame { own := 0 }
    countsSteps.CountsSteps Hook.stepCounterKey ∧ countsSteps.CalmButCounter Hook.stepCounterKey ∧
      stepDispatches outcome.journal = 1 ∧
      (∃ t, outcome.returned? = some t ∧
        t.metadata.get? Hook.stepCounterKey = some (.ofU64 (t.counter Hook.stepCounterKey)) ∧
        (t.counter Hook.stepCounterKey).toNat = 1) ∧
      ∃ message, broken.value = .error message ∧ message = "attempt to add with overflow" ∧
        stepDispatches broken.journal = 0 := by
  intro s full frame outcome broken
  have once : stepDispatches outcome.journal = 1 := by decide +kernel
  have zero : (s.counter Hook.stepCounterKey).toNat = 0 := by decide +kernel
  have most : (full.counter Hook.stepCounterKey).toNat + 1 = UInt64.size := by decide +kernel
  have returns : outcome.returned?.isSome = true := by decide +kernel
  obtain ⟨t, returned⟩ := Option.isSome_iff_exists.1 returns
  have panics : ((countsSteps.run (.run 0) 3 full).panic? frame { own := 0 }).isSome = true := by decide +kernel
  obtain ⟨message, panicked⟩ := Option.isSome_iff_exists.1 panics
  have failed : broken.value = .error message := Program.attempt_of_panic? _ _ panicked
  obtain ⟨counted, -, -⟩ :=
    countsSteps.stepCounter_counts countsSteps_countsSteps (.run 0) 3 s frame { own := 0 }
  obtain ⟨-, -, overflow⟩ :=
    countsSteps.stepCounter_counts countsSteps_countsSteps (.run 0) 3 full frame { own := 0 }
  have ended := counted.ends returned
  rw [once] at ended
  obtain ⟨same, sum⟩ := overflow calmButCounter_countsSteps message failed
  have none : stepDispatches broken.journal = 0 := by
    have sum : (full.counter Hook.stepCounterKey).toNat + stepDispatches broken.journal + 1 = UInt64.size := sum
    omega
  exact ⟨countsSteps_countsSteps, calmButCounter_countsSteps, once,
    ⟨t, returned, ended.stored Nat.one_pos, by rw [ended.count, zero]⟩, message, failed, same, none⟩

/-- After the largest count, a step ends the run in a panic. -/
theorem stepCounter_panics :
    let s := (ExecutionState.ofUser "question").withMetadata Hook.stepCounterKey (.ofNat (UInt64.size - 1))
    let frame : Frame := ⟨fun _ => ⟨0, 0⟩, fun _ => 0, {}⟩
    countsSteps.CountsSteps Hook.stepCounterKey ∧
      (countsSteps.run (.run 0) 3 s).panic? frame { own := 0 } = some "attempt to add with overflow" :=
  ⟨countsSteps_countsSteps, by decide +kernel⟩

end Pipeline

end AgentLoop
