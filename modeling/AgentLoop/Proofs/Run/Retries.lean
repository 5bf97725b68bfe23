import AgentLoop.Proofs.Run.Invariant
import AgentLoop.Proofs.Run.Updates

/-!
# Retries

- `RunStats.streak`: how many failures of a kind there were in a row;
- `Program.Does`: what a program comes to, given the kinds of failures that it reports and whether the phase after the
  step was entered, as long as hooks and handlers leave status and counts alone; it composes (`Does.bind`);
- `Counted`: what a failed step makes of the counts. A failure before the phase after the step counts one more
  (`counted_failedStep`); one in that phase comes after the counts were reset, and begins a new row
  (`streak_toolFailures`). `does_runStep`: so does every pass of the loop that reports a failure;
- `Pipeline.FailingSteps`: passes of the loop, one after another, that all fail with the same kind. They add up
  (`FailingSteps.streak`), so that the run has failed once the retries are used up (`retries_exhausted`), provided that
  the failures do not arise in the phase after the step (`retries_not_exhausted`).
-/

namespace AgentLoop

/-- A runtime error is never counted as one of failed tools. -/
theorem AgentError.kind_ne_tool {e : AgentError} (runtime : e.isProgramming = false) : e.kind ≠ .tool := by
  cases e with
  | inference e =>
    dsimp only [kind]
    split
    · simp
    · split <;> simp
  | toolMisuse tool message => cases runtime
  | validation message => simp [kind]
  | handler phase message => simp [kind]
  | reentrantRun => simp [kind]
  | contractViolation message => simp [kind]

/-- How many failures of a kind there were in a row. -/
def RunStats.streak (stats : RunStats) (kind : ErrorKind) : UInt32 :=
  if stats.lastFailure = some kind then stats.consecutiveFailures else 0

/-! ## What journals say -/

/-- The kind of the failure that a mark reports. -/
def RunMark.failure? : RunMark → Option ErrorKind
  | event (.errorOccurred kind _) => some kind
  | _ => none

/-- Does a mark say that the phase after a step is entered? -/
def RunMark.entersAfterStep : RunMark → Bool
  | entered phase _ => phase = .afterStep
  | _ => false

/-- The kinds of the failures that a journal reports. -/
def failures (journal : List RunMark) : List ErrorKind := journal.filterMap RunMark.failure?

/-- Was the phase after a step entered? -/
def reachesAfterStep (journal : List RunMark) : Bool := journal.any RunMark.entersAfterStep

theorem failures_append (j j' : List RunMark) : failures (j ++ j') = failures j ++ failures j' :=
  List.filterMap_append

theorem reachesAfterStep_append (j j' : List RunMark) :
    reachesAfterStep (j ++ j') = (reachesAfterStep j || reachesAfterStep j') :=
  List.any_append

/-! ## Counts -/

namespace ExecutionState

/-- Two states with the same status and bookkeeping. -/
structure SameCounts (s t : ExecutionState) : Prop where
  status : t.status = s.status
  stats : t.stats = s.stats

variable {s t u : ExecutionState}

theorem SameCounts.rfl : s.SameCounts s := ⟨Eq.refl _, Eq.refl _⟩

theorem SameCounts.trans (h : s.SameCounts t) (h' : t.SameCounts u) : s.SameCounts u :=
  ⟨h'.status.trans h.status, h'.stats.trans h.stats⟩

/-- A reason that is found for a status changes no count. -/
theorem sameCounts_settled (s : ExecutionState) : s.SameCounts s.settled := by
  obtain ⟨_, h⟩ := s.settled_eq
  rw [h]
  exact ⟨Eq.refl _, Eq.refl _⟩

theorem sameCounts_outcome (s : ExecutionState) (step : Step) (keepTraces : Bool) :
    s.SameCounts (s.withOutcome step keepTraces) := by
  obtain ⟨_, _, h⟩ := s.withOutcome_eq step keepTraces
  rw [h]
  exact ⟨Eq.refl _, Eq.refl _⟩

/-- The counts of failed tools end a row of failures of any other kind. -/
theorem streak_toolFailures (s : ExecutionState) (policy : ErrorPolicy) (failed : Nat) {kind : ErrorKind}
    (other : kind ≠ .tool) : (s.withToolFailures policy failed).stats.streak kind = 0 := by
  have counted : (s.withFailureRecorded .tool).stats.streak kind = 0 := by
    simp [RunStats.streak, withFailureRecorded, other.symm]
  unfold withToolFailures
  split
  · rfl
  · dsimp only
    split
    · rfl
    · split
      · exact counted
      · exact counted

end ExecutionState

/-- What a hook or a handler did leaves status and bookkeeping alone. -/
def RunMark.LeavesCounts : RunMark → Prop
  | handled _ s (.ok t) => s.SameCounts t
  | dispatched before after => before.state.SameCounts after.state
  | _ => True

/-- What a failure of a kind makes of the counts: there is one more in a row, or only one if it arises late, in the
phase after a step. The run has failed unless the policy lets it go on. -/
structure Counted (policy : ErrorPolicy) (kind : ErrorKind) (late : Bool) (s t : ExecutionState) : Prop where
  streak : t.stats.streak kind = if late then 1 else cappedSucc (s.stats.streak kind)
  failed : policy.shouldContinue kind (t.stats.streak kind) = false → t.status = .failed

namespace Counted

variable {policy : ErrorPolicy} {kind : ErrorKind} {late : Bool} {s s' t t' : ExecutionState}

theorem of_same (h : Counted policy kind late s t) (before : s'.stats.streak kind = s.stats.streak kind)
    (after : t.SameCounts t') : Counted policy kind late s' t' := by
  constructor
  · rw [after.stats, before]
    exact h.streak
  · rw [after.stats, after.status]
    exact h.failed

/-- After a row that has ended, a failure is the first one. -/
theorem late_of_reset (h : Counted policy kind false s t) (reset : s.stats.streak kind = 0) :
    Counted policy kind true s' t := by
  refine ⟨?_, h.failed⟩
  rw [h.streak, reset]
  rfl

end Counted

theorem counted_failedStep (s : ExecutionState) (policy : ErrorPolicy) (step : Step) (failure : StepFailure) :
    Counted policy failure.kind false s (s.withFailedStep policy step failure) := by
  have counted : (((s.withBuffered step.outputMessages).withStep step).withFailureRecorded failure.kind).stats.streak
      failure.kind = cappedSucc (s.stats.streak failure.kind) := by
    by_cases again : s.stats.lastFailure = some failure.kind
    · simp [RunStats.streak, ExecutionState.withFailureRecorded, ExecutionState.withStep,
        ExecutionState.withBuffered, again]
    · simp [RunStats.streak, ExecutionState.withFailureRecorded, ExecutionState.withStep,
        ExecutionState.withBuffered, again]
      rfl
  have row : (((s.withBuffered step.outputMessages).withStep step).withFailureRecorded failure.kind).stats.streak
      failure.kind =
        (((s.withBuffered step.outputMessages).withStep step).withFailureRecorded
          failure.kind).stats.consecutiveFailures := by
    simp [RunStats.streak, ExecutionState.withFailureRecorded]
  unfold ExecutionState.withFailedStep
  dsimp only
  split
  · rename_i goesOn
    refine ⟨counted, fun stops => ?_⟩
    rw [row, goesOn] at stops
    cases stops
  · exact ⟨counted, fun _ => rfl⟩

namespace Program

variable {σ α β : Type} {x : Program σ RunMark α} {f : α → Program σ RunMark β}
  {post : List ErrorKind → Bool → α → Prop} {post' : List ErrorKind → Bool → β → Prop} {good : α → Prop}

/-- As long as hooks and handlers leave status and counts alone, `post` relates the kinds of the failures that a program
reports, whether it enters the phase after a step, and its value. -/
def Does (x : Program σ RunMark α) (post : List ErrorKind → Bool → α → Prop) : Prop :=
  x.Ensures fun journal _ a =>
    (∀ m ∈ journal, m.LeavesCounts) → post (failures journal) (reachesAfterStep journal) a

/-- No failure is reported, and the phase after the step is entered or not. -/
def Smoothly (enters : Bool) (good : α → Prop) (kinds : List ErrorKind) (late : Bool) (a : α) : Prop :=
  kinds = [] ∧ late = enters ∧ good a

namespace Does

theorem mono {post' : List ErrorKind → Bool → α → Prop} (h : x.Does post)
    (imp : ∀ kinds late a, post kinds late a → post' kinds late a) : x.Does post' :=
  Ensures.mono h fun _ _ _ hj left => imp _ _ _ (hj left)

theorem done {a : α} (h : post [] false a) : (Program.done a : Program σ RunMark α).Does post := fun _ => h

/-- A mark; afterwards it is known to be allowed. -/
theorem note (m : RunMark) : (Program.note m : Program σ RunMark Unit).Does fun kinds late _ =>
    kinds = m.failure?.toList ∧ late = m.entersAfterStep ∧ m.LeavesCounts := by
  intro left
  refine ⟨?_, by simp [reachesAfterStep], left m List.mem_cons_self⟩
  cases h : m.failure? <;> simp [failures, h]

theorem perform (a : Act σ α) : (Program.perform a).Does (Smoothly false fun _ => True) :=
  fun _ _ => done ⟨rfl, rfl, trivial⟩

theorem readClock : (Program.readClock : Program σ RunMark Instant).Does (Smoothly false fun _ => True) :=
  fun _ => done ⟨rfl, rfl, trivial⟩

/-- What a composition does is what its parts do. -/
theorem bind (hx : x.Does post)
    (hf : ∀ kinds late a, post kinds late a → (f a).Does fun kinds' late' b =>
      post' (kinds ++ kinds') (late || late') b) : (x.bind f).Does post' := by
  refine (ensures_bind f _).2 (Ensures.mono hx fun journal _ a h => ?_)
  -- what the first program writes has to be allowed before the second one is looked at
  by_cases left : ∀ m ∈ journal, m.LeavesCounts
  · refine Ensures.mono (hf _ _ a (h left)) fun journal' _ b h' all => ?_
    rw [failures_append, reachesAfterStep_append]
    exact h' fun m hm => all m (List.mem_append_right _ hm)
  · exact .of_forall fun journal' _ _ all => absurd (fun m hm => all m (List.mem_append_left _ hm)) left

/-- After a part in which nothing fails, the next one decides. -/
theorem after {enters : Bool} (hx : x.Does (Smoothly enters good))
    (hf : ∀ a, good a → (f a).Does fun kinds late b => post' kinds (enters || late) b) : (x.bind f).Does post' := by
  apply hx.bind
  rintro kinds late a ⟨rfl, rfl, ha⟩
  exact hf a ha

end Does

end Program

namespace Pipeline

open Program

variable {σ : Type} (p : Pipeline σ)

/-! ## Phases -/

theorem does_callHandlers (phase : Phase) (handlers : List (PhaseHandler σ)) {s t : ExecutionState}
    (h : s.SameCounts t) : (callHandlers phase handlers t).Does (Smoothly false (PhaseGood s.SameCounts)) := by
  induction handlers generalizing t with
  | nil => exact .done ⟨rfl, rfl, h⟩
  | cons handler rest ih =>
    apply (Does.perform _).after
    intro result _
    cases result with
    | error e =>
      apply (Does.note _).bind
      rintro kinds late _ ⟨rfl, rfl, -⟩
      exact .done ⟨rfl, rfl, h⟩
    | ok next =>
      apply (Does.note _).bind
      rintro kinds late _ ⟨rfl, rfl, left⟩
      exact ih (h.trans left)

/-- The handlers of a phase report no failure, and keep the counts. -/
theorem does_runHandlers (phase : Phase) (s : ExecutionState) :
    (p.runHandlers phase s).Does (Smoothly (phase = .afterStep) (PhaseGood s.SameCounts)) := by
  apply (Does.note _).bind
  rintro kinds late _ ⟨rfl, rfl, -⟩
  refine (does_callHandlers phase _ .rfl).mono ?_
  rintro kinds late r ⟨rfl, rfl, good⟩
  exact ⟨rfl, by simp [RunMark.entersAfterStep], good⟩

theorem does_runHooks (t : HookTrigger) (ctx : HookContext) :
    (p.runHooks t ctx).Does (Smoothly false ctx.state.SameCounts) := by
  unfold runHooks
  split
  · have run : (p.hooks.run .dispatched t ctx : Program σ RunMark _).Does
        (Smoothly false fun after => ctx.state.SameCounts after.state) := by
      apply (Does.perform _).after
      intro after _
      apply (Does.note _).bind
      rintro kinds late _ ⟨rfl, rfl, left⟩
      exact .done ⟨rfl, rfl, left⟩
    exact run.after fun after left => .done ⟨rfl, rfl, left⟩
  · exact .done ⟨rfl, rfl, .rfl⟩

/-- A phase reports no failure, and keeps the counts, also where a handler fails. -/
theorem does_runPhase (phase : Phase) (s : ExecutionState) :
    (p.runPhase phase s).Does (Smoothly (phase = .afterStep) (PhaseGood s.SameCounts)) := by
  apply (p.does_runHandlers phase s).after
  intro r good
  cases r with
  | error i => exact .done ⟨rfl, by simp, good⟩
  | ok t =>
    have good : s.SameCounts t := good
    cases phase.trigger with
    | none => exact .done ⟨rfl, by simp, good.trans t.sameCounts_settled⟩
    | some trigger =>
      apply (p.does_runHooks trigger _).after
      intro u same
      exact .done ⟨rfl, by simp, (good.trans same).trans u.sameCounts_settled⟩

/-! ## Failures -/

theorem does_afterFailure (s : ExecutionState) (failure : StepFailure) :
    (p.afterFailure s failure).Does (Smoothly false s.SameCounts) := by
  unfold afterFailure
  split
  · apply (p.does_runHooks _ _).after
    intro t same
    exact .done ⟨rfl, rfl, same.trans t.sameCounts_settled⟩
  · exact .done ⟨rfl, rfl, .rfl⟩

/-- A failed step is reported once, and counted. -/
theorem does_onError (s : ExecutionState) (step : Step) :
    (p.onError s step).Does fun kinds late r => kinds = [step.cause.kind] ∧ late = false ∧
      PartGood (Counted p.errorPolicy step.cause.kind false s) r := by
  have counted := counted_failedStep s p.errorPolicy step step.cause
  have goesOn {t : ExecutionState} (same : (s.withFailedStep p.errorPolicy step step.cause).SameCounts t) :
      ((p.afterFailure t step.cause).bind fun u => Program.done (.ok u)).Does
        (Smoothly false (PartGood (Counted p.errorPolicy step.cause.kind false s))) := by
    apply (p.does_afterFailure t _).after
    intro u same'
    exact .done ⟨rfl, rfl, counted.of_same rfl (same.trans same')⟩
  apply (Does.note _).bind
  rintro kinds late _ ⟨rfl, rfl, -⟩
  apply (p.does_runHandlers _ _).after
  intro r good
  have reported (kinds : List ErrorKind) (late : Bool) (r : Except AgentError ExecutionState) :
      Smoothly false (PartGood (Counted p.errorPolicy step.cause.kind false s)) kinds late r →
        [step.cause.kind] ++ kinds = [step.cause.kind] ∧ late = false ∧
          PartGood (Counted p.errorPolicy step.cause.kind false s) r := by
    rintro ⟨rfl, rfl, h⟩
    exact ⟨rfl, rfl, h⟩
  cases r with
  | ok t => exact (goesOn good).mono reported
  | error i =>
    dsimp only
    split
    · exact .done ⟨rfl, rfl, trivial⟩
    · exact (goesOn good).mono reported

/-- What a part of the loop comes to: it reports no failure, or one, and counts it. -/
def Passes (s : ExecutionState) (kinds : List ErrorKind) (late : Bool) (r : Except AgentError ExecutionState) : Prop :=
  ∀ t, r = .ok t → kinds = [] ∨ ∃ kind, kinds = [kind] ∧ Counted p.errorPolicy kind late s t

theorem passes_error (s : ExecutionState) (kinds : List ErrorKind) (late : Bool) (e : AgentError) :
    p.Passes s kinds late (.error e) := fun t h => by cases h

theorem passes_smoothly (s : ExecutionState) (late : Bool) (r : Except AgentError ExecutionState) :
    p.Passes s [] late r := fun _ _ => .inl rfl

/-- A runtime error becomes a failure of its kind, which is not that of failed tools. -/
theorem does_recover (i : Interruption) :
    (p.recover i).Does fun kinds late r => ∀ t, r = .ok t → kinds = [i.error.kind] ∧ late = false ∧
      i.error.kind ≠ .tool ∧ Counted p.errorPolicy i.error.kind false i.state t := by
  unfold recover
  split
  · exact .done fun t h => by cases h
  · rename_i runtime
    apply Does.readClock.after
    intro now _
    apply Does.readClock.after
    intro completedAt _
    refine (p.does_onError i.state _).mono ?_
    rintro kinds late r ⟨rfl, rfl, good⟩ t rfl
    exact ⟨rfl, rfl, AgentError.kind_ne_tool (Bool.eq_false_iff.2 runtime), good⟩

/-- A failure in an early phase is counted. -/
theorem does_recover_early {i : Interruption} {s : ExecutionState}
    (same : ∀ kind, s.stats.streak kind = i.state.stats.streak kind) : (p.recover i).Does (p.Passes s) := by
  refine (p.does_recover i).mono ?_
  rintro kinds late r good t ht
  obtain ⟨rfl, rfl, -, counted⟩ := good t ht
  exact .inr ⟨_, rfl, counted.of_same (same _) .rfl⟩

/-! ## The loop -/

theorem does_drive (s : ExecutionState) : (p.drive s).Does (Smoothly false fun _ => True) := by
  have steps : ((p.driver.useTools s p.tools p.executor).mapMarks .step).Does (Smoothly false fun _ => True) := by
    refine (ensures_mapMarks _ _).2 (.of_forall fun journal _ _ _ => ⟨?_, ?_, trivial⟩)
    · exact List.filterMap_eq_nil_iff.2 fun m hm => by
        obtain ⟨n, -, rfl⟩ := List.mem_map.1 hm
        rfl
    · exact List.any_eq_false.2 fun m hm => by
        obtain ⟨n, -, rfl⟩ := List.mem_map.1 hm
        simp [RunMark.entersAfterStep]
  apply Does.readClock.after
  intro startedAt _
  apply steps.after
  intro result _
  apply (Does.note _).bind
  rintro kinds late _ ⟨rfl, rfl, -⟩
  cases result with
  | ok step => exact .done ⟨rfl, rfl, trivial⟩
  | error e =>
    dsimp only
    split
    · exact .done ⟨rfl, rfl, trivial⟩
    · apply Does.readClock.after
      intro completedAt _
      exact .done ⟨rfl, rfl, trivial⟩

theorem does_recordStep (number : UInt32) (s : ExecutionState) (step : Step) :
    (p.recordStep number s step).Does (p.Passes s) := by
  apply (p.does_runPhase _ _).after
  intro r good
  have recorded := s.sameCounts_outcome step p.keepToolTraces
  cases r with
  | error i =>
    have good : (s.withOutcome step p.keepToolTraces).SameCounts i.state := good
    exact p.does_recover_early fun kind => by rw [good.stats, recorded.stats]
  | ok t =>
    apply (p.does_runPhase _ _).after
    intro r good
    cases r with
    | ok u =>
      apply (Does.note _).bind
      rintro kinds late _ ⟨rfl, rfl, -⟩
      exact .done (p.passes_smoothly _ _ _)
    | error i =>
      -- the tools of the step were counted before, so there is no row to go on with
      have good : (t.withToolFailures p.errorPolicy step.failedToolCount).SameCounts i.state := good
      refine (p.does_recover i).mono ?_
      rintro kinds late r failed u hu
      obtain ⟨rfl, rfl, other, counted⟩ := failed u hu
      refine .inr ⟨_, rfl, counted.late_of_reset ?_⟩
      rw [good.stats]
      exact t.streak_toolFailures p.errorPolicy _ other

/-- A pass of the loop reports no failure, or one, and counts it. -/
theorem does_runStep (s : ExecutionState) : (p.runStep s).Does (p.Passes s) := by
  apply (Does.note _).bind
  rintro kinds late _ ⟨rfl, rfl, -⟩
  apply (p.does_runPhase _ _).after
  intro r good
  cases r with
  | error i =>
    have good : s.withStepStarted.SameCounts i.state := good
    exact p.does_recover_early fun kind => by rw [good.stats]; rfl
  | ok t =>
    have good : s.withStepStarted.SameCounts t := good
    have same (kind : ErrorKind) : s.stats.streak kind = t.stats.streak kind := by
      rw [good.stats]
      rfl
    dsimp only
    split
    · exact .done (p.passes_smoothly _ _ _)
    · apply (p.does_drive t).after
      intro r _
      cases r with
      | error e => exact .done (p.passes_error _ _ _ e)
      | ok step =>
        dsimp only
        split
        · refine (p.does_onError t step).mono ?_
          rintro kinds late r ⟨rfl, rfl, counted⟩ u rfl
          exact .inr ⟨_, rfl, Counted.of_same counted (same _) .rfl⟩
        · refine (p.does_recordStep _ t step).mono ?_
          intro kinds late r passes u hu
          rcases passes u hu with none | ⟨kind, one, counted⟩
          · exact .inl none
          · exact .inr ⟨kind, one, counted.of_same (same kind) .rfl⟩

/-! ## Failures in a row -/

/-- A pass of the loop that ends with a failure of a kind, while hooks and handlers leave status and counts alone. -/
structure FailingStep (kind : ErrorKind) (s t : ExecutionState) (journal : List RunMark) : Prop where
  ran : ∃ frame w w', (p.runStep s).exec frame w = ⟨.ok t, w', journal⟩
  left : ∀ m ∈ journal, m.LeavesCounts
  failed : kind ∈ failures journal

/-- Such passes, one after another, with their journals. -/
inductive FailingSteps (kind : ErrorKind) : ExecutionState → List (List RunMark) → ExecutionState → Prop
  | nil (s : ExecutionState) : FailingSteps kind s [] s
  | cons {s t u : ExecutionState} {journal : List RunMark} {journals : List (List RunMark)} :
      p.FailingStep kind s t journal → FailingSteps kind t journals u → FailingSteps kind s (journal :: journals) u

variable {p} {kind : ErrorKind} {s t : ExecutionState} {journal : List RunMark} {journals : List (List RunMark)}

/-- The failure of a pass is counted. -/
theorem FailingStep.counted (h : p.FailingStep kind s t journal) :
    Counted p.errorPolicy kind (reachesAfterStep journal) s t := by
  obtain ⟨⟨frame, w, w', ran⟩, left, failed⟩ := h
  have passes := (p.does_runStep s).exec frame w
  rw [ran] at passes
  rcases passes left t rfl with none | ⟨kind', one, counted⟩
  · rw [none] at failed
    cases failed
  · rw [one] at failed
    obtain rfl := List.mem_singleton.1 failed
    exact counted

/-- Failures before the phase after the step add up. -/
theorem FailingSteps.streak (h : p.FailingSteps kind s journals t)
    (early : ∀ j ∈ journals, reachesAfterStep j = false) :
    (t.stats.streak kind).toNat = min ((s.stats.streak kind).toNat + journals.length) (UInt32.size - 1) := by
  induction h with
  | nil s =>
    have := (s.stats.streak kind).toNat_lt
    simp only [List.length_nil, UInt32.size]
    omega
  | cons step _ ih =>
    have first := step.counted.streak
    rw [early _ List.mem_cons_self, if_neg (by simp)] at first
    rw [ih fun j hj => early j (List.mem_cons_of_mem _ hj), first, toNat_cappedSucc, List.length_cons]
    omega

/-- If the policy does not let the run go on after the last one of them, the run has failed. -/
theorem FailingSteps.failed (h : p.FailingSteps kind s journals t) (some : journals ≠ [])
    (stops : p.errorPolicy.shouldContinue kind (t.stats.streak kind) = false) : t.status = .failed := by
  induction h with
  | nil s => exact absurd rfl some
  | cons step rest ih =>
    cases rest with
    | nil => exact step.counted.failed stops
    | cons next others => exact ih (by simp) stops

/-- The loop stops with a failed state, and leaves it as it is. -/
theorem continuation_of_failed (failed : t.status = .failed) (token : Token) (frame : Frame) {σ : Type}
    {p : Pipeline σ} (w : World σ) : ((p.continuation token t).exec frame w).value = .stop t := by
  have terminal : t.isTerminal = true := by simp [ExecutionState.isTerminal, failed, ExecutionStatus.isTerminal]
  simp [continuation, exec_bind, terminal]

/-- When so many passes of the loop as there are retries, and one more, have failed in a row with a kind that is
retried, the run has failed, and the loop stops. None of them but the first may have entered the phase after the
step. -/
theorem retries_exhausted (retry : p.errorPolicy.decision kind = .retry)
    (bound : p.errorPolicy.maxRetries.toNat + 1 < UInt32.size) (steps : p.FailingSteps kind s journals t)
    (enough : journals.length = p.errorPolicy.maxRetries.toNat + 1)
    (early : ∀ j ∈ journals.tail, reachesAfterStep j = false) :
    t.status = .failed ∧
      ∀ (token : Token) (frame : Frame) (w : World σ), ((p.continuation token t).exec frame w).value = .stop t := by
  have exceeded : p.errorPolicy.maxRetries.toNat < (t.stats.streak kind).toNat := by
    cases steps with
    | nil => cases enough
    | @cons _ u _ _ journals first rest =>
      have one : 1 ≤ (u.stats.streak kind).toNat := by
        rw [first.counted.streak]
        split
        · exact Nat.le_refl 1
        · rw [toNat_cappedSucc]
          simp only [UInt32.size]
          omega
      have length : journals.length = p.errorPolicy.maxRetries.toNat := Nat.succ.inj enough
      rw [rest.streak early, length]
      omega
  have failed : t.status = .failed := by
    refine steps.failed (by rintro rfl; cases enough) ?_
    simp only [ErrorPolicy.shouldContinue, retry, decide_eq_false_iff_not, UInt32.not_le]
    exact UInt32.lt_iff_toNat_lt.2 exceeded
  exact ⟨failed, fun token frame w => continuation_of_failed failed token frame w⟩

/-- A pipeline whose driver always fails. -/
def neverDecides : Pipeline Unit where
  driver := { name := "never_decides", useTools := fun _ _ _ => pure (.error (.validation "no decision")) }
  tools := .empty
  schemas := .lenient
  errorPolicy := .retryAll 1

theorem retries_exhausted_neverDecides :
    ∃ journals t, neverDecides.FailingSteps .validation (.ofUser "question") journals t ∧ journals.length = 2 ∧
      (∀ j ∈ journals.tail, reachesAfterStep j = false) ∧ t.status = .failed := by
  have steps : ∃ journals t, neverDecides.FailingSteps .validation (.ofUser "question") journals t ∧
      journals.length = 2 ∧ ∀ j ∈ journals.tail, reachesAfterStep j = false := by
    let frame : Frame := { clock := fun _ => ⟨0, 0⟩, random := fun _ => 0 }
    refine ⟨[_, _], _, .cons ⟨⟨frame, { own := () }, _, rfl⟩, ?_, List.mem_singleton.2 rfl⟩
      (.cons ⟨⟨frame, { own := () }, _, rfl⟩, ?_, List.mem_singleton.2 rfl⟩ (.nil _)), rfl,
      List.forall_mem_singleton.2 rfl⟩
    · exact List.forall_iff_forall_mem.1 ⟨trivial, trivial, trivial, trivial, trivial⟩
    · exact List.forall_iff_forall_mem.1 ⟨trivial, trivial, trivial, trivial, trivial⟩
  obtain ⟨journals, t, steps, length, early⟩ := steps
  have retry : neverDecides.errorPolicy.decision .validation = .retry := rfl
  exact ⟨journals, t, steps, length, early, (retries_exhausted retry (by decide) steps length early).1⟩

/-- A pipeline whose driver always calls a tool, with a check after each step that fails. -/
def alwaysRejected : Pipeline Unit where
  driver :=
    { name := "searches"
      useTools := fun s _ _ => pure (.ok (.toolExecution s.inferenceMessages [] [] none ⟨0, 0⟩ ⟨0, 0⟩)) }
  tools := .empty
  schemas := .lenient
  handlers := [(.afterStep, ⟨"check", fun _ _ => pure (.error (.validation "rejected"))⟩)]
  errorPolicy := .retryAll 1

/-- Failures in the phase after the step do not add up: there are more of them in a row than there are retries, but the
run has not failed. -/
theorem retries_not_exhausted :
    alwaysRejected.errorPolicy.decision .validation = .retry ∧
      ∃ journals t, alwaysRejected.FailingSteps .validation (.ofUser "question") journals t ∧
        journals.length = alwaysRejected.errorPolicy.maxRetries.toNat + 1 ∧ t.status = .running := by
  refine ⟨rfl, ?_⟩
  let frame : Frame := { clock := fun _ => ⟨0, 0⟩, random := fun _ => 0 }
  refine ⟨[_, _], _, .cons ⟨⟨frame, { own := () }, _, rfl⟩, ?_, List.mem_singleton.2 rfl⟩
    (.cons ⟨⟨frame, { own := () }, _, rfl⟩, ?_, List.mem_singleton.2 rfl⟩ (.nil _)), rfl, rfl⟩
  · exact List.forall_iff_forall_mem.1 ⟨trivial, trivial, trivial, trivial, trivial, trivial, trivial, trivial⟩
  · exact List.forall_iff_forall_mem.1 ⟨trivial, trivial, trivial, trivial, trivial, trivial, trivial, trivial⟩

end Pipeline

end AgentLoop
