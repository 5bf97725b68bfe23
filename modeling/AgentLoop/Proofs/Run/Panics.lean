import AgentLoop.Pipeline.Run
import AgentLoop.Proofs.Effect.Panics

/-!
# Panics of hooks

- `Pipeline.CalmButHooks`: nobody but hooks panics in a pipeline;
- `Pipeline.DispatchEnds`: how a dispatch of hooks has ended about which a mark is written: without a panic, or with
  one;
- `Pipeline.attempt_run`: in an attempt of a run, every dispatch in its journal has ended without a panic. If it comes
  to a panic, the run that ignores that would go on with the mark about the dispatch that ended with this panic.
-/

namespace AgentLoop

namespace Pipeline

open Program (Endures)

variable {σ α : Type} (p : Pipeline σ)

/-- No handler panics, and nobody does while the driver is called. -/
structure CalmButHooks : Prop where
  handlers : ∀ e ∈ p.handlers, ∀ s, (e.2.handle e.1 s).Calm
  driver : ∀ s, (p.driver.useTools s p.tools p.executor).Calm

/-- If a mark is about a dispatch of hooks, that has ended so: with a panic, or without one. No other mark is about a
panic. -/
def DispatchEnds (panicked : Option String) : RunMark → Prop
  | .dispatched ctx _ => ∃ slot own, (p.hooks.dispatch ctx.trigger ctx slot own).panicked = panicked
  | _ => panicked = none

/-- The dispatches before the first panic have ended without one. That panic is one of hooks, and the next mark would be
about it, unless others may panic, too. -/
abbrev Endured (x : Program σ RunMark α) : Prop :=
  x.Endures (p.DispatchEnds none) (fun message => p.DispatchEnds (some message)) (¬p.CalmButHooks)

/-! ## Phases -/

theorem endured_callHandlers {phase : Phase} {handlers : List (PhaseHandler σ)}
    (own : ∀ handler ∈ handlers, handler ∈ p.handlersOf phase) (s : ExecutionState) :
    p.Endured (callHandlers phase handlers s) := by
  induction handlers generalizing s with
  | nil => exact .done _
  | cons handler rest ih =>
    obtain ⟨first, others⟩ := List.forall_mem_cons.1 own
    have calm (h : ¬¬p.CalmButHooks) : (handler.handle phase s).Calm := by
      obtain ⟨e, he, rfl⟩ := List.mem_map.1 first
      obtain ⟨registered, same⟩ := List.mem_filter.1 he
      have same : e.1 = phase := by simpa using same
      exact same ▸ (Classical.not_not.1 h).handlers e registered s
    refine (Endures.perform calm).bind fun result => (Endures.note (by rfl)).bind fun _ => ?_
    cases result with
    | ok next => exact ih others next
    | error e => exact .done _

theorem endured_runHandlers (phase : Phase) (s : ExecutionState) : p.Endured (p.runHandlers phase s) :=
  (Endures.note (by rfl)).bind fun _ => p.endured_callHandlers (fun _ h => h) s

theorem endured_runHooks (ctx : HookContext) : p.Endured (p.runHooks ctx.trigger ctx) := by
  unfold runHooks
  split
  · refine Endures.bind (Endures.perform_note ?_ ?_) fun _ => .done _
    · exact fun slot own still => ⟨slot, own, still⟩
    · exact fun slot own message panics => ⟨slot, own, panics⟩
  · exact .done _

theorem endured_runPhase (phase : Phase) (s : ExecutionState) : p.Endured (p.runPhase phase s) := by
  refine (p.endured_runHandlers phase s).bind fun result => ?_
  cases result with
  | error i => exact .done _
  | ok s =>
    cases phase.trigger with
    | none => exact .done _
    | some t => exact (p.endured_runHooks { trigger := t, state := s }).bind fun _ => .done _

/-! ## Failures -/

theorem endured_afterFailure (s : ExecutionState) (failure : StepFailure) : p.Endured (p.afterFailure s failure) := by
  unfold afterFailure
  split
  · exact (p.endured_runHooks (.forFailure s failure)).bind fun _ => .done _
  · exact .done _

theorem endured_onError (s : ExecutionState) (step : Step) : p.Endured (p.onError s step) := by
  refine (Endures.note (by rfl)).bind fun _ => (p.endured_runHandlers _ _).bind fun result => ?_
  cases result with
  | error i =>
    dsimp only
    split
    · exact .done _
    · exact (p.endured_afterFailure _ _).bind fun _ => .done _
  | ok s => exact (p.endured_afterFailure _ _).bind fun _ => .done _

theorem endured_recover (i : Interruption) : p.Endured (p.recover i) := by
  unfold recover
  split
  · exact .done _
  · exact Endures.readClock.bind fun _ => Endures.readClock.bind fun _ => p.endured_onError _ _

/-! ## The parts of a run -/

theorem endured_beforeExecution (s : ExecutionState) : p.Endured (p.beforeExecution s) := by
  refine Endures.readClock.bind fun now => (p.endured_runPhase _ _).bind fun result => ?_
  cases result with
  | error i => exact p.endured_recover i
  | ok s => exact (Endures.note (by rfl)).bind fun _ => .done _

theorem endured_continuation (token : Token) (s : ExecutionState) : p.Endured (p.continuation token s) := by
  refine (Endures.note (by rfl)).bind fun _ => ?_
  split
  · exact .done _
  · refine (Endures.askCancelled token).bind fun cancelled => ?_
    split
    · exact .done _
    · refine Endures.readClock.bind fun now => ?_
      dsimp only
      split <;> exact .done _

theorem endured_drive (s : ExecutionState) : p.Endured (p.drive s) := by
  refine Endures.readClock.bind fun startedAt => ?_
  have call : p.Endured ((p.driver.useTools s p.tools p.executor).mapMarks .step) := by
    by_cases calm : p.CalmButHooks
    · exact .of_calm (calm.driver s) fun _ => rfl
    · exact .of_excuse _ (fun _ => rfl) calm
  refine call.bind fun result => (Endures.note (by rfl)).bind fun _ => ?_
  cases result with
  | ok step => exact .done _
  | error e =>
    dsimp only
    split
    · exact .done _
    · exact Endures.readClock.bind fun _ => .done _

theorem endured_recordStep (number : UInt32) (s : ExecutionState) (step : Step) :
    p.Endured (p.recordStep number s step) := by
  refine (p.endured_runPhase _ _).bind fun result => ?_
  cases result with
  | error i => exact p.endured_recover i
  | ok s =>
    refine (p.endured_runPhase _ _).bind fun result => ?_
    cases result with
    | error i => exact p.endured_recover i
    | ok s => exact (Endures.note (by rfl)).bind fun _ => .done _

theorem endured_runStep (s : ExecutionState) : p.Endured (p.runStep s) := by
  refine (Endures.note (by rfl)).bind fun _ => (p.endured_runPhase _ _).bind fun result => ?_
  cases result with
  | error i => exact p.endured_recover i
  | ok s =>
    dsimp only
    split
    · exact .done _
    · refine (p.endured_drive s).bind fun result => ?_
      cases result with
      | error e => exact .done _
      | ok step =>
        dsimp only
        split
        · exact p.endured_onError s step
        · exact p.endured_recordStep _ s step

theorem endured_afterExecution (s : ExecutionState) : p.Endured (p.afterExecution s) := by
  have finish (s : ExecutionState) : p.Endured (p.finish s) := (Endures.note (by rfl)).bind fun _ => .done _
  refine (p.endured_runPhase _ _).bind fun result => ?_
  cases result with
  | error i =>
    dsimp only
    split
    · exact .done _
    · exact (finish _).bind fun _ => .done _
  | ok s => exact (finish s).bind fun _ => .done _

/-! ## Runs -/

theorem endured_loop (token : Token) (rounds : Nat) (s : ExecutionState) : p.Endured (p.loop token rounds s) := by
  induction rounds generalizing s with
  | zero => exact .done _
  | succ rounds ih =>
    refine (p.endured_continuation token s).bind fun go => ?_
    cases go with
    | stop s => exact .done _
    | proceed s =>
      refine (p.endured_runStep s).bind fun result => ?_
      cases result with
      | error e => exact .done _
      | ok s => exact ih s

theorem endured_run (token : Token) (rounds : Nat) (s : ExecutionState) : p.Endured (p.run token rounds s) := by
  refine (p.endured_beforeExecution s).bind fun result => ?_
  cases result with
  | error e => exact .done _
  | ok s =>
    refine (p.endured_loop token rounds s).bind fun result => ?_
    cases result with
    | none => exact .done _
    | some result =>
      cases result with
      | error e => exact .done _
      | ok s => exact (p.endured_afterExecution s).bind fun _ => .done _

/-- In an attempt of a run, the dispatches in the journal have ended without a panic. If nobody but hooks panics, a
panic is one of hooks, and a run that ignores it writes next about their dispatch. -/
theorem attempt_run (token : Token) (rounds : Nat) (s : ExecutionState) (frame : Frame) (w : World σ) :
    let attempted := (p.run token rounds s).attempt frame w
    (∀ m ∈ attempted.journal, p.DispatchEnds none m) ∧
      (p.CalmButHooks → ∀ message, attempted.value = .error message → ∃ ctx after rest slot own,
        ((p.run token rounds s).exec frame w).journal = attempted.journal ++ .dispatched ctx after :: rest ∧
          (p.hooks.dispatch ctx.trigger ctx slot own).panicked = some message) := by
  intro attempted
  obtain ⟨marks, broke⟩ := (p.endured_run token rounds s).attempt frame w
  refine ⟨marks, fun calm message panics => ?_⟩
  obtain excuse | ⟨m, rest, journal, tells⟩ := broke message panics
  · exact absurd calm excuse
  · cases m with
    | dispatched ctx after =>
      obtain ⟨slot, own, panicked⟩ := tells
      exact ⟨ctx, after, rest, slot, own, journal, panicked⟩
    | _ => cases tells

end Pipeline

end AgentLoop
