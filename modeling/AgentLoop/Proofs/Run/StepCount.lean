import AgentLoop.Pipeline.Run
import AgentLoop.Proofs.Effect.Ensures

/-!
# Where steps begin

- `stepsBegun`: how many steps have begun, as a journal says;
- `Pipeline.Quiet`: no step begins in a program. That is so of every part of a run but one: a step begins where
  `Pipeline.runStep` does (`begins_runStep`), so that at most one begins in a pull (`begins_pull`).
-/

namespace AgentLoop

/-- Does a mark say that a step begins? -/
def RunMark.beginsStep : RunMark → Bool
  | .event (.stepStarted _) => true
  | _ => false

/-- How many steps have begun, as a journal says. -/
def stepsBegun (journal : List RunMark) : Nat := journal.countP RunMark.beginsStep

theorem stepsBegun_append (j j' : List RunMark) : stepsBegun (j ++ j') = stepsBegun j + stepsBegun j' :=
  List.countP_append

namespace Pipeline

open Program

variable {σ α β : Type} (p : Pipeline σ) {x : Program σ RunMark α} {f : α → Program σ RunMark β}

/-- No step begins. -/
def Quiet (x : Program σ RunMark α) : Prop := x.Writes fun m => m.beginsStep = false

/-- At most so many steps begin. -/
def Begins (n : Nat) (x : Program σ RunMark α) : Prop := x.Ensures fun journal _ _ => stepsBegun journal ≤ n

theorem Quiet.begins (h : Quiet x) (n : Nat) : Begins n x := h.mono fun journal _ _ hj => by
  have : stepsBegun journal = 0 := List.countP_eq_zero.2 fun m hm => by simp [hj m hm]
  omega

/-- The steps that begin in a composition are those of its parts. -/
theorem Begins.bind {m n k : Nat} (hx : Begins m x) (hf : ∀ a, Begins n (f a)) (hk : m + n ≤ k) :
    Begins k (x.bind f) := by
  refine (ensures_bind f _).2 (hx.mono fun j _ a hj => (hf a).mono fun j' _ _ hj' => ?_)
  rw [stepsBegun_append]
  omega

theorem quiet_report {e : RunEvent} (h : ∀ n, e ≠ .stepStarted n) : Quiet (report e : Program σ RunMark Unit) := by
  refine Writes.note ?_
  cases e <;> first | rfl | exact absurd rfl (h _)

theorem quiet_callHandlers (phase : Phase) (handlers : List (PhaseHandler σ)) (s : ExecutionState) :
    Quiet (callHandlers phase handlers s) := by
  induction handlers generalizing s with
  | nil => exact Writes.done _
  | cons h rest ih =>
    refine (Writes.perform _).bind fun result => (Writes.note (by rfl)).bind fun _ => ?_
    cases result with
    | ok next => exact ih next
    | error e => exact Writes.done _

theorem quiet_runHandlers (phase : Phase) (s : ExecutionState) : Quiet (p.runHandlers phase s) :=
  (Writes.note (by rfl)).bind fun _ => quiet_callHandlers phase _ s

theorem quiet_runHooks (t : HookTrigger) (ctx : HookContext) : Quiet (p.runHooks t ctx) := by
  unfold runHooks HookStack.run
  split
  · refine Writes.bind ?_ fun _ => Writes.done _
    exact (Writes.perform _).bind fun _ => (Writes.note (by rfl)).bind fun _ => Writes.done _
  · exact Writes.done _

theorem quiet_runPhase (phase : Phase) (s : ExecutionState) : Quiet (p.runPhase phase s) := by
  refine (p.quiet_runHandlers phase s).bind fun r => ?_
  cases r with
  | error i => exact Writes.done _
  | ok s =>
    cases phase.trigger with
    | none => exact Writes.done _
    | some t => exact (p.quiet_runHooks t _).bind fun _ => Writes.done _

theorem quiet_afterFailure (s : ExecutionState) (failure : StepFailure) : Quiet (p.afterFailure s failure) := by
  unfold afterFailure
  split
  · exact (p.quiet_runHooks _ _).bind fun _ => Writes.done _
  · exact Writes.done _

theorem quiet_onError (s : ExecutionState) (step : Step) : Quiet (p.onError s step) := by
  refine (quiet_report (by simp)).bind fun _ => (p.quiet_runHandlers _ _).bind fun r => ?_
  cases r with
  | error i =>
    dsimp only
    split
    · exact Writes.done _
    · exact (p.quiet_afterFailure _ _).bind fun _ => Writes.done _
  | ok s => exact (p.quiet_afterFailure _ _).bind fun _ => Writes.done _

theorem quiet_recover (i : Interruption) : Quiet (p.recover i) := by
  unfold recover
  split
  · exact Writes.done _
  · exact Writes.readClock.bind fun _ => Writes.readClock.bind fun _ => p.quiet_onError _ _

theorem quiet_beforeExecution (s : ExecutionState) : Quiet (p.beforeExecution s) := by
  refine Writes.readClock.bind fun _ => (p.quiet_runPhase _ _).bind fun r => ?_
  cases r with
  | error i => exact p.quiet_recover i
  | ok s => exact (quiet_report (by simp)).bind fun _ => Writes.done _

theorem quiet_continuation (token : Token) (s : ExecutionState) : Quiet (p.continuation token s) := by
  refine (Writes.note (by rfl)).bind fun _ => ?_
  split
  · exact Writes.done _
  · refine (Writes.askCancelled token).bind fun b => ?_
    cases b with
    | true => exact Writes.done _
    | false =>
      refine Writes.readClock.bind fun now => ?_
      dsimp only
      split <;> exact Writes.done _

theorem quiet_drive (s : ExecutionState) : Quiet (p.drive s) := by
  refine Writes.readClock.bind fun _ => Writes.bind ?_ fun result => (Writes.note (by rfl)).bind fun _ => ?_
  · exact (ensures_mapMarks _ _).2 (.of_forall fun j _ _ m hm => by
      obtain ⟨n, -, rfl⟩ := List.mem_map.1 hm
      rfl)
  · cases result with
    | ok step => exact Writes.done _
    | error e =>
      dsimp only
      split
      · exact Writes.done _
      · exact Writes.readClock.bind fun _ => Writes.done _

theorem quiet_recordStep (number : UInt32) (s : ExecutionState) (step : Step) :
    Quiet (p.recordStep number s step) := by
  refine (p.quiet_runPhase _ _).bind fun r => ?_
  cases r with
  | error i => exact p.quiet_recover i
  | ok s =>
    refine (p.quiet_runPhase _ _).bind fun r => ?_
    cases r with
    | error i => exact p.quiet_recover i
    | ok s => exact (quiet_report (by simp)).bind fun _ => Writes.done _

theorem quiet_afterExecution (s : ExecutionState) : Quiet (p.afterExecution s) := by
  have finish (s : ExecutionState) : Quiet (p.finish s) := (quiet_report (by simp)).bind fun _ => Writes.done _
  refine (p.quiet_runPhase _ _).bind fun r => ?_
  cases r with
  | error i =>
    dsimp only
    split
    · exact Writes.done _
    · exact (finish _).bind fun _ => Writes.done _
  | ok s => exact (finish _).bind fun _ => Writes.done _

/-- At most one step begins in a pass of the loop. -/
theorem begins_runStep (s : ExecutionState) : Begins 1 (p.runStep s) := by
  refine Begins.bind (m := 1) (n := 0) (by exact Nat.le_refl 1) (fun _ => Quiet.begins ?_ 0) (Nat.le_refl 1)
  refine (p.quiet_runPhase _ _).bind fun r => ?_
  cases r with
  | error i => exact p.quiet_recover i
  | ok s =>
    dsimp only
    split
    · exact Writes.done _
    · refine (p.quiet_drive s).bind fun r => ?_
      cases r with
      | error e => exact Writes.done _
      | ok step =>
        dsimp only
        split
        · exact p.quiet_onError s step
        · exact p.quiet_recordStep _ s step

theorem begins_pullStep (token : Token) (s : ExecutionState) : Begins 1 (p.pullStep token s) := by
  refine ((p.quiet_continuation token s).begins 0).bind (n := 1) (fun c => ?_) (Nat.le_refl 1)
  cases c with
  | stop t => exact Quiet.begins ((p.quiet_afterExecution t).bind fun _ => Writes.done _) 1
  | proceed t =>
    refine (p.begins_runStep t).bind (n := 0) (fun r => ?_) (Nat.le_refl 1)
    cases r <;> exact Quiet.begins (Writes.done _) 0

/-- At most one step begins in a pull. -/
theorem begins_pull (token : Token) (stage : Stage) : Begins 1 (p.pull token stage) := by
  cases stage with
  | fresh s =>
    refine ((p.quiet_beforeExecution s).begins 0).bind (n := 1) (fun r => ?_) (Nat.le_refl 1)
    cases r with
    | error e => exact Quiet.begins (Writes.done _) 1
    | ok t => exact p.begins_pullStep token t
  | between s => exact p.begins_pullStep token s
  | refused => exact Quiet.begins (Writes.done _) 1
  | ended => exact Quiet.begins (Writes.done _) 1

end Pipeline

end AgentLoop
