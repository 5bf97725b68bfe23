import AgentLoop.Proofs.Run.Invariant

/-!
# Programming errors end a run

- `RunMark.raised?`: the programming error that the driver or a handler returned, as a mark says;
- `Faithful`: what a journal says of the error that a program comes to. An error comes with the mark that raised it,
  which is the last one; without an error no mark raised one;
- `Program.Tells`: a program and its journal agree in that way; this composes (`Tells.bind`), so it holds of every part
  of a run, in the order of their definitions;
- `Pipeline.run_error_iff_raised`: a run returns the first programming error that was raised, after which nothing
  happens; if none was raised, the run ends in a terminal state with an empty buffer.
-/

namespace AgentLoop

/-- The error, if it is a programming error. -/
def AgentError.bug? (e : AgentError) : Option AgentError := if e.isProgramming then some e else none

theorem AgentError.bug?_eq_none {e : AgentError} : e.bug? = none ↔ e.isProgramming = false := by
  cases h : e.isProgramming <;> simp [bug?, h]

theorem AgentError.bug?_eq_some {e e' : AgentError} : e.bug? = some e' ↔ e.isProgramming = true ∧ e = e' := by
  cases h : e.isProgramming <;> simp [bug?, h]

/-- The programming error that the driver or a handler returned, as a mark says. -/
def RunMark.raised? : RunMark → Option AgentError
  | handled _ _ (.error e) => e.bug?
  | drove _ (.error e) => e.bug?
  | _ => none

/-- What a journal says of the programming error that a program comes to. Such an error was raised by the last mark,
and by no other one; without it, no mark raised an error. -/
inductive Faithful : List RunMark → Option AgentError → Prop
  | clean {journal : List RunMark} : (∀ m ∈ journal, m.raised? = none) → Faithful journal none
  | raised {before : List RunMark} {m : RunMark} {e : AgentError} : (∀ n ∈ before, n.raised? = none) →
      m.raised? = some e → Faithful (before ++ [m]) (some e)

namespace Faithful

variable {journal journal' before after : List RunMark} {m : RunMark} {e : AgentError} {bug : Option AgentError}

/-- A single mark raises what it raises. -/
theorem singleton (m : RunMark) : Faithful [m] m.raised? := by
  cases h : m.raised? with
  | none => exact .clean fun n hn => by rw [List.mem_singleton.1 hn, h]
  | some e =>
    have raised : Faithful ([] ++ [m]) (some e) := .raised (fun n hn => absurd hn (by simp)) h
    exact raised

/-- Marks in front that raise nothing change nothing. -/
theorem append (quiet : ∀ m ∈ journal, m.raised? = none) (h : Faithful journal' bug) :
    Faithful (journal ++ journal') bug := by
  cases h with
  | clean quiet' =>
    exact .clean fun m hm => (List.mem_append.1 hm).elim (quiet m) (quiet' m)
  | raised quiet' raises =>
    rw [← List.append_assoc]
    exact .raised (fun m hm => (List.mem_append.1 hm).elim (quiet m) (quiet' m)) raises

/-- The error is the first one that was raised. -/
theorem first_raised (h : Faithful journal bug) : journal.findSome? RunMark.raised? = bug := by
  cases h with
  | clean quiet => exact List.findSome?_eq_none_iff.2 quiet
  | raised quiet raises =>
    rw [List.findSome?_append, List.findSome?_eq_none_iff.2 quiet]
    simp [raises]

/-- Only programming errors are raised. -/
theorem isProgramming (h : Faithful journal (some e)) : e.isProgramming = true := by
  cases h with
  | @raised _ m _ _ raises =>
    unfold RunMark.raised? at raises
    split at raises
    · obtain ⟨programming, rfl⟩ := AgentError.bug?_eq_some.1 raises
      exact programming
    · obtain ⟨programming, rfl⟩ := AgentError.bug?_eq_some.1 raises
      exact programming
    · cases raises

/-- A mark that raises an error is the last one. -/
theorem last (h : Faithful journal bug) (split : journal = before ++ m :: after) (raises : m.raised? = some e) :
    after = [] := by
  cases h with
  | clean quiet =>
    have none : m.raised? = none := quiet m (by rw [split]; simp)
    rw [none] at raises
    cases raises
  | @raised quieter n _ quiet _ =>
    rcases List.eq_nil_or_concat after with rfl | ⟨rest, last, rfl⟩
    · rfl
    -- otherwise the mark stands before the last one, and raises nothing
    · have split : quieter ++ [n] = (before ++ m :: rest) ++ [last] := by rw [split]; simp
      have front : quieter = before ++ m :: rest := (List.append_inj' split rfl).1
      have none : m.raised? = none := quiet m (by rw [front]; simp)
      rw [none] at raises
      cases raises

end Faithful

namespace Program

variable {σ α β : Type} {x : Program σ RunMark α} {f : α → Program σ RunMark β} {bug : α → Option AgentError}
  {bug' : β → Option AgentError}

/-- The journal of a program is faithful to the programming error, if any, that its value stands for. -/
def Tells (bug : α → Option AgentError) (x : Program σ RunMark α) : Prop :=
  x.Ensures fun journal _ a => Faithful journal (bug a)

/-- No mark of a program raises an error. -/
def RaisesNothing (x : Program σ RunMark α) : Prop := x.Writes fun m => m.raised? = none

namespace Tells

theorem done {a : α} (h : bug a = none) : (Program.done a : Program σ RunMark α).Tells bug := by
  have clean : Faithful [] (bug a) := by
    rw [h]
    exact .clean fun _ hm => absurd hm (by simp)
  exact clean

theorem of_raisesNothing (h : x.RaisesNothing) (none : ∀ a, bug a = none) : x.Tells bug :=
  Ensures.mono h fun _ _ a quiet => by
    rw [none a]
    exact .clean quiet

/-- Where the first program comes to no error, the second one decides; where it does, the second one does nothing and
comes to the same error. -/
theorem bind (hx : x.Tells bug) (go : ∀ a, bug a = none → (f a).Tells bug')
    (stop : ∀ a e, bug a = some e → ∃ b, f a = .done b ∧ bug' b = some e) : (x.bind f).Tells bug' := by
  refine (ensures_bind f _).2 (hx.mono fun journal _ a h => ?_)
  cases ha : bug a with
  | none =>
    rw [ha] at h
    cases h with
    | clean quiet => exact (go a ha).mono fun _ _ _ h' => h'.append quiet
  | some e =>
    obtain ⟨b, hb, same⟩ := stop a e ha
    rw [ha, ← same] at h
    rw [hb]
    have whole : Faithful (journal ++ []) (bug' b) := by rwa [List.append_nil]
    exact whole

/-- After a program that raises nothing, the next one decides. -/
theorem after (hx : x.RaisesNothing) (go : ∀ a, (f a).Tells bug') : (x.bind f).Tells bug' := by
  have quiet : x.Tells fun _ => none := of_raisesNothing hx fun _ => rfl
  apply quiet.bind
  · intro a _
    exact go a
  · intro a e h
    cases h

end Tells

end Program

namespace Pipeline

open Program

variable {σ : Type} (p : Pipeline σ) {phase : Phase}

/-- The programming error of a phase. -/
def phaseBug : Except Interruption ExecutionState → Option AgentError
  | .ok _ => none
  | .error i => i.error.bug?

/-- The error of a part of a run. -/
def partBug {α : Type} : Except AgentError α → Option AgentError
  | .ok _ => none
  | .error e => some e

/-- The error of a run, or of its loop. -/
def runBug : Option (Except AgentError ExecutionState) → Option AgentError
  | some r => partBug r
  | none => none

/-! ## Parts that raise nothing -/

theorem raisesNothing_report (e : RunEvent) : (report e : Program σ RunMark Unit).RaisesNothing := Writes.note (by rfl)

theorem raisesNothing_runHooks (t : HookTrigger) (ctx : HookContext) : (p.runHooks t ctx).RaisesNothing := by
  have dispatches : (p.hooks.run .dispatched t ctx).RaisesNothing :=
    (Writes.perform _).bind fun _ => (Writes.note (by rfl)).bind fun _ => Writes.done _
  unfold runHooks
  split
  · exact dispatches.bind fun _ => Writes.done _
  · exact Writes.done _

theorem raisesNothing_afterFailure (s : ExecutionState) (failure : StepFailure) :
    (p.afterFailure s failure).RaisesNothing := by
  unfold afterFailure
  split
  · exact (p.raisesNothing_runHooks _ _).bind fun _ => Writes.done _
  · exact Writes.done _

theorem raisesNothing_continuation (token : Token) (s : ExecutionState) :
    (p.continuation token s).RaisesNothing := by
  refine (Writes.note (by rfl)).bind fun _ => ?_
  split
  · exact Writes.done _
  · refine (Writes.askCancelled token).bind fun cancelled => ?_
    cases cancelled with
    | true => exact Writes.done _
    | false =>
      refine Writes.readClock.bind fun now => ?_
      dsimp only
      split <;> exact Writes.done _

theorem raisesNothing_finish (s : ExecutionState) : (p.finish s).RaisesNothing :=
  (raisesNothing_report _).bind fun _ => Writes.done _

/-! ## Phases and failures -/

theorem tells_callHandlers (phase : Phase) (handlers : List (PhaseHandler σ)) (s : ExecutionState) :
    (callHandlers phase handlers s).Tells phaseBug := by
  induction handlers generalizing s with
  | nil => exact .done rfl
  | cons h rest ih =>
    apply Tells.after (Writes.perform _)
    intro result
    cases result with
    | ok next => exact .after (Writes.note (by rfl)) fun _ => ih next
    | error e => exact Faithful.singleton (.handled phase s (.error e))

theorem tells_runHandlers (phase : Phase) (s : ExecutionState) : (p.runHandlers phase s).Tells phaseBug :=
  .after (Writes.note (by rfl)) fun _ => tells_callHandlers phase _ s

theorem tells_runPhase (phase : Phase) (s : ExecutionState) : (p.runPhase phase s).Tells phaseBug := by
  apply (p.tells_runHandlers phase s).bind
  · intro r hr
    cases r with
    | error i => exact .done hr
    | ok t =>
      cases phase.trigger with
      | none => exact .done rfl
      | some trigger => exact .after (p.raisesNothing_runHooks trigger _) fun _ => .done rfl
  · intro r e hr
    cases r with
    | ok t => cases hr
    | error i => exact ⟨.error i, rfl, hr⟩

theorem tells_onError (s : ExecutionState) (step : Step) : (p.onError s step).Tells partBug := by
  apply Tells.after (raisesNothing_report _)
  intro _
  apply (p.tells_runHandlers _ _).bind
  · intro r hr
    have goesOn (t : ExecutionState) :
        ((p.afterFailure t step.cause).bind fun u => Program.done (.ok u)).Tells partBug :=
      .after (p.raisesNothing_afterFailure t _) fun _ => .done rfl
    cases r with
    | ok t => exact goesOn t
    | error i =>
      simp only [AgentError.bug?_eq_none.1 hr, Bool.false_eq_true, if_false]
      exact goesOn i.state
  · intro r e hr
    cases r with
    | ok t => cases hr
    | error i =>
      obtain ⟨programming, rfl⟩ := AgentError.bug?_eq_some.1 hr
      exact ⟨.error i.error, by simp only [programming, if_true]; rfl, rfl⟩

/-- An error in a phase is recovered from, or it is a programming error and ends the part. -/
theorem tells_orRecover (s : ExecutionState)
    {f : Except Interruption ExecutionState → Program σ RunMark (Except AgentError ExecutionState)}
    (ok : ∀ t, (f (.ok t)).Tells partBug) (error : ∀ i, f (.error i) = p.recover i) :
    ((p.runPhase phase s).bind f).Tells partBug := by
  apply (p.tells_runPhase phase s).bind
  · intro r hr
    cases r with
    | ok t => exact ok t
    | error i =>
      rw [error, recover]
      simp only [AgentError.bug?_eq_none.1 hr, Bool.false_eq_true, if_false]
      exact .after Writes.readClock fun _ => .after Writes.readClock fun _ => p.tells_onError i.state _
  · intro r e hr
    cases r with
    | ok t => cases hr
    | error i =>
      obtain ⟨programming, rfl⟩ := AgentError.bug?_eq_some.1 hr
      exact ⟨.error i.error, by simp only [error, recover, programming, if_true]; rfl, rfl⟩

/-! ## The parts of a run -/

theorem tells_beforeExecution (s : ExecutionState) : (p.beforeExecution s).Tells partBug := by
  apply Tells.after Writes.readClock
  intro now
  exact p.tells_orRecover _ (fun t => .after (raisesNothing_report _) fun _ => .done rfl) fun _ => rfl

theorem tells_drive (s : ExecutionState) : (p.drive s).Tells partBug := by
  have steps : ((p.driver.useTools s p.tools p.executor).mapMarks .step).RaisesNothing := by
    refine (ensures_mapMarks _ _).2 (.of_forall fun journal _ _ m hm => ?_)
    obtain ⟨n, -, rfl⟩ := List.mem_map.1 hm
    rfl
  apply Tells.after Writes.readClock
  intro startedAt
  apply Tells.after steps
  intro result
  cases result with
  | ok step => exact .after (Writes.note (by rfl)) fun _ => .done rfl
  | error e =>
    cases he : e.isProgramming with
    | true =>
      have raised : Faithful [.drove s (.error e)] (some e) := by
        have : Faithful [.drove s (.error e)] e.bug? := .singleton (.drove s (.error e))
        rwa [AgentError.bug?_eq_some.2 ⟨he, rfl⟩] at this
      simp only [he, if_true]
      exact raised
    | false =>
      have quiet : (RunMark.drove s (.error e)).raised? = none := AgentError.bug?_eq_none.2 he
      simp only [he, Bool.false_eq_true, if_false]
      exact .after (Writes.note quiet) fun _ => .after Writes.readClock fun _ => .done rfl

theorem tells_recordStep (number : UInt32) (s : ExecutionState) (step : Step) :
    (p.recordStep number s step).Tells partBug := by
  refine p.tells_orRecover _ (fun t => ?_) fun _ => rfl
  exact p.tells_orRecover _ (fun u => .after (raisesNothing_report _) fun _ => .done rfl) fun _ => rfl

theorem tells_runStep (s : ExecutionState) : (p.runStep s).Tells partBug := by
  apply Tells.after (raisesNothing_report _)
  intro _
  refine p.tells_orRecover _ (fun t => ?_) fun _ => rfl
  dsimp only
  split
  · exact .done rfl
  · apply (p.tells_drive t).bind
    · intro r hr
      cases r with
      | error e => cases hr
      | ok step =>
        dsimp only
        split
        · exact p.tells_onError t step
        · exact p.tells_recordStep _ t step
    · intro r e hr
      cases r with
      | ok step => cases hr
      | error e' => exact ⟨.error e', rfl, hr⟩

theorem tells_loop (token : Token) (rounds : Nat) (s : ExecutionState) :
    (p.loop token rounds s).Tells runBug := by
  induction rounds generalizing s with
  | zero => exact .done rfl
  | succ rounds ih =>
    apply Tells.after (p.raisesNothing_continuation token s)
    intro c
    cases c with
    | stop t => exact .done rfl
    | proceed t =>
      apply (p.tells_runStep t).bind
      · intro r hr
        cases r with
        | error e => cases hr
        | ok u => exact ih u
      · intro r e hr
        cases r with
        | ok u => cases hr
        | error e' => exact ⟨some (.error e'), rfl, hr⟩

theorem tells_afterExecution (s : ExecutionState) : (p.afterExecution s).Tells partBug := by
  have finishes (t : ExecutionState) : ((p.finish t).bind fun u => Program.done (.ok u)).Tells partBug :=
    .after (p.raisesNothing_finish t) fun _ => .done rfl
  apply (p.tells_runPhase _ s).bind
  · intro r hr
    cases r with
    | ok t => exact finishes t
    | error i =>
      simp only [AgentError.bug?_eq_none.1 hr, Bool.false_eq_true, if_false]
      exact finishes _
  · intro r e hr
    cases r with
    | ok t => cases hr
    | error i =>
      obtain ⟨programming, rfl⟩ := AgentError.bug?_eq_some.1 hr
      exact ⟨.error i.error, by simp only [programming, if_true]; rfl, rfl⟩

/-- The journal of a run is faithful to the error that the run returns. -/
theorem tells_run (token : Token) (rounds : Nat) (s : ExecutionState) : (p.run token rounds s).Tells runBug := by
  apply (p.tells_beforeExecution s).bind
  · intro r hr
    cases r with
    | error e => cases hr
    | ok t =>
      apply (p.tells_loop token rounds t).bind
      · intro r hr
        cases r with
        | none => exact .done rfl
        | some r =>
          cases r with
          | error e => cases hr
          | ok u =>
            apply (p.tells_afterExecution u).bind
            · intro r hr
              exact .done hr
            · intro r e hr
              exact ⟨some r, rfl, hr⟩
      · intro r e hr
        cases r with
        | none => cases hr
        | some r =>
          cases r with
          | ok u => cases hr
          | error e' => exact ⟨some (.error e'), rfl, hr⟩
  · intro r e hr
    cases r with
    | ok t => cases hr
    | error e' => exact ⟨some (.error e'), rfl, hr⟩

end Pipeline

/-! ## Without a programming error -/

namespace ExecutionState

theorem isTerminal_concluded (s : ExecutionState) : s.concluded.isTerminal = true := by
  unfold concluded
  split
  · split <;> rfl
  · rename_i notRunning
    cases hs : s.status with
    | running => exact absurd hs notRunning
    | completed => simp [isTerminal, hs, ExecutionStatus.isTerminal]
    | failed => simp [isTerminal, hs, ExecutionStatus.isTerminal]

theorem buffer_concluded (s : ExecutionState) : s.concluded.buffer = s.buffer := by
  unfold concluded
  split
  · split <;> rfl
  · rfl

/-- What is left at the end of a run waits for nothing. -/
theorem buffer_ended (s : ExecutionState) (keepTraces : Bool) : (s.ended keepTraces).buffer = .empty := by
  rw [ended, buffer_concluded]
  cases keepTraces <;> rfl

end ExecutionState

namespace Pipeline

variable {σ : Type} (p : Pipeline σ)

/-- Nothing is asked of the states of a run. -/
theorem true_invariant : p.Invariant (fun _ => True) fun _ => True := by
  constructor <;> intros <;> trivial

/-- A run returns an error exactly if the driver or a handler raised a programming error, which is then the first one
that was raised, and nothing happens after it. If none was raised, a run that comes to an end leaves a terminal state
with an empty buffer. -/
theorem run_error_iff_raised (token : Token) (rounds : Nat) (s : ExecutionState) (frame : Frame) (w : World σ) :
    let outcome := (p.run token rounds s).exec frame w
    (∀ e, outcome.value = some (.error e) ↔ outcome.journal.findSome? RunMark.raised? = some e) ∧
      (∀ before m after e, outcome.journal = before ++ m :: after → m.raised? = some e → after = []) ∧
      (∀ r, outcome.value = some r → outcome.journal.findSome? RunMark.raised? = none →
        ∃ t, r = .ok t ∧ t.isTerminal = true ∧ t.buffer.messages = []) := by
  intro outcome
  have faithful : Faithful outcome.journal (runBug outcome.value) := (p.tells_run token rounds s).exec frame w
  refine ⟨fun e => ?_, fun before m after e => faithful.last, fun r hr quiet => ?_⟩
  · rw [faithful.first_raised]
    rcases hv : outcome.value with _ | (e' | t) <;> simp [runBug, partBug]
  · rw [faithful.first_raised, hr] at quiet
    cases r with
    | error e => cases quiet
    | ok t =>
      have good := (p.true_invariant.run (s := s) token rounds fun _ => trivial).exec frame w fun _ _ => trivial
      have made : p.RunGood (fun _ => True) outcome.value := good.2
      rw [hr] at made
      obtain ⟨u, -, rfl⟩ := made
      exact ⟨_, rfl, ExecutionState.isTerminal_concluded _, by rw [u.buffer_ended]; rfl⟩

/-- A pipeline whose driver always fails, with a handler for failures that raises a programming error. -/
def failsTwice : Pipeline Unit where
  driver := { name := "fails", useTools := fun _ _ _ => pure (.error (.validation "no decision")) }
  tools := .empty
  schemas := .lenient
  handlers := [(.onError, ⟨"strict", fun _ _ => pure (.error (.contractViolation "failures are not expected"))⟩)]

theorem run_error_iff_raised_failsTwice :
    let outcome := (failsTwice.run (.run 0) 2 (.ofUser "question")).exec ⟨fun _ => ⟨0, 0⟩, fun _ => 0, {}⟩ { own := () }
    outcome.journal.findSome? RunMark.raised? = some (.contractViolation "failures are not expected") ∧
      outcome.value = some (.error (.contractViolation "failures are not expected")) := by
  intro outcome
  have raised : outcome.journal.findSome? RunMark.raised? = some (.contractViolation "failures are not expected") := rfl
  exact ⟨raised, ((failsTwice.run_error_iff_raised (.run 0) 2 (.ofUser "question") _ _).1 _).2 raised⟩

end Pipeline

end AgentLoop
