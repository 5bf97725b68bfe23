import AgentLoop.Pipeline.Run
import AgentLoop.Proofs.Driver.Steps
import AgentLoop.Proofs.Run.Updates

/-!
# How the state of a run evolves

- `RunMark.states`: the states that a mark shows; `Through`: a way from one state to another one by others, on which
  each state is related to all that follow;
- `Program.Evolves`: as long as every mark is allowed and the clock keeps to some times, the states that a program shows
  lie on such a way; this composes (`Evolves.bind`);
- `Pipeline.Evolution`: a relation between states that allowed marks and the pipeline's own transformations respect;
- `Evolution.runFrom`, `Evolution.exec_run`: the states that a run shows, from its start on, are related by it, and so
  is the one that it returns, if the end of a run respects it (`Evolution.states`).
-/

namespace AgentLoop

/-- The states that a mark shows: what a collaborator was given, and what it made of it. -/
def RunMark.states : RunMark → List ExecutionState
  | entered _ s | drove s _ | handled _ s (.error _) => [s]
  | handled _ s (.ok t) => [s, t]
  | dispatched before after => [before.state, after.state]
  | event _ | step _ => []

theorem RunMark.mem_states_of_state? {m : RunMark} {s : ExecutionState} (h : m.state? = some s) : s ∈ m.states := by
  rcases m with _ | _ | _ | ⟨_, _, _ | _⟩ | _ | _ <;> cases h <;> simp [states]

/-- The states that a journal shows, in order. -/
def statesShown (journal : List RunMark) : List ExecutionState := journal.flatMap RunMark.states

/-- The state that a run returns, if it returns one. -/
def returnedState : Option (Except AgentError ExecutionState) → List ExecutionState
  | some (.ok t) => [t]
  | _ => []

theorem mem_returnedState {r : Option (Except AgentError ExecutionState)} {t : ExecutionState} :
    t ∈ returnedState r ↔ r = some (.ok t) := by
  cases r with
  | none => simp [returnedState]
  | some r => cases r <;> simp [returnedState, eq_comm]

theorem pairwise_returnedState {R : ExecutionState → ExecutionState → Prop}
    {r : Option (Except AgentError ExecutionState)} : (returnedState r).Pairwise R := by
  cases r with
  | none => exact .nil
  | some r => cases r <;> simp [returnedState]

/-- The states that a run shows, and then the one that it returns. -/
def Outcome.states {σ : Type} (o : Outcome σ RunMark (Option (Except AgentError ExecutionState))) :
    List ExecutionState :=
  statesShown o.journal ++ returnedState o.value

/-- From one state to another one by way of some states, each related to all that follow. -/
def Through (R : ExecutionState → ExecutionState → Prop) (s : ExecutionState) (states : List ExecutionState)
    (t : ExecutionState) : Prop := (s :: (states ++ [t])).Pairwise R

namespace Through

variable {R : ExecutionState → ExecutionState → Prop} {s t u : ExecutionState} {states states' : List ExecutionState}

theorem direct (h : R s t) : Through R s [] t := List.pairwise_pair.2 h

/-- A mark that shows the state itself. -/
theorem shown (refl : R s s) : Through R s [s] s := by simp [Through, refl]

/-- A mark that shows the state and the next one. -/
theorem next (refl : ∀ s, R s s) (h : R s t) : Through R s [s, t] t := by simp [Through, refl, h]

theorem trans (tr : ∀ {s t u}, R s t → R t u → R s u) (h : Through R s states t) (h' : Through R t states' u) :
    Through R s (states ++ states') u := by
  unfold Through at *
  rw [← List.cons_append, List.pairwise_append] at h
  obtain ⟨first, -, last⟩ := h
  obtain ⟨next, rest⟩ := List.pairwise_cons.1 h'
  rw [List.append_assoc, ← List.cons_append, List.pairwise_append]
  exact ⟨first, rest, fun v hv w hw => tr (last v hv t (List.mem_singleton.2 rfl)) (next w hw)⟩

/-- What is related to the first state. -/
theorem of_mem (h : Through R s states t) (mem : u ∈ states ++ [t]) : R s u := (List.pairwise_cons.1 h).1 u mem

end Through

namespace Program

variable {σ α β : Type} {C : Instant → Prop} {Allowed : RunMark → Prop} {R : ExecutionState → ExecutionState → Prop}

/-- As long as every mark is allowed and every reading of the clock is one of some times, the states that a program
shows lead from a state to one with which it ends. -/
def Evolves (C : Instant → Prop) (Allowed : RunMark → Prop) (R : ExecutionState → ExecutionState → Prop)
    (s : ExecutionState) (x : Program σ RunMark α) (ends : α → ExecutionState → Prop) : Prop :=
  x.EnsuresAt C fun journal a =>
    (∀ m ∈ journal, Allowed m) → ∃ t, ends a t ∧ Through R s (statesShown journal) t

namespace Evolves

variable {s t : ExecutionState} {x : Program σ RunMark α} {ends : α → ExecutionState → Prop}
  {f : α → Program σ RunMark β} {then_ends : β → ExecutionState → Prop}

/-- A program that shows no state. -/
theorem silent {good : α → Prop} (refl : ∀ s, R s s)
    (h : x.EnsuresAt C fun journal a => statesShown journal = [] ∧ good a) :
    Evolves C Allowed R s x fun a t => good a ∧ s = t :=
  EnsuresAt.mono h fun _ _ hx _ => ⟨s, ⟨hx.2, rfl⟩, by rw [hx.1]; exact .direct (refl s)⟩

theorem perform (refl : ∀ s, R s s) (a : Act σ α) :
    Evolves C Allowed R s (Program.perform a : Program σ RunMark α) fun _ t => True ∧ s = t :=
  silent refl fun _ _ => ⟨rfl, trivial⟩

theorem readClock (refl : ∀ s, R s s) :
    Evolves C Allowed R s (Program.readClock : Program σ RunMark Instant) fun now t => C now ∧ s = t :=
  silent refl fun _ now => ⟨rfl, now⟩

theorem askCancelled (refl : ∀ s, R s s) (token : Token) :
    Evolves C Allowed R s (Program.askCancelled token : Program σ RunMark Bool) fun _ t => True ∧ s = t :=
  silent refl fun _ => ⟨rfl, trivial⟩

theorem done {a : α} (refl : ∀ s, R s s) (h : ends a s) :
    Evolves C Allowed R s (Program.done a : Program σ RunMark α) ends :=
  fun _ => ⟨s, h, .direct (refl s)⟩

/-- The state is changed first, which is not shown. -/
theorem of_next (tr : ∀ {s t u}, R s t → R t u → R s u) (next : R s t) (h : Evolves C Allowed R t x ends) :
    Evolves C Allowed R s x ends := by
  refine EnsuresAt.mono h fun journal _ evolves allowed => ?_
  obtain ⟨u, ended, through⟩ := evolves allowed
  have first : Through R s [] t := .direct next
  have whole := first.trans (R := R) tr through
  exact ⟨u, ended, whole⟩

/-- The states of an allowed mark. -/
theorem note {m : RunMark} (h : Allowed m → Through R s m.states t) :
    Evolves C Allowed R s (Program.note m : Program σ RunMark Unit) fun _ u => t = u := by
  intro allowed
  refine ⟨t, rfl, ?_⟩
  rw [statesShown, List.flatMap_singleton]
  exact h (allowed m List.mem_cons_self)

theorem bind (tr : ∀ {s t u}, R s t → R t u → R s u) (hx : Evolves C Allowed R s x ends)
    (hf : ∀ a t, ends a t → Evolves C Allowed R t (f a) then_ends) : Evolves C Allowed R s (x.bind f) then_ends := by
  refine (ensuresAt_bind f _).2 (EnsuresAt.mono hx fun journal a first => ?_)
  -- what the first program writes has to be allowed before the second one is looked at
  by_cases allowed : ∀ m ∈ journal, Allowed m
  · obtain ⟨t, ended, through⟩ := first allowed
    refine EnsuresAt.mono (hf a t ended) fun journal' b second all => ?_
    obtain ⟨u, ended', through'⟩ := second fun m hm => all m (List.mem_append_right _ hm)
    refine ⟨u, ended', ?_⟩
    rw [statesShown, List.flatMap_append]
    exact through.trans tr through'
  · exact .of_forall fun journal' _ all => absurd (fun m hm => all m (List.mem_append_left _ hm)) allowed

end Evolves

end Program

namespace Pipeline

open Program

variable {σ : Type} (p : Pipeline σ)

/-- How the states of a run in which every mark is allowed are related: what handlers and hooks do respects it, and so
does everything that the pipeline does itself with the steps that it may get, as long as the clock keeps to some
times. -/
structure Evolution (C : Instant → Prop) (Good : Step → Prop) (Allowed : RunMark → Prop)
    (R : ExecutionState → ExecutionState → Prop) : Prop where
  refl (s : ExecutionState) : R s s
  trans {s t u : ExecutionState} : R s t → R t u → R s u
  handled {phase : Phase} {s t : ExecutionState} : Allowed (.handled phase s (.ok t)) → R s t
  dispatched {before after : HookContext} : Allowed (.dispatched before after) → R before.state after.state
  settled (s : ExecutionState) : R s s.settled
  stepStarted (s : ExecutionState) : R s s.withStepStarted
  /-- The steps of the driver. -/
  driver (s : ExecutionState) : (p.driver.useTools s p.tools p.executor).GivesAt C (GivesStep Good)
  /-- The step that stands for an error. -/
  raised (kind : ErrorKind) (message : String) (inputs : List ChatMessage) {startedAt : Instant}
    (completedAt : Instant) : C startedAt → Good (.failed kind message inputs startedAt completedAt)
  outcome (s : ExecutionState) {step : Step} : step.isError = false → Good step →
    R s (s.withOutcome step p.keepToolTraces)
  toolFailures (s : ExecutionState) (failed : Nat) : R s (s.withToolFailures p.errorPolicy failed)
  failedStep (s : ExecutionState) {step : Step} : step.isError = true → Good step →
    R s (s.withFailedStep p.errorPolicy step step.cause)
  completed (s : ExecutionState) (reason : TerminationReason) : R s (s.completed reason)
  failed (s : ExecutionState) (reason : TerminationReason) : R s (s.failed reason)

/-- The state after a phase, also where a handler fails. -/
def phaseState : Except Interruption ExecutionState → ExecutionState
  | .ok s => s
  | .error i => i.state

/-- The state after a check. -/
def checkedState : Continuation → ExecutionState
  | .proceed s | .stop s => s

/-- If a part of a run gives a state, it ends with that one. -/
def PartEnds (r : Except AgentError ExecutionState) (t : ExecutionState) : Prop := ∀ u, r = .ok u → u = t

/-- So does the loop. -/
def LoopEnds (r : Option (Except AgentError ExecutionState)) (t : ExecutionState) : Prop :=
  ∀ u, r = some (.ok u) → u = t

/-- What a run returns is the end of the state with which it ends. -/
def RunEnds (r : Option (Except AgentError ExecutionState)) (t : ExecutionState) : Prop :=
  ∀ u, r = some (.ok u) → u = t.ended p.keepToolTraces

theorem partEnds_ok (s : ExecutionState) : PartEnds (.ok s) s := by
  rintro _ ⟨⟩
  rfl

theorem partEnds_error (e : AgentError) (s : ExecutionState) : PartEnds (.error e) s := by
  rintro _ ⟨⟩

/-- The beginning of a run after its start. -/
def begin (s : ExecutionState) : Program σ RunMark (Except AgentError ExecutionState) := do
  match ← p.runPhase .beforeExecution s with
  | .error i => p.recover i
  | .ok s =>
    report (.executionStarted s.messages.length)
    return .ok s

/-- A run after its start. -/
def runFrom (token : Token) (rounds : Nat) (s : ExecutionState) :
    Program σ RunMark (Option (Except AgentError ExecutionState)) := do
  match ← p.begin s with
  | .error e => return some (.error e)
  | .ok s =>
    match ← p.loop token rounds s with
    | none => return none
    | some (.error e) => return some (.error e)
    | some (.ok s) => return some (← p.afterExecution s)

/-- A run reads the clock and starts. -/
theorem run_eq_runFrom (token : Token) (rounds : Nat) (s : ExecutionState) :
    p.run token rounds s = readClock.bind fun now => p.runFrom token rounds (s.withRunStarted now) := rfl

namespace Evolution

variable {p} {C : Instant → Prop} {Good : Step → Prop} {Allowed : RunMark → Prop}
  {R : ExecutionState → ExecutionState → Prop} (h : p.Evolution C Good Allowed R)

include h

theorem reports (s : ExecutionState) (e : RunEvent) :
    Evolves C Allowed R s (report e : Program σ RunMark Unit) fun _ t => s = t :=
  .note fun _ => .direct (h.refl s)

/-- A mark that shows the state. -/
theorem shows {s : ExecutionState} {m : RunMark} (states : m.states = [s]) :
    Evolves C Allowed R s (Program.note m : Program σ RunMark Unit) fun _ t => s = t :=
  .note fun _ => states ▸ .shown (h.refl s)

/-- The last state is made of the shown one. -/
theorem finishes {α : Type} {s t : ExecutionState} {a : α} {ends : α → ExecutionState → Prop} (next : R s t)
    (ended : ends a t) : Evolves C Allowed R s (Program.done a : Program σ RunMark α) ends :=
  .of_next h.trans next (.done h.refl ended)

theorem callHandlers (phase : Phase) (handlers : List (PhaseHandler σ)) (s : ExecutionState) :
    Evolves C Allowed R s (callHandlers phase handlers s) fun r t => phaseState r = t := by
  induction handlers generalizing s with
  | nil => exact .done h.refl rfl
  | cons handler rest ih =>
    refine (Evolves.perform h.refl _).bind h.trans ?_
    rintro result _ ⟨-, rfl⟩
    cases result with
    | error e =>
      refine (h.shows rfl).bind h.trans ?_
      rintro _ _ rfl
      exact .done h.refl rfl
    | ok t =>
      have handled : Evolves C Allowed R s (Program.note (.handled phase s (.ok t)) : Program σ RunMark Unit)
          fun _ u => t = u := .note fun allowed => .next h.refl (h.handled allowed)
      refine handled.bind h.trans ?_
      rintro _ _ rfl
      exact ih t

theorem runHandlers (phase : Phase) (s : ExecutionState) :
    Evolves C Allowed R s (p.runHandlers phase s) fun r t => phaseState r = t := by
  refine (h.shows rfl).bind h.trans ?_
  rintro _ _ rfl
  exact h.callHandlers phase _ s

theorem runHooks (t : HookTrigger) (ctx : HookContext) :
    Evolves C Allowed R ctx.state (p.runHooks t ctx) fun s u => s = u := by
  unfold Pipeline.runHooks
  split
  · have run : Evolves C Allowed R ctx.state (p.hooks.run .dispatched t ctx) fun after u => after.state = u := by
      refine (Evolves.perform h.refl _).bind h.trans ?_
      rintro after _ ⟨-, rfl⟩
      have dispatched : Evolves C Allowed R ctx.state (Program.note (.dispatched ctx after) : Program σ RunMark Unit)
          fun _ u => after.state = u := .note fun allowed => .next h.refl (h.dispatched allowed)
      refine dispatched.bind h.trans ?_
      rintro _ _ rfl
      exact .done h.refl rfl
    refine run.bind h.trans ?_
    rintro after _ rfl
    exact .done h.refl rfl
  · exact .done h.refl rfl

theorem runPhase (phase : Phase) (s : ExecutionState) :
    Evolves C Allowed R s (p.runPhase phase s) fun r t => phaseState r = t := by
  refine (h.runHandlers phase s).bind h.trans ?_
  rintro r _ rfl
  cases r with
  | error i => exact .done h.refl rfl
  | ok t =>
    cases phase.trigger with
    | none => exact h.finishes (h.settled t) rfl
    | some trigger =>
      refine (h.runHooks trigger { trigger, state := t }).bind h.trans ?_
      rintro u _ rfl
      exact h.finishes (h.settled _) rfl

theorem afterFailure (s : ExecutionState) (failure : StepFailure) :
    Evolves C Allowed R s (p.afterFailure s failure) fun t u => t = u := by
  unfold Pipeline.afterFailure
  split
  · refine (h.runHooks _ (.forFailure s failure)).bind h.trans ?_
    rintro t _ rfl
    exact h.finishes (h.settled _) rfl
  · exact .done h.refl rfl

theorem onError {step : Step} (failed : step.isError = true) (good : Good step) (s : ExecutionState) :
    Evolves C Allowed R s (p.onError s step) PartEnds := by
  refine (h.reports s _).bind h.trans ?_
  rintro _ _ rfl
  refine .of_next h.trans (h.failedStep _ failed good) ((h.runHandlers .onError _).bind h.trans ?_)
  rintro r _ rfl
  cases r with
  | error i =>
    dsimp only
    split
    · exact .done h.refl (partEnds_error _ _)
    · refine (h.afterFailure i.state _).bind h.trans ?_
      rintro t _ rfl
      exact .done h.refl (partEnds_ok _)
  | ok t =>
    refine (h.afterFailure t _).bind h.trans ?_
    rintro u _ rfl
    exact .done h.refl (partEnds_ok _)

theorem recover (i : Interruption) : Evolves C Allowed R i.state (p.recover i) PartEnds := by
  unfold Pipeline.recover
  split
  · exact .done h.refl (partEnds_error _ _)
  · refine (Evolves.readClock h.refl).bind h.trans ?_
    rintro now _ ⟨began, rfl⟩
    refine (Evolves.readClock h.refl).bind h.trans ?_
    rintro _ _ ⟨-, rfl⟩
    exact h.onError rfl (h.raised _ _ _ _ began) i.state

theorem begin (s : ExecutionState) : Evolves C Allowed R s (p.begin s) PartEnds := by
  refine (h.runPhase .beforeExecution s).bind h.trans ?_
  rintro r _ rfl
  cases r with
  | error i => exact h.recover i
  | ok t =>
    refine (h.reports t _).bind h.trans ?_
    rintro _ _ rfl
    exact .done h.refl (partEnds_ok _)

theorem continuation (token : Token) (s : ExecutionState) :
    Evolves C Allowed R s (p.continuation token s) fun c t => checkedState c = t := by
  refine (h.shows rfl).bind h.trans ?_
  rintro _ _ rfl
  split
  · exact .done h.refl rfl
  · refine (Evolves.askCancelled h.refl token).bind h.trans ?_
    rintro cancelled _ ⟨-, rfl⟩
    cases cancelled with
    | true => exact h.finishes (h.completed _ _) rfl
    | false =>
      refine (Evolves.readClock h.refl).bind h.trans ?_
      rintro now _ ⟨-, rfl⟩
      dsimp only
      split
      · exact .done h.refl rfl
      · exact h.finishes (h.completed _ _) rfl

/-- A call of the driver gives one of its steps, or one that stands for an error. -/
theorem drive (s : ExecutionState) :
    Evolves C Allowed R s (p.drive s) fun r t => GivesStep Good r ∧ s = t := by
  have called : Evolves C Allowed R s ((p.driver.useTools s p.tools p.executor).mapMarks .step) fun r t =>
      GivesStep Good r ∧ s = t := by
    refine .silent h.refl ((ensuresAt_mapMarks _ _).2 (EnsuresAt.mono (h.driver s) fun journal r gives => ⟨?_, gives⟩))
    rw [statesShown, List.flatMap_map]
    exact List.flatMap_eq_nil_iff.2 fun _ _ => rfl
  refine (Evolves.readClock h.refl).bind h.trans ?_
  rintro startedAt _ ⟨began, rfl⟩
  refine called.bind h.trans ?_
  rintro result _ ⟨gives, rfl⟩
  refine (h.shows rfl).bind h.trans ?_
  rintro _ _ rfl
  cases result with
  | ok step => exact .done h.refl ⟨gives, rfl⟩
  | error e =>
    dsimp only
    split
    · exact .done h.refl ⟨givesStep_error, rfl⟩
    · refine (Evolves.readClock h.refl).bind h.trans ?_
      rintro _ _ ⟨-, rfl⟩
      exact .done h.refl ⟨givesStep_ok (h.raised _ _ _ _ began), rfl⟩

theorem recordStep (number : UInt32) {step : Step} (fine : step.isError = false) (good : Good step)
    (s : ExecutionState) : Evolves C Allowed R s (p.recordStep number s step) PartEnds := by
  refine .of_next h.trans (h.outcome s fine good) ((h.runPhase .executeStep _).bind h.trans ?_)
  rintro r _ rfl
  cases r with
  | error i => exact h.recover i
  | ok t =>
    refine .of_next h.trans (h.toolFailures t _) ((h.runPhase .afterStep _).bind h.trans ?_)
    rintro r _ rfl
    cases r with
    | error i => exact h.recover i
    | ok u =>
      refine (h.reports u _).bind h.trans ?_
      rintro _ _ rfl
      exact .done h.refl (partEnds_ok _)

theorem runStep (s : ExecutionState) : Evolves C Allowed R s (p.runStep s) PartEnds := by
  refine (h.reports s _).bind h.trans ?_
  rintro _ _ rfl
  refine .of_next h.trans (h.stepStarted _) ((h.runPhase .beforeStep _).bind h.trans ?_)
  rintro r _ rfl
  cases r with
  | error i => exact h.recover i
  | ok t =>
    dsimp only
    split
    · exact .done h.refl (partEnds_ok _)
    · refine (h.drive t).bind h.trans ?_
      rintro r _ ⟨gives, rfl⟩
      cases r with
      | error e => exact .done h.refl (partEnds_error _ _)
      | ok step =>
        have good : Good step := gives step rfl
        dsimp only
        split
        · rename_i failed
          exact h.onError failed good _
        · rename_i fine
          exact h.recordStep _ (Bool.eq_false_iff.2 fine) good _

theorem loop (token : Token) (rounds : Nat) (s : ExecutionState) :
    Evolves C Allowed R s (p.loop token rounds s) LoopEnds := by
  induction rounds generalizing s with
  | zero => exact .done h.refl (by rintro _ ⟨⟩)
  | succ rounds ih =>
    refine (h.continuation token s).bind h.trans ?_
    rintro c _ rfl
    cases c with
    | stop t => exact .done h.refl (by rintro _ ⟨⟩; rfl)
    | proceed t =>
      refine (h.runStep t).bind h.trans ?_
      rintro r u ends
      cases r with
      | error e => exact .done h.refl (by rintro _ ⟨⟩)
      | ok v =>
        obtain rfl := ends v rfl
        exact ih _

theorem afterExecution (s : ExecutionState) :
    Evolves C Allowed R s (p.afterExecution s) fun r t => p.RunEnds (some r) t := by
  have finish (t : ExecutionState) :
      Evolves C Allowed R t (p.finish t) fun u v => u = t.ended p.keepToolTraces ∧ t = v := by
    refine (h.reports t _).bind h.trans ?_
    rintro _ _ rfl
    exact .done h.refl ⟨rfl, rfl⟩
  refine (h.runPhase .afterExecution s).bind h.trans ?_
  rintro r _ rfl
  cases r with
  | error i =>
    dsimp only
    split
    · exact .done h.refl (by rintro _ ⟨⟩)
    · refine .of_next h.trans (h.failed _ _) ((finish _).bind h.trans ?_)
      rintro _ _ ⟨rfl, rfl⟩
      exact .done h.refl (by rintro _ ⟨⟩; rfl)
  | ok t =>
    refine (finish _).bind h.trans ?_
    rintro _ _ ⟨rfl, rfl⟩
    exact .done h.refl (by rintro _ ⟨⟩; rfl)

/-- From its start on, the states of a run are related, and it returns the end of the last one. -/
theorem runFrom (token : Token) (rounds : Nat) (s : ExecutionState) :
    Evolves C Allowed R s (p.runFrom token rounds s) p.RunEnds := by
  refine (h.begin s).bind h.trans ?_
  rintro r t ends
  cases r with
  | error e => exact .done h.refl (by rintro _ ⟨⟩)
  | ok u =>
    obtain rfl := ends u rfl
    refine (h.loop token rounds _).bind h.trans ?_
    rintro r v ends
    cases r with
    | none => exact .done h.refl (by rintro _ ⟨⟩)
    | some r =>
      cases r with
      | error e => exact .done h.refl (by rintro _ ⟨⟩)
      | ok u =>
        obtain rfl := ends u rfl
        refine (h.afterExecution _).bind h.trans ?_
        rintro r v ends
        exact .done h.refl ends

/-- So are the states of an execution whose clock keeps to these times. -/
theorem exec_run (token : Token) (rounds : Nat) (s : ExecutionState) (frame : Frame) (w : World σ)
    (times : ∀ n, w.ticks ≤ n → C (frame.clock n))
    (allowed : ∀ m ∈ ((p.run token rounds s).exec frame w).journal, Allowed m) :
    ∃ t, p.RunEnds ((p.run token rounds s).exec frame w).value t ∧
      Through R (s.withRunStarted (frame.clock w.ticks)) (statesShown ((p.run token rounds s).exec frame w).journal)
        t := by
  rw [run_eq_runFrom, exec_bind, exec_readClock] at *
  exact EnsuresAt.exec (h.runFrom token rounds _) frame { w with ticks := w.ticks + 1 }
    (fun n later => times n (Nat.le_of_succ_le later)) allowed

/-- Where the end of a run respects the relation too, it relates the start to all states that the run shows or returns,
and each of these to all later ones. -/
theorem states (ended : ∀ s, R s (s.ended p.keepToolTraces)) (token : Token) (rounds : Nat) (s : ExecutionState)
    (frame : Frame) (w : World σ) (times : ∀ n, w.ticks ≤ n → C (frame.clock n))
    (allowed : ∀ m ∈ ((p.run token rounds s).exec frame w).journal, Allowed m) :
    (s.withRunStarted (frame.clock w.ticks) :: ((p.run token rounds s).exec frame w).states).Pairwise R := by
  obtain ⟨last, ends, through⟩ := h.exec_run token rounds s frame w times allowed
  -- what is returned is the end of the last state
  have returned (t : ExecutionState) (mem : t ∈ returnedState ((p.run token rounds s).exec frame w).value) :
      R last t := by
    rw [ends t (mem_returnedState.1 mem)]
    exact ended last
  unfold Through at through
  rw [← List.cons_append, List.pairwise_append] at through
  obtain ⟨shown, -, reached⟩ := through
  unfold Outcome.states
  rw [← List.cons_append, List.pairwise_append]
  exact ⟨shown, pairwise_returnedState,
    fun t mem u mem' => h.trans (reached t mem last (List.mem_singleton.2 rfl)) (returned u mem')⟩

end Evolution

end Pipeline

end AgentLoop
