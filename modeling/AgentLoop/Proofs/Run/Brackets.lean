import AgentLoop.Proofs.Run.Limit
import AgentLoop.Proofs.Run.Parts

/-!
# The events around a run and its steps

- `BeginEvents`, `PassEvents`: the events of the beginning of a run and of its passes. Each pass begins with the next
  number, and its step is completed or fails (`StepEnd`); the last one may end before that;
- each part of a run reports such events (`PhaseTrace.runEvents`, `FailureTrace.runEvents`, `RecordTrace.runEvents`,
  `PassTrace.runEvents`, `LoopTrace.passEvents`, `BeginTrace.beginEvents`, `EndTrace.finishes`);
- `events_bracket_run`: the events of a run that returns a state. Its beginning is reported unless a handler fails
  there, and its end always, with the state that is returned.
-/

namespace AgentLoop

/-- The event of the run itself that a mark records. -/
def RunMark.runEvent? : RunMark → Option RunEvent
  | event e => some e
  | _ => none

/-- The events of the run itself, without those within its steps. -/
def runEvents (journal : List RunMark) : List RunEvent := journal.filterMap RunMark.runEvent?

theorem runEvents_append (journal journal' : List RunMark) :
    runEvents (journal ++ journal') = runEvents journal ++ runEvents journal' := List.filterMap_append

/-- Handlers and hooks report nothing. -/
theorem runEvents_collaborations {journal : List RunMark} (h : ∀ m ∈ journal, m.isCollaboration = true) :
    runEvents journal = [] := by
  refine filterMap_collaborations (fun m acts => ?_) h
  cases m with
  | event _ => cases acts
  | _ => rfl

/-- How a step ends: it is completed under its number, or it fails. -/
inductive StepEnd (number : UInt32) : RunEvent → Prop
  | completed (type : StepType) : StepEnd number (.stepCompleted number type)
  | failed (kind : ErrorKind) (message : String) : StepEnd number (.errorOccurred kind message)

/-- The events of passes, when so many have begun before. Numbers stay at their largest value. -/
inductive PassEvents : UInt32 → List RunEvent → Prop
  | none (n : UInt32) : PassEvents n []
  /-- The last pass may end before its step. -/
  | ended (n : UInt32) : PassEvents n [.stepStarted (cappedSucc n)]
  | passed {n : UInt32} {e : RunEvent} {events : List RunEvent} : StepEnd (cappedSucc n) e →
      PassEvents (cappedSucc n) events → PassEvents n (.stepStarted (cappedSucc n) :: e :: events)

/-- The number of a step that begins. -/
def RunEvent.started? : RunEvent → Option UInt32
  | stepStarted number => some number
  | _ => none

/-- Passes are numbered one after another. -/
theorem PassEvents.numbers {n : UInt32} {events : List RunEvent} (h : PassEvents n events) :
    ∀ i number, (events.filterMap RunEvent.started?)[i]? = some number →
      number.toNat = min (n.toNat + i + 1) (UInt32.size - 1) := by
  induction h with
  | none _ => simp
  | ended n =>
    intro i number found
    obtain ⟨rfl, rfl⟩ : i = 0 ∧ cappedSucc n = number := by
      simpa [RunEvent.started?, List.getElem?_cons] using found
    exact toNat_cappedSucc n
  | @passed n e events ends _ ih =>
    intro i number found
    have own : (RunEvent.stepStarted (cappedSucc n) :: e :: events).filterMap RunEvent.started? =
        cappedSucc n :: events.filterMap RunEvent.started? := by
      cases ends <;> rfl
    rw [own] at found
    cases i with
    | zero =>
      obtain rfl : cappedSucc n = number := by simpa using found
      exact toNat_cappedSucc n
    | succ i =>
      rw [ih i number found, toNat_cappedSucc]
      omega

/-- The events of the beginning of a run, in which a handler may fail. -/
inductive BeginEvents : (failed : Bool) → List RunEvent → Prop
  | started (messages : Nat) : BeginEvents false [.executionStarted messages]
  | failed (kind : ErrorKind) (message : String) : BeginEvents true [.errorOccurred kind message]

theorem BeginEvents.numberless {failed : Bool} {events : List RunEvent} (h : BeginEvents failed events) :
    events.filterMap RunEvent.started? = [] := by
  cases h <;> rfl

namespace Pipeline

variable {σ : Type} {p : Pipeline σ} {phase : Phase} {s t : ExecutionState} {journal : List RunMark}

/-! ## Phases and failures -/

theorem PhaseTrace.runEvents {r : Except Interruption ExecutionState} (h : p.PhaseTrace phase s journal r) :
    runEvents journal = [] := by
  obtain ⟨rest, rfl, own⟩ := h.opens
  have entered : AgentLoop.runEvents (.entered phase s :: rest) = AgentLoop.runEvents rest := rfl
  rw [entered, runEvents_collaborations own]

/-- A failure is reported once. -/
theorem FailureTrace.runEvents {step : Step} {r : Except AgentError ExecutionState}
    (h : p.FailureTrace s step journal r) :
    runEvents journal = [.errorOccurred step.cause.kind step.cause.message] := by
  obtain ⟨rest, rfl, own⟩ := h.opens
  rw [runEvents_append, runEvents_collaborations own]
  rfl

theorem RecoveryTrace.runEvents {i : Interruption} (h : p.RecoveryTrace i journal (.ok t)) :
    runEvents journal = [.errorOccurred i.error.kind i.error.message] := by
  cases h with
  | recovered _ failure => exact failure.runEvents

/-! ## Passes -/

theorem RecordTrace.runEvents {number : UInt32} {step : Step} (h : p.RecordTrace number s step journal (.ok t)) :
    ∃ e, StepEnd number e ∧ runEvents journal = [e] := by
  cases h with
  | @interrupted _ _ i _ executed recovery =>
    refine ⟨_, .failed i.error.kind i.error.message, ?_⟩
    rw [runEvents_append, executed.runEvents, recovery.runEvents, List.nil_append]
  | @interruptedLate _ _ _ _ i _ executed after recovery =>
    refine ⟨_, .failed i.error.kind i.error.message, ?_⟩
    rw [runEvents_append, runEvents_append, executed.runEvents, after.runEvents, recovery.runEvents, List.nil_append,
      List.nil_append]
  | completed executed after =>
    refine ⟨_, .completed step.stepType, ?_⟩
    rw [runEvents_append, runEvents_append, executed.runEvents, after.runEvents]
    rfl

theorem FollowTrace.runEvents {number : UInt32} {result : Except AgentError Step}
    (h : p.FollowTrace number s result journal (.ok t)) : ∃ e, StepEnd number e ∧ runEvents journal = [e] := by
  cases h with
  | failed _ _ failure => exact ⟨_, .failed _ _, failure.runEvents⟩
  | recorded _ _ record => exact record.runEvents

/-- A pass reports its step and how that ends, unless hooks or handlers end the run before. -/
theorem PassTrace.runEvents (h : p.PassTrace s journal (.ok t)) :
    (t.isTerminal = true ∧ runEvents journal = [.stepStarted (cappedSucc s.stats.stepCounter)]) ∨
      ∃ e, StepEnd (cappedSucc s.stats.stepCounter) e ∧
        runEvents journal = [.stepStarted (cappedSucc s.stats.stepCounter), e] := by
  have first (rest : List RunMark) :
      AgentLoop.runEvents (passMark s :: rest) =
        .stepStarted (cappedSucc s.stats.stepCounter) :: AgentLoop.runEvents rest := rfl
  cases h with
  | @interrupted _ _ i _ before recovery =>
    refine .inr ⟨_, .failed i.error.kind i.error.message, ?_⟩
    rw [first, runEvents_append, before.runEvents, recovery.runEvents, List.nil_append]
  | ended before terminal =>
    refine .inl ⟨terminal, ?_⟩
    rw [first, before.runEvents]
  | @called _ _ marks u result _ before _ _ follows =>
    obtain ⟨e, ends, own⟩ := follows.runEvents
    have call : AgentLoop.runEvents (callMarks marks u result) = [] := by
      simp [AgentLoop.runEvents, callMarks, RunMark.runEvent?]
    refine .inr ⟨e, ends, ?_⟩
    rw [first, runEvents_append, runEvents_append, before.runEvents, call, own, List.nil_append, List.nil_append]

/-! ## Runs -/

/-- From a terminal state, no pass begins. -/
theorem LoopTrace.runEvents_of_terminal {rounds : Nat} {r : Option (Except AgentError ExecutionState)}
    (h : p.LoopTrace rounds s journal r) (terminal : s.isTerminal = true) : runEvents journal = [] := by
  have not_granted {t : ExecutionState} (check : p.CheckTrace s (.proceed t)) : False := by
    obtain ⟨-, running, -⟩ := check.granted_of_proceed
    rw [terminal] at running
    cases running
  cases h with
  | cutOff _ => rfl
  | stopped _ => rfl
  | failed check _ => exact (not_granted check).elim
  | passed check _ _ => exact (not_granted check).elim

theorem LoopTrace.passEvents {rounds : Nat} (h : p.LoopTrace rounds s journal (some (.ok t)))
    (left : ∀ m ∈ journal, m.LeavesCounter) : PassEvents s.stats.stepCounter (runEvents journal) := by
  generalize hr : some (Except.ok t) = r at h
  induction h with
  | cutOff s => cases hr
  | stopped _ => exact .none _
  | failed _ _ => cases hr
  | @passed _ s _ u first last _ check pass loop ih =>
    obtain ⟨rfl, -⟩ := check.granted_of_proceed
    simp only [List.forall_mem_cons, List.forall_mem_append] at left
    obtain ⟨-, left, left'⟩ := left
    have counted : u.stats.stepCounter = cappedSucc _ := pass.keeps stepCounter_unrecorded left
    have others := ih left' hr
    rw [counted] at others
    change PassEvents _ (runEvents (first ++ last))
    rw [runEvents_append]
    rcases pass.runEvents with ⟨terminal, own⟩ | ⟨e, ends, own⟩
    -- a pass without the end of its step is the last one
    · rw [own, loop.runEvents_of_terminal terminal]
      exact .ended _
    · rw [own]
      exact .passed ends others

theorem BeginTrace.beginEvents (h : p.BeginTrace s journal (.ok t)) :
    BeginEvents (failedIn .beforeExecution journal) (runEvents journal) := by
  cases h with
  | interrupted began recovery =>
    rw [failedIn_eq_true_iff.2 ⟨_, _, List.mem_append_left _ began.failed_mem⟩, runEvents_append, began.runEvents,
      recovery.runEvents]
    exact .failed _ _
  | @begun _ marks _ began =>
    have fine : failedIn .beforeExecution (marks ++ [.event (.executionStarted t.messages.length)]) = false := by
      refine Bool.eq_false_iff.2 fun failed => ?_
      obtain ⟨u, e, failed⟩ := failedIn_eq_true_iff.1 failed
      cases began.result_of_failed (by simpa using failed)
    rw [fine, runEvents_append, began.runEvents]
    exact .started _

/-- The end of a run is reported last, with the state that is returned. -/
theorem EndTrace.finishes (h : p.EndTrace s journal (.ok t)) :
    ∃ front, journal = front ++ [endMark t] ∧ runEvents front = [] := by
  cases h with
  | failed ended _ _ => exact ⟨_, rfl, ended.runEvents⟩
  | finished ended _ => exact ⟨_, rfl, ended.runEvents⟩

/-- The events of a run that returns a state. -/
structure Bracketed (journal : List RunMark) (t : ExecutionState) : Prop where
  /-- Of all events, also those within steps, the last one is the end of the run. -/
  last : ∃ front, journal.filterMap RunMark.event? =
    front ++ [.run (.executionFinished t.status t.steps.length t.termination)]
  /-- The run's own events are those of its beginning, of its passes, and that one. -/
  events : ∃ first passes, runEvents journal =
      first ++ (passes ++ [.executionFinished t.status t.steps.length t.termination]) ∧
    BeginEvents (failedIn .beforeExecution journal) first ∧ PassEvents 0 passes
  /-- Steps are numbered from one on. -/
  numbers : ∀ i number, ((runEvents journal).filterMap RunEvent.started?)[i]? = some number →
    number.toNat = min (i + 1) (UInt32.size - 1)

theorem RunTrace.bracketed {rounds : Nat} (h : p.RunTrace rounds s journal (some (.ok t)))
    (left : ∀ m ∈ journal, m.LeavesCounter) : Bracketed journal t := by
  cases h with
  | @looped first middle last u _ _ began loop close =>
    have failed : failedIn .beforeExecution (first ++ (middle ++ last)) = failedIn .beforeExecution first := by
      rw [failedIn_append, failedIn_append, failedIn_of_within loop.within (by decide),
        failedIn_of_within close.within (by decide), Bool.or_false, Bool.or_false]
    cases close with
    | ended finish =>
      simp only [List.forall_mem_append] at left
      obtain ⟨left, left', -⟩ := left
      obtain ⟨now, counted⟩ := began.keeps stepCounter_unrecorded left
      have counted : u.stats.stepCounter = 0 := counted
      have passes := loop.passEvents left'
      rw [counted] at passes
      obtain ⟨front, rfl, own⟩ := finish.finishes
      have ending : runEvents [endMark t] = [.executionFinished t.status t.steps.length t.termination] := rfl
      have events : runEvents (first ++ (middle ++ (front ++ [endMark t]))) =
          runEvents first ++ (runEvents middle ++ [.executionFinished t.status t.steps.length t.termination]) := by
        rw [runEvents_append, runEvents_append, runEvents_append, own, ending, List.nil_append]
      have begins := began.beginEvents
      rw [← failed] at begins
      refine ⟨⟨(first ++ (middle ++ front)).filterMap RunMark.event?, by simp [endMark, RunMark.event?]⟩,
        ⟨_, _, events, begins, passes⟩, fun i number found => ?_⟩
      have numbered : (runEvents (first ++ (middle ++ (front ++ [endMark t])))).filterMap RunEvent.started? =
          (runEvents middle).filterMap RunEvent.started? := by
        rw [events, List.filterMap_append, List.filterMap_append, begins.numberless, List.nil_append]
        exact List.append_nil _
      rw [numbered] at found
      exact (passes.numbers i number found).trans (by simp)

variable (p)

/-- As long as handlers and hooks leave the counter of steps alone, a run that returns a state reports its beginning,
unless a handler fails there: then it reports that failure instead. After that it reports each step, numbered from one
on, and how it ends: that it is completed, or that it fails. Hooks and handlers may end the run before the last step has
ended. The last event is the end of the run, with the state that is returned. -/
theorem events_bracket_run (token : Token) (rounds : Nat) (s t : ExecutionState) (frame : Frame) (w : World σ)
    (left : ∀ m ∈ ((p.run token rounds s).exec frame w).journal, m.LeavesCounter)
    (returned : ((p.run token rounds s).exec frame w).value = some (.ok t)) :
    Bracketed ((p.run token rounds s).exec frame w).journal t := by
  have trace := p.runTrace_exec token rounds s frame w
  rw [returned] at trace
  exact trace.bracketed left

/-- The driver fails, and a handler for failures too. -/
theorem events_bracket_run_stumbled :
    (∀ m ∈ (stumbled .onError).journal, m.LeavesCounter) ∧
      ∃ t, (stumbled .onError).value = some (.ok t) ∧ t.status = .completed ∧ Bracketed (stumbled .onError).journal t ∧
        runEvents (stumbled .onError).journal =
          [.executionStarted 1, .stepStarted 1, .errorOccurred .validation "validation failed: rejected",
            .stepStarted 2, .stepCompleted 2 .finalResponse,
            .executionFinished .completed 2 (some .finalResponse)] := by
  have left : ∀ m ∈ (stumbled .onError).journal, m.LeavesCounter := leaves_stumbled _ _
  obtain ⟨t, returned, completed⟩ : ∃ t, (stumbled .onError).value = some (.ok t) ∧ t.status = .completed := by
    decide +kernel
  have bracketed := (stumbling .onError).events_bracket_run (.run 0) 4 _ t _ _ left returned
  exact ⟨left, t, returned, completed, bracketed, by decide +kernel⟩

/-- Where a handler fails at its beginning, a run goes on, and its beginning is not reported. -/
theorem beginning_not_reported :
    (∀ m ∈ (stumbled .beforeExecution).journal, m.LeavesCounter) ∧
      (∃ t, (stumbled .beforeExecution).value = some (.ok t) ∧ t.status = .completed) ∧
      runEvents (stumbled .beforeExecution).journal =
        [.errorOccurred .validation "validation failed: broken", .stepStarted 1,
          .errorOccurred .validation "validation failed: rejected", .stepStarted 2, .stepCompleted 2 .finalResponse,
          .executionFinished .completed 3 (some .finalResponse)] :=
  ⟨leaves_stumbled _ _, by decide +kernel, by decide +kernel⟩

end Pipeline

end AgentLoop
