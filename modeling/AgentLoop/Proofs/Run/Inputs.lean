import AgentLoop.Proofs.Driver.Accounting
import AgentLoop.Proofs.Run.Errors
import AgentLoop.Proofs.Run.Requests

/-!
# What steps record of their requests

- `requestBefore`: the first request of the call of the driver that a journal leads up to;
- `RecordsNext`: the step that is recorded next after a call. A call that raises no programming error has one
  (`FollowTrace.records`);
- `recorded_inputs`: the inputs of the recorded step are the messages of that request, also for a reply that is
  rejected. Where the backend fails, the cached context is missing in them.
-/

namespace AgentLoop

/-- Does a mark belong to a step? -/
def RunMark.isStep : RunMark → Bool
  | step _ => true
  | _ => false

theorem RunMark.isStep_of_isPlain {m : RunMark} (h : m.isPlain = true) : m.isStep = false := by
  cases m with
  | step _ => cases h
  | _ => rfl

/-- The state with which a phase is entered, as a mark says. -/
def RunMark.entered? : RunMark → Option ExecutionState
  | entered _ s => some s
  | _ => none

/-- The first request of the call of the driver that a journal leads up to: the marks of the call are the last ones. -/
def requestBefore (before : List RunMark) : Option ChatParams :=
  (before.rtakeWhile RunMark.isStep).findSome? RunMark.request?

/-- In what follows a state, a step is recorded before anything else happens: the next phase is entered with it. -/
def RecordsNext (s : ExecutionState) (after : List RunMark) (step : Step) : Prop :=
  ∃ t, after.findSome? RunMark.entered? = some t ∧ t.steps = s.steps ++ [step]

/-- The request before a call is the first one of its marks. -/
theorem requestBefore_eq (front : List RunMark) {quiet : List RunMark} (some : quiet ≠ [])
    (none : ∀ m ∈ quiet, m.isStep = false) (marks : List StepMark) :
    requestBefore (front ++ (quiet ++ marks.map RunMark.step)) = marks.findSome? StepMark.request? := by
  obtain ⟨init, last, rfl⟩ : ∃ init last, quiet = init ++ [last] := by
    rcases List.eq_nil_or_concat quiet with h | h
    · exact absurd h some
    · simpa using h
  have stops : ¬last.isStep = true := by simp [none last (by simp)]
  have all : ∀ m ∈ (marks.map RunMark.step).reverse, m.isStep = true := by simp [RunMark.isStep]
  have own : (front ++ ((init ++ [last]) ++ marks.map RunMark.step)).rtakeWhile RunMark.isStep =
      marks.map RunMark.step := by
    unfold List.rtakeWhile
    rw [List.reverse_append, List.reverse_append, List.append_assoc, List.takeWhile_append_of_pos all,
      List.reverse_append]
    simp [stops]
  rw [requestBefore, own, List.findSome?_map]
  rfl

namespace Pipeline

open Program

variable {σ : Type} {p : Pipeline σ} {phase : Phase} {s t : ExecutionState} {rounds : Nat}
  {journal before after : List RunMark} {result : Except AgentError Step}

theorem PhaseTrace.entered {r : Except Interruption ExecutionState} (h : p.PhaseTrace phase s journal r)
    (rest : List RunMark) : (journal ++ rest).findSome? RunMark.entered? = some s := by
  cases h <;> rfl

/-- A failed step is recorded before anything else happens. -/
theorem FailureTrace.records {step : Step} {r : Except AgentError ExecutionState}
    (h : p.FailureTrace s step journal r) (rest : List RunMark) : RecordsNext s (journal ++ rest) step := by
  refine ⟨s.withFailedStep p.errorPolicy step step.cause, ?_, s.steps_withFailedStep _ _ _⟩
  cases h <;> rfl

/-- So is a step that did not fail. -/
theorem RecordTrace.records {number : UInt32} {step : Step} {r : Except AgentError ExecutionState}
    (h : p.RecordTrace number s step journal r) (rest : List RunMark) : RecordsNext s (journal ++ rest) step := by
  refine ⟨s.withOutcome step p.keepToolTraces, ?_, s.steps_withOutcome _ _⟩
  cases h with
  | interrupted executed _ => rw [List.append_assoc, executed.entered]
  | interruptedLate executed _ _ => rw [List.append_assoc, executed.entered]
  | completed executed _ => rw [List.append_assoc, executed.entered]

/-- After a call, what its result counts as is recorded, unless it is a programming error. -/
theorem FollowTrace.records {number : UInt32} {r : Except AgentError ExecutionState}
    (h : p.FollowTrace number s result journal r) (rest : List RunMark) :
    ∃ counted, CountsAs s result counted ∧ ∀ step, counted = .ok step → RecordsNext s (journal ++ rest) step := by
  cases h with
  | bug counts => exact ⟨_, counts, fun step h => by cases h⟩
  | failed counts _ failure =>
    refine ⟨_, counts, fun step h => ?_⟩
    cases h
    exact failure.records rest
  | recorded counts _ record =>
    refine ⟨_, counts, fun step h => ?_⟩
    cases h
    exact record.records rest

/-- The marks of a call stand in front of it, and what the call counts as is recorded behind it. -/
theorem RunTrace.call_recorded {r : Option (Except AgentError ExecutionState)} (h : p.RunTrace rounds s journal r)
    (call : journal = before ++ .drove t result :: after) :
    ∃ marks counted, (p.driver.useTools t p.tools p.executor).MayLeave marks result ∧
      requestBefore before = marks.findSome? StepMark.request? ∧ CountsAs t result counted ∧
      ∀ step, counted = .ok step → RecordsNext t after step := by
  obtain ⟨first, middle, last, _, _, -, loop, -, -, before', after', rfl, rfl, rfl⟩ := h.of_call call
  obtain ⟨front, opening, follow, rest, u, _, pass, rfl, rfl⟩ := loop.pass_of_call rfl
  obtain ⟨phase, marks, rfl, began, leaves, follows⟩ := pass.of_call rfl
  have quiet : ∀ m ∈ passMark u :: phase, m.isStep = false := by
    intro m hm
    rcases List.mem_cons.1 hm with rfl | hm
    · rfl
    · exact RunMark.isStep_of_isPlain (began.plain m hm)
  have sent : requestBefore (first ++ (front ++ passMark u :: (phase ++ marks.map .step))) =
      marks.findSome? StepMark.request? := by
    have := requestBefore_eq (first ++ front) (List.cons_ne_nil _ _) quiet marks
    rwa [List.append_assoc] at this
  obtain ⟨counted, counts, recorded⟩ := follows.records (rest ++ last)
  refine ⟨marks, counted, leaves, sent, counts, ?_⟩
  rw [List.append_assoc]
  exact recorded

/-- What is recorded of a call of a built-in driver, be it a step or a failure. -/
theorem RunTrace.inputs_of_call (b : BuiltIn σ) (builtIn : p.driver = b.driver)
    {r : Option (Except AgentError ExecutionState)} (h : p.RunTrace rounds s journal r)
    (call : journal = before ++ .drove t result :: after) :
    ∃ params, requestBefore before = some params ∧
      (∀ step, result = .ok step → RecordsNext t after step ∧ step.inputMessages = params.messages) ∧
      ∀ e, result = .error e → e.isProgramming = false →
        ∃ step, RecordsNext t after step ∧ step.isError = true ∧
          b.cachedContext ++ step.inputMessages = params.messages := by
  obtain ⟨marks, counted, leaves, sent, counts, recorded⟩ := h.call_recorded call
  rw [builtIn] at leaves
  refine ⟨b.request t p.tools, by rw [sent, b.first_request leaves], fun step returned => ?_,
    fun e failed runtime => ?_⟩
  · subst returned
    cases counts with
    | step _ =>
      cases b.comes leaves with
      | step inputs _ => exact ⟨recorded step rfl, inputs⟩
  · subst failed
    cases counts with
    | bug programming => rw [programming] at runtime; cases runtime
    | failure _ _ _ => exact ⟨_, recorded _ rfl, rfl, b.messages_request.symm⟩

/-! ## Runs -/

variable (p)

/-- For every call of a built-in driver in a run, the next thing that happens is that a step is recorded, unless a
programming error ends the run. The inputs of a step that the driver returns, rejected replies included, are the
messages of the first request of the call. If the driver fails, they are these messages without the cached context. -/
theorem recorded_inputs (b : BuiltIn σ) (builtIn : p.driver = b.driver) (token : Token) (rounds : Nat)
    (s : ExecutionState) (frame : Frame) (w : World σ) :
    ∀ before t result after,
      ((p.run token rounds s).exec frame w).journal = before ++ .drove t result :: after →
      ∃ params, requestBefore before = some params ∧
        (∀ step, result = .ok step → RecordsNext t after step ∧ step.inputMessages = params.messages) ∧
        (∀ e, result = .error e → e.isProgramming = false →
          ∃ step, RecordsNext t after step ∧ step.isError = true ∧
            b.cachedContext ++ step.inputMessages = params.messages) ∧
        ∀ e, result = .error e → e.isProgramming = true → after = [] := by
  intro before t result after call
  obtain ⟨params, sent, returned, failed⟩ := (p.runTrace_exec token rounds s frame w).inputs_of_call b builtIn call
  have faithful := (p.tells_run token rounds s).exec frame w
  refine ⟨params, sent, returned, failed, fun e raised programming => ?_⟩
  have raises : (RunMark.drove t result).raised? = some e := by
    rw [raised]
    exact AgentError.bug?_eq_some.2 ⟨programming, rfl⟩
  exact faithful.last call raises

/-- The journal of a run in which a request fails, and is repeated before there is an answer. -/
def retriedJournal : List RunMark :=
  ((scriptedEcho.run (.run 0) 4 (.ofUser "question")).exec ⟨fun _ => ⟨0, 0⟩, fun _ => 0, {}⟩
    { own := failureCallAnswer }).journal

theorem retriedJournal_fails :
    ∃ before t e after, retriedJournal = before ++ .drove t (.error e) :: after ∧ e.isProgramming = false := by
  have results : (driverCalls retriedJournal).map (fun c => c.result.isOk) = [false, true, true] := by decide +kernel
  have runtime : retriedJournal.all (fun m => m.raised?.isNone) = true := by decide +kernel
  obtain ⟨c, rest, calls, failed, -⟩ := List.map_eq_cons_iff.1 results
  have hc : .drove c.state c.result ∈ retriedJournal := mem_of_mem_driverCalls (by rw [calls]; simp)
  obtain ⟨before, after, call⟩ := List.append_of_mem hc
  cases result : c.result with
  | ok step => simp [result, Except.isOk, Except.toBool] at failed
  | error e =>
    rw [result] at call hc
    have quiet := List.all_eq_true.1 runtime _ hc
    exact ⟨before, _, e, after, call, AgentError.bug?_eq_none.1 (Option.isNone_iff_eq_none.1 quiet)⟩

theorem retriedJournal_succeeds : ∃ before t step after, retriedJournal = before ++ .drove t (.ok step) :: after := by
  have answered : (driverCalls retriedJournal).any (fun c => c.result.isOk) = true := by decide +kernel
  obtain ⟨c, hc, ok⟩ := List.any_eq_true.1 answered
  obtain ⟨before, after, call⟩ := List.append_of_mem (mem_of_mem_driverCalls hc)
  cases result : c.result with
  | error e => simp [result, Except.isOk, Except.toBool] at ok
  | ok step => exact ⟨before, _, step, after, by rw [call, result]⟩

theorem recorded_inputs_retriedJournal :
    (∃ before t e after params step, retriedJournal = before ++ .drove t (.error e) :: after ∧
        requestBefore before = some params ∧ RecordsNext t after step ∧
        [.system "Be brief."] ++ step.inputMessages = params.messages) ∧
      ∃ before t step after params, retriedJournal = before ++ .drove t (.ok step) :: after ∧
        requestBefore before = some params ∧ RecordsNext t after step ∧ step.inputMessages = params.messages := by
  have inputs := scriptedEcho.recorded_inputs scriptedDriver rfl (.run 0) 4 (.ofUser "question")
    ⟨fun _ => ⟨0, 0⟩, fun _ => 0, {}⟩ { own := failureCallAnswer }
  constructor
  · obtain ⟨before, t, e, after, call, runtime⟩ := retriedJournal_fails
    obtain ⟨params, sent, -, fails, -⟩ := inputs before t _ after call
    obtain ⟨step, recorded, -, missing⟩ := fails e rfl runtime
    exact ⟨before, t, e, after, params, step, call, sent, recorded, missing⟩
  · obtain ⟨before, t, step, after, call⟩ := retriedJournal_succeeds
    obtain ⟨params, sent, returns, -⟩ := inputs before t _ after call
    obtain ⟨recorded, same⟩ := returns step rfl
    exact ⟨before, t, step, after, params, call, sent, recorded, same⟩

/-- The step that is recorded for the failure does not show the request that failed. -/
theorem failed_inputs_lack_context :
    ∃ before t e after params step, retriedJournal = before ++ .drove t (.error e) :: after ∧
      e.isProgramming = false ∧ requestBefore before = some params ∧ RecordsNext t after step ∧
      step.inputMessages ≠ params.messages := by
  obtain ⟨before, t, e, after, call, runtime⟩ := retriedJournal_fails
  have trace := scriptedEcho.runTrace_exec (.run 0) 4 (.ofUser "question") ⟨fun _ => ⟨0, 0⟩, fun _ => 0, {}⟩
    { own := failureCallAnswer }
  obtain ⟨params, sent, -, fails⟩ := trace.inputs_of_call scriptedDriver rfl call
  obtain ⟨step, recorded, -, missing⟩ := fails e rfl runtime
  refine ⟨before, t, e, after, params, step, call, runtime, sent, recorded, fun same => ?_⟩
  have lengths := congrArg List.length missing
  rw [List.length_append, same] at lengths
  have some : scriptedDriver.cachedContext.length = 1 := rfl
  omega

end Pipeline

end AgentLoop
