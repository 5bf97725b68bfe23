import AgentLoop.Proofs.Driver.Accounting
import AgentLoop.Proofs.Run.Errors
import AgentLoop.Proofs.Run.Requests

/-!
# What a run spends

The tokens of a run whose driver is built in and whose hooks and handlers leave the recorded steps alone:

- `spent`: the tokens of all responses that the backend completed; `ExecutionState.usageOf`: the tokens that steps
  account for; `forfeited`: those of calls that completed a response and still came to no step;
- `Balanced`: from one state to another, what is spent is what the recorded steps account for and what is forfeited. It
  is so in a call (`BuiltIn.balanced_call`), and in every pass, so that it holds of runs (`RunTrace.balanced`);
- `tokens_accounted_for`: only a request for an answer as plain text, sent after the answer, forfeits tokens.
-/

namespace AgentLoop

/-- The usage of the response that a mark reports to be complete. -/
def RunMark.completed? : RunMark → Option Usage
  | step m => m.completed?
  | _ => none

/-- The tokens of all responses that the backend completed. -/
def spent (journal : List RunMark) : Usage := .sum (journal.filterMap RunMark.completed?)

/-- The tokens of the responses for which a call has no step to show. -/
def DriverCall.forfeited (c : DriverCall) : Usage :=
  match c.result with
  | .ok _ => .zero
  | .error _ => .sum (completions c.marks)

/-- The tokens of responses for which calls have no steps to show. -/
def forfeited (calls : List DriverCall) : Usage := .sum (calls.map DriverCall.forfeited)

section Sums

variable {journal journal' : List RunMark} {calls : List DriverCall}

theorem spent_append : spent (journal ++ journal') = spent journal + spent journal' := by
  unfold spent
  rw [List.filterMap_append, Usage.sum_append]

theorem spent_plain (plain : ∀ m ∈ journal, m.isPlain = true) : spent journal = .zero := by
  have none : journal.filterMap RunMark.completed? = [] := by
    refine List.filterMap_eq_nil_iff.2 fun m hm => ?_
    cases m with
    | step _ => cases plain _ hm
    | _ => rfl
  rw [spent, none, Usage.sum_nil]

theorem spent_call (marks : List StepMark) (s : ExecutionState) (result : Except AgentError Step) :
    spent (Pipeline.callMarks marks s result) = .sum (completions marks) := by
  have own : (marks.map RunMark.step).filterMap RunMark.completed? = completions marks := List.filterMap_map
  have last : [RunMark.drove s result].filterMap RunMark.completed? = [] := rfl
  rw [spent, Pipeline.callMarks, List.filterMap_append, own, last, List.append_nil]

theorem forfeited_append {calls' : List DriverCall} :
    forfeited (calls ++ calls') = forfeited calls + forfeited calls' := by
  unfold forfeited
  rw [List.map_append, Usage.sum_append]

theorem forfeited_eq_zero (none : ∀ c ∈ calls, c.forfeited = .zero) : forfeited calls = .zero := by
  induction calls with
  | nil => rfl
  | cons c rest ih =>
    obtain ⟨first, others⟩ := List.forall_mem_cons.1 none
    have rest : forfeited (c :: rest) = c.forfeited + forfeited rest := Usage.sum_cons _ _
    rw [rest, first, ih others, Usage.zero_add]

end Sums

namespace ExecutionState

theorem usageOf_append (a b : List Step) : usageOf (a ++ b) = usageOf a + usageOf b := by
  unfold usageOf
  rw [List.filterMap_append, Usage.sum_append]

theorem usageOf_cons (step : Step) (rest : List Step) : usageOf (step :: rest) = step.usage + usageOf rest := by
  rw [← List.singleton_append, usageOf_append]
  congr 1
  unfold usageOf Step.usage
  cases h : step.inference with
  | none => simp [h]
  | some info => simp [h, Usage.sum_singleton]

theorem usageOf_silent {failed : List Step} (silent : SilentFailures failed) : usageOf failed = .zero := by
  have none : (failed.filterMap fun s => s.inference.map (·.usage)) = [] :=
    List.filterMap_eq_nil_iff.2 fun step hs => by rw [(silent step hs).2.2]; rfl
  rw [usageOf, none, Usage.sum_nil]

end ExecutionState

open ExecutionState (usageOf usageOf_append usageOf_cons usageOf_silent)

/-- From one state to another, steps were recorded. What was spent meanwhile is what these steps account for, and what
calls forfeited. -/
def Balanced (s : ExecutionState) (journal : List RunMark) (t : ExecutionState) : Prop :=
  ∃ recorded calls, t.steps = s.steps ++ recorded ∧
    (∀ rest, driverCalls (journal ++ rest) = calls ++ driverCalls rest) ∧
    spent journal = usageOf recorded + forfeited calls

namespace Balanced

variable {s t u : ExecutionState} {journal journal' : List RunMark} {failed : List Step}

theorem trans (h : Balanced s journal t) (h' : Balanced t journal' u) : Balanced s (journal ++ journal') u := by
  obtain ⟨recorded, calls, steps, shown, sum⟩ := h
  obtain ⟨recorded', calls', steps', shown', sum'⟩ := h'
  refine ⟨recorded ++ recorded', calls ++ calls', ?_, fun rest => ?_, ?_⟩
  · rw [steps', steps, List.append_assoc]
  · rw [List.append_assoc, shown, shown', List.append_assoc]
  · calc spent (journal ++ journal')
        = usageOf recorded + forfeited calls + (usageOf recorded' + forfeited calls') := by
          rw [spent_append, sum, sum']
      _ = usageOf recorded + (usageOf recorded' + (forfeited calls + forfeited calls')) := by
          rw [Usage.add_assoc, ← Usage.add_assoc (forfeited calls), Usage.add_comm (forfeited calls),
            Usage.add_assoc (usageOf recorded')]
      _ = usageOf (recorded ++ recorded') + forfeited (calls ++ calls') := by
          rw [usageOf_append, forfeited_append, Usage.add_assoc]

/-- Without a call of the driver, nothing is spent, and no recorded step says that something was. -/
theorem of_plain (plain : ∀ m ∈ journal, m.isPlain = true) (silent : SilentFailures failed)
    (steps : t.steps = s.steps ++ failed) : Balanced s journal t := by
  refine ⟨failed, [], steps, fun rest => driverCalls_plain_append plain rest, ?_⟩
  rw [spent_plain plain, usageOf_silent silent]
  rfl

theorem of_same (plain : ∀ m ∈ journal, m.isPlain = true) (same : t.steps = s.steps) : Balanced s journal t :=
  of_plain plain .nil (by rw [same, List.append_nil])

/-- Nor does the beginning of a step matter. -/
theorem passMark (h : Balanced s.withStepStarted journal t) : Balanced s (Pipeline.passMark s :: journal) t := by
  obtain ⟨recorded, calls, steps, shown, sum⟩ := h
  exact ⟨recorded, calls, steps, fun rest => shown rest, sum⟩

end Balanced

/-- A call of a built-in driver, with the steps that are recorded for it. -/
theorem BuiltIn.balanced_call {σ : Type} (b : BuiltIn σ) {s t : ExecutionState} {tools : ToolRegistry σ}
    {executor : Executor σ} {marks : List StepMark} {result : Except AgentError Step} {step : Step}
    {failed : List Step} (leaves : (b.driver.useTools s tools executor).MayLeave marks result)
    (counts : Pipeline.CountsAs s result (.ok step)) (silent : SilentFailures failed)
    (steps : t.steps = s.steps ++ step :: failed) : Balanced s (Pipeline.callMarks marks s result) t := by
  refine ⟨step :: failed, [⟨marks, s, result⟩], steps, fun rest => driverCalls_call marks s result rest, ?_⟩
  have single (c : DriverCall) : forfeited [c] = c.forfeited := Usage.sum_singleton _
  rw [spent_call, single, usageOf_cons, usageOf_silent silent, Usage.add_zero]
  cases counts with
  | step _ =>
    cases b.comes leaves with
    | step _ used => rw [used, DriverCall.forfeited, Usage.add_zero]
  | failure _ _ _ => rw [DriverCall.forfeited, Step.usage, Step.failed, Usage.zero_add]

namespace Pipeline

variable {σ : Type} {p : Pipeline σ} {b : BuiltIn σ} {s t : ExecutionState} {journal : List RunMark}

theorem FollowTrace.balanced (builtIn : p.driver = b.driver) {number : UInt32} {marks : List StepMark}
    {result : Except AgentError Step} (leaves : (p.driver.useTools s p.tools p.executor).MayLeave marks result)
    (h : p.FollowTrace number s result journal (.ok t)) (left : ∀ m ∈ journal, m.LeavesHistory) :
    Balanced s (callMarks marks s result ++ journal) t := by
  obtain ⟨step, failed, counts, silent, steps⟩ := h.steps left
  rw [builtIn] at leaves
  have call : Balanced s (callMarks marks s result) t := b.balanced_call leaves counts silent steps
  exact call.trans (.of_same h.plain rfl)

theorem PassTrace.balanced (builtIn : p.driver = b.driver) (h : p.PassTrace s journal (.ok t))
    (left : ∀ m ∈ journal, m.LeavesHistory) : Balanced s journal t := by
  cases h with
  | @interrupted first last i _ before recovery =>
    simp only [List.forall_mem_cons, List.forall_mem_append] at left
    obtain ⟨-, left, left'⟩ := left
    have kept : i.state.steps = s.withStepStarted.steps := before.steps left
    obtain ⟨failed, silent, steps⟩ := recovery.steps left'
    have first : Balanced s.withStepStarted first i.state := .of_same before.plain kept
    exact (first.trans (.of_plain recovery.plain silent steps)).passMark
  | ended before _ =>
    have kept : t.steps = s.withStepStarted.steps := before.steps (List.forall_mem_cons.1 left).2
    have ended : Balanced s.withStepStarted _ t := .of_same before.plain kept
    exact ended.passMark
  | @called first last marks u result _ before _ leaves follows =>
    simp only [List.forall_mem_cons, List.forall_mem_append] at left
    obtain ⟨-, left, -, left'⟩ := left
    have kept : u.steps = s.withStepStarted.steps := before.steps left
    have first : Balanced s.withStepStarted first u := .of_same before.plain kept
    exact (first.trans (follows.balanced builtIn leaves left')).passMark

theorem LoopTrace.balanced (builtIn : p.driver = b.driver) {rounds : Nat}
    {r : Option (Except AgentError ExecutionState)} (h : p.LoopTrace rounds s journal r) (hr : r = some (.ok t))
    (left : ∀ m ∈ journal, m.LeavesHistory) : Balanced s journal t := by
  have check (s : ExecutionState) : Balanced s [.entered .shouldContinue s] s :=
    .of_same (List.forall_mem_singleton.2 rfl) rfl
  induction h with
  | cutOff s => cases hr
  | @stopped _ s u stops =>
    cases hr
    have kept : t.steps = s.steps := by cases stops <;> rfl
    have stop : Balanced s [] t := .of_same (by simp) kept
    exact (check s).trans stop
  | failed _ _ => cases hr
  | @passed _ s _ _ _ _ _ goesOn pass _ ih =>
    obtain ⟨rfl, -⟩ := goesOn.granted_of_proceed
    obtain ⟨left₁, left₂⟩ := List.forall_mem_append.1 (List.forall_mem_cons.1 left).2
    exact (check _).trans ((pass.balanced builtIn left₁).trans (ih hr left₂))

theorem RunTrace.balanced (builtIn : p.driver = b.driver) {rounds : Nat}
    (h : p.RunTrace rounds s journal (some (.ok t))) (left : ∀ m ∈ journal, m.LeavesHistory) :
    Balanced s journal t := by
  cases h with
  | @looped first middle last u _ _ began loop close =>
    simp only [List.forall_mem_append] at left
    obtain ⟨left₁, left₂, left₃⟩ := left
    obtain ⟨failed, silent, steps⟩ := began.steps left₁
    cases close with
    | @ended v _ _ ended =>
      have start : Balanced s first u := .of_plain began.plain silent steps
      have finish : Balanced v last t := .of_same ended.plain (ended.steps left₃)
      exact start.trans ((loop.balanced builtIn rfl left₂).trans finish)

/-- A call that forfeits tokens has asked for its answer again, and got none. -/
theorem RunTrace.forfeits (builtIn : p.driver = b.driver) {rounds : Nat}
    {r : Option (Except AgentError ExecutionState)} (h : p.RunTrace rounds s journal r)
    (left : ∀ m ∈ journal, m.LeavesHistory) {c : DriverCall} (hc : c ∈ driverCalls journal)
    (runtime : (RunMark.drove c.state c.result).raised? = none) (some : c.forfeited ≠ .zero) :
    b.finalizes = true ∧ (∃ first, completions c.marks = [first]) ∧ ∃ e, c.result = .error (.inference e) := by
  have leaves := (h.chain left).mayLeave hc
  rw [builtIn] at leaves
  obtain ⟨marks, state, result⟩ := c
  cases b.comes leaves with
  | step _ _ => exact absurd rfl some
  | unanswered none =>
    refine absurd ?_ some
    rw [DriverCall.forfeited, none, Usage.sum_nil]
  | unfinished finalizes once => exact ⟨finalizes, ⟨_, once⟩, _, rfl⟩
  | misuse programming =>
    have bug : AgentError.bug? _ = Option.none := runtime
    rw [AgentError.bug?_eq_none.1 bug] at programming
    cases programming

/-! ## Runs -/

variable (p)

/-- A run of a built-in driver whose hooks and handlers record no steps: if it returns a state, the steps that it
recorded account for all tokens of the responses that the backend completed, those aside that calls forfeited. Only a
call that asks for its answer again forfeits tokens, those of the answer, if the second request fails; so nothing is
missing if the driver asks once. -/
theorem tokens_accounted_for (b : BuiltIn σ) (builtIn : p.driver = b.driver) (token : Token) (rounds : Nat)
    (s : ExecutionState) (frame : Frame) (w : World σ)
    (left : ∀ m ∈ ((p.run token rounds s).exec frame w).journal, m.LeavesHistory) :
    let outcome := (p.run token rounds s).exec frame w
    let calls := driverCalls outcome.journal
    ∀ t, outcome.value = some (.ok t) → ∃ recorded, t.steps = s.steps ++ recorded ∧
      spent outcome.journal = usageOf recorded + forfeited calls ∧
      (∀ c ∈ calls, c.forfeited ≠ .zero →
        b.finalizes = true ∧ (∃ first, completions c.marks = [first]) ∧ ∃ e, c.result = .error (.inference e)) ∧
      (b.finalizes = false → spent outcome.journal = usageOf recorded) := by
  intro outcome calls t returned
  have trace := p.runTrace_exec token rounds s frame w
  have faithful : Faithful outcome.journal (runBug outcome.value) := (p.tells_run token rounds s).exec frame w
  rw [returned] at faithful
  have forfeits : ∀ c ∈ calls, c.forfeited ≠ .zero →
      b.finalizes = true ∧ (∃ first, completions c.marks = [first]) ∧ ∃ e, c.result = .error (.inference e) := by
    intro c hc
    have quiet := List.findSome?_eq_none_iff.1 faithful.first_raised _ (mem_of_mem_driverCalls hc)
    exact trace.forfeits builtIn left hc quiet
  have ends : p.RunTrace rounds s outcome.journal (some (.ok t)) := by rwa [← returned]
  obtain ⟨recorded, made, steps, shown, sum⟩ := ends.balanced builtIn left
  have all : driverCalls (outcome.journal ++ []) = made ++ [] := shown []
  rw [List.append_nil, List.append_nil] at all
  rw [← all] at sum
  refine ⟨recorded, steps, sum, forfeits, fun once => ?_⟩
  have none : ∀ c ∈ calls, c.forfeited = .zero := by
    intro c hc
    by_contra some
    obtain ⟨again, -⟩ := forfeits c hc some
    rw [once] at again
    cases again
  rw [sum, forfeited_eq_zero none, Usage.add_zero]

/-- A driver that asks for its answers again. -/
def asksAgain : BuiltIn Script :=
  .react { inference := { backend := .scripted (Backend.scriptedInfo "mock" "model") .whole }, finalize := true }

/-- A pipeline with that driver. -/
def answersPlainly : Pipeline Script where
  driver := asksAgain.driver
  tools := .empty
  schemas := .lenient

/-- An answer that is asked for again in vain, and an answer that is given again. -/
def answeredTwice : Script where
  queue := [.text "model" "\x7b\"type\": \"final\", \"answer\": \"done\"\x7d", .failure (.timeout 10),
    .text "model" "\x7b\"type\": \"final\", \"answer\": \"done\"\x7d", .text "model" "done"]

/-- A run in which the driver gets these replies. -/
def repeatedAnswer : Outcome Script RunMark (Option (Except AgentError ExecutionState)) :=
  (answersPlainly.run (.run 0) 4 (.ofUser "question")).exec ⟨fun _ => ⟨0, 0⟩, fun _ => 0, {}⟩ { own := answeredTwice }

/-- The run has neither hooks nor handlers, and returns a state. -/
theorem repeatedAnswer_returns :
    (∀ m ∈ repeatedAnswer.journal, m.LeavesHistory) ∧
      ∃ t, repeatedAnswer.value = some (.ok t) ∧ (usageOf t.steps).total = 30 := by
  have alone :
      repeatedAnswer.journal.all (fun m => m matches .event _ | .step _ | .entered _ _ | .drove _ _) = true := by
    decide +kernel
  have used : (repeatedAnswer.value.bind fun r => r.toOption.map fun t => (usageOf t.steps).total) = some 30 := by
    decide +kernel
  obtain ⟨r, value, shown⟩ := Option.bind_eq_some_iff.1 used
  obtain ⟨t, returned, tokens⟩ := Option.map_eq_some_iff.1 shown
  constructor
  · intro m hm
    have := List.all_eq_true.1 alone m hm
    cases m <;> trivial
  · cases r with
    | error e => cases returned
    | ok u =>
      cases returned
      exact ⟨t, value, tokens⟩

theorem tokens_accounted_for_repeatedAnswer :
    (∀ m ∈ repeatedAnswer.journal, m.LeavesHistory) ∧ ∃ t, repeatedAnswer.value = some (.ok t) ∧
      spent repeatedAnswer.journal = usageOf t.steps + forfeited (driverCalls repeatedAnswer.journal) := by
  obtain ⟨left, t, returned, -⟩ := repeatedAnswer_returns
  obtain ⟨recorded, steps, sum, -, -⟩ := answersPlainly.tokens_accounted_for asksAgain rfl (.run 0) 4
    (.ofUser "question") ⟨fun _ => ⟨0, 0⟩, fun _ => 0, {}⟩ { own := answeredTwice } left t returned
  have all : t.steps = recorded := steps
  exact ⟨left, t, returned, by rw [all]; exact sum⟩

/-- In that run, the steps account for two responses, and the backend has completed three. -/
theorem tokens_lost_with_the_answer :
    (∀ m ∈ repeatedAnswer.journal, m.LeavesHistory) ∧ ∃ t, repeatedAnswer.value = some (.ok t) ∧
      (usageOf t.steps).total = 30 ∧ (spent repeatedAnswer.journal).total = 45 := by
  obtain ⟨left, t, returned, used⟩ := repeatedAnswer_returns
  exact ⟨left, t, returned, used, by decide +kernel⟩

end Pipeline

end AgentLoop
