import AgentLoop.Proofs.Driver.Requests
import AgentLoop.Proofs.Tool.Execution
import AgentLoop.Proofs.Usage

/-!
# What a call of a built-in driver comes to

- `StepMark.completed?`, `completions`: the usages of the responses that a backend completed, as the marks of a step
  report them. Only a call of a backend reports one (`Inference.completions_call`), the execution of tool calls none
  (`Executor.completesNothing_execute`);
- `BuiltIn.Comes`: the ways in which a call of a driver may go, each with what its step records of the request and of
  the responses. There are no others (`BuiltIn.comes`).
-/

namespace AgentLoop

open Program

variable {σ α β : Type}

/-- The usage of the response that a mark reports to be complete. -/
def StepMark.completed? : StepMark → Option Usage
  | event (.inferenceCompleted _ usage _ _) => some usage
  | _ => none

/-- The usages of the responses that a backend completed, as marks of a step report them. -/
def completions (marks : List StepMark) : List Usage := marks.filterMap StepMark.completed?

theorem completions_append (a b : List StepMark) : completions (a ++ b) = completions a ++ completions b :=
  List.filterMap_append

/-- No mark of a program reports a response. -/
def Program.CompletesNothing (x : Program σ StepMark α) : Prop := x.Writes fun m => m.completed? = none

theorem Program.CompletesNothing.completions_eq {x : Program σ StepMark α} {marks : List StepMark} {a : α}
    (h : x.CompletesNothing) (left : x.MayLeave marks a) : completions marks = [] := by
  obtain ⟨_, silent⟩ := Ensures.mayLeave h left
  exact List.filterMap_eq_nil_iff.2 silent

/-! ## Waiting for a response -/

namespace Inference

variable {i : Inference σ} {params : ChatParams} {marks : List StepMark} {r : Except BackendError ChatResponse}

/-- While a stream is put together, only its text is reported. -/
theorem writes_drain {P : StepMark → Prop} (partly : ∀ text, P (.event (.partialResponse text)))
    (pieces : List (Except BackendError StreamEvent)) (a : Assembly) :
    (drain pieces a : Program σ StepMark _).Writes P := by
  induction pieces generalizing a with
  | nil => exact Writes.done _
  | cons piece rest ih =>
    cases piece with
    | error e => exact Writes.done _
    | ok piece =>
      have reports : (reportText piece : Program σ StepMark Unit).Writes P := by
        cases piece with
        | textDelta text => exact Writes.note (partly text)
        | _ => exact Writes.done _
      exact reports.bind fun _ => ih _

theorem writes_wait {P : StepMark → Prop} (partly : ∀ text, P (.event (.partialResponse text))) (i : Inference σ)
    (params : ChatParams) : (i.wait params).Writes P := by
  unfold wait
  cases i.mode with
  | blocking => exact Writes.perform _
  | streaming =>
    refine (Writes.perform _).bind fun opened => ?_
    cases opened with
    | error e => exact Writes.done _
    | ok pieces => exact (writes_drain partly pieces {}).bind fun _ => Writes.done _

/-- However a driver waits, the response is not reported before it is complete. -/
theorem completesNothing_wait (i : Inference σ) (params : ChatParams) : (i.wait params).CompletesNothing :=
  writes_wait (fun _ => rfl) i params

/-- A call of a backend reports the response, if it gets one. -/
theorem completions_call (h : (i.call params).MayLeave marks r) :
    (∃ response, r = .ok response ∧ completions marks = [response.usage]) ∨
      ∃ e, r = .error e ∧ completions marks = [] := by
  obtain ⟨_, _, _, asked, h₁, rfl⟩ := MayLeave.of_bind h
  obtain rfl := mayLeave_note.1 asked
  obtain ⟨_, _, _, sent, h₂, rfl⟩ := MayLeave.of_bind h₁
  obtain rfl := mayLeave_note.1 sent
  obtain ⟨waiting, result, _, waited, h₃, rfl⟩ := MayLeave.of_bind h₂
  have silent : completions waiting = [] := (i.completesNothing_wait params).completions_eq waited
  cases result with
  | error e =>
    obtain ⟨rfl, rfl⟩ := h₃
    refine .inr ⟨e, rfl, ?_⟩
    rw [List.append_nil]
    exact silent
  | ok response =>
    obtain ⟨_, _, _, wrote, ⟨rfl, rfl⟩, rfl⟩ := MayLeave.of_bind h₃
    obtain rfl := mayLeave_note.1 wrote
    refine .inl ⟨response, rfl, ?_⟩
    show completions (waiting ++ _) = _
    rw [completions_append, silent]
    rfl

end Inference

/-! ## Executing tool calls -/

namespace Executor

variable (x : Executor σ) (state : ExecutionState) (tools : ToolRegistry σ)

theorem completesNothing_report {e : StepEvent} (h : (StepMark.event e).completed? = none) :
    (report e : Program σ StepMark Unit).CompletesNothing := Writes.note h

theorem completesNothing_dispatch (t : HookTrigger) (ctx : HookContext) :
    (x.hooks.run .dispatched t ctx : Program σ StepMark HookContext).CompletesNothing :=
  (Writes.perform _).bind fun _ => (Writes.note (by rfl)).bind fun _ => Writes.done _

theorem completesNothing_prepare (call : ToolCall) : (x.prepare state tools call).CompletesNothing := by
  have pending : (x.pending state call).CompletesNothing := by
    unfold Executor.pending
    split
    · exact (x.completesNothing_dispatch _ _).bind fun _ => Writes.done _
    · exact Writes.done _
  have rejects (call : ToolCall) (message : String) :
      (reject call message : Program σ StepMark (PreparedCall σ)).CompletesNothing :=
    Writes.readClock.bind fun _ => Writes.done _
  rw [prepare_eq]
  refine pending.bind fun p => ?_
  unfold judge
  split
  · exact (completesNothing_report rfl).bind fun _ => rejects _ _
  · split
    · exact rejects _ _
    · split
      · exact (completesNothing_report rfl).bind fun _ => rejects _ _
      · exact Writes.done _

theorem completesNothing_start (call : ToolCall) : (start call : Program σ StepMark Instant).CompletesNothing :=
  (completesNothing_report rfl).bind fun _ => Writes.readClock.bind fun _ =>
    (Writes.note (by rfl)).bind fun _ => Writes.done _

theorem completesNothing_conclude (call : ToolCall) (startedAt : Instant) (result : Except ToolError Json) :
    (conclude call startedAt result : Program σ StepMark _).CompletesNothing := by
  refine Writes.readClock.bind fun completedAt => ?_
  dsimp only
  split
  · exact (completesNothing_report rfl).bind fun _ => Writes.done _
  · split
    · exact Writes.done _
    · exact (completesNothing_report rfl).bind fun _ => Writes.done _

theorem completesNothing_work (i : Invocation σ) : (work i : Program σ StepMark _).CompletesNothing := by
  induction i with
  | last a => exact Writes.perform a
  | turn a next ih =>
    rw [work]
    refine (Writes.perform _).bind fun seen => ?_
    obtain ⟨slot, own, result⟩ := seen
    cases result with
    | some result => exact Writes.done _
    | none => exact ih slot own

theorem completesNothing_inOrder (calls : List (PreparedCall σ)) : (inOrder calls).CompletesNothing := by
  have finishes (c : PreparedCall σ) : (finish c).CompletesNothing := by
    cases c with
    | settled e => exact Writes.done _
    | ready call tool =>
      exact (completesNothing_start call).bind fun _ => (completesNothing_work _).bind fun _ =>
        completesNothing_conclude _ _ _
  induction calls with
  | nil => exact Writes.done _
  | cons c rest ih =>
    refine (finishes c).bind fun r => ?_
    cases r with
    | error e => exact Writes.done _
    | ok execution =>
      refine ih.bind fun r => ?_
      cases r with
      | error e => exact Writes.done _
      | ok executions => exact Writes.done _

theorem completesNothing_advance (c : RunningCall σ) : (advance c).CompletesNothing := by
  have begins : (begun c).CompletesNothing := by
    unfold begun
    split
    · exact Writes.done _
    · exact completesNothing_start _
  refine begins.bind fun startedAt => ?_
  obtain ⟨index, call, _, rest⟩ := c
  cases rest with
  | last a => exact (Writes.perform a).bind fun _ => (completesNothing_conclude _ _ _).bind fun _ => Writes.done _
  | turn a next =>
    refine (Writes.perform _).bind fun seen => ?_
    obtain ⟨slot, own, result⟩ := seen
    cases result with
    | some result => exact (completesNothing_conclude _ _ _).bind fun _ => Writes.done _
    | none => exact Writes.done _

theorem completesNothing_interleave (schedule : Nat → Nat) (turn : Nat) (results : Results)
    (running : List (RunningCall σ)) : (interleave schedule turn results running).CompletesNothing := by
  induction running using waiting_induction generalizing turn results with
  | step running ih =>
    cases picked : running[schedule turn % running.length]? with
    | none =>
      rw [interleave_none picked]
      exact Writes.done _
    | some c =>
      rw [interleave_some picked]
      refine (completesNothing_advance c).bind fun r => ?_
      cases r with
      | inl result => exact ih _ (Waiting.fewer_of_ended picked) _ _
      | inr left => exact ih _ (Waiting.fewer_of_left picked left) _ _

/-- The execution of tool calls asks no backend. -/
theorem completesNothing_execute (calls : List ToolCall) : (x.execute calls state tools).CompletesNothing := by
  have brings (prepared : List (PreparedCall σ)) : (x.bring prepared).CompletesNothing := by
    unfold bring
    cases x.parallel with
    | true => exact (completesNothing_interleave _ _ _ _).bind fun _ => Writes.done _
    | false => exact completesNothing_inOrder prepared
  have reviews (records : List ToolExecution) : (x.reviewAll state records).CompletesNothing := by
    unfold reviewAll
    split
    · refine Writes.bind (Writes.mapM (fun e => ?_) records) fun _ => Writes.done _
      exact (x.completesNothing_dispatch _ _).bind fun _ => Writes.done _
    · exact Writes.done _
  rw [execute_eq]
  refine Writes.bind (Writes.mapM (x.completesNothing_prepare state tools) calls) fun prepared => ?_
  refine (brings prepared).bind fun result => ?_
  cases result with
  | error e => exact Writes.done _
  | ok records => exact reviews records

/-- Only a misuse ends an execution with an error. -/
theorem isProgramming_of_execute {calls : List ToolCall} {marks : List StepMark} {e : AgentError}
    (h : (x.execute calls state tools).MayLeave marks (.error e)) : e.isProgramming = true := by
  have misused (c : Course (PreparedCall σ) σ) {e : AgentError} (goes : c.Goes (.error e)) :
      e.isProgramming = true := by
    obtain ⟨c, acts⟩ := c
    cases c with
    | settled _ => cases goes.2
    | ready call tool =>
      obtain ⟨startedAt, completedAt, result, -, same⟩ := goes
      cases result with
      | ok value => cases same
      | error failure =>
        simp only [concluded] at same
        split at same
        · cases same
          rfl
        · cases same
  rw [execute_eq] at h
  obtain ⟨_, prepared, _, -, brought, rfl⟩ := MayLeave.of_bind h
  obtain ⟨_, _, _, result, _, -, executed, -, -, returned⟩ :=
    (x.ensures_executePrepared state prepared).mayLeave brought
  cases executed with
  | records _ =>
    obtain ⟨-, _, same, -⟩ := returned.records rfl
    cases same
  | @misuse _ _ c _ e' _ _ goes =>
    obtain ⟨same, -⟩ := returned.misuse rfl
    cases same
    exact misused c goes

end Executor

/-! ## Calls -/

namespace BuiltIn

/-- Does the driver ask again for its final answers? -/
def finalizes : BuiltIn σ → Bool
  | toolCalling _ => false
  | react d => d.finalize

/-- How a call of a driver may go: it returns a step with what was sent to the backend and with the tokens of all
responses, or an error. Only where an answer is asked for again can a request fail after a response. -/
inductive Comes (b : BuiltIn σ) (state : ExecutionState) (tools : ToolRegistry σ) (marks : List StepMark) :
    Except AgentError Step → Prop
  | step {step : Step} : step.inputMessages = (b.request state tools).messages →
      .sum (completions marks) = step.usage → Comes b state tools marks (.ok step)
  /-- The first request failed. -/
  | unanswered {e : BackendError} : completions marks = [] → Comes b state tools marks (.error (.inference e))
  /-- The request for a final answer as plain text failed. -/
  | unfinished {first : Usage} {e : BackendError} : b.finalizes = true → completions marks = [first] →
      Comes b state tools marks (.error (.inference e))
  /-- A tool was misused. -/
  | misuse {e : AgentError} : e.isProgramming = true → Comes b state tools marks (.error e)

variable {state : ExecutionState} {tools : ToolRegistry σ} {executor : Executor σ} {marks : List StepMark}
  {result : Except AgentError Step}

theorem comes_toolCalling (d : ToolCalling σ) (h : (d.step state tools executor).MayLeave marks result) :
    (toolCalling d).Comes state tools marks result := by
  obtain ⟨_, startedAt, _, read, h₁, rfl⟩ := MayLeave.of_bind h
  obtain rfl := mayLeave_readClock.1 read
  obtain ⟨first, reply, _, called, h₂, rfl⟩ := MayLeave.of_bind h₁
  rcases Inference.completions_call called with ⟨response, rfl, answered⟩ | ⟨e, rfl, unanswered⟩
  · dsimp only at h₂
    split at h₂
    · obtain ⟨_, _, _, read, ⟨rfl, rfl⟩, rfl⟩ := MayLeave.of_bind h₂
      obtain rfl := mayLeave_readClock.1 read
      refine .step rfl ?_
      simp only [List.nil_append, List.append_nil, answered, Usage.sum_singleton]
      rfl
    · obtain ⟨second, executions, _, executed, h₃, rfl⟩ := MayLeave.of_bind h₂
      have silent : completions second = [] := (executor.completesNothing_execute state tools _).completions_eq executed
      cases executions with
      | error e =>
        obtain ⟨rfl, rfl⟩ := h₃
        exact .misuse (executor.isProgramming_of_execute state tools executed)
      | ok executions =>
        obtain ⟨_, _, _, read, ⟨rfl, rfl⟩, rfl⟩ := MayLeave.of_bind h₃
        obtain rfl := mayLeave_readClock.1 read
        refine .step rfl ?_
        simp only [List.nil_append, List.append_nil, completions_append, answered, silent, Usage.sum_singleton]
        rfl
  · obtain ⟨rfl, rfl⟩ := h₂
    refine .unanswered ?_
    rw [List.nil_append, List.append_nil, unanswered]

/-- Asking for an answer again: either both responses are accounted for, or there was no second one. -/
theorem completions_finalized {d : ReAct σ} {inputs : List ChatMessage} {raw answer : String} {first : InferenceInfo}
    {r : Except AgentError (String × InferenceInfo)} (h : (d.finalized inputs raw answer first).MayLeave marks r) :
    (∃ text info, r = .ok (text, info) ∧ first.usage + .sum (completions marks) = info.usage) ∨
      ∃ e, r = .error (.inference e) ∧ completions marks = [] := by
  obtain ⟨_, reply, _, called, h₁, rfl⟩ := MayLeave.of_bind h
  rcases Inference.completions_call called with ⟨response, rfl, answered⟩ | ⟨e, rfl, unanswered⟩
  · obtain ⟨rfl, rfl⟩ := h₁
    refine .inl ⟨_, _, rfl, ?_⟩
    rw [List.append_nil, answered, Usage.sum_singleton]
    rfl
  · obtain ⟨rfl, rfl⟩ := h₁
    exact .inr ⟨e, rfl, by rw [List.append_nil, unanswered]⟩

/-- The model's reasoning is not accounted for. -/
theorem usage_withThought (thought : Option String) (step : Step) :
    (ReAct.withThought thought step).usage = step.usage := by
  cases thought <;> rfl

theorem inputMessages_withThought (thought : Option String) (step : Step) :
    (ReAct.withThought thought step).inputMessages = step.inputMessages := by
  cases thought <;> rfl

theorem comes_react (d : ReAct σ) (h : (d.step state tools executor).MayLeave marks result) :
    (react d).Comes state tools marks result := by
  obtain ⟨_, startedAt, _, read, h₁, rfl⟩ := MayLeave.of_bind h
  obtain rfl := mayLeave_readClock.1 read
  obtain ⟨first, reply, _, called, h₂, rfl⟩ := MayLeave.of_bind h₁
  rcases Inference.completions_call called with ⟨response, rfl, answered⟩ | ⟨e, rfl, unanswered⟩
  · dsimp only at h₂
    split at h₂
    · obtain ⟨second, _, _, rejected, ⟨rfl, rfl⟩, rfl⟩ := MayLeave.of_bind h₂
      obtain ⟨_, _, _, wrote, h₃, rfl⟩ := MayLeave.of_bind rejected
      obtain rfl := mayLeave_note.1 wrote
      obtain ⟨_, _, _, read, ⟨rfl, rfl⟩, rfl⟩ := MayLeave.of_bind h₃
      obtain rfl := mayLeave_readClock.1 read
      refine .step rfl ?_
      simp only [List.nil_append, List.append_nil, completions_append, answered]
      exact Usage.sum_singleton _
    · obtain ⟨drawing, n, _, drawn, h₃, rfl⟩ := MayLeave.of_bind h₂
      obtain ⟨_, rfl, rfl⟩ := drawn
      obtain ⟨second, executions, _, executed, h₄, rfl⟩ := MayLeave.of_bind h₃
      have silent : completions second = [] := (executor.completesNothing_execute state tools _).completions_eq executed
      cases executions with
      | error e =>
        obtain ⟨rfl, rfl⟩ := h₄
        exact .misuse (executor.isProgramming_of_execute state tools executed)
      | ok executions =>
        obtain ⟨_, _, _, read, ⟨rfl, rfl⟩, rfl⟩ := MayLeave.of_bind h₄
        obtain rfl := mayLeave_readClock.1 read
        refine .step (inputMessages_withThought _ _) ?_
        simp only [List.nil_append, List.append_nil, completions_append, answered, silent, usage_withThought]
        exact Usage.sum_singleton _
    · obtain ⟨second, final, _, finalized, h₃, rfl⟩ := MayLeave.of_bind h₂
      split at finalized
      · rename_i asksAgain
        rcases completions_finalized finalized with ⟨text, info, rfl, all⟩ | ⟨e, rfl, none⟩
        · obtain ⟨_, _, _, read, ⟨rfl, rfl⟩, rfl⟩ := MayLeave.of_bind h₃
          obtain rfl := mayLeave_readClock.1 read
          refine .step (inputMessages_withThought _ _) ?_
          simp only [List.nil_append, List.append_nil, completions_append, answered, usage_withThought]
          rw [List.singleton_append, Usage.sum_cons]
          exact all
        · obtain ⟨rfl, rfl⟩ := h₃
          refine .unfinished asksAgain (?_ : completions _ = [response.usage])
          simp only [List.nil_append, List.append_nil, completions_append, answered, none]
      · obtain ⟨rfl, rfl⟩ := finalized
        obtain ⟨_, _, _, read, ⟨rfl, rfl⟩, rfl⟩ := MayLeave.of_bind h₃
        obtain rfl := mayLeave_readClock.1 read
        refine .step (inputMessages_withThought _ _) ?_
        simp only [List.nil_append, List.append_nil, answered, usage_withThought]
        exact Usage.sum_singleton _
  · obtain ⟨rfl, rfl⟩ := h₂
    refine .unanswered ?_
    rw [List.nil_append, List.append_nil, unanswered]

/-- Every call of a built-in driver goes in one of these ways. -/
theorem comes (b : BuiltIn σ) (h : (b.driver.useTools state tools executor).MayLeave marks result) :
    b.Comes state tools marks result := by
  cases b with
  | toolCalling d => exact comes_toolCalling d h
  | react d => exact comes_react d h

end BuiltIn

end AgentLoop
