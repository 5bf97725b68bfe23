import AgentLoop.Backend.Script
import AgentLoop.Driver.ReAct
import AgentLoop.Proofs.Driver.Accounting
import AgentLoop.Proofs.Driver.Decisions
import AgentLoop.Proofs.Tool.Functional

/-!
# How a step follows from a reply

- `ReAct.Answered`: a step whose request for a decision was answered;
- `ReAct.Follows`: the ways in which the step can go on, by what the reply spells;
- `ReAct.step_follows_reply`: which way it is, the reply alone decides.
-/

namespace AgentLoop

open Program (Writes)

variable {σ : Type}

/-- A request writes events and what it sends, and nothing else. -/
theorem Inference.writes_call {P : StepMark → Prop} (event : ∀ e, P (.event e))
    (requested : ∀ params, P (.requested params)) (i : Inference σ) (params : ChatParams) :
    (i.call params).Writes P := by
  refine (Writes.note (event _)).bind fun _ => (Writes.note (requested _)).bind fun _ =>
    (writes_wait (fun _ => event _) i params).bind fun result => ?_
  cases result with
  | error e => exact Writes.done _
  | ok response => exact (Writes.note (event _)).bind fun _ => Writes.done _

namespace ReAct

variable {d : ReAct σ} {state : ExecutionState} {tools : ToolRegistry σ} {frame : Frame} {w : World σ}

/-- A step whose request for a decision was answered: with what, and what the request left behind. -/
structure Answered (d : ReAct σ) (state : ExecutionState) (tools : ToolRegistry σ) (frame : Frame) (w : World σ) where
  response : ChatResponse
  world : World σ
  journal : List StepMark
  exec_call : (d.inference.call (d.request (d.cachedContext ++ state.inferenceMessages)
    (some (d.systemPrompt tools)))).exec frame { w with ticks := w.ticks + 1 } = ⟨.ok response, world, journal⟩

namespace Answered

/-- The text of the reply. -/
def raw (a : Answered d state tools frame w) : String := a.response.text?.getD ""

/-- What is kept of the reply for accounting. -/
def info (a : Answered d state tools frame w) : InferenceInfo := .ofResponse a.response

end Answered

/-- The world after a reading of the clock. -/
def tick (w : World σ) : World σ := { w with ticks := w.ticks + 1 }

/-- The ways in which a step goes on after a reply, by what the reply spells. -/
inductive Follows (a : Answered d state tools frame w) (executor : Executor σ) :
    Except String Decision → Outcome σ StepMark (Except AgentError Step) → Prop
  /-- The reply spells no decision: a failed step tells the model so; nothing else happens. -/
  | rejected {message : String} : Follows a executor (.error message)
      ⟨.ok { stepType := .error, inputMessages := d.cachedContext ++ state.inferenceMessages,
             outputMessages := [.assistant a.raw, .user (feedback message)], toolExecutions := [],
             inference := some a.info, thought := none, failure := some ⟨.validation, message⟩,
             startedAt := frame.clock w.ticks, completedAt := frame.clock a.world.ticks },
        tick a.world, a.journal ++ [.event (.validationFailed message)]⟩
  /-- A call of a registered tool was executed and gave one record. -/
  | called {thought : Option String} {tool : String} {arguments : Json} {record : ToolExecution} {after : World σ}
      {marks : List StepMark} (registered : tool ∈ tools.names)
      (executed : (executor.execute [⟨callId (frame.random a.world.drawn), tool, arguments⟩] state tools).exec frame
        { a.world with drawn := a.world.drawn + 1 } = ⟨.ok [record], after, marks⟩) :
      Follows a executor (.ok (.call thought tool arguments))
        ⟨.ok { stepType := .toolExecution, inputMessages := d.cachedContext ++ state.inferenceMessages,
               outputMessages := [.assistant a.raw, .user (observation record.result)], toolExecutions := [record],
               inference := some a.info, thought := thought, failure := none,
               startedAt := frame.clock w.ticks, completedAt := frame.clock after.ticks },
          tick after, a.journal ++ marks⟩
  /-- A call of a registered tool was a misuse. -/
  | misused {thought : Option String} {tool : String} {arguments : Json} {name detail : String} {after : World σ}
      {marks : List StepMark} (registered : tool ∈ tools.names)
      (executed : (executor.execute [⟨callId (frame.random a.world.drawn), tool, arguments⟩] state tools).exec frame
        { a.world with drawn := a.world.drawn + 1 } = ⟨.error (.toolMisuse name detail), after, marks⟩) :
      Follows a executor (.ok (.call thought tool arguments))
        ⟨.error (.toolMisuse name detail), after, a.journal ++ marks⟩
  /-- The answer of the reply is given. -/
  | answered {thought : Option String} {answer : String} (once : d.finalize = false) :
      Follows a executor (.ok (.final thought answer))
        ⟨.ok { stepType := .finalResponse, inputMessages := d.cachedContext ++ state.inferenceMessages,
               outputMessages := [.assistant answer], toolExecutions := [],
               inference := some a.info, thought := thought, failure := none,
               startedAt := frame.clock w.ticks, completedAt := frame.clock a.world.ticks },
          tick a.world, a.journal⟩
  /-- The answer is asked for again and given as it comes then. -/
  | finalized {thought : Option String} {answer text : String} {info : InferenceInfo} {after : World σ}
      {marks : List StepMark} (again : d.finalize = true)
      (asked : (d.finalized (d.cachedContext ++ state.inferenceMessages) a.raw answer a.info).exec frame a.world =
        ⟨.ok (text, info), after, marks⟩) :
      Follows a executor (.ok (.final thought answer))
        ⟨.ok { stepType := .finalResponse, inputMessages := d.cachedContext ++ state.inferenceMessages,
               outputMessages := [.assistant text], toolExecutions := [],
               inference := some info, thought := thought, failure := none,
               startedAt := frame.clock w.ticks, completedAt := frame.clock after.ticks },
          tick after, a.journal ++ marks⟩
  /-- The answer is asked for again in vain. -/
  | unfinished {thought : Option String} {answer : String} {e : BackendError} {after : World σ}
      {marks : List StepMark} (again : d.finalize = true)
      (asked : (d.finalized (d.cachedContext ++ state.inferenceMessages) a.raw answer a.info).exec frame a.world =
        ⟨.error (.inference e), after, marks⟩) :
      Follows a executor (.ok (.final thought answer)) ⟨.error (.inference e), after, a.journal ++ marks⟩

theorem withThought_eq (thought : Option String) {s : Step} (none : s.thought = none) :
    withThought thought s = { s with thought } := by
  obtain ⟨_, _, _, _, _, _, _, _, _⟩ := s
  cases none
  cases thought <;> rfl

/-- Asking for an answer again gives an answer, or the request fails. -/
theorem finalized_value (d : ReAct σ) (inputs : List ChatMessage) (raw answer : String) (first : InferenceInfo)
    (frame : Frame) (w : World σ) :
    (∃ text info, ((d.finalized inputs raw answer first).exec frame w).value = .ok (text, info)) ∨
      ∃ e, ((d.finalized inputs raw answer first).exec frame w).value = .error (.inference e) := by
  unfold finalized
  simp only [Program.bind_eq, Program.exec_bind]
  cases ((d.inference.call _).exec frame w).value with
  | error e => exact .inr ⟨e, rfl⟩
  | ok response => exact .inl ⟨_, _, rfl⟩

section Step

variable (a : Answered d state tools frame w) (executor : Executor σ)

/-- A reply that spells no decision is rejected. -/
theorem follows_error {message : String} (decided : Decision.ofReply a.raw tools.names = .error message) :
    Follows a executor (.error message) ((d.step state tools executor).exec frame w) := by
  unfold step
  rw [Answered.raw] at decided
  simp only [Program.bind_eq, Program.exec_bind, Program.exec_readClock, a.exec_call, decided]
  exact .rejected

/-- A reply that spells a call has it executed, and nothing besides. -/
theorem follows_call {thought : Option String} {tool : String} {arguments : Json}
    (decided : Decision.ofReply a.raw tools.names = .ok (.call thought tool arguments)) :
    Follows a executor (.ok (.call thought tool arguments)) ((d.step state tools executor).exec frame w) := by
  have registered := Decision.registered_of_ofReply decided
  have one := executor.execute_records state [⟨callId (frame.random a.world.drawn), tool, arguments⟩] tools frame
    { a.world with drawn := a.world.drawn + 1 }
  generalize executed : (executor.execute [⟨callId (frame.random a.world.drawn), tool, arguments⟩] state tools).exec
    frame { a.world with drawn := a.world.drawn + 1 } = outcome at one
  obtain ⟨_, after, marks⟩ := outcome
  unfold step
  rw [Answered.raw] at decided
  simp only [Program.bind_eq, Program.exec_bind, Program.exec_readClock, a.exec_call, decided,
    Program.exec_randomNumber, executed]
  rcases one with ⟨records, ⟨⟩, single⟩ | ⟨name, detail, ⟨⟩⟩
  · obtain ⟨record, rfl⟩ := List.length_eq_one_iff.1 single
    simp only [Program.exec_bind, Program.exec_readClock, Program.pure_eq, Program.exec_done, List.nil_append,
      List.append_nil]
    rw [withThought_eq thought rfl]
    exact .called registered executed
  · simp only [Program.pure_eq, Program.exec_done, List.nil_append, List.append_nil]
    exact .misused registered executed

/-- A reply that spells an answer has it given, or asked for again first. -/
theorem follows_final {thought : Option String} {answer : String}
    (decided : Decision.ofReply a.raw tools.names = .ok (.final thought answer)) :
    Follows a executor (.ok (.final thought answer)) ((d.step state tools executor).exec frame w) := by
  have asked := d.finalized_value (d.cachedContext ++ state.inferenceMessages) a.raw answer a.info frame a.world
  generalize exec : (d.finalized (d.cachedContext ++ state.inferenceMessages) a.raw answer a.info).exec frame a.world =
    outcome at asked
  obtain ⟨_, after, marks⟩ := outcome
  unfold step
  rw [Answered.raw] at decided
  rw [Answered.raw, Answered.info] at exec
  simp only [Program.bind_eq, Program.exec_bind, Program.exec_readClock, a.exec_call, decided]
  cases again : d.finalize with
  | false =>
    simp only [Bool.false_eq_true, if_false, Program.exec_bind, Program.exec_readClock, Program.pure_eq,
      Program.exec_done, List.nil_append, List.append_nil]
    rw [withThought_eq thought rfl]
    exact .answered again
  | true =>
    simp only [if_true, exec]
    rcases asked with ⟨text, info, ⟨⟩⟩ | ⟨e, ⟨⟩⟩
    · simp only [Program.exec_bind, Program.exec_readClock, Program.pure_eq, Program.exec_done, List.nil_append,
        List.append_nil]
      rw [withThought_eq thought rfl]
      exact .finalized again exec
    · simp only [Program.pure_eq, Program.exec_done, List.nil_append, List.append_nil]
      exact .unfinished again exec

theorem follows_exec :
    Follows a executor (Decision.ofReply a.raw tools.names) ((d.step state tools executor).exec frame w) := by
  cases decided : Decision.ofReply a.raw tools.names with
  | error message => exact follows_error a executor decided
  | ok decision =>
    cases decision with
    | call thought tool arguments => exact follows_call a executor decided
    | final thought answer => exact follows_final a executor decided

end Step

/-! ## Without a call -/

section NoCall

variable {a : Answered d state tools frame w} {x y : Executor σ} {decided : Except String Decision}
  {outcome outcome' : Outcome σ StepMark (Except AgentError Step)}

/-- Unless a reply spells a call, the step does not depend on the executor. -/
theorem Follows.unique (follows : Follows a x decided outcome) (follows' : Follows a y decided outcome')
    (noCall : ∀ thought tool arguments, decided ≠ .ok (.call thought tool arguments)) : outcome = outcome' := by
  cases follows with
  | rejected =>
    cases follows'
    rfl
  | called | misused => exact absurd rfl (noCall _ _ _)
  | answered once =>
    cases follows' with
    | answered => rfl
    | finalized again => cases once.symm.trans again
    | unfinished again => cases once.symm.trans again
  | finalized again asked =>
    cases follows' with
    | answered once => cases once.symm.trans again
    | finalized _ asked' =>
      cases asked.symm.trans asked'
      rfl
    | unfinished _ asked' => cases asked.symm.trans asked'
  | unfinished again asked =>
    cases follows' with
    | answered once => cases once.symm.trans again
    | finalized _ asked' => cases asked.symm.trans asked'
    | unfinished _ asked' =>
      cases asked.symm.trans asked'
      rfl

/-- Requests invoke no tools. -/
theorem invokedCalls_of_writes {α : Type} {x : Program σ StepMark α} {outcome : Outcome σ StepMark α} {w : World σ}
    (writes : x.Writes fun m => m.invoked? = none) (exec : x.exec frame w = outcome) :
    invokedCalls outcome.journal = [] :=
  invokedCalls_eq_nil (exec ▸ Program.Ensures.exec writes frame w)

theorem Answered.invokedCalls_journal (a : Answered d state tools frame w) : invokedCalls a.journal = [] :=
  invokedCalls_of_writes (Inference.writes_call (fun _ => rfl) (fun _ => rfl) _ _) a.exec_call

theorem writes_finalized {inputs : List ChatMessage} {raw answer : String} {first : InferenceInfo} :
    (d.finalized inputs raw answer first).Writes fun m => m.invoked? = none := by
  refine (Inference.writes_call (fun _ => rfl) (fun _ => rfl) _ _).bind fun result => ?_
  cases result <;> exact Writes.done _

/-- Unless a reply spells a call, no tool is invoked. -/
theorem Follows.invokedCalls_journal (follows : Follows a x decided outcome)
    (noCall : ∀ thought tool arguments, decided ≠ .ok (.call thought tool arguments)) :
    invokedCalls outcome.journal = [] := by
  cases follows with
  | rejected =>
    rw [invokedCalls_append, a.invokedCalls_journal]
    rfl
  | called | misused => exact absurd rfl (noCall _ _ _)
  | answered => exact a.invokedCalls_journal
  | finalized _ asked | unfinished _ asked =>
    rw [invokedCalls_append, a.invokedCalls_journal, invokedCalls_of_writes writes_finalized asked]
    rfl

end NoCall

/-- After an answered request, the step goes on as the reply says: what its text spells decides which way. Unless it
spells a call, no tool is invoked and the executor makes no difference. -/
theorem step_follows_reply (a : Answered d state tools frame w) (executor : Executor σ) :
    let outcome := (d.step state tools executor).exec frame w
    let decided := Decision.ofReply a.raw tools.names
    Follows a executor decided outcome ∧
      (∀ decision, decided = .ok decision ↔ Decision.Written a.raw tools.names decision) ∧
      ((∀ thought tool arguments, decided ≠ .ok (.call thought tool arguments)) →
        invokedCalls outcome.journal = [] ∧ ∀ other, (d.step state tools other).exec frame w = outcome) := by
  intro outcome decided
  have follows := follows_exec a executor
  refine ⟨follows, fun decision => Decision.ofReply_eq_ok, fun noCall => ⟨follows.invokedCalls_journal noCall, ?_⟩⟩
  exact fun other => (follows_exec a other).unique follows noCall

/-- A driver whose backend answers from a script. -/
def scripted : ReAct Script where
  inference := { backend := .scripted (Backend.scriptedInfo "mock" "model") .whole }

/-- A tool that gives back its arguments. -/
def echoTools : ToolRegistry Script := .ofList [.ofFunction ⟨"echo", "gives back its arguments", .bool true⟩ .ok]

/-- Clocks that stand still. -/
def standing : Frame := ⟨fun _ => ⟨0, 0⟩, fun _ => 0, {}⟩

/-- A step in which the model asks for the tool. -/
def asksForEcho : Answered scripted (.ofUser "question") echoTools standing
    { own := { queue := [.text "model" "so: \x7b\"type\": \"call\", \"tool\": \"echo\"\x7d"] } } where
  response := _
  world := _
  journal := _
  exec_call := rfl

theorem step_follows_reply_asksForEcho :
    let outcome := (scripted.step (.ofUser "question") echoTools { schemas := .lenient }).exec standing
      { own := { queue := [.text "model" "so: \x7b\"type\": \"call\", \"tool\": \"echo\"\x7d"] } }
    Decision.Written asksForEcho.raw ["echo"] (.call none "echo" (.obj [])) ∧
      Follows asksForEcho { schemas := .lenient } (.ok (.call none "echo" (.obj []))) outcome := by
  intro outcome
  obtain ⟨follows, written, -⟩ := step_follows_reply asksForEcho { schemas := .lenient }
  have decided : Decision.ofReply asksForEcho.raw echoTools.names = .ok (.call none "echo" (.obj [])) := rfl
  rw [decided] at follows
  exact ⟨(written _).1 decided, follows⟩

end ReAct

end AgentLoop
