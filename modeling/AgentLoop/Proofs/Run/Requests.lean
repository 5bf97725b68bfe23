import AgentLoop.Backend.Script
import AgentLoop.Proofs.Driver.Requests
import AgentLoop.Proofs.Run.Limit
import AgentLoop.Proofs.Run.Recording

/-!
# What the model sees

The requests of a run whose hooks and handlers leave messages, buffer and steps alone:

- `driverCalls`: the calls of the driver that a journal shows, each with what the driver wrote down;
- `CallChain`: between a call and the next one, a run records steps whose outputs are those of the call, as every trace
  shows (`LoopTrace.chain`, `RunTrace.chain`);
- `requests_extend`: until there is a final answer, each request consists of the cached context, what the run began
  with, and the outputs of all steps so far; it extends the one before by the outputs in between, and equals it if the
  driver failed.
-/

namespace AgentLoop

/-- A call of the driver: what it wrote down, the state that it was given, and what it returned. -/
structure DriverCall where
  marks : List StepMark
  state : ExecutionState
  result : Except AgentError Step

namespace DriverCall

/-- The request for the step: the first one that was sent. -/
def request? (c : DriverCall) : Option ChatParams := c.marks.findSome? StepMark.request?

/-- What the call adds to the conversation: nothing if the driver failed. -/
def outputs (c : DriverCall) : List ChatMessage :=
  match c.result with
  | .ok step => step.outputMessages
  | .error _ => []

end DriverCall

/-- The calls in a journal, after some marks of the first one. -/
def driverCallsFrom (marks : List StepMark) : List RunMark → List DriverCall
  | [] => []
  | .step m :: rest => driverCallsFrom (marks ++ [m]) rest
  | .drove s result :: rest => ⟨marks, s, result⟩ :: driverCallsFrom [] rest
  | _ :: rest => driverCallsFrom [] rest

/-- The calls of the driver in a journal. -/
def driverCalls (journal : List RunMark) : List DriverCall := driverCallsFrom [] journal

section Calls

variable {journal journal' : List RunMark}

theorem mem_of_mem_driverCallsFrom {c : DriverCall} {marks : List StepMark} (h : c ∈ driverCallsFrom marks journal) :
    .drove c.state c.result ∈ journal := by
  induction journal generalizing marks with
  | nil => cases h
  | cons m rest ih =>
    cases m with
    | drove s result =>
      rcases List.mem_cons.1 h with rfl | later
      · exact List.mem_cons_self
      · exact List.mem_cons_of_mem _ (ih later)
    | _ => exact List.mem_cons_of_mem _ (ih h)

theorem mem_of_mem_driverCalls {c : DriverCall} (h : c ∈ driverCalls journal) : .drove c.state c.result ∈ journal :=
  mem_of_mem_driverCallsFrom h

theorem driverCalls_plain_append (plain : ∀ m ∈ journal, m.isPlain = true) (rest : List RunMark) :
    driverCalls (journal ++ rest) = driverCalls rest := by
  induction journal with
  | nil => rfl
  | cons m journal ih =>
    obtain ⟨first, plain⟩ := List.forall_mem_cons.1 plain
    have skip : driverCalls (m :: (journal ++ rest)) = driverCalls (journal ++ rest) := by
      cases m with
      | step _ => cases first
      | drove _ _ => cases first
      | _ => rfl
    rw [List.cons_append, skip, ih plain]

theorem driverCalls_plain (plain : ∀ m ∈ journal, m.isPlain = true) : driverCalls journal = [] := by
  have := driverCalls_plain_append plain []
  rwa [List.append_nil] at this

theorem driverCallsFrom_append_plain (plain : ∀ m ∈ journal', m.isPlain = true) (marks : List StepMark) :
    driverCallsFrom marks (journal ++ journal') = driverCallsFrom marks journal := by
  induction journal generalizing marks with
  | nil =>
    cases journal' with
    | nil => rfl
    | cons m rest =>
      obtain ⟨first, plain⟩ := List.forall_mem_cons.1 plain
      have rest : driverCallsFrom [] rest = [] := driverCalls_plain plain
      cases m with
      | step _ => cases first
      | drove _ _ => cases first
      | _ => exact rest
  | cons m journal ih =>
    cases m with
    | drove s result => exact congrArg (⟨marks, s, result⟩ :: ·) (ih [])
    | _ => exact ih _

theorem driverCalls_append_plain (plain : ∀ m ∈ journal', m.isPlain = true) :
    driverCalls (journal ++ journal') = driverCalls journal :=
  driverCallsFrom_append_plain plain []

theorem driverCalls_call (marks : List StepMark) (s : ExecutionState) (result : Except AgentError Step)
    (rest : List RunMark) :
    driverCalls (Pipeline.callMarks marks s result ++ rest) = ⟨marks, s, result⟩ :: driverCalls rest := by
  have from_any (before : List StepMark) :
      driverCallsFrom before (Pipeline.callMarks marks s result ++ rest) =
        ⟨before ++ marks, s, result⟩ :: driverCalls rest := by
    induction marks generalizing before with
    | nil => rw [List.append_nil]; rfl
    | cons m marks ih =>
      have := ih (before ++ [m])
      rwa [List.append_assoc] at this
  exact from_any []

end Calls

/-- Between two states of a run, steps were recorded that add such messages. -/
def Adds (s t : ExecutionState) (messages : List ChatMessage) : Prop :=
  ∃ between, t.steps = s.steps ++ between ∧ outputs between = messages

namespace Adds

variable {s t u : ExecutionState} {messages : List ChatMessage} {failed : List Step}

theorem trans_nil (h : Adds s t messages) (h' : Adds t u []) : Adds s u messages := by
  obtain ⟨between, steps, added⟩ := h
  obtain ⟨between', steps', added'⟩ := h'
  refine ⟨between ++ between', by rw [steps', steps, List.append_assoc], ?_⟩
  rw [outputs_append, added, added', List.append_nil]

theorem of_silent (silent : SilentFailures failed) (steps : t.steps = s.steps ++ failed) : Adds s t [] :=
  ⟨failed, steps, silent.outputs_eq⟩

end Adds

namespace Pipeline

variable {σ : Type} (p : Pipeline σ)

/-- Calls of the driver one after another, from a state on: until the first one, a run adds such messages, and from each
one to the next, what the call adds. -/
inductive CallChain : ExecutionState → List ChatMessage → List DriverCall → Prop
  | nil (s : ExecutionState) (messages : List ChatMessage) : CallChain s messages []
  | cons {s : ExecutionState} {messages : List ChatMessage} {c : DriverCall} {rest : List DriverCall} :
      Adds s c.state messages → (p.driver.useTools c.state p.tools p.executor).MayLeave c.marks c.result →
      CallChain c.state c.outputs rest → CallChain s messages (c :: rest)

variable {p} {s t u : ExecutionState} {journal : List RunMark} {messages : List ChatMessage} {calls : List DriverCall}

namespace CallChain

/-- What is added before the beginning of a chain is added before its first call. -/
theorem after (h : p.CallChain t [] calls) (adds : Adds s t messages) : p.CallChain s messages calls := by
  cases h with
  | nil _ _ => exact .nil s messages
  | cons adds' leaves rest => exact .cons (adds.trans_nil adds') leaves rest

theorem mayLeave (h : p.CallChain s messages calls) {c : DriverCall} (hc : c ∈ calls) :
    (p.driver.useTools c.state p.tools p.executor).MayLeave c.marks c.result := by
  induction h with
  | nil _ _ => cases hc
  | cons _ leaves _ ih =>
    rcases List.mem_cons.1 hc with rfl | later
    · exact leaves
    · exact ih later

/-- From a call to the next one, what the call adds is added. -/
theorem adjacent (h : p.CallChain s messages calls) {front back : List DriverCall} {c c' : DriverCall}
    (split : calls = front ++ c :: c' :: back) : Adds c.state c'.state c.outputs := by
  induction h generalizing front with
  | nil _ _ => simp at split
  | cons _ _ rest ih =>
    cases front with
    | nil =>
      obtain ⟨rfl, rfl⟩ := List.cons.inj split
      cases rest with
      | cons adds _ _ => exact adds
    | cons d front =>
      obtain ⟨-, split⟩ := List.cons.inj split
      exact ih split

end CallChain

/-! ## Traces -/

theorem FollowTrace.adds {number : UInt32} {marks : List StepMark} {result : Except AgentError Step}
    (h : p.FollowTrace number s result journal (.ok t)) (left : ∀ m ∈ journal, m.LeavesHistory) :
    Adds s t (DriverCall.outputs ⟨marks, s, result⟩) := by
  obtain ⟨step, failed, counts, silent, steps⟩ := h.steps left
  refine ⟨step :: failed, steps, ?_⟩
  have rest : outputs (step :: failed) = step.outputMessages := by
    rw [← List.singleton_append, outputs_append, outputs_singleton, silent.outputs_eq, List.append_nil]
  rw [rest]
  cases counts with
  | step _ => rfl
  | failure _ _ _ => rfl

/-- Calls that follow a pass: from the state that it leaves, or none if it fails. -/
def ChainAfter (p : Pipeline σ) (r : Except AgentError ExecutionState) (calls : List DriverCall) : Prop :=
  match r with
  | .ok t => p.CallChain t [] calls
  | .error _ => calls = []

theorem ChainAfter.adds {r : Except AgentError ExecutionState} (h : ChainAfter p r calls)
    (adds : ∀ t, r = .ok t → Adds s t messages) : p.CallChain s messages calls := by
  cases r with
  | ok t => exact CallChain.after h (adds t rfl)
  | error e =>
    obtain rfl : calls = [] := h
    exact .nil s messages

/-- A pass adds nothing, or it makes one call, and then adds what the call adds. -/
theorem PassTrace.chain {r : Except AgentError ExecutionState} (h : p.PassTrace s journal r)
    (left : ∀ m ∈ journal, m.LeavesHistory) {rest : List RunMark} (later : ChainAfter p r (driverCalls rest)) :
    p.CallChain s [] (driverCalls (journal ++ rest)) := by
  have skip (rest : List RunMark) : driverCalls (passMark s :: rest) = driverCalls rest := rfl
  cases h with
  | @interrupted first last i _ before recovery =>
    simp only [List.forall_mem_cons, List.forall_mem_append] at left
    obtain ⟨-, left, left'⟩ := left
    rw [List.cons_append, skip, List.append_assoc, driverCalls_plain_append before.plain,
      driverCalls_plain_append recovery.plain]
    refine later.adds fun t ht => ?_
    subst ht
    have kept : i.state.steps = s.withStepStarted.steps := before.steps left
    obtain ⟨failed, silent, steps⟩ := recovery.steps left'
    exact .of_silent silent (by rw [steps, kept]; rfl)
  | @ended first t before _ =>
    rw [List.cons_append, skip, driverCalls_plain_append before.plain]
    have kept : t.steps = s.withStepStarted.steps := before.steps (List.forall_mem_cons.1 left).2
    refine later.adds fun u hu => ?_
    cases hu
    exact .of_silent .nil (by rw [kept, List.append_nil]; rfl)
  | @called first last marks t result _ before _ leaves follows =>
    simp only [List.forall_mem_cons, List.forall_mem_append] at left
    obtain ⟨-, left, -, left'⟩ := left
    rw [List.cons_append, skip, List.append_assoc, List.append_assoc, driverCalls_plain_append before.plain,
      driverCalls_call, driverCalls_plain_append follows.plain]
    have kept : t.steps = s.withStepStarted.steps := before.steps left
    have none : Adds s t [] := .of_silent .nil (by rw [kept, List.append_nil]; rfl)
    refine .cons none leaves (later.adds fun u hu => ?_)
    subst hu
    exact follows.adds left'

theorem LoopTrace.chain {rounds : Nat} {r : Option (Except AgentError ExecutionState)}
    (h : p.LoopTrace rounds s journal r) (left : ∀ m ∈ journal, m.LeavesHistory) :
    p.CallChain s [] (driverCalls journal) := by
  have check (s : ExecutionState) (rest : List RunMark) :
      driverCalls (.entered .shouldContinue s :: rest) = driverCalls rest := rfl
  induction h with
  | cutOff s => exact .nil s []
  | stopped _ => exact .nil _ []
  | @failed _ _ _ _ e goesOn pass =>
    obtain ⟨rfl, -⟩ := goesOn.granted_of_proceed
    have none : ChainAfter p (.error e) (driverCalls []) := rfl
    have chain := pass.chain (List.forall_mem_cons.1 left).2 none
    rwa [List.append_nil] at chain
  | passed goesOn pass _ ih =>
    obtain ⟨rfl, -⟩ := goesOn.granted_of_proceed
    obtain ⟨left₁, left₂⟩ := List.forall_mem_append.1 (List.forall_mem_cons.1 left).2
    rw [check]
    exact pass.chain left₁ (ih left₂)

theorem RunTrace.chain {rounds : Nat} {r : Option (Except AgentError ExecutionState)}
    (h : p.RunTrace rounds s journal r) (left : ∀ m ∈ journal, m.LeavesHistory) :
    p.CallChain s [] (driverCalls journal) := by
  cases h with
  | aborted began =>
    rw [driverCalls_plain began.plain]
    exact .nil s []
  | @looped first middle last t _ _ began loop close =>
    simp only [List.forall_mem_append] at left
    obtain ⟨left₁, left₂, -⟩ := left
    obtain ⟨failed, silent, steps⟩ := began.steps left₁
    rw [driverCalls_plain_append began.plain, driverCalls_append_plain close.plain]
    exact (loop.chain left₂).after (.of_silent silent steps)

/-! ## Runs -/

/-- Until there is a final answer, what the next request sees is what a run began with, and the outputs of the steps
recorded so far. -/
theorem inferenceMessages_of_accounts {keepTraces : Bool} {recorded : List Step} (h : Accounts keepTraces s recorded t)
    (unanswered : recorded.any Step.isFinal = false) :
    t.inferenceMessages = s.messages ++ s.buffer.messages ++ outputs recorded := by
  unfold ExecutionState.inferenceMessages
  cases keepTraces with
  | true => exact h.2
  | false =>
    obtain ⟨messages, buffer⟩ : t.messages = _ ∧ t.buffer.messages = _ := h.2
    have others : ∀ step ∈ recorded, step.isFinal = false := by simpa using unanswered
    have none : recorded.filter Step.isFinal = [] :=
      List.filter_eq_nil_iff.2 fun step hs => by simp [others step hs]
    have all : recorded.rtakeWhile (fun step => !step.isFinal) = recorded :=
      List.rtakeWhile_eq_self_iff.2 fun step hs => by simp [others step hs]
    rw [messages, buffer, waiting, none, all, unanswered]
    simp [outputs]

/-- So the next request sees in addition what was recorded in between. -/
theorem inferenceMessages_of_between {keepTraces : Bool} {recorded recorded' between : List Step}
    (h : Accounts keepTraces s recorded t) (h' : Accounts keepTraces s recorded' u)
    (steps : u.steps = t.steps ++ between) (unanswered : (u.steps.drop s.steps.length).any Step.isFinal = false) :
    u.inferenceMessages = t.inferenceMessages ++ outputs between := by
  obtain rfl : recorded' = recorded ++ between := by
    have : s.steps ++ recorded' = s.steps ++ (recorded ++ between) := by
      rw [← h'.1, steps, h.1, List.append_assoc]
    exact List.append_cancel_left this
  have all : (recorded ++ between).any Step.isFinal = false := by rwa [h'.1, List.drop_left] at unanswered
  have before : recorded.any Step.isFinal = false := by
    rw [List.any_append, Bool.or_eq_false_iff] at all
    exact all.1
  rw [inferenceMessages_of_accounts h before, inferenceMessages_of_accounts h' all, outputs_append,
    List.append_assoc _ _ (outputs between)]

theorem leavesHistory_of_leavesConversation {m : RunMark} (h : m.LeavesConversation) : m.LeavesHistory := by
  cases m with
  | handled _ _ r =>
    cases r with
    | ok _ => exact h.steps
    | error _ => trivial
  | dispatched _ _ => exact h.steps
  | _ => trivial

variable (p)

/-- As long as hooks and handlers leave messages, buffer and steps alone: until there is a final answer, the request of
each call consists of the cached context, the messages and the buffer that the run began with, and the outputs of all
steps recorded so far. It extends the request of the call before by the outputs of the steps recorded in between; if
that call failed, both requests are the same. -/
theorem requests_extend (b : BuiltIn σ) (builtIn : p.driver = b.driver) (token : Token) (rounds : Nat)
    (s : ExecutionState) (frame : Frame) (w : World σ)
    (left : ∀ m ∈ ((p.run token rounds s).exec frame w).journal, m.LeavesConversation) :
    let calls := driverCalls ((p.run token rounds s).exec frame w).journal
    (∀ c ∈ calls, ∃ recorded, c.state.steps = s.steps ++ recorded ∧
      (recorded.any Step.isFinal = false → ∃ params, c.request? = some params ∧
        params.messages = b.cachedContext ++ s.messages ++ s.buffer.messages ++ outputs recorded)) ∧
      ∀ front c c' back, calls = front ++ c :: c' :: back → ∃ between, c'.state.steps = c.state.steps ++ between ∧
        ((c'.state.steps.drop s.steps.length).any Step.isFinal = false →
          ∃ params params', c.request? = some params ∧ c'.request? = some params' ∧
            params'.messages = params.messages ++ outputs between ∧ ∀ e, c.result = .error e → params' = params) := by
  intro calls
  have start (now : Instant) : ∃ recorded, Accounts p.keepToolTraces s recorded (s.withRunStarted now) :=
    ⟨[], (accounts_nil _ s).of_same ⟨rfl, rfl, rfl⟩⟩
  obtain ⟨shown, -⟩ := ((p.accounts_invariant s).run token rounds start).exec frame w left
  have chain : p.CallChain s [] calls :=
    (p.runTrace_exec token rounds s frame w).chain fun m hm => leavesHistory_of_leavesConversation (left m hm)
  have accounted {c : DriverCall} (hc : c ∈ calls) : ∃ recorded, Accounts p.keepToolTraces s recorded c.state :=
    shown _ (mem_of_mem_driverCalls hc) _ rfl
  have sent {c : DriverCall} (hc : c ∈ calls) : c.request? = some (b.request c.state p.tools) := by
    have leaves := chain.mayLeave hc
    rw [builtIn] at leaves
    exact b.first_request leaves
  constructor
  · intro c hc
    obtain ⟨recorded, accounts⟩ := accounted hc
    refine ⟨recorded, accounts.1, fun unanswered => ⟨_, sent hc, ?_⟩⟩
    rw [b.messages_request, inferenceMessages_of_accounts accounts unanswered]
    simp
  · intro front c c' back split
    have hc : c ∈ calls := by rw [split]; simp
    have hc' : c' ∈ calls := by rw [split]; simp
    obtain ⟨between, steps, added⟩ := chain.adjacent split
    refine ⟨between, steps, fun unanswered => ⟨_, _, sent hc, sent hc', ?_⟩⟩
    obtain ⟨recorded, accounts⟩ := accounted hc
    obtain ⟨recorded', accounts'⟩ := accounted hc'
    have sees' : c'.state.inferenceMessages = c.state.inferenceMessages ++ outputs between :=
      inferenceMessages_of_between accounts accounts' steps unanswered
    refine ⟨by rw [b.messages_request, b.messages_request, sees', List.append_assoc], fun e failed => ?_⟩
    have nothing : outputs between = [] := by rw [added, DriverCall.outputs, failed]
    exact b.request_congr (by rw [sees', nothing, List.append_nil])

/-- A driver that talks to a script. -/
def scriptedDriver : BuiltIn Script :=
  .toolCalling
    { inference := { backend := .scripted (Backend.scriptedInfo "mock" "model") .whole }
      cachedContext := [.system "Be brief."] }

/-- A pipeline with that driver, and a tool that gives back its arguments. -/
def scriptedEcho : Pipeline Script where
  driver := scriptedDriver.driver
  tools := .ofList [.ofFunction ⟨"echo", "gives back its arguments", .bool true⟩ .ok]
  schemas := .lenient

/-- A failure that is retried, a call, and an answer. -/
def failureCallAnswer : Script where
  queue := [.failure (.timeout 10), .toolCalls "model" [⟨"1", "echo", .bool true⟩], .text "model" "done"]

theorem requests_extend_failureCallAnswer :
    let outcome := (scriptedEcho.run (.run 0) 4 (.ofUser "question")).exec ⟨fun _ => ⟨0, 0⟩, fun _ => 0, {}⟩
      { own := failureCallAnswer }
    (∀ m ∈ outcome.journal, m.LeavesConversation) ∧
      ∃ c c' c'', driverCalls outcome.journal = [c, c', c''] ∧ c'.request? = c.request? ∧
        ∃ params params' between, c'.request? = some params ∧ c''.request? = some params' ∧
          params'.messages = params.messages ++ outputs between := by
  intro outcome
  -- no handler is called, and no hook
  have alone : outcome.journal.all (fun m => m matches .event _ | .step _ | .entered _ _ | .drove _ _) = true := by
    decide +kernel
  have left : ∀ m ∈ outcome.journal, m.LeavesConversation := by
    intro m hm
    have := List.all_eq_true.1 alone m hm
    cases m <;> trivial
  have three : (driverCalls outcome.journal).length = 3 := by decide +kernel
  have facts : (driverCalls outcome.journal).map (fun c => (c.state.steps.any Step.isFinal, c.result.isOk)) =
      [(false, false), (false, true), (false, true)] := by decide +kernel
  obtain ⟨c, c', c'', calls⟩ := List.length_eq_three.1 three
  rw [calls] at facts
  simp only [List.map_cons, List.map_nil, List.cons.injEq, Prod.mk.injEq, and_true] at facts
  obtain ⟨⟨-, failed⟩, ⟨unanswered', -⟩, unanswered'', -⟩ := facts
  obtain ⟨-, adjacent⟩ := scriptedEcho.requests_extend scriptedDriver rfl (.run 0) 4 (.ofUser "question") _ _ left
  obtain ⟨_, -, extends'⟩ := adjacent [] c c' [c''] calls
  obtain ⟨params₁, params₁', sent₁, sent₁', -, same⟩ := extends' unanswered'
  obtain ⟨between, -, extends''⟩ := adjacent [c] c' c'' [] calls
  obtain ⟨params, params', sent, sent', longer, -⟩ := extends'' unanswered''
  refine ⟨left, c, c', c'', calls, ?_, params, params', between, sent, sent', longer⟩
  cases result : c.result with
  | error e => rw [sent₁, sent₁', same e result]
  | ok step => simp [result, Except.isOk, Except.toBool] at failed

end Pipeline

end AgentLoop
