import AgentLoop.Proofs.Driver.Announcements
import AgentLoop.Proofs.Run.Conversation
import AgentLoop.Proofs.Run.Marks

/-!
# The traces in the buffer

- `ExecutionState.IsTraced`: a state whose buffer is made of announcements and results;
- `Pipeline.traced_evolution`: in a run of the tool-calling driver whose handlers and hooks leave the buffer alone, such
  states follow on each other;
- `Pipeline.calls_announced`: a step of this driver announces the calls of the response, each with its result, and the
  buffer of a run that begins with an empty one is made of such pairs at all times.
-/

namespace AgentLoop

/-- A state whose buffer is made of announcements and results. -/
def ExecutionState.IsTraced (s : ExecutionState) : Prop := ∃ entries, Traces entries s.buffer.messages

namespace ExecutionState

variable {s t : ExecutionState} {step : Step}

theorem IsTraced.of_same (h : s.IsTraced) (same : t.buffer = s.buffer) : t.IsTraced := by
  unfold IsTraced
  rw [same]
  exact h

/-- A buffer without messages. -/
theorem isTraced_of_empty (empty : s.buffer.messages = []) : s.IsTraced := by
  unfold IsTraced
  rw [empty]
  exact ⟨[], .nil⟩

/-- Outputs that are announcements and results come after those that wait. -/
theorem IsTraced.of_added (h : s.IsTraced) (added : ∃ entries, Traces entries step.outputMessages)
    (buffer : t.buffer.messages = s.buffer.messages ++ step.outputMessages) : t.IsTraced := by
  obtain ⟨entries, first⟩ := h
  obtain ⟨entries', second⟩ := added
  exact ⟨entries ++ entries', buffer ▸ first.append second⟩

/-- A final answer empties the buffer, any other step adds its outputs. -/
theorem IsTraced.withOutcome (h : s.IsTraced) (keepTraces : Bool)
    (good : step.isFinal = true ∨ ∃ entries, Traces entries step.outputMessages) :
    (s.withOutcome step keepTraces).IsTraced := by
  unfold ExecutionState.withOutcome
  split
  · refine isTraced_of_empty ?_
    cases keepTraces <;> rfl
  · rename_i other
    exact h.of_added (good.resolve_left other) rfl

end ExecutionState

namespace Pipeline

variable {σ : Type} (p : Pipeline σ)

open ExecutionState

theorem traced_evolution (d : ToolCalling σ) (toolCalling : p.driver = d.driver) :
    p.Evolution (fun _ => True) (fun step => step.isFinal = true ∨ ∃ entries, Traces entries step.outputMessages)
      (RunMark.Leaves fun s => s.buffer) fun s t => s.IsTraced → t.IsTraced where
  refl _ := id
  trans first next := next ∘ first
  handled left h := h.of_same left
  dispatched left h := h.of_same left
  settled s h := by
    obtain ⟨_, same⟩ := s.settled_eq
    rw [same]
    exact h
  stepStarted _ h := h
  driver s := by
    rw [toolCalling]
    exact d.gives_traces s p.tools p.executor
  raised _ _ _ _ _ _ := .inr ⟨[], .nil⟩
  outcome _ _ _ good h := h.withOutcome _ good
  toolFailures s failed h := by
    obtain ⟨_, _, _, same, -⟩ := s.withToolFailures_eq p.errorPolicy failed
    rw [same]
    exact h
  failedStep s step failed good h := by
    obtain ⟨_, _, same, -⟩ := s.withFailedStep_eq p.errorPolicy step step.cause
    have added := good.resolve_left (Bool.eq_false_iff.1 (Step.isFinal_of_isError failed))
    exact h.of_added added (by rw [same])
  completed _ _ h := h
  failed _ _ h := h

/-- The end of a run empties the buffer. -/
theorem isTraced_ended (s : ExecutionState) (keepTraces : Bool) : (s.ended keepTraces).IsTraced := by
  refine isTraced_of_empty ?_
  rw [ended, (sameConversation_concluded _).buffer]
  cases keepTraces <;> rfl

/-- A step of the tool-calling driver whose request is answered by calls ends in a misuse, or it announces these calls,
each with its result. So a run of this driver that begins with an empty buffer, and whose handlers and hooks leave the
buffer alone, has nothing in the buffer but announcements and their results, in every state that it shows or returns. -/
theorem calls_announced (d : ToolCalling σ) :
    (∀ state tools executor frame (w : World σ) response,
      ((d.inference.call (d.request state tools)).exec frame { w with ticks := w.ticks + 1 }).value = .ok response →
      response.toolCalls ≠ [] →
      (∃ tool message, ((d.step state tools executor).exec frame w).value = .error (.toolMisuse tool message)) ∨
        ∃ step, ((d.step state tools executor).exec frame w).value = .ok step ∧ ToolCalling.Announces response step) ∧
      ∀ (p : Pipeline σ) token rounds s frame w, p.driver = d.driver → s.buffer.messages = [] →
        (∀ m ∈ ((p.run token rounds s).exec frame w).journal, m.Leaves fun s => s.buffer) →
        ∀ t ∈ ((p.run token rounds s).exec frame w).states, ∃ entries, Traces entries t.buffer.messages := by
  constructor
  · intro state tools executor frame w response answered called
    exact d.announces_step executor answered called
  · intro p token rounds s frame w toolCalling empty left t mem
    have evolution := p.traced_evolution d toolCalling
    have related := evolution.states (fun s _ => isTraced_ended s _) token rounds s frame w (fun _ _ => trivial) left
    exact (List.pairwise_cons.1 related).1 t mem (isTraced_of_empty empty)

/-- The tool-calling driver, over a script. -/
def reciting : ToolCalling Script where
  inference := { backend := .scripted (Backend.scriptedInfo "mock" "model") .whole }

/-- A pipeline with this driver, a tool that gives back its arguments, and a hook that gives calls other names. -/
def renames : Pipeline Script where
  driver := reciting.driver
  tools := .ofList [.ofFunction ⟨"echo", "gives back its arguments", .bool true⟩ .ok]
  schemas := .lenient
  hooks := HookStack.empty.insert
    (.ofFunction "rename" [.beforeToolUse] fun ctx =>
      { ctx with toolCall := ctx.toolCall.map fun p => { p with call := { p.call with id := "renamed" } } }) 0

/-- Two calls and a text between them; there is no tool for the second call. -/
def twoCalls : ChatResponse where
  content := [.toolCall ⟨"1", "echo", .null⟩, .text "Let me see.", .toolCall ⟨"2", "search", .null⟩]
  usage := .zero
  stopReason := .toolUse
  model := "model"

/-- Its text copies no arguments. -/
theorem introduces_twoCalls {text : Option String} (h : twoCalls.Introduces text) : text = some "Let me see." := by
  have joined : String.join (twoCalls.content.filterMap ContentBlock.text?) = "Let me see." := by decide +kernel
  cases text with
  | some t => exact congrArg some ((h.joined rfl).trans joined)
  | none =>
    obtain empty | ⟨c, mem, copied⟩ := h.silent.1 rfl
    · rw [joined] at empty
      exact absurd empty (by decide)
    · have null : ∀ c ∈ twoCalls.toolCalls, c.argumentsText = "null" :=
        List.forall_mem_cons.2 ⟨rfl, List.forall_mem_singleton.2 rfl⟩
      rw [joined] at copied
      obtain ⟨-, compact⟩ | ⟨v, read, -⟩ := copied
      · rw [null c mem] at compact
        exact absurd compact (by decide +kernel)
      · have unread : (Json.read (trimBlanks "Let me see.")).toOption = none := by cbv
        rw [read] at unread
        cases unread

theorem calls_announced_renamed :
    let frame : Frame := ⟨fun _ => ⟨0, 0⟩, fun _ => 0, {}⟩
    let w : World Script := { own := { queue := [.response twoCalls, .text "model" "done"] } }
    (∃ step, ((reciting.step (.ofUser "question") renames.tools renames.executor).exec frame w).value = .ok step ∧
      ToolCalling.Announces twoCalls step ∧
      ∃ announcement call, step.outputMessages[0]? = some announcement ∧
        announcement.content = [.text "Let me see.", .toolCall call]) ∧
      ∀ t ∈ ((renames.run (.run 0) 3 (.ofUser "question")).exec frame w).states,
        ∃ entries, Traces entries t.buffer.messages := by
  intro frame w
  obtain ⟨step, run⟩ := calls_announced reciting
  constructor
  · obtain misuse | ⟨step, given, announces⟩ :=
      step (.ofUser "question") renames.tools renames.executor frame w twoCalls rfl nofun
    · obtain ⟨tool, message, misuse⟩ := misuse
      have fine :
          ((reciting.step (.ofUser "question") renames.tools renames.executor).exec frame w).value.isOk = true := by
        decide +kernel
      rw [misuse] at fine
      cases fine
    · obtain ⟨text, introduces, traces⟩ := announces.traces
      obtain rfl := introduces_twoCalls introduces
      obtain ⟨record, first⟩ : ∃ record, step.toolExecutions[0]? = some record :=
        ⟨_, List.getElem?_eq_getElem (by rw [announces.records]; decide)⟩
      have entry : (ToolCalling.announced (some "Let me see.") step.toolExecutions)[0]? =
          some (record, some "Let me see.") := by
        cases executions : step.toolExecutions with
        | nil => simp [executions] at first
        | cons r rest =>
          rw [executions] at first
          obtain rfl := Option.some.inj first
          rfl
      obtain ⟨announcement, _, here, -, traced⟩ := traces.pairs 0 record _ entry
      exact ⟨step, given, announces, announcement, record.toolCall, here, traced.announces⟩
  · -- there is no handler, and the hook is dispatched within the step only
    have own : ((renames.run (.run 0) 3 (.ofUser "question")).exec frame w).journal.all RunMark.isOwn = true := by
      decide +kernel
    exact run renames (.run 0) 3 (.ofUser "question") frame w rfl rfl fun m hm =>
      RunMark.leaves_of_isOwn (List.all_eq_true.1 own m hm)

end Pipeline

end AgentLoop
