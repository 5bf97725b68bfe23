import AgentLoop.Driver.ToolCalling
import AgentLoop.Proofs.Driver.Echoes
import AgentLoop.Proofs.Driver.Steps
import AgentLoop.Proofs.Tool.Functional

/-!
# Announcements and results

- `ToolExecution.Traced`: the announcement of a call and the message with its result, as the record of the call says;
- `Traces`: messages that are such pairs, one for each record; they may be put together (`Traces.append`);
- `ToolCalling.traces_outputs`: so are the outputs that the driver makes of records, the text in the first one;
- `ChatResponse.Introduces`: the text that belongs there: all text of a response, unless there is none or it copies the
  arguments of a call (`ToolCalling.introduces_preamble`);
- `ToolCalling.announces_step`: hence a step whose request was answered by calls gives such outputs, with one record for
  each call, unless there is a misuse.
-/

namespace AgentLoop

/-- The announcement of a call, after a text if there is one, and the message with its result, which is an error if the
call failed. -/
structure ToolExecution.Traced (record : ToolExecution) (text : Option String) (announcement result : ChatMessage) :
    Prop where
  assistant : announcement.role = .assistant
  announces : announcement.content = text.toList.map .text ++ [.toolCall record.toolCall]
  tool : result.role = .tool
  answers : ∃ content, result.content = [.toolResult ⟨record.toolCall.id, content, !record.isSuccess⟩]

/-- Messages that are pairs of an announcement and a result, for records with the texts in front of them. -/
structure Traces (entries : List (ToolExecution × Option String)) (messages : List ChatMessage) : Prop where
  length : messages.length = 2 * entries.length
  pairs : ∀ i record text, entries[i]? = some (record, text) →
    ∃ announcement result, messages[2 * i]? = some announcement ∧ messages[2 * i + 1]? = some result ∧
      record.Traced text announcement result

namespace Traces

variable {entries entries' : List (ToolExecution × Option String)} {messages messages' : List ChatMessage}

theorem nil : Traces [] [] := ⟨rfl, fun _ _ _ h => by cases h⟩

theorem cons {record : ToolExecution} {text : Option String} {announcement result : ChatMessage}
    (first : record.Traced text announcement result) (rest : Traces entries messages) :
    Traces ((record, text) :: entries) (announcement :: result :: messages) where
  length := by
    rw [List.length_cons, List.length_cons, List.length_cons, rest.length]
    omega
  pairs i record' text' here := by
    cases i with
    | zero =>
      cases here
      exact ⟨announcement, result, rfl, rfl, first⟩
    | succ i => exact rest.pairs i record' text' here

theorem append (first : Traces entries messages) (second : Traces entries' messages') :
    Traces (entries ++ entries') (messages ++ messages') where
  length := by
    rw [List.length_append, List.length_append, first.length, second.length]
    omega
  pairs i record text here := by
    have middle := first.length
    rw [List.getElem?_append] at here
    split at here
    · obtain ⟨announcement, result, even, odd, traced⟩ := first.pairs i record text here
      refine ⟨announcement, result, ?_, ?_, traced⟩
      · rw [List.getElem?_append_left (by omega), even]
      · rw [List.getElem?_append_left (by omega), odd]
    · obtain ⟨announcement, result, even, odd, traced⟩ := second.pairs _ record text here
      refine ⟨announcement, result, ?_, ?_, traced⟩
      · rw [List.getElem?_append_right (by omega), ← even]
        congr 1
        omega
      · rw [List.getElem?_append_right (by omega), ← odd]
        congr 1
        omega

end Traces

namespace ToolCalling

variable {σ : Type}

/-- The records with the texts in front of their announcements: a text stands in front of the first one. -/
def announced (text : Option String) : List ToolExecution → List (ToolExecution × Option String)
  | [] => []
  | record :: rest => (record, text) :: rest.map fun later => (later, none)

theorem map_eq_announced (records : List ToolExecution) :
    records.map (fun r => (r, none)) = announced none records := by
  cases records <;> rfl

theorem length_announced (text : Option String) (records : List ToolExecution) :
    (announced text records).length = records.length := by
  cases records <;> simp [announced]

/-- A text that is not empty stands in front of a call. -/
theorem traced_announcement (record : ToolExecution) {text : Option String} (spoken : text ≠ some "") :
    record.Traced text (.toolAnnouncement text record.toolCall) (.toolResultFull record.toToolResult) where
  assistant := rfl
  announces := by
    cases text with
    | none => rfl
    | some text =>
      have kept : (some text).filter (· ≠ "") = some text := by
        simpa using fun empty => spoken (congrArg some empty)
      rw [ChatMessage.toolAnnouncement, kept]
      rfl
  tool := rfl
  answers := by
    unfold ToolExecution.toToolResult ToolExecution.isSuccess
    cases record.result with
    | success value => exact ⟨_, rfl⟩
    | failure error => exact ⟨_, rfl⟩

/-- The outputs for records are their announcements and results. -/
theorem traces_outputs (records : List ToolExecution) {text : Option String} (spoken : text ≠ some "") :
    Traces (announced text records) (outputs text records) := by
  induction records generalizing text with
  | nil => exact .nil
  | cons record rest ih =>
    rw [announced, map_eq_announced, outputs]
    exact .cons (traced_announcement record spoken) (ih nofun)

theorem preamble_ne_empty (text : String) (calls : List ToolCall) : preamble text calls ≠ some "" := by
  unfold preamble
  split
  · nofun
  · rename_i spoken
    rintro ⟨⟩
    exact spoken (.inl rfl)

end ToolCalling

/-- The text that belongs in front of the calls of a response: its text blocks, joined. There is none exactly if these
are empty or copy the arguments of one of the calls, be it as their compact text or as another JSON text of them. -/
structure ChatResponse.Introduces (response : ChatResponse) (text : Option String) : Prop where
  joined {t : String} : text = some t → t = String.join (response.content.filterMap ContentBlock.text?)
  silent : text = none ↔
    String.join (response.content.filterMap ContentBlock.text?) = "" ∨
      ∃ c ∈ response.toolCalls, c.CopiedBy (String.join (response.content.filterMap ContentBlock.text?))

namespace ToolCalling

/-- The preamble is that text. -/
theorem introduces_preamble (response : ChatResponse) :
    response.Introduces (preamble (response.text?.getD "") response.toolCalls) := by
  have text : response.text?.getD "" = String.join (response.content.filterMap ContentBlock.text?) :=
    textOf_eq response.content
  rw [text, preamble]
  split
  · rename_i hidden
    exact ⟨nofun, iff_of_true rfl (hidden.imp_right (echoesArguments_iff _ _).1)⟩
  · rename_i shown
    refine ⟨fun same => (Option.some.inj same).symm, iff_of_false nofun fun hidden => shown ?_⟩
    exact hidden.imp_right (echoesArguments_iff _ _).2

/-- A step that follows from a response with calls: it executes tools, with one record for each call, and its outputs
are the announcements and results of the records, with the text that belongs there in front of the first one. -/
structure Announces (response : ChatResponse) (step : Step) : Prop where
  stepType : step.stepType = .toolExecution
  records : step.toolExecutions.length = response.toolCalls.length
  messages : step.outputMessages.length = 2 * response.toolCalls.length
  traces : ∃ text, response.Introduces text ∧ Traces (announced text step.toolExecutions) step.outputMessages

variable (d : ToolCalling σ) {state : ExecutionState} {tools : ToolRegistry σ} {frame : Frame} {w : World σ}
  {response : ChatResponse}

theorem announces_toolExecution (response : ChatResponse) {records : List ToolExecution}
    (each : records.length = response.toolCalls.length) (inputs : List ChatMessage) (info : Option InferenceInfo)
    (startedAt completedAt : Instant) :
    Announces response (.toolExecution inputs (outputs (preamble (response.text?.getD "") response.toolCalls) records)
      records info startedAt completedAt) := by
  have traces := traces_outputs records (preamble_ne_empty (response.text?.getD "") response.toolCalls)
  refine ⟨rfl, each, ?_, _, introduces_preamble response, traces⟩
  rw [← each, ← length_announced]
  exact traces.length

/-- A step whose request is answered by calls announces them, or ends in a misuse. -/
theorem announces_step (executor : Executor σ)
    (answered : ((d.inference.call (d.request state tools)).exec frame { w with ticks := w.ticks + 1 }).value =
      .ok response) (called : response.toolCalls ≠ []) :
    (∃ tool message, ((d.step state tools executor).exec frame w).value = .error (.toolMisuse tool message)) ∨
      ∃ step, ((d.step state tools executor).exec frame w).value = .ok step ∧ Announces response step := by
  generalize asked : (d.inference.call (d.request state tools)).exec frame { w with ticks := w.ticks + 1 } = outcome
    at answered
  obtain ⟨_, after, marks⟩ := outcome
  obtain rfl : _ = Except.ok response := answered
  have executed := executor.execute_records state response.toolCalls tools frame after
  generalize did : (executor.execute response.toolCalls state tools).exec frame after = outcome at executed
  obtain ⟨_, _, _⟩ := outcome
  have some_call : response.toolCalls.isEmpty = false := by
    rw [List.isEmpty_eq_false_iff]
    exact called
  unfold step
  simp only [Program.bind_eq, Program.exec_bind, Program.exec_readClock, asked, some_call, Bool.false_eq_true, if_false,
    did]
  rcases executed with ⟨records, ⟨⟩, each⟩ | ⟨tool, message, ⟨⟩⟩
  · exact .inr ⟨_, rfl, announces_toolExecution response each _ _ _ _⟩
  · exact .inl ⟨tool, message, rfl⟩

/-- The outputs of the driver's steps, final answers aside, are announcements and results. -/
theorem gives_traces (d : ToolCalling σ) (state : ExecutionState) (tools : ToolRegistry σ) (executor : Executor σ)
    {C : Instant → Prop} : (d.step state tools executor).GivesAt C
      (GivesStep fun step => step.isFinal = true ∨ ∃ entries, Traces entries step.outputMessages) :=
  d.gives_step state tools executor (fun _ _ _ _ _ _ _ => .inl rfl)
    fun _ _ _ records _ _ _ _ => .inr ⟨_, traces_outputs records (preamble_ne_empty _ _)⟩

end ToolCalling

end AgentLoop
