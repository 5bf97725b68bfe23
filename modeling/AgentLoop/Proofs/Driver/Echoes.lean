import AgentLoop.Proofs.Driver.Reassembly
import AgentLoop.Proofs.Json.Equality
import AgentLoop.Proofs.Json.Spelling
import AgentLoop.Driver.ToolCalling

/-!
# Echoed arguments and final answers

- `ToolCall.EchoedBy`: a text, blanks at its ends aside, is a JSON text of the arguments of a call; `ToolCall.CopiedBy`:
  or it is the compact text of the arguments, even if that cannot be read;
- `echoesArguments_iff`: the echoes are the copies. They are the JSON texts of the arguments, as long as the arguments
  are restored from their compact text (`echoesArguments_iff_of_restored`);
- `ToolCalling.answers_step`: a response without calls ends in a final answer, which is the text, unless it is an echo
  of a call announced in the buffer;
- `ToolCalling.hides_echoed_arguments`: hence of all the ways to write the same arguments, none is shown.
-/

namespace AgentLoop

namespace ToolCall

/-- A text, blanks at its ends aside, is read as the arguments. -/
def EchoedBy (c : ToolCall) (text : String) : Prop :=
  ∃ v, Json.read (trimBlanks text) = .ok v ∧ (v == c.arguments) = true

/-- A text, blanks at its ends aside, is the compact text of the arguments, or it is read as the arguments. -/
def CopiedBy (c : ToolCall) (text : String) : Prop :=
  (trimBlanks text ≠ "" ∧ trimBlanks text = c.argumentsText) ∨ c.EchoedBy text

/-- The compact text of the arguments is read as the arguments. -/
def Restored (c : ToolCall) : Prop := ∃ v, Json.read c.argumentsText = .ok v ∧ (v == c.arguments) = true

end ToolCall

variable {calls : List ToolCall} {text text' : String} {v v' : Json}

/-- Texts are compared to the compact texts of the arguments, and values to the arguments. -/
theorem echoesArguments_iff (text : String) (calls : List ToolCall) :
    echoesArguments text calls = true ↔ ∃ c ∈ calls, c.CopiedBy text := by
  unfold echoesArguments
  dsimp only
  split
  · rename_i empty
    constructor
    · exact fun h => nomatch h
    · rintro ⟨c, -, ⟨spoken, -⟩ | ⟨v, read, -⟩⟩
      · exact absurd empty spoken
      · rw [empty] at read
        cases read
  · rename_i spoken
    rw [List.any_eq_true]
    refine exists_congr fun c => and_congr_right fun mem => ?_
    rw [Bool.or_eq_true, beq_iff_eq]
    refine or_congr (iff_and_self.2 fun _ => spoken) ?_
    constructor
    · intro equal
      cases read : Json.read (trimBlanks text) with
      | error =>
        rw [read] at equal
        cases equal
      | ok v =>
        rw [read] at equal
        exact ⟨v, read, equal⟩
    · rintro ⟨v, read, equal⟩
      rw [read]
      exact equal

/-- Where the arguments are restored from their compact text, both come to the same. -/
theorem ToolCall.copiedBy_iff {c : ToolCall} (restored : c.Restored) : c.CopiedBy text ↔ c.EchoedBy text := by
  refine ⟨?_, .inr⟩
  rintro (⟨-, compact⟩ | echoed)
  · obtain ⟨v, read, equal⟩ := restored
    exact ⟨v, compact ▸ read, equal⟩
  · exact echoed

theorem echoesArguments_iff_of_restored (restored : ∀ c ∈ calls, c.Restored) (text : String) :
    echoesArguments text calls = true ↔ ∃ c ∈ calls, c.EchoedBy text := by
  rw [echoesArguments_iff]
  exact exists_congr fun c => and_congr_right fun mem => ToolCall.copiedBy_iff (restored c mem)

/-- A text that spells a value equal to one that was read is read as well. -/
theorem read_of_spelled (read : Json.read text = .ok v) (equal : (v' == v) = true) (spelled : v'.Spelled text'.toList) :
    Json.read text' = .ok v' :=
  spelled.read ((Json.shallow_of_read read).of_beq (Json.beq_symm equal))

/-- Texts of equal values are echoes of the same calls. -/
theorem ToolCall.echoedBy_congr {c : ToolCall} (read : Json.read (trimBlanks text) = .ok v)
    (read' : Json.read (trimBlanks text') = .ok v') (equal : (v' == v) = true) :
    c.EchoedBy text' ↔ c.EchoedBy text := by
  constructor
  · rintro ⟨_, again, equal'⟩
    obtain rfl := Except.ok.inj (read'.symm.trans again)
    exact ⟨v, read, Json.beq_trans (Json.beq_symm equal) equal'⟩
  · rintro ⟨_, again, equal'⟩
    obtain rfl := Except.ok.inj (read.symm.trans again)
    exact ⟨v', read', Json.beq_trans equal equal'⟩

namespace ExecutionBuffer

/-- The calls of a buffer are those that stand in its messages. -/
theorem mem_toolCalls {b : ExecutionBuffer} {c : ToolCall} :
    c ∈ b.toolCalls ↔ ∃ m ∈ b.messages, ContentBlock.toolCall c ∈ m.content := by
  have stands (block : ContentBlock) : block.toolCall? = some c ↔ block = .toolCall c := by
    cases block <;> simp [ContentBlock.toolCall?]
  simp only [toolCalls, ChatMessage.toolCalls, announcedCalls, List.mem_flatMap, List.mem_filterMap, stands,
    exists_eq_right]

end ExecutionBuffer

namespace ToolCalling

/-- What a final answer adds to the conversation: nothing if its text is empty or an echo of a call that stands in the
buffer, and otherwise the text as it is. -/
structure Answers (text : String) (buffer : ExecutionBuffer) (outputs : List ChatMessage) : Prop where
  silent : outputs = [] ↔
    text = "" ∨ ∃ m ∈ buffer.messages, ∃ c, ContentBlock.toolCall c ∈ m.content ∧ c.EchoedBy text
  spoken : outputs ≠ [] → outputs = [.assistant text]

theorem answers_answer {buffer : ExecutionBuffer} (restored : ∀ c ∈ buffer.toolCalls, c.Restored) (text : String) :
    Answers text buffer (answer text buffer.toolCalls) := by
  have echoed : echoesArguments text buffer.toolCalls = true ↔
      ∃ m ∈ buffer.messages, ∃ c, ContentBlock.toolCall c ∈ m.content ∧ c.EchoedBy text := by
    rw [echoesArguments_iff_of_restored restored]
    constructor
    · rintro ⟨c, mem, echoed⟩
      obtain ⟨m, here, announced⟩ := ExecutionBuffer.mem_toolCalls.1 mem
      exact ⟨m, here, c, announced, echoed⟩
    · rintro ⟨m, here, c, announced, echoed⟩
      exact ⟨c, ExecutionBuffer.mem_toolCalls.2 ⟨m, here, announced⟩, echoed⟩
  unfold answer
  split
  · rename_i hidden
    exact ⟨iff_of_true rfl (hidden.imp_right echoed.1), fun shown => absurd rfl shown⟩
  · rename_i shown
    exact ⟨iff_of_false (List.cons_ne_nil _ _) fun hidden => shown (hidden.imp_right echoed.2), fun _ => rfl⟩

variable {σ : Type} {d : ToolCalling σ} {state : ExecutionState} {tools : ToolRegistry σ} {executor : Executor σ}
  {frame : Frame} {w : World σ} {response : ChatResponse} {step : Step}

/-- A response without calls ends in a final answer. -/
theorem answers_step (executor : Executor σ) (restored : ∀ c ∈ state.buffer.toolCalls, c.Restored)
    (answered : ((d.inference.call (d.request state tools)).exec frame { w with ticks := w.ticks + 1 }).value =
      .ok response) (noCall : response.toolCalls = []) :
    ∃ step, ((d.step state tools executor).exec frame w).value = .ok step ∧ step.isFinal = true ∧
      Answers (String.join (response.content.filterMap ContentBlock.text?)) state.buffer step.outputMessages := by
  generalize asked : (d.inference.call (d.request state tools)).exec frame { w with ticks := w.ticks + 1 } = outcome
    at answered
  obtain ⟨_, after, marks⟩ := outcome
  obtain rfl : _ = Except.ok response := answered
  have answers := answers_answer restored (response.text?.getD "")
  have text : response.text?.getD "" = String.join (response.content.filterMap ContentBlock.text?) :=
    textOf_eq response.content
  unfold ToolCalling.step
  simp only [Program.bind_eq, Program.exec_bind, Program.exec_readClock, asked, noCall, List.isEmpty_nil, if_true]
  exact ⟨_, rfl, rfl, text ▸ answers⟩

/-- A final answer comes from a response without calls. -/
theorem response_of_final (given : ((d.step state tools executor).exec frame w).value = .ok step)
    (final : step.isFinal = true) :
    ∃ response, ((d.inference.call (d.request state tools)).exec frame { w with ticks := w.ticks + 1 }).value =
      .ok response ∧ response.toolCalls = [] := by
  generalize asked : (d.inference.call (d.request state tools)).exec frame { w with ticks := w.ticks + 1 } = outcome
  obtain ⟨reply, after, marks⟩ := outcome
  unfold ToolCalling.step at given
  simp only [Program.bind_eq, Program.exec_bind, Program.exec_readClock, asked] at given
  cases reply with
  | error e => cases given
  | ok response =>
    refine ⟨response, rfl, ?_⟩
    dsimp only at given
    split at given
    · rename_i none
      exact List.isEmpty_iff.1 none
    · generalize did : (executor.execute response.toolCalls state tools).exec frame after = outcome
      obtain ⟨executed, _, _⟩ := outcome
      simp only [Program.exec_bind, did] at given
      -- a step that executed calls is not final
      cases executed with
      | error e => cases given
      | ok executions =>
        obtain rfl := Except.ok.inj given
        cases final

/-- A text is an echo exactly if it is, blanks at its ends aside, a JSON text of the arguments of one of the calls. So
once a text is an echo, every other way to write an equal value is one, too. A final step of the driver has no output
exactly if the text of the response is empty or an echo of a call that stands in the open buffer, and it has the text as
it is otherwise. -/
theorem hides_echoed_arguments {calls : List ToolCall} (restored : ∀ c ∈ calls, c.Restored) :
    (∀ text, echoesArguments text calls = true ↔ ∃ c ∈ calls, c.EchoedBy text) ∧
    (∀ text text' v v', Json.read (trimBlanks text) = .ok v → (v' == v) = true →
      v'.Spelled (trimBlanks text').toList → echoesArguments text' calls = echoesArguments text calls) ∧
    ∀ (σ : Type) (d : ToolCalling σ) (state : ExecutionState) tools (executor : Executor σ) frame (w : World σ),
      state.buffer.toolCalls = calls →
      let reply := ((d.inference.call (d.request state tools)).exec frame { w with ticks := w.ticks + 1 }).value
      let result := ((d.step state tools executor).exec frame w).value
      (∀ response, reply = .ok response → response.toolCalls = [] → ∃ step, result = .ok step ∧ step.isFinal = true) ∧
        ∀ step, result = .ok step → step.isFinal = true → ∃ response, reply = .ok response ∧ response.toolCalls = [] ∧
          Answers (String.join (response.content.filterMap ContentBlock.text?)) state.buffer step.outputMessages := by
  refine ⟨echoesArguments_iff_of_restored restored, fun text text' v v' read equal spelled => ?_, ?_⟩
  · rw [Bool.eq_iff_iff, echoesArguments_iff_of_restored restored, echoesArguments_iff_of_restored restored]
    exact exists_congr fun c => and_congr_right fun _ =>
      ToolCall.echoedBy_congr read (read_of_spelled read equal spelled) equal
  · rintro σ d state tools executor frame w rfl reply result
    constructor
    · intro response answered noCall
      obtain ⟨step, given, final, -⟩ := answers_step executor restored answered noCall
      exact ⟨step, given, final⟩
    · intro step given final
      obtain ⟨response, answered, noCall⟩ := response_of_final given final
      obtain ⟨step', given', -, answers⟩ := answers_step executor restored answered noCall
      obtain rfl := Except.ok.inj (given.symm.trans given')
      exact ⟨response, answered, noCall, answers⟩

/-- A call that searches. -/
def searching : ToolCall := ⟨"1", "search", .obj [("n", .num (.int 2)), ("q", .str "x")]⟩

/-- Its arguments with other blanks, the members in the other order and a character escaped. -/
def respelled : String := "\x7b \"q\" : \"\\u0078\",\n \"n\":2 \x7d"

theorem spelled_respelled : searching.arguments.Spelled (trimBlanks respelled).toList := by
  have chars : (trimBlanks respelled).toList = '\x7b' :: (Json.separated ([
      ⟨"q", .str "x", [' ', '"', 'q', '"', ' '], [' ', '"', '\\', 'u', '0', '0', '7', '8', '"']⟩,
      ⟨"n", .num (.int 2), ['\n', ' ', '"', 'n', '"'], ['2', ' ']⟩].map Json.Member.written) ++ ([] ++ ['\x7d'])) := by
    decide +kernel
  rw [chars]
  have blank {ch : Char} (gap : Reader.isGap ch = true) : Json.Gap [ch] := List.forall_mem_singleton.2 gap
  have plain {ch : Char} (noQuote : ch ≠ '"') (noBackslash : ch ≠ '\\') (printable : 32 ≤ ch.toNat) :
      Reader.Escaped [ch] [ch] := .plain noQuote noBackslash printable .done
  have q : Json.Label "q" [' ', '"', 'q', '"', ' '] :=
    .quoted (blank rfl) (plain (by decide) (by decide) (by decide)) (blank rfl)
  have n : Json.Label "n" ['\n', ' ', '"', 'n', '"'] :=
    .quoted (List.forall_mem_cons.2 ⟨rfl, blank rfl⟩) (plain (by decide) (by decide) (by decide))
      (List.forall_mem_nil _)
  have unit : Reader.CodeUnit ['0', '0', '7', '8'] 0x78 := .digits (a := 0) (b := 0) (d := 7) (e := 8) rfl rfl rfl rfl
  have escaped : Reader.Escaped ['\\', 'u', '0', '0', '7', '8'] ['x'] := .unit unit (.inl (by decide)) .done
  have x : Json.Spelled (.str "x") [' ', '"', '\\', 'u', '0', '0', '7', '8', '"'] := .before (blank rfl) (.str escaped)
  have numeral : Reader.Numeral ['2'] (.int 2) := ⟨_, rfl, rfl⟩
  have two : Json.Spelled (.num (.int 2)) ['2', ' '] := .after (.num numeral) (blank rfl)
  refine .obj (List.forall_mem_cons.2 ⟨q, List.forall_mem_singleton.2 n⟩)
    (List.forall_mem_cons.2 ⟨x, List.forall_mem_singleton.2 two⟩) (.swap _ _ _)
    (List.pairwise_pair.2 (by decide)) (List.forall_mem_nil _)

/-- The driver over a script. -/
def overScript : ToolCalling Script where
  inference := { backend := .scripted (Backend.scriptedInfo "mock" "model") .whole }

/-- A state in whose open buffer the call is announced. -/
def afterSearch : ExecutionState :=
  { ExecutionState.ofUser "question" with buffer := ⟨[.toolAnnouncement none searching]⟩ }

/-- A response that copies the arguments, and nothing else. -/
def copying : ChatResponse where
  content := [.text respelled]
  usage := .zero
  stopReason := .endTurn
  model := "model"

theorem hides_echoed_arguments_respelled :
    let frame : Frame := ⟨fun _ => ⟨0, 0⟩, fun _ => 0, {}⟩
    let w : World Script := { own := { queue := [.response copying] } }
    let result := ((overScript.step afterSearch (.ofList []) { schemas := .lenient }).exec frame w).value
    echoesArguments "  \x7b\"n\": 2, \"q\": \"x\"\x7d\n" [searching] = true ∧
      echoesArguments respelled [searching] = true ∧
      ∃ step, result = .ok step ∧ step.isFinal = true ∧ step.outputMessages = [] := by
  intro frame w result
  have compact : Json.read searching.argumentsText = .ok searching.arguments := by cbv
  have equal : (searching.arguments == searching.arguments) = true := by decide +kernel
  have restored : ∀ c ∈ [searching], c.Restored := List.forall_mem_singleton.2 ⟨_, compact, equal⟩
  obtain ⟨echo, alike, driver⟩ := hides_echoed_arguments restored
  have read : Json.read (trimBlanks "  \x7b\"n\": 2, \"q\": \"x\"\x7d\n") = .ok searching.arguments := by cbv
  have spaced := (echo _).2 ⟨searching, List.mem_singleton_self _, searching.arguments, read, equal⟩
  have again := (alike _ respelled _ _ read equal spelled_respelled).trans spaced
  obtain ⟨answered, final⟩ := driver Script overScript afterSearch (.ofList []) { schemas := .lenient } frame w rfl
  obtain ⟨step, given, isFinal⟩ := answered copying rfl rfl
  obtain ⟨response, reply, -, answers⟩ := final step given isFinal
  obtain rfl : copying = response := Except.ok.inj reply
  have text : String.join (copying.content.filterMap ContentBlock.text?) = respelled := by decide +kernel
  obtain ⟨c, mem, echoed⟩ := (echo respelled).1 again
  obtain rfl := List.mem_singleton.1 mem
  exact ⟨spaced, again, step, given, isFinal, answers.silent.2 (.inr
    ⟨.toolAnnouncement none searching, List.mem_singleton_self _, searching, List.mem_singleton_self _, text ▸ echoed⟩)⟩

end ToolCalling

end AgentLoop
