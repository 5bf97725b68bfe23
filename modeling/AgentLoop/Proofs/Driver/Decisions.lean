import AgentLoop.Driver.Decision
import AgentLoop.Proofs.Json.Members
import Mathlib.Data.List.TakeWhile

/-!
# What a reply decides

- `jsonSpan_eq_some`: the span of a reply is cut at its first opening and its last closing brace;
- `Decision.Spelled`: the members of an object spell a decision: the names, the kinds of the values and which of them
  have to be there;
- `Decision.ofReply_eq_ok`: a reply gives exactly the decision that its span spells, and so no other reply gives one.
-/

namespace AgentLoop

/-! ## The span -/

section Span

variable {ch : Char} {before rest : List Char}

theorem dropWhile_ne_append (outside : ch ∉ before) :
    (before ++ ch :: rest).dropWhile (· ≠ ch) = ch :: rest := by
  rw [List.dropWhile_append_of_pos, List.dropWhile_cons_of_neg (by simp)]
  intro a mem
  exact decide_eq_true fun same => outside (same ▸ mem)

theorem dropWhile_ne_of_not_mem (outside : ch ∉ rest) : rest.dropWhile (· ≠ ch) = [] := by
  rw [List.dropWhile_eq_nil_iff]
  intro a mem
  exact decide_eq_true fun same => outside (same ▸ mem)

/-- A text is cut out between two braces. -/
def Spans (raw span : String) : Prop :=
  ∃ before middle after, raw.toList = before ++ '\x7b' :: (middle ++ '\x7d' :: after) ∧
    '\x7b' ∉ before ∧ '\x7d' ∉ after ∧ span.toList = '\x7b' :: (middle ++ ['\x7d'])

/-- The span of a reply: from its first opening brace to its last closing one. -/
theorem jsonSpan_eq_some {raw span : String} : jsonSpan raw = some span ↔ Spans raw span := by
  have cut {before middle after : List Char} (chars : raw.toList = before ++ '\x7b' :: (middle ++ '\x7d' :: after))
      (first : '\x7b' ∉ before) (last : '\x7d' ∉ after) :
      jsonSpan raw = some (String.ofList ('\x7b' :: (middle ++ ['\x7d']))) := by
    have backwards : ('\x7b' :: (middle ++ '\x7d' :: after)).reverse =
        after.reverse ++ '\x7d' :: (middle.reverse ++ ['\x7b']) := by simp
    unfold jsonSpan
    dsimp only
    rw [chars, dropWhile_ne_append first, backwards, dropWhile_ne_append (by simpa using last)]
    simp
  constructor
  · intro h
    by_cases opening : '\x7b' ∈ raw.toList
    · obtain ⟨before, rest, chars, first⟩ := List.eq_append_cons_of_mem opening
      by_cases closing : '\x7d' ∈ rest.reverse
      · obtain ⟨after, middle, backwards, last⟩ := List.eq_append_cons_of_mem closing
        have chars' : raw.toList = before ++ '\x7b' :: (middle.reverse ++ '\x7d' :: after.reverse) := by
          rw [chars, ← rest.reverse_reverse, backwards]
          simp
        have last' : '\x7d' ∉ after.reverse := by simpa using last
        obtain rfl := Option.some.inj ((cut chars' first last').symm.trans h)
        exact ⟨before, middle.reverse, after.reverse, chars', first, last', String.toList_ofList⟩
      · have noClosing : '\x7d' ∉ rest.reverse ++ ['\x7b'] := by simpa using closing
        have nothing : jsonSpan raw = none := by
          unfold jsonSpan
          dsimp only
          rw [chars, dropWhile_ne_append first, List.reverse_cons, dropWhile_ne_of_not_mem noClosing]
          rfl
        cases nothing.symm.trans h
    · have nothing : jsonSpan raw = none := by
        unfold jsonSpan
        dsimp only
        rw [dropWhile_ne_of_not_mem opening]
        rfl
      cases nothing.symm.trans h
  · rintro ⟨before, middle, after, chars, first, last, span_eq⟩
    rw [cut chars first last, ← span_eq, String.ofList_toList]

end Span

/-! ## The members -/

/-- A member holds a value; without one it is missing or `null`. -/
def Entries.Holds (entries : Entries) (name : String) : Option Json → Prop
  | none => entries.under name = [] ∨ entries.under name = [.null]
  | some v => entries.under name = [v] ∧ v ≠ .null

namespace WrittenDecision

/-- The fields of a decision. -/
def fields : Fields WrittenDecision :=
  WrittenDecision.mk <$> .required "type" .string <*> .withDefault "thought" (.option .string) none <*>
    .withDefault "tool" (.option .string) none <*> .withDefault "args" (.option .json) none <*>
    .withDefault "answer" (.option .json) none

theorem names_fields : fields.names = ["type", "thought", "tool", "args", "answer"] := by simp [fields]

theorem agree_fields : fields.Agree :=
  ((((Fields.agree_one Decoder.agrees_string).map _).seq (Fields.agree_one Decoder.agrees_string.option)).seq
    (Fields.agree_one Decoder.agrees_string.option)).seq (Fields.agree_one Decoder.agrees_json.option) |>.seq
    (Fields.agree_one Decoder.agrees_json.option)

variable {ms : Entries} {name : String}

/-- A field that may be missing or `null`, and that otherwise reads the values which are written so. -/
theorem reads_holds {α : Type} {d : Decoder α} {write : α → Json} {o : Option α}
    (reads : ∀ v a, v ≠ .null → (d.ofJson v = .ok a ↔ v = write a)) :
    (Fields.withDefault name d.option none).Reads ms o ↔ ms.Holds name (o.map write) := by
  rw [Fields.reads_withDefault]
  cases o with
  | none =>
    constructor
    · rintro (⟨v, one, read⟩ | ⟨nothing, -⟩)
      · by_cases isNull : v = .null
        · exact .inr (isNull ▸ one)
        · rw [Decoder.ofJson_option_of_ne_null isNull] at read
          cases taken : d.ofJson v <;> rw [taken] at read <;> cases read
      · exact .inl nothing
    · rintro (nothing | one)
      · exact .inr ⟨nothing, rfl⟩
      · exact .inl ⟨.null, one, rfl⟩
  | some a =>
    constructor
    · rintro (⟨v, one, read⟩ | ⟨-, absurd'⟩)
      · have notNull : v ≠ .null := by
          rintro rfl
          cases read
        rw [Decoder.ofJson_option_of_ne_null notNull] at read
        cases taken : d.ofJson v with
        | error cause => rw [taken] at read; cases read
        | ok b =>
          rw [taken] at read
          cases read
          obtain rfl := (reads v a notNull).1 taken
          exact ⟨one, notNull⟩
      · cases absurd'
    · rintro ⟨one, notNull⟩
      refine .inl ⟨write a, one, ?_⟩
      rw [Decoder.ofJson_option_of_ne_null notNull, (reads _ a notNull).2 rfl]
      rfl

theorem ofJson_string {v : Json} {s : String} : Decoder.string.ofJson v = .ok s ↔ v = .str s := by
  cases v with
  | str t => exact ⟨fun h => congrArg Json.str (Except.ok.inj h), fun h => congrArg Except.ok (Json.str.inj h)⟩
  | _ => constructor <;> intro h <;> cases h

theorem reads_fields {w : WrittenDecision} :
    fields.Reads ms w ↔ ms.under "type" = [.str w.kind] ∧ ms.Holds "thought" (w.thought.map .str) ∧
      ms.Holds "tool" (w.tool.map .str) ∧ ms.Holds "args" w.arguments ∧ ms.Holds "answer" w.answer := by
  have text {name : String} {o : Option String} :
      (Fields.withDefault name (.option .string) none).Reads ms o ↔ ms.Holds name (o.map .str) :=
    reads_holds fun v a _ => ofJson_string
  have any {name : String} {o : Option Json} :
      (Fields.withDefault name (.option .json) none).Reads ms o ↔ ms.Holds name o := by
    have held : (Fields.withDefault name (.option .json) none).Reads ms o ↔ ms.Holds name (o.map id) :=
      reads_holds fun v a _ => ⟨fun h => Except.ok.inj h, fun h => congrArg Except.ok h⟩
    rwa [Option.map_id_fun, id] at held
  constructor
  · intro all
    obtain ⟨_, answer, upToArguments, withAnswer, rfl⟩ := (Fields.reads_both (by simp)).1 all
    obtain ⟨_, arguments, upToTool, withArguments, rfl⟩ := (Fields.reads_both (by simp)).1 upToArguments
    obtain ⟨_, tool, upToThought, withTool, rfl⟩ := (Fields.reads_both (by simp)).1 upToTool
    obtain ⟨_, thought, upToKind, withThought, rfl⟩ := (Fields.reads_both (by simp)).1 upToThought
    obtain ⟨kind, withKind, rfl⟩ := Fields.reads_map.1 upToKind
    obtain ⟨v, one, read⟩ := Fields.reads_required.1 withKind
    obtain rfl := ofJson_string.1 read
    exact ⟨one, text.1 withThought, text.1 withTool, any.1 withArguments, any.1 withAnswer⟩
  · rintro ⟨one, withThought, withTool, withArguments, withAnswer⟩
    have kind : (Fields.required "type" .string).Reads ms w.kind :=
      Fields.reads_required.2 ⟨_, one, ofJson_string.2 rfl⟩
    exact (Fields.reads_both (by simp)).2 ⟨_, _, (Fields.reads_both (by simp)).2 ⟨_, _,
      (Fields.reads_both (by simp)).2 ⟨_, _, (Fields.reads_both (by simp)).2 ⟨_, _, Fields.reads_map.2 ⟨_, kind, rfl⟩,
        text.2 withThought, rfl⟩, text.2 withTool, rfl⟩, any.2 withArguments, rfl⟩, any.2 withAnswer, rfl⟩

end WrittenDecision

namespace Decision

/-- The members of an object spell a decision. A call names a tool that is known; an answer is there and not `null`.
The reasoning and the tool are texts wherever they stand, and no member stands twice. -/
inductive Spelled (known : List String) (ms : Entries) : Decision → Prop
  | call {thought : Option String} {tool : String} {arguments answer : Option Json}
      (kind : ms.under "type" = [.str "call"]) (named : tool ≠ "") (registered : tool ∈ known)
      (withThought : ms.Holds "thought" (thought.map .str)) (withTool : ms.Holds "tool" (some (.str tool)))
      (withArguments : ms.Holds "args" arguments) (withAnswer : ms.Holds "answer" answer) :
      Spelled known ms (.call thought tool (arguments.getD (.obj [])))
  | final {thought tool : Option String} {arguments : Option Json} {answer : Json}
      (kind : ms.under "type" = [.str "final"])
      (withThought : ms.Holds "thought" (thought.map .str)) (withTool : ms.Holds "tool" (tool.map .str))
      (withArguments : ms.Holds "args" arguments) (withAnswer : ms.Holds "answer" (some answer)) :
      Spelled known ms (.final thought answer.plainText)

/-- What is meant by a decision as it is written. -/
theorem decide_eq_ok {w : WrittenDecision} {known : List String} {decision : Decision} :
    w.decide known = .ok decision ↔
      (w.kind = "call" ∧ ∃ tool, w.tool = some tool ∧ tool ≠ "" ∧ tool ∈ known ∧
        .call w.thought tool (w.arguments.getD (.obj [])) = decision) ∨
      (w.kind = "final" ∧ ∃ answer, w.answer = some answer ∧ .final w.thought answer.plainText = decision) := by
  unfold WrittenDecision.decide
  split
  · rename_i isCall
    cases filtered : w.tool.filter (· ≠ "") with
    | none =>
      have nameless (tool : String) (h : w.tool = some tool) : tool = "" := by
        rw [h] at filtered
        simpa using filtered
      refine ⟨fun h => (by cases h), ?_⟩
      rintro (⟨-, tool, h, named, -⟩ | ⟨isFinal, -⟩)
      · exact absurd (nameless tool h) named
      · exact absurd (isCall.symm.trans isFinal) (by decide)
    | some tool =>
      obtain ⟨isTool, named⟩ := Option.filter_eq_some_iff.1 filtered
      by_cases registered : tool ∈ known
      · simp [isCall, isTool, registered, of_decide_eq_true named]
      · simp [isCall, isTool, registered]
  · rename_i isFinal
    cases w.answer with
    | none => simp [isFinal]
    | some answer => simp [isFinal]
  · rename_i notCall notFinal
    refine ⟨fun h => (by cases h), ?_⟩
    rintro (⟨isCall, -⟩ | ⟨isFinal, -⟩)
    · exact (notCall isCall).elim
    · exact (notFinal isFinal).elim

/-- A reply holds an object that spells a decision. -/
def Written (raw : String) (known : List String) (decision : Decision) : Prop :=
  ∃ span ms, Spans raw span ∧ (Reader.object ["type", "thought", "tool", "args", "answer"]).run span = .ok ms ∧
    Spelled known ms decision

/-- A reply gives exactly the decision that is written in it. -/
theorem ofReply_eq_ok {raw : String} {known : List String} {decision : Decision} :
    ofReply raw known = .ok decision ↔ Written raw known decision := by
  have spelled {ms : Entries} : (∃ w, WrittenDecision.fields.Reads ms w ∧ w.decide known = .ok decision) ↔
      Spelled known ms decision := by
    simp only [WrittenDecision.reads_fields, decide_eq_ok]
    constructor
    · rintro ⟨⟨_, thought, tool, arguments, answer⟩, ⟨kind, withThought, withTool, withArguments, withAnswer⟩,
        ⟨rfl, tool, rfl, named, registered, rfl⟩ | ⟨rfl, answer, rfl, rfl⟩⟩
      · exact .call kind named registered withThought withTool withArguments withAnswer
      · exact .final kind withThought withTool withArguments withAnswer
    · rintro (⟨kind, named, registered, withThought, withTool, withArguments, withAnswer⟩ |
        ⟨kind, withThought, withTool, withArguments, withAnswer⟩)
      · exact ⟨⟨_, _, some _, _, _⟩, ⟨kind, withThought, withTool, withArguments, withAnswer⟩,
          .inl ⟨rfl, _, rfl, named, registered, rfl⟩⟩
      · exact ⟨⟨_, _, _, _, some _⟩, ⟨kind, withThought, withTool, withArguments, withAnswer⟩,
          .inr ⟨rfl, _, rfl, rfl⟩⟩
  have typed {span : String} (spans : Spans raw span) (w : WrittenDecision) :
      WrittenDecision.decoder.read span = .ok w ↔
        ∃ ms, (Reader.object ["type", "thought", "tool", "args", "answer"]).run span = .ok ms ∧
          WrittenDecision.fields.Reads ms w := by
    obtain ⟨_, middle, _, -, -, -, chars⟩ := spans
    rw [← WrittenDecision.names_fields]
    exact Decoder.record_read WrittenDecision.agree_fields (by rw [chars]; rfl)
  have written : ofReply raw known = .ok decision ↔ ∃ span w, jsonSpan raw = some span ∧
      WrittenDecision.decoder.read span = .ok w ∧ w.decide known = .ok decision := by
    unfold ofReply
    cases jsonSpan raw with
    | none => simp
    | some span => cases read : WrittenDecision.decoder.read span <;> simp [read]
  rw [written]
  constructor
  · rintro ⟨span, w, cut, read, decided⟩
    have spans := jsonSpan_eq_some.1 cut
    obtain ⟨ms, object, reads⟩ := (typed spans w).1 read
    exact ⟨span, ms, spans, object, spelled.1 ⟨w, reads, decided⟩⟩
  · rintro ⟨span, ms, spans, object, spelled'⟩
    obtain ⟨w, reads, decided⟩ := spelled.2 spelled'
    exact ⟨span, w, jsonSpan_eq_some.2 spans, (typed spans w).2 ⟨ms, object, reads⟩, decided⟩

/-- Chatter around the object, other members and `null` do no harm. -/
example :
    (ofReply "so: \x7b\"tool\": null, \"type\": \"final\", \"x\": [1], \"answer\": \"yes\"\x7d." []).toOption.isSome =
      true := by decide +kernel

/-- A member that stands twice does, also with the same value. -/
example : (ofReply "\x7b\"type\": \"call\", \"tool\": \"look\", \"tool\": \"look\"\x7d" ["look"]).toOption.isNone =
    true := by decide +kernel

/-- No other tool is called than one that is known. -/
theorem registered_of_ofReply {raw : String} {known : List String} {thought : Option String} {tool : String}
    {arguments : Json} (h : ofReply raw known = .ok (.call thought tool arguments)) : tool ∈ known := by
  obtain ⟨_, _, -, -, spelled⟩ := ofReply_eq_ok.1 h
  generalize same : call thought tool arguments = decision at spelled
  cases spelled with
  | call _ _ registered =>
    cases same
    exact registered
  | final => cases same

end Decision

end AgentLoop
