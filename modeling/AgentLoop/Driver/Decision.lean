import AgentLoop.Json.Decoder
import AgentLoop.Tool.Registry

/-!
# Decisions in plain text

- `Decision`: what a model wants next: to call a tool, or to answer;
- `jsonSpan`: the part of a reply from the first opening brace to the last closing one;
- `Decision.ofReply`: the decision that a reply spells, or why it spells none.
-/

namespace AgentLoop

/-- What a model wants next. -/
inductive Decision where
  | call (thought : Option String) (tool : String) (arguments : Json)
  | final (thought : Option String) (answer : String)

/-- A decision as it is written. -/
structure WrittenDecision where
  kind : String
  thought : Option String
  tool : Option String
  arguments : Option Json
  answer : Option Json

namespace WrittenDecision

/-- A decision in JSON. -/
def decoder : Decoder WrittenDecision :=
  .record "Decision"
    (WrittenDecision.mk <$> .required "type" .string <*> .withDefault "thought" (.option .string) none <*>
      .withDefault "tool" (.option .string) none <*> .withDefault "args" (.option .json) none <*>
      .withDefault "answer" (.option .json) none)

/-- The decision that is meant, or why there is none. -/
def decide (w : WrittenDecision) (known : List String) : Except String Decision :=
  match w.kind with
  | "call" =>
    match w.tool.filter (· ≠ "") with
    | none => .error "a 'call' decision needs a 'tool' field"
    | some tool =>
      if known.contains tool then .ok (.call w.thought tool (w.arguments.getD (.obj [])))
      else .error ("unknown tool '" ++ tool ++ "'; available tools: " ++ ", ".intercalate known)
  | "final" =>
    match w.answer with
    | none => .error "a 'final' decision needs an 'answer' field"
    | some answer => .ok (.final w.thought answer.plainText)
  | other => .error ("unknown decision type '" ++ other ++ "'; expected 'call' or 'final'")

end WrittenDecision

/-- The part of a text from the first opening brace to the last closing one. -/
def jsonSpan (raw : String) : Option String :=
  let opened := raw.toList.dropWhile (· ≠ '\x7b')
  let closed := opened.reverse.dropWhile (· ≠ '\x7d')
  if closed.isEmpty then none else some (String.ofList closed.reverse)

namespace Decision

/-- The decision that a reply spells, given the names of the tools. -/
def ofReply (raw : String) (known : List String) : Except String Decision :=
  match jsonSpan raw with
  | none => .error "the reply contains no JSON object"
  | some span =>
    match WrittenDecision.decoder.read span with
    | .error fault => .error ("the reply is not a valid decision: " ++ fault.message)
    | .ok written => written.decide known

end Decision

end AgentLoop
