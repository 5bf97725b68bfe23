import AgentLoop.Driver.Basic
import AgentLoop.Driver.Decision
import AgentLoop.Driver.Inference

/-!
# The ReAct driver

- `ReAct`: a driver that asks for one JSON decision in each reply: a tool call, whose result comes back as an
  observation, or the final answer;
- a reply that spells no decision gives a failed step, with the reply and what is wrong with it for the next turn.
-/

namespace AgentLoop

/-- A driver that asks for decisions in plain text. -/
structure ReAct (σ : Type) where
  inference : Inference σ
  /-- Sent in front of the conversation on every request. -/
  cachedContext : List ChatMessage := []
  /-- Placed in front of the rules for decisions. -/
  instructions : Option String := none
  temperature : Option Float32 := none
  maxTokens : Option UInt32 := none
  /-- Ask for final answers again, as plain text. -/
  finalize : Bool := false

namespace ReAct

variable {σ : Type}

/-- How the prompt describes a tool. -/
def toolText (t : ToolDefinition) : String :=
  "- " ++ t.name ++ ": " ++ t.description ++ "\n  arguments schema: " ++ t.parameters.render ++ "\n"

/-- The rules for decisions. -/
def rules : String :=
  "\nReply with exactly one JSON object and nothing else, in one of these forms:\n" ++
    "\x7b\"type\": \"call\", \"thought\": \"<reasoning>\", \"tool\": \"<tool name>\", " ++
    "\"args\": \x7b<arguments>\x7d\x7d\n" ++
    "\x7b\"type\": \"final\", \"thought\": \"<reasoning>\", \"answer\": \"<answer for the user>\"\x7d\n" ++
    "Tool results are returned to you as messages starting with \"Observation:\"."

/-- The system prompt. -/
def systemPrompt (d : ReAct σ) (tools : ToolRegistry σ) : String :=
  (match d.instructions with
    | some text => text ++ "\n\n"
    | none => "") ++
    "Work step by step. You can use these tools:\n" ++ String.join (tools.definitions.map toolText) ++ rules

/-- A request. -/
def request (d : ReAct σ) (messages : List ChatMessage) (system : Option String) : ChatParams :=
  { messages, system, temperature := d.temperature, maxTokens := d.maxTokens }

/-- What the model is told of an outcome. -/
def observation : ToolOutcome → String
  | .success value => "Observation: " ++ value.plainText
  | .failure error => "Observation: error: " ++ error

/-- The id of a call, from a random number. -/
def callId (n : UInt64) : String :=
  let digits := Nat.toDigits 16 n.toNat
  "react_" ++ String.ofList (List.replicate (16 - digits.length) '0' ++ digits)

/-- The model's reasoning in a step, if it gave any. -/
def withThought (thought : Option String) (s : Step) : Step :=
  match thought with
  | some text => s.withThought text
  | none => s

/-- What a model is told of a reply that spells no decision. -/
def feedback (message : String) : String :=
  "Your last reply could not be used: " ++ message ++ ". Reply with a single JSON object as described."

/-- The step of a reply that spells no decision. -/
def rejected (inputs : List ChatMessage) (raw message : String) (info : InferenceInfo) (startedAt : Instant) :
    Program σ StepMark Step := do
  Program.note (.event (.validationFailed message))
  let completedAt ← Program.readClock
  return ((Step.failed .validation message inputs startedAt completedAt).withOutputs
    [.assistant raw, .user (feedback message)]).withInference info

/-- What the model is asked when it has answered. -/
def finalizeRequest : String := "Write your final answer for the user as plain text. Do not use JSON."

/-- Asks for the answer again as plain text; an empty reply keeps the first one. -/
def finalized (d : ReAct σ) (inputs : List ChatMessage) (raw answer : String) (first : InferenceInfo) :
    Program σ StepMark (Except AgentError (String × InferenceInfo)) := do
  let messages := inputs ++ [.assistant raw, .user finalizeRequest]
  match ← d.inference.call (d.request messages d.instructions) with
  | .error e => return .error (.inference e)
  | .ok response =>
    let info := InferenceInfo.ofResponse response
    let text := (response.text?.map trimBlanks).filter (· ≠ "")
    return .ok (text.getD answer, { info with usage := first.usage + info.usage })

/-- Produces one step. -/
def step (d : ReAct σ) (state : ExecutionState) (tools : ToolRegistry σ) (executor : Executor σ) :
    Program σ StepMark (Except AgentError Step) := do
  let startedAt ← Program.readClock
  let inputs := d.cachedContext ++ state.inferenceMessages
  match ← d.inference.call (d.request inputs (some (d.systemPrompt tools))) with
  | .error e => return .error (.inference e)
  | .ok response =>
    let info := InferenceInfo.ofResponse response
    let raw := response.text?.getD ""
    match Decision.ofReply raw tools.names with
    | .error message => return .ok (← rejected inputs raw message info startedAt)
    | .ok (.call thought tool arguments) =>
      let id := callId (← Program.randomNumber)
      match ← executor.execute [⟨id, tool, arguments⟩] state tools with
      | .error e => return .error e
      | .ok executions =>
        let observations := "\n".intercalate (executions.map fun e => observation e.result)
        let completedAt ← Program.readClock
        let outputs := [.assistant raw, .user observations]
        return .ok (withThought thought
          (.toolExecution inputs outputs executions (some info) startedAt completedAt))
    | .ok (.final thought answer) =>
      match ← (if d.finalize then d.finalized inputs raw answer info else return .ok (answer, info)) with
      | .error e => return .error e
      | .ok (answer, info) =>
        let completedAt ← Program.readClock
        return .ok (withThought thought
          (.finalResponse inputs [.assistant answer] (some info) startedAt completedAt))

/-- The driver. -/
def driver (d : ReAct σ) : Driver σ := ⟨"react", d.step⟩

end ReAct

end AgentLoop
