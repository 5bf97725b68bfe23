import AgentLoop.Driver.ReAct
import AgentLoop.Driver.ToolCalling
import AgentLoop.Proofs.Driver.Reassembly
import AgentLoop.Proofs.Tool.Execution

/-!
# Drivers that stream

- `HookStack.Keeps`, `ToolRegistry.Keeps`: hooks and tools that keep a property of the collaborators' own state. An
  execution of tool calls keeps it, too (`Executor.keeps_execute`);
- `ToolCalling.agree_step`, `ReAct.agree_step`: over a scripted backend, a step of a driver that streams agrees with the
  same step of a driver that waits for complete responses. What a driver makes of a response depends on its text, its
  calls and its accounting only.
-/

namespace AgentLoop

variable {σ α : Type} {P : σ → Prop}

/-! ## Tools and hooks -/

/-- Whatever hooks do keeps a property of the own state. -/
def HookStack.Keeps (P : σ → Prop) (s : HookStack σ) : Prop := ∀ e ∈ s.entries, ∀ ctx, (e.hook.handle ctx).Keeps P

/-- Whatever tools do keeps a property of the own state. -/
def ToolRegistry.Keeps (P : σ → Prop) (r : ToolRegistry σ) : Prop :=
  ∀ t ∈ r.tools, ∀ arguments acts result, (t.invoke arguments).Goes acts result → ∀ a ∈ acts, a.Keeps P

/-- Hooks that keep a property do so together. -/
theorem HookStack.Keeps.dispatch {s : HookStack σ} (h : s.Keeps P) (t : HookTrigger) (ctx : HookContext) :
    (s.dispatch t ctx).Keeps P := by
  obtain ⟨entries⟩ := s
  induction entries generalizing ctx with
  | nil => exact fun _ _ hown => hown
  | cons e rest ih =>
    intro slot own hown
    have first : (HookStack.fire t ctx e).Keeps P := by
      unfold HookStack.fire
      split
      · exact h e List.mem_cons_self _
      · exact fun _ _ hown => hown
    unfold HookStack.dispatch
    rw [List.foldlM_cons]
    cases panics : (HookStack.fire t ctx e slot own).panicked with
    | none =>
      rw [Act.bind_of_calm _ _ _ _ panics]
      exact ih _ (fun e he => h e (List.mem_cons_of_mem _ he)) slot _ (first slot own hown)
    | some message =>
      rw [Act.bind_of_panicked _ _ _ _ panics]
      exact first slot own hown

namespace Executor

variable {x : Executor σ} {tools : ToolRegistry σ}

theorem keeps_consulted (hooks : x.hooks.Keeps P) (t : HookTrigger) (ctx : HookContext) :
    ∀ a ∈ x.consulted t ctx, a.Keeps P := by
  intro a ha
  unfold consulted at ha
  split at ha
  · rw [List.mem_singleton.1 ha]
    exact hooks.dispatch t ctx
  · cases ha

theorem keeps_acts (registry : tools.Keeps P) {p : PendingToolCall} {acts : List (Act σ Unit)}
    {r : Except AgentError ToolExecution} (goes : p.Goes x.schemas tools acts r) : ∀ a ∈ acts, a.Keeps P := by
  unfold PendingToolCall.Goes at goes
  split at goes
  · rw [goes.1]
    nofun
  · rename_i tool approved
    obtain ⟨-, found, -⟩ := PendingToolCall.verdict_eq_ok_iff.1 approved
    obtain ⟨-, -, result, went, -⟩ := goes
    exact registry tool (ToolRegistry.mem_of_get? found) _ acts result went

/-- An execution of tool calls keeps what its hooks and tools keep. -/
theorem keeps_execute (hooks : x.hooks.Keeps P) (registry : tools.Keeps P) (calls : List ToolCall)
    (state : ExecutionState) : (x.execute calls state tools).Keeps P := by
  apply Program.Keeps.of_acts
  intro frame w a ha
  obtain ⟨_, reached, result, during, after, -, executed, -, did, order, returned⟩ :=
    x.execute_executed state tools calls frame w
  rw [did] at ha
  rcases List.mem_append.1 ha with before | rest
  · obtain ⟨call, -, consulted⟩ := List.mem_flatMap.1 before
    exact keeps_consulted hooks _ _ a consulted
  · rcases List.mem_append.1 rest with working | reviewing
    · obtain ⟨c, there, acted⟩ := List.mem_flatMap.1 (order.mem_iff.1 working)
      obtain ⟨r, goes⟩ := executed.ends c there
      exact keeps_acts registry goes a acted
    · cases result with
      | error e =>
        rw [(returned.misuse rfl).2] at reviewing
        cases reviewing
      | ok records =>
        rw [(returned.records rfl).1] at reviewing
        obtain ⟨record, -, consulted⟩ := List.mem_flatMap.1 reviewing
        exact keeps_consulted hooks _ _ a consulted

end Executor

/-! ## Drivers -/

/-- What is kept of a reply as plain text depends on its text only, be it missing or empty. -/
theorem filter_trimmed (text : Option String) :
    ((text.map trimBlanks).filter fun t => t ≠ "") = (some (trimBlanks (text.getD ""))).filter fun t => t ≠ "" := by
  cases text with
  | none => rfl
  | some t => rfl

section Drivers

variable {info : BackendInfo} {script : Lens σ Script} (lawful : ∀ s own, script.get (script.set s own) = s)

include lawful

/-- Whether an answer is asked for again does not depend on how the driver waits, nor does what comes of it. -/
theorem ReAct.agree_finalized (d : ReAct σ) (inputs : List ChatMessage) (raw answer : String) (first : InferenceInfo) :
    (({ d with inference := ⟨.scripted info script, .blocking⟩ } : ReAct σ).finalized inputs raw answer first).Agree
      (script.Suits info.model) StepMark.isPartial Eq
      (({ d with inference := ⟨.scripted info script, .streaming⟩ } : ReAct σ).finalized inputs raw answer first) := by
  apply Inference.agree_call_bind info script lawful
  · intro e
    exact .done rfl
  · intro r r' same
    dsimp only
    rw [filter_trimmed, filter_trimmed, ← same.text, ← same.info]
    exact .done rfl

variable {tools : ToolRegistry σ} {executor : Executor σ}
  (hooks : executor.hooks.Keeps (script.Suits info.model))
  (registry : tools.Keeps (script.Suits info.model)) (state : ExecutionState)

include hooks registry

/-- A step of the tool-calling driver does not depend on how the driver waits. -/
theorem ToolCalling.agree_step (d : ToolCalling σ) :
    (({ d with inference := ⟨.scripted info script, .blocking⟩ } : ToolCalling σ).step state tools executor).Agree
      (script.Suits info.model) StepMark.isPartial Eq
      (({ d with inference := ⟨.scripted info script, .streaming⟩ } : ToolCalling σ).step state tools executor) := by
  apply (Program.Keeps.readClock.agree _).bind_same
  intro startedAt
  apply Inference.agree_call_bind info script lawful
  · intro e
    exact .done rfl
  · intro r r' same
    dsimp only
    rw [← same.info, ← same.text, ← same.calls]
    refine Program.Keeps.agree ?_ _
    split
    · exact Program.Keeps.readClock.bind fun _ => .done _
    · refine (Executor.keeps_execute hooks registry _ state).bind fun executions => ?_
      cases executions with
      | error e => exact .done _
      | ok es => exact Program.Keeps.readClock.bind fun _ => .done _

/-- A step of the ReAct driver does not depend on how the driver waits, not even where it asks twice. -/
theorem ReAct.agree_step (d : ReAct σ) :
    (({ d with inference := ⟨.scripted info script, .blocking⟩ } : ReAct σ).step state tools executor).Agree
      (script.Suits info.model) StepMark.isPartial Eq
      (({ d with inference := ⟨.scripted info script, .streaming⟩ } : ReAct σ).step state tools executor) := by
  apply (Program.Keeps.readClock.agree _).bind_same
  intro startedAt
  apply Inference.agree_call_bind info script lawful
  · intro e
    exact .done rfl
  · intro r r' same
    dsimp only
    rw [← same.info, ← same.text]
    split
    · refine Program.Keeps.agree ?_ _
      refine Program.Keeps.bind ?_ fun _ => .done _
      exact (Program.Keeps.note _).bind fun _ => Program.Keeps.readClock.bind fun _ => .done _
    · refine Program.Keeps.agree (Program.Keeps.randomNumber.bind fun n => ?_) _
      refine (Executor.keeps_execute hooks registry _ state).bind fun executions => ?_
      cases executions with
      | error e => exact .done _
      | ok es => exact Program.Keeps.readClock.bind fun _ => .done _
    · refine Program.Agree.bind_same ?_ fun final => ?_
      · split
        · exact d.agree_finalized lawful _ _ _ _
        · exact .done rfl
      · cases final with
        | error e => exact .done rfl
        | ok final => exact (Program.Keeps.readClock.agree _).bind_same fun _ => .done rfl

end Drivers

end AgentLoop
