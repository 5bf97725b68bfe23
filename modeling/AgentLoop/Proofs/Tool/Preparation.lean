import AgentLoop.Proofs.Effect.Ensures
import AgentLoop.Tool.Executor

/-!
# Calls before their tools are used

- `PendingToolCall.verdict`: the tool that a call is for, or why nothing is invoked (`verdict_eq_ok_iff`). Whether
  arguments pass a schema is up to the library that checks them;
- `Executor.prepare_eq`: a call is prepared by the hooks and then by its verdict;
- `Executor.ensures_prepareAll`, `Executor.prepared_verdicts`: the calls of a step are prepared one after another.
  Nothing is invoked meanwhile, and only hooks act.
-/

namespace AgentLoop

/-! ## Verdicts -/

namespace PendingToolCall

variable {σ : Type} (p : PendingToolCall) (schemas : SchemaLibrary) (tools : ToolRegistry σ)

/-- The tool that is to be invoked for a call, or why there is none. -/
def verdict : Except String (Tool σ) :=
  match p.blocked with
  | some reason => .error reason
  | none =>
    match tools.get? p.call.name with
    | none => .error ("Unknown tool: " ++ p.call.name)
    | some tool =>
      match schemas.validate tool.definition.parameters p.call.arguments with
      | .error detail => .error ("Invalid arguments for tool '" ++ p.call.name ++ "': " ++ detail)
      | .ok () => .ok tool

variable {p schemas tools}

/-- A tool is invoked for calls that no hook vetoed, that name a tool and whose arguments pass its schema. -/
theorem verdict_eq_ok_iff {tool : Tool σ} :
    p.verdict schemas tools = .ok tool ↔
      p.blocked = none ∧ tools.get? p.call.name = some tool ∧
        schemas.validate tool.definition.parameters p.call.arguments = .ok () := by
  unfold verdict
  constructor
  · intro h
    split at h
    · cases h
    · rename_i free
      split at h
      · cases h
      · rename_i found
        split at h
        · cases h
        · rename_i valid
          cases h
          exact ⟨free, found, valid⟩
  · rintro ⟨free, found, valid⟩
    simp only [free, found, valid]

variable (p schemas tools)

/-- A call after its preparation; what is settled is settled at some time. -/
def prepared (now : Instant) : PreparedCall σ :=
  match p.verdict schemas tools with
  | .error message => .settled (.rejected p.call message now)
  | .ok tool => .ready p.call tool

end PendingToolCall

namespace Executor

open Program (exec_bind ensures_bind)

variable {σ : Type} (x : Executor σ) (schemas : SchemaLibrary) (state : ExecutionState) (tools : ToolRegistry σ)

/-! ## A single call -/

/-- What is made of a call after the hooks. -/
def judge (p : PendingToolCall) : Program σ StepMark (PreparedCall σ) :=
  match p.blocked with
  | some reason => do
    report (.toolCallBlocked p.call.id p.call.name reason)
    reject p.call reason
  | none =>
    match tools.get? p.call.name with
    | none => reject p.call ("Unknown tool: " ++ p.call.name)
    | some tool =>
      match schemas.validate tool.definition.parameters p.call.arguments with
      | .error detail => do
        let message := "Invalid arguments for tool '" ++ p.call.name ++ "': " ++ detail
        report (.validationFailed message)
        reject p.call message
      | .ok () => return .ready p.call tool

theorem prepare_eq (call : ToolCall) :
    x.prepare state tools call = (x.pending state call).bind (judge x.schemas tools) := rfl

variable {schemas tools}

theorem judge_ok {p : PendingToolCall} {tool : Tool σ} (h : p.verdict schemas tools = .ok tool) :
    judge schemas tools p = Program.done (.ready p.call tool) := by
  obtain ⟨free, found, valid⟩ := PendingToolCall.verdict_eq_ok_iff.1 h
  simp only [judge, free, found, valid]
  rfl

/-- A call without a tool is rejected, after an event for most of the reasons. -/
theorem judge_error {p : PendingToolCall} {message : String} (h : p.verdict schemas tools = .error message) :
    judge schemas tools p = reject p.call message ∨
      ∃ e, judge schemas tools p = (report e : Program σ StepMark Unit).bind fun _ => reject p.call message := by
  unfold PendingToolCall.verdict at h
  unfold judge
  split at h
  · cases h
    exact .inr ⟨_, rfl⟩
  · split at h
    · cases h
      exact .inl rfl
    · split at h
      · cases h
        exact .inr ⟨_, rfl⟩
      · cases h

variable (schemas tools)

/-- A call is prepared as its verdict says; nothing is invoked, and nobody acts. -/
theorem ensures_judge (p : PendingToolCall) :
    (judge schemas tools p).Ensures fun journal acts c =>
      (∀ m ∈ journal, m.invoked? = none) ∧ acts = [] ∧ ∃ now, c = p.prepared schemas tools now := by
  unfold PendingToolCall.prepared
  cases h : p.verdict schemas tools with
  | ok tool =>
    rw [judge_ok h]
    exact ⟨fun _ hm => absurd hm (by simp), rfl, default, rfl⟩
  | error message =>
    obtain plain | ⟨e, announced⟩ := judge_error h
    · rw [plain]
      exact fun now => ⟨fun _ hm => absurd hm (by simp), rfl, now, rfl⟩
    · rw [announced]
      exact fun now => ⟨List.forall_mem_singleton.2 rfl, rfl, now, rfl⟩

/-- What the hooks for a trigger do in a context, if there are any. -/
def consulted (t : HookTrigger) (ctx : HookContext) : List (Act σ Unit) :=
  if x.hooks.handles t then [(x.hooks.dispatch t ctx).effect] else []

/-- Before a tool is used, only hooks act. -/
theorem ensures_pending (call : ToolCall) :
    (x.pending state call).Ensures fun journal acts _ =>
      (∀ m ∈ journal, m.invoked? = none) ∧ acts = x.consulted .beforeToolUse (.forToolCall state call) := by
  unfold pending consulted
  split
  · exact fun slot own => ⟨List.forall_mem_singleton.2 rfl, rfl⟩
  · exact ⟨fun _ hm => absurd hm (by simp), rfl⟩

theorem ensures_prepare (call : ToolCall) :
    (x.prepare state tools call).Ensures fun journal acts _ =>
      (∀ m ∈ journal, m.invoked? = none) ∧ acts = x.consulted .beforeToolUse (.forToolCall state call) ∧ True := by
  rw [prepare_eq]
  refine (ensures_bind _ _).2 ((x.ensures_pending state call).mono fun journal acts p ⟨marks, did⟩ => ?_)
  refine (ensures_judge x.schemas tools p).mono fun journal' acts' _ ⟨marks', did', _⟩ => ⟨fun m hm => ?_, ?_, trivial⟩
  · exact (List.mem_append.1 hm).elim (marks m) (marks' m)
  · rw [did, did', List.append_nil]

/-- What the hooks make of a call depends on the collaborators' own state only. -/
theorem exec_pending_congr (call : ToolCall) (frame : Frame) {w w' : World σ} (h : w.own = w'.own) :
    ((x.pending state call).exec frame w).value = ((x.pending state call).exec frame w').value ∧
      ((x.pending state call).exec frame w).world.own = ((x.pending state call).exec frame w').world.own := by
  unfold pending
  split
  · simp [HookStack.run, exec_bind, h]
  · exact ⟨rfl, h⟩

/-! ## The calls of a step -/

variable (calls : List ToolCall)

/-- While calls are prepared, nothing is invoked, and the hooks act for one call after another. -/
theorem ensures_prepareAll :
    (calls.mapM (x.prepare state tools)).Ensures fun journal acts _ =>
      (∀ m ∈ journal, m.invoked? = none) ∧
        acts = calls.flatMap fun call => x.consulted .beforeToolUse (.forToolCall state call) :=
  (Program.ensures_mapM (x.ensures_prepare state tools) calls).mono fun _ _ _ h => ⟨h.1, h.2.1⟩

/-- Calls are prepared as their verdicts say after all hooks. -/
theorem prepared_verdicts (frame : Frame) {w w' : World σ} (h : w.own = w'.own) :
    List.Forall₂ (fun p c => ∃ now, c = p.prepared x.schemas tools now)
      ((calls.mapM (x.pending state)).exec frame w).value
      ((calls.mapM (x.prepare state tools)).exec frame w').value := by
  induction calls generalizing w w' with
  | nil => exact .nil
  | cons call rest ih =>
    obtain ⟨sameValue, sameOwn⟩ := x.exec_pending_congr state call frame h
    have judged := (ensures_judge x.schemas tools ((x.pending state call).exec frame w').value).exec frame
      ((x.pending state call).exec frame w').world
    -- a verdict lets nobody act, so both sides go on from the same own state
    have own : ((x.pending state call).exec frame w).world.own =
        ((x.prepare state tools call).exec frame w').world.own := by
      rw [prepare_eq, exec_bind, sameOwn, Program.own_exec _ _ (judge _ _ _), judged.2.1]
      rfl
    simp only [List.mapM_cons, Program.bind_eq, Program.pure_eq, exec_bind, Program.exec_done]
    refine .cons ?_ (ih own)
    rw [prepare_eq, exec_bind, sameValue]
    exact judged.2.2

end Executor

end AgentLoop
