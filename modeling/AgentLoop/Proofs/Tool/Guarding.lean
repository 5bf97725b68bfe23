import AgentLoop.Hook.ReadyMade
import AgentLoop.Proofs.Hook.Guard
import AgentLoop.Proofs.Tool.Veto

/-!
# Guarded tools

- `Hook.KeepsCall`, `Hook.LeavesCall`: hooks that do not drop the call that waits, or do not touch it at all;
- `ToolCallGuard.Placed`: a guard that stands between hooks of the first and of the second kind;
- `ToolCallGuard.Placed.dispatch`: together they veto whatever the guard denies, in the form in which it would reach its
  tool;
- `ToolCallGuard.vetoes_denied`: hence a guard vetoes the calls that it denies, and no tool is invoked for one of them.
-/

namespace AgentLoop

variable {σ : Type}

namespace Hook

/-- Before a tool is used, a hook returns a call if it is given one. -/
def KeepsCall (h : Hook σ) : Prop :=
  h.triggers.contains .beforeToolUse = true →
    ∀ (ctx : HookContext) (slot : Slot) (own : σ), ctx.trigger = .beforeToolUse → ctx.toolCall ≠ none →
      (h.handle ctx slot own).value.toolCall ≠ none

/-- Before a tool is used, a hook returns the call that it is given. -/
def LeavesCall (h : Hook σ) : Prop :=
  h.triggers.contains .beforeToolUse = true →
    ∀ (ctx : HookContext) (slot : Slot) (own : σ), ctx.trigger = .beforeToolUse →
      (h.handle ctx slot own).value.toolCall = ctx.toolCall

end Hook

namespace HookStack

variable {e : RankedHook σ} {ctx : HookContext} {slot : Slot} {own : σ}

theorem fire_keepsCall (keeps : e.hook.KeepsCall) (given : ctx.toolCall ≠ none) :
    (fire .beforeToolUse ctx e slot own).value.toolCall ≠ none := by
  rw [fire_value]
  split
  · rename_i fires
    exact keeps fires { ctx with trigger := .beforeToolUse } slot own rfl given
  · exact given

theorem fire_leavesCall (leaves : e.hook.LeavesCall) :
    (fire .beforeToolUse ctx e slot own).value.toolCall = ctx.toolCall := by
  rw [fire_value]
  split
  · rename_i fires
    exact leaves fires { ctx with trigger := .beforeToolUse } slot own rfl
  · rfl

end HookStack

namespace ToolCallGuard

variable {g : ToolCallGuard} {s : HookStack σ} {ctx : HookContext}

/-! ## A guard among other hooks -/

/-- A call waits, and if the guard denies it, it is vetoed. -/
def Guarded (g : ToolCallGuard) (ctx : HookContext) : Prop :=
  ∃ q, ctx.toolCall = some q ∧ (g.Denies q.call → q.isBlocked = true)

/-- The guard stands among other hooks: those before it do not drop the call, and those after it do not touch it. -/
def Placed (g : ToolCallGuard) (s : HookStack σ) : Prop :=
  ∃ before priority after, s.entries = before ++ ⟨g.hook, priority⟩ :: after ∧
    (∀ e ∈ before, e.hook.KeepsCall) ∧ ∀ e ∈ after, e.hook.LeavesCall

/-- The guard makes sure of it, whatever call waits. -/
theorem guarded_inspect (given : ctx.toolCall ≠ none) : g.Guarded (g.inspect ctx) := by
  obtain ⟨p, there⟩ := Option.ne_none_iff_exists'.1 given
  obtain ⟨q, inspected, same, vetoed, -, -⟩ := g.exists_inspected there
  refine ⟨q, by rw [inspected], fun denied => vetoed.2 (.inr ?_)⟩
  rw [← same]
  exact denied

/-- Hooks that do not touch the call leave it so. -/
theorem Guarded.dispatch {after : List (RankedHook σ)} (leave : ∀ e ∈ after, e.hook.LeavesCall) (h : g.Guarded ctx)
    (slot : Slot) (own : σ) : g.Guarded ((⟨after⟩ : HookStack σ).dispatch .beforeToolUse ctx slot own).value := by
  induction after generalizing ctx own with
  | nil => exact h
  | cons e rest ih =>
    obtain ⟨q, there, vetoed⟩ := h
    rw [HookStack.dispatch_cons]
    have first : g.Guarded (HookStack.fire .beforeToolUse ctx e slot own).value :=
      ⟨q, by rw [HookStack.fire_leavesCall (leave e List.mem_cons_self), there], vetoed⟩
    exact ih (fun e he => leave e (List.mem_cons_of_mem _ he)) first _

/-- The hooks together veto the call that they return if the guard denies it. -/
theorem Placed.dispatch (placed : g.Placed s) (given : ctx.toolCall ≠ none) (slot : Slot) (own : σ) :
    g.Guarded (s.dispatch .beforeToolUse ctx slot own).value := by
  obtain ⟨before, priority, after, split, keep, leave⟩ := placed
  obtain ⟨entries⟩ := s
  obtain rfl : entries = before ++ ⟨g.hook, priority⟩ :: after := split
  induction before generalizing ctx own with
  | nil =>
    have looked : g.Guarded (HookStack.fire .beforeToolUse ctx ⟨g.hook, priority⟩ slot own).value := by
      show g.Guarded (g.inspect { ctx with trigger := .beforeToolUse })
      exact guarded_inspect given
    rw [List.nil_append, HookStack.dispatch_cons]
    exact looked.dispatch leave slot _
  | cons e rest ih =>
    rw [List.cons_append, HookStack.dispatch_cons]
    exact ih (HookStack.fire_keepsCall (keep e List.mem_cons_self) given) _
      fun e he => keep e (List.mem_cons_of_mem _ he)

theorem Placed.handles (placed : g.Placed s) : s.handles .beforeToolUse = true := by
  obtain ⟨before, priority, after, split, -, -⟩ := placed
  rw [HookStack.handles, split, List.any_append, List.any_cons]
  exact Bool.or_eq_true_iff.2 (.inr rfl)

/-! ## Executions -/

section Execution

variable {x : Executor σ} (placed : g.Placed x.hooks) (state : ExecutionState) (tools : ToolRegistry σ)

include placed

/-- A call that waits for its tool is vetoed if the guard denies it. -/
theorem Placed.ensures_pending (call : ToolCall) :
    (x.pending state call).Ensures fun journal acts p =>
      (∀ m ∈ journal, m.invoked? = none) ∧ acts = x.consulted .beforeToolUse (.forToolCall state call) ∧
        (g.Denies p.call → p.isBlocked = true) := by
  have given : (HookContext.forToolCall state call).toolCall ≠ none := Option.some_ne_none _
  unfold Executor.pending Executor.consulted
  rw [if_pos placed.handles, if_pos placed.handles]
  intro slot own
  refine ⟨List.forall_mem_singleton.2 rfl, rfl, ?_⟩
  obtain ⟨q, there, vetoed⟩ := placed.dispatch given slot own
  rw [there]
  exact vetoed

theorem Placed.pendingCalls (calls : List ToolCall) (frame : Frame) (w : World σ) :
    ∀ p ∈ x.pendingCalls state calls frame w, g.Denies p.call → p.isBlocked = true := by
  have waiting := ((Program.ensures_mapM (placed.ensures_pending state) calls).exec frame w).2.2
  intro p hp
  obtain ⟨i, hi⟩ := List.mem_iff_getElem?.1 hp
  obtain ⟨call, -, vetoed⟩ := forall₂_getElem? waiting.flip hi
  exact vetoed

/-- So no tool is invoked for such a call. -/
theorem Placed.not_invoked (calls : List ToolCall) (frame : Frame) (w : World σ) :
    ∀ c ∈ invokedCalls ((x.execute calls state tools).exec frame w).journal, ¬g.Denies c := by
  intro c invoked denied
  obtain ⟨reached, result, after, executed, began, -⟩ := x.execute_ended state tools calls frame w
  obtain ⟨p, hp, rfl⟩ := List.mem_map.1 (began.mem_iff.1 invoked)
  obtain ⟨there, approved⟩ := List.mem_filter.1 hp
  have free : p.blocked = none := (PendingToolCall.isApproved_iff.1 approved).1
  have vetoed := placed.pendingCalls state calls frame w p (executed.sublist.subset there) denied
  rw [PendingToolCall.isBlocked, free] at vetoed
  cases vetoed

end Execution

/-- A guard vetoes a call that waits if and only if it denies it: its tool is guarded, and some text within the
arguments, at any depth, holds a pattern. The veto names the first such pattern, unless there is a veto already; nothing
else changes. If the hooks before the guard do not drop the call and those after it do not touch it, no tool is ever
invoked for a call that the guard denies. -/
theorem vetoes_denied (g : ToolCallGuard) :
    (∀ (ctx : HookContext) (p : PendingToolCall), ctx.toolCall = some p →
      ∃ q, (g.hook : Hook σ).handle ctx = pure { ctx with toolCall := some q } ∧ q.call = p.call ∧
        (q.isBlocked = true ↔ p.isBlocked = true ∨ g.Denies p.call) ∧
        (∀ reason, p.blocked = some reason → q.blocked = some reason) ∧
        (p.blocked = none → ∀ reason, q.blocked = some reason →
          ∃ pattern, g.FirstMatch p.call.arguments pattern ∧ reason = g.complaint pattern)) ∧
      ∀ x : Executor σ, g.Placed x.hooks → ∀ calls state tools frame w,
        ∀ c ∈ invokedCalls ((x.execute calls state tools).exec frame w).journal, ¬g.Denies c := by
  refine ⟨fun ctx p given => ?_, fun x placed calls state tools frame w => ?_⟩
  · obtain ⟨q, inspected, rest⟩ := g.exists_inspected given
    exact ⟨q, congrArg pure inspected, rest⟩
  · exact placed.not_invoked state tools calls frame w

/-- A request whose arguments hold a dangerous command somewhere inside. -/
def nested : ToolCall := ⟨"1", "say", .obj [("steps", .arr [.obj [("run", .str "sudo rm -rf ~")]])]⟩

/-- Another hook sends the requests to the guarded tool `echo`; the harmless one alone gets there. -/
theorem vetoes_denied_nested :
    let g := dangerousCommands.forTools ["echo"]
    let x : Executor Unit :=
      { schemas := .lenient
        hooks := ((HookStack.empty.insert Hook.observer 0).insert Executor.echoHook 2).insert g.hook 1 }
    let tools := ToolRegistry.ofList [Executor.echoTool]
    let sent : ToolCall := { nested with name := "echo" }
    let frame : Frame := { clock := fun n => ⟨n, 0⟩, random := fun _ => 0 }
    let outcome := (x.execute [nested, ⟨"2", "say", .str "ls"⟩] {} tools).exec frame { own := () }
    g.Placed x.hooks ∧ ¬g.Denies nested ∧ g.Denies sent ∧
      (∃ q, (g.hook : Hook Unit).handle (.forToolCall {} sent) =
          pure { HookContext.forToolCall {} sent with toolCall := some q } ∧
        q.blocked = some "Dangerous command blocked: matched 'rm -rf'") ∧
      sent ∉ invokedCalls outcome.journal ∧ invokedCalls outcome.journal = [⟨"2", "echo", .str "ls"⟩] := by
  intro g x tools sent frame outcome
  have found : g.matchingPattern sent.arguments = some "rm -rf" := by decide +kernel
  have placed : g.Placed x.hooks := by
    refine ⟨[⟨Executor.echoHook, 2⟩], 1, [⟨Hook.observer, 0⟩], rfl, ?_, ?_⟩
    · intro e he
      obtain rfl := List.mem_singleton.1 he
      intro _ ctx _ _ _ given
      obtain ⟨p, there⟩ := Option.ne_none_iff_exists'.1 given
      simp [Executor.echoHook, Hook.ofFunction, there, pure, Act.pure]
    · intro e he
      obtain rfl := List.mem_singleton.1 he
      intro _ _ _ _ _
      rfl
  have outside : ¬g.Denies nested := fun denied => by
    have named := denied.1 ["echo"] rfl
    simp [nested] at named
  have denied : g.Denies sent :=
    (g.matchingPattern_eq_some_iff.1 found).denies fun tools named => by
      cases named
      exact List.mem_singleton.2 rfl
  obtain ⟨handles, invoked⟩ := vetoes_denied (σ := Unit) g
  obtain ⟨q, handled, -, vetoed, -, named⟩ := handles (.forToolCall {} sent) { call := sent } rfl
  obtain ⟨reason, blocked⟩ := Option.isSome_iff_exists.1 (vetoed.2 (.inr denied))
  obtain ⟨pattern, first, rfl⟩ := named rfl reason blocked
  obtain rfl : "rm -rf" = pattern := Option.some.inj (found.symm.trans (g.matchingPattern_eq_some_iff.2 first))
  exact ⟨placed, outside, denied, ⟨q, handled, blocked.trans rfl⟩,
    fun there => invoked x placed _ {} tools frame _ sent there denied, rfl⟩

end ToolCallGuard

end AgentLoop
