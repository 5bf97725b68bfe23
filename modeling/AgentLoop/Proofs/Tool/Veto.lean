import Mathlib.Data.List.Perm.Subperm
import AgentLoop.Proofs.Tool.Modes

/-!
# Vetoes

- `HookPass`: what a single hook was given and what it returned; `HookStack.passes` lists those of a dispatch;
- `Vetoed`: some hook vetoed a call, and no hook took the veto back or put another call in the place of the vetoed one.
  Then the veto stands as long as no hook drops the call (`HookStack.veto_dispatch`), and a call that was dropped stays
  dropped (`HookStack.dropped_dispatch`);
- `Executor.pending_of_veto`: so a call that no hook drops waits with the first veto;
- `Executor.execute_respects_veto`: no tool is invoked for that call, and its record is a failure with the reason of the
  first veto. If a hook drops the call, it waits as it was requested, and the veto is lost
  (`Executor.veto_lost_with_the_call`).
-/

namespace AgentLoop

/-- Why the call of a context is vetoed, if it is. -/
def HookContext.veto? (ctx : HookContext) : Option String := ctx.toolCall.bind (·.blocked)

/-- What a hook was given and what it returned. -/
structure HookPass where
  before : HookContext
  after : HookContext

namespace HookPass

/-- If a hook returns a call, it is the one that the hook was given. It may be edited and vetoed, but no veto is taken
back or overwritten. -/
def KeepsVeto (h : HookPass) : Prop :=
  ∀ q, h.after.toolCall = some q → ∃ p, h.before.toolCall = some p ∧
    (q.blocked = p.blocked ∨ ∃ reason, q.blocked = (p.block reason).blocked)

/-- A hook returns no call. -/
def Drops (h : HookPass) : Prop := h.after.toolCall = none

variable {h : HookPass}

/-- A veto stands, unless the call is dropped. -/
theorem KeepsVeto.stands (keeps : h.KeepsVeto) {q : PendingToolCall} (returned : h.after.toolCall = some q) :
    q.blocked = h.before.veto?.or q.blocked := by
  obtain ⟨p, given, same | ⟨reason, vetoed⟩⟩ := keeps q returned
  · simp [HookContext.veto?, given, same]
  · cases hp : p.blocked with
    | none => simp [HookContext.veto?, given, hp]
    | some first => simp [HookContext.veto?, given, hp, vetoed, PendingToolCall.block]

/-- Nothing comes of a call that is not there. -/
theorem KeepsVeto.drops (keeps : h.KeepsVeto) (given : h.before.toolCall = none) : h.Drops := by
  cases returned : h.after.toolCall with
  | none => exact returned
  | some q =>
    obtain ⟨p, there, -⟩ := keeps q returned
    rw [given] at there
    cases there

end HookPass

/-- Some hook vetoed the call, the first one for this reason; no hook took that back or replaced the call. Hooks may
edit the call, veto it again, or drop it. -/
structure Vetoed (passes : List HookPass) (reason : String) : Prop where
  keeps : ∀ h ∈ passes, h.KeepsVeto
  first : passes.findSome? (fun h => h.after.veto?) = some reason

/-- What is reached is part of what was asked for. -/
theorem Executed.sublist {α : Type} {Ends : α → Except AgentError ToolExecution → Prop} {parallel : Bool}
    {calls reached : List α} {v : Except AgentError (List ToolExecution)}
    (h : Executed Ends parallel calls reached v) : reached.Sublist calls := by
  cases h with
  | records all => exact .refl calls
  | misuse split all misused others =>
    cases parallel with
    | true => exact .refl calls
    | false =>
      rw [split, List.append_cons]
      exact List.sublist_append_left _ _

/-- What stands at the same place in a related list. -/
theorem forall₂_getElem? {α β : Type} {R : α → β → Prop} {as : List α} {bs : List β} (h : List.Forall₂ R as bs)
    {i : Nat} {a : α} (ha : as[i]? = some a) : ∃ b, bs[i]? = some b ∧ R a b := by
  induction h generalizing i with
  | nil => cases ha
  | cons hab _ ih =>
    cases i with
    | zero =>
      obtain rfl := Option.some.inj ha
      exact ⟨_, rfl, hab⟩
    | succ i => exact ih ha

variable {σ : Type}

/-! ## Dispatches -/

namespace HookStack

/-- What each of the hooks that fire is given and returns, in order. -/
def passes (t : HookTrigger) (slot : Slot) : List (RankedHook σ) → HookContext → σ → List HookPass
  | [], _, _ => []
  | e :: rest, ctx, own =>
    let fired := fire t ctx e slot own
    let others := passes t slot rest fired.value fired.own
    if e.hook.triggers.contains t then ⟨{ ctx with trigger := t }, fired.value⟩ :: others else others

variable {t : HookTrigger} {slot : Slot} {entries : List (RankedHook σ)} {ctx : HookContext} {own : σ}

/-- A hook for other triggers does nothing. -/
theorem fire_skip {e : RankedHook σ} (h : e.hook.triggers.contains t = false) : fire t ctx e = pure ctx := by
  unfold fire
  rw [h]
  rfl

theorem passes_skip {e : RankedHook σ} {rest : List (RankedHook σ)} (h : e.hook.triggers.contains t = false) :
    passes t slot (e :: rest) ctx own = passes t slot rest ctx own := by
  simp only [passes, fire_skip h, h]
  rfl

theorem passes_fire {e : RankedHook σ} {rest : List (RankedHook σ)} (h : e.hook.triggers.contains t = true) :
    passes t slot (e :: rest) ctx own =
      ⟨{ ctx with trigger := t }, (fire t ctx e slot own).value⟩ ::
        passes t slot rest (fire t ctx e slot own).value (fire t ctx e slot own).own := by
  simp only [passes, h, if_true]

theorem dispatch_skip {e : RankedHook σ} {rest : List (RankedHook σ)} (h : e.hook.triggers.contains t = false) :
    ((⟨e :: rest⟩ : HookStack σ).dispatch t ctx slot own).value =
      ((⟨rest⟩ : HookStack σ).dispatch t ctx slot own).value := by
  rw [dispatch_cons, fire_skip h]
  rfl

/-- Without hooks for a trigger, none fires. -/
theorem passes_of_unhandled (h : (⟨entries⟩ : HookStack σ).handles t = false) :
    passes t slot entries ctx own = [] := by
  induction entries with
  | nil => rfl
  | cons e rest ih =>
    simp only [handles, List.any_cons, Bool.or_eq_false_iff] at h
    rw [passes_skip h.1]
    exact ih h.2

/-- A call that no hook drops comes out of the dispatch. -/
theorem dispatch_of_kept (there : ctx.toolCall ≠ none) (kept : ∀ h ∈ passes t slot entries ctx own, ¬h.Drops) :
    ((⟨entries⟩ : HookStack σ).dispatch t ctx slot own).value.toolCall ≠ none := by
  induction entries generalizing ctx own with
  | nil => exact there
  | cons e rest ih =>
    cases fires : e.hook.triggers.contains t with
    | false =>
      rw [passes_skip fires] at kept
      rw [dispatch_skip fires]
      exact ih there kept
    | true =>
      rw [passes_fire fires] at kept
      rw [dispatch_cons]
      exact ih (kept _ List.mem_cons_self) fun h hh => kept h (List.mem_cons_of_mem _ hh)

/-- A call that is not there does not come back. -/
theorem dropped_dispatch (keeps : ∀ h ∈ passes t slot entries ctx own, h.KeepsVeto) (given : ctx.toolCall = none) :
    ((⟨entries⟩ : HookStack σ).dispatch t ctx slot own).value.toolCall = none := by
  induction entries generalizing ctx own with
  | nil => exact given
  | cons e rest ih =>
    cases fires : e.hook.triggers.contains t with
    | false =>
      rw [passes_skip fires] at keeps
      rw [dispatch_skip fires]
      exact ih keeps given
    | true =>
      rw [passes_fire fires] at keeps
      rw [dispatch_cons]
      have drops := (keeps _ List.mem_cons_self).drops given
      exact ih (fun h hh => keeps h (List.mem_cons_of_mem _ hh)) drops

/-- The veto with which a call comes out of a dispatch is the one with which it went in, or else the first one. -/
theorem veto_dispatch (keeps : ∀ h ∈ passes t slot entries ctx own, h.KeepsVeto) {q : PendingToolCall}
    (returned : ((⟨entries⟩ : HookStack σ).dispatch t ctx slot own).value.toolCall = some q) :
    q.blocked = ctx.veto?.or ((passes t slot entries ctx own).findSome? fun h => h.after.veto?) := by
  induction entries generalizing ctx own with
  | nil =>
    have there : ctx.toolCall = some q := returned
    simp [passes, HookContext.veto?, there]
  | cons e rest ih =>
    cases fires : e.hook.triggers.contains t with
    | false =>
      rw [passes_skip fires] at keeps ⊢
      rw [dispatch_skip fires] at returned
      exact ih keeps returned
    | true =>
      rw [passes_fire fires] at keeps ⊢
      rw [dispatch_cons] at returned
      have keepsFirst := keeps _ List.mem_cons_self
      have others := fun h hh => keeps h (List.mem_cons_of_mem _ hh)
      have rest := ih others returned
      -- the first hook did not drop the call, or it would be gone
      cases first : (fire t ctx e slot own).value.toolCall with
      | none =>
        rw [dropped_dispatch others first] at returned
        cases returned
      | some p =>
        have veto : (fire t ctx e slot own).value.veto? = p.blocked := by simp [HookContext.veto?, first]
        have stands : p.blocked = ctx.veto?.or p.blocked := keepsFirst.stands first
        rw [rest, veto, List.findSome?_cons, veto]
        cases hp : p.blocked with
        | none =>
          rw [hp] at stands
          cases hc : ctx.veto? with
          | none => rfl
          | some reason =>
            rw [hc] at stands
            cases stands
        | some reason =>
          rw [hp] at stands
          simpa using stands

end HookStack

/-! ## Calls that wait -/

/-- A vetoed call is rejected for the reason of the veto. -/
theorem PendingToolCall.verdict_of_veto {p : PendingToolCall} {reason : String} (h : p.blocked = some reason)
    (schemas : SchemaLibrary) (tools : ToolRegistry σ) : p.verdict schemas tools = .error reason := by
  simp [verdict, h]

theorem PendingToolCall.isApproved_of_veto {p : PendingToolCall} {reason : String} (h : p.blocked = some reason)
    (schemas : SchemaLibrary) (tools : ToolRegistry σ) : p.isApproved schemas tools = false := by
  simp [isApproved, verdict_of_veto h, Except.toOption]

namespace Executor

open Program (exec_bind)

variable (x : Executor σ) (state : ExecutionState) (tools : ToolRegistry σ)

/-- What each hook before tool use is given and returns for a call, when the collaborators have come to `own`. -/
def passes (call : ToolCall) (slot : Slot) (own : σ) : List HookPass :=
  HookStack.passes .beforeToolUse slot x.hooks.entries (.forToolCall state call) own

variable {x state} {call : ToolCall} {frame : Frame} {w : World σ} {reason : String}

/-- A vetoed call that no hook drops waits with the first veto. -/
theorem pending_of_veto (vetoed : Vetoed (x.passes state call frame.slot w.own) reason)
    (kept : ∀ h ∈ x.passes state call frame.slot w.own, ¬h.Drops) :
    ((x.pending state call).exec frame w).value.blocked = some reason := by
  cases handled : x.hooks.handles .beforeToolUse with
  | false =>
    have none := vetoed.first
    rw [passes, HookStack.passes_of_unhandled handled] at none
    cases none
  | true =>
    have value : ((x.pending state call).exec frame w).value =
        (x.hooks.dispatch .beforeToolUse (.forToolCall state call) frame.slot w.own).value.toolCall.getD { call } := by
      simp [pending, handled, HookStack.run, exec_bind]
    have there := HookStack.dispatch_of_kept (by simp [HookContext.forToolCall]) kept
    obtain ⟨q, returned⟩ := Option.ne_none_iff_exists'.1 there
    have first : (HookStack.passes .beforeToolUse frame.slot x.hooks.entries (.forToolCall state call) w.own).findSome?
        (fun h => h.after.veto?) = some reason := vetoed.first
    have veto : q.blocked = some reason := by
      rw [HookStack.veto_dispatch vetoed.keeps returned, first]
      rfl
    rw [value, show (x.hooks.dispatch .beforeToolUse _ frame.slot w.own).value.toolCall = some q from returned]
    exact veto

/-! ## Executions -/

variable (x state)

/-- The collaborators' own state when the hooks look at the next call after these ones. -/
def ownAfter (calls : List ToolCall) (frame : Frame) (w : World σ) : σ :=
  ((calls.mapM (x.prepare state tools)).exec frame w).world.own

/-- Only the hooks change it. -/
theorem ownAfter_eq (calls : List ToolCall) (frame : Frame) (w : World σ) :
    x.ownAfter state tools calls frame w = ((calls.mapM (x.pending state)).exec frame w).world.own := by
  have prepared := ((x.ensures_prepareAll state tools calls).exec frame w).2
  have waiting := ((Program.ensures_mapM (R := fun _ _ => True) (fun call =>
    (x.ensures_pending state call).mono fun _ _ _ h => ⟨h.1, h.2, trivial⟩) calls).exec frame w).2.1
  rw [ownAfter, Program.own_exec, Program.own_exec, prepared, waiting]

/-- A call among others waits as it does when its turn comes. -/
theorem pendingCalls_append (before after : List ToolCall) (call : ToolCall) (frame : Frame) (w : World σ) :
    ∃ later, x.pendingCalls state (before ++ call :: after) frame w =
      x.pendingCalls state before frame w ++
        ((x.pending state call).exec frame ((before.mapM (x.pending state)).exec frame w).world).value :: later := by
  simp only [pendingCalls, List.mapM_append, List.mapM_cons, Program.bind_eq, Program.pure_eq, exec_bind,
    Program.exec_done]
  exact ⟨_, rfl⟩

/-- If a hook vetoes a call, and no hook takes that back, replaces the call or drops it, no tool is invoked for that
call, and its record is a failure with the reason of the first veto. -/
theorem execute_respects_veto (before after : List ToolCall) (call : ToolCall) (frame : Frame) (w : World σ)
    (reason : String)
    (vetoed : Vetoed (x.passes state call frame.slot (x.ownAfter state tools before frame w)) reason)
    (kept : ∀ h ∈ x.passes state call frame.slot (x.ownAfter state tools before frame w), ¬h.Drops) :
    let calls := before ++ call :: after
    let outcome := (x.execute calls state tools).exec frame w
    ∃ earlier p later, x.pendingCalls state calls frame w = earlier ++ p :: later ∧ earlier.length = before.length ∧
      p.blocked = some reason ∧
      (invokedCalls outcome.journal).Subperm
        (((earlier ++ later).filter fun q => q.isApproved x.schemas tools).map (·.call)) ∧
      ∀ es, outcome.value = .ok es →
        ∃ record e, es[before.length]? = some e ∧ x.Reviewed state record e ∧ record.toolCall = p.call ∧
          record.result = .failure reason := by
  intro calls outcome
  obtain ⟨later, waiting⟩ := x.pendingCalls_append state before after call frame w
  rw [ownAfter_eq] at vetoed kept
  have blocked := pending_of_veto (w := ((before.mapM (x.pending state)).exec frame w).world) vetoed kept
  generalize ((x.pending state call).exec frame ((before.mapM (x.pending state)).exec frame w).world).value = p
    at waiting blocked
  have rejected := PendingToolCall.isApproved_of_veto blocked x.schemas tools
  obtain ⟨reached, result, reviews, executed, began, returned⟩ := x.execute_ended state tools calls frame w
  rw [waiting] at executed
  refine ⟨_, p, later, waiting, x.length_pendingCalls state before frame w, blocked, ?_, ?_⟩
  · have others := (executed.sublist.filter fun q => q.isApproved x.schemas tools).map (·.call)
    rw [List.filter_append, List.filter_cons, if_neg (by simp [rejected]), ← List.filter_append] at others
    exact began.subperm.trans others.subperm
  · intro es hes
    cases result with
    | error e =>
      cases (returned.misuse rfl).1.symm.trans hes
    | ok records =>
      obtain ⟨-, es', same, reviewed⟩ := returned.records rfl
      obtain rfl : es' = es := Except.ok.inj (same.symm.trans hes)
      have place : (x.pendingCalls state before frame w ++ p :: later)[before.length]? = some p := by
        rw [← x.length_pendingCalls state before frame w]
        simp
      cases executed with
      | records all =>
        obtain ⟨record, hrecord, acts, goes⟩ := forall₂_getElem? all place
        obtain ⟨e, he, review⟩ := forall₂_getElem? reviewed hrecord
        obtain ⟨same, failure⟩ := PendingToolCall.record_of_goes goes
        obtain ⟨-, message, verdict, failed⟩ := failure rejected
        obtain rfl : message = reason :=
          Except.error.inj (verdict.symm.trans (PendingToolCall.verdict_of_veto blocked x.schemas tools))
        exact ⟨record, e, he, review, same, failed⟩

/-- A hook that vetoes every call. -/
def vetoHook : Hook Unit := .ofFunction "veto" [.beforeToolUse] fun ctx => ctx.block "not allowed"

/-- A hook that edits every call, and vetoes it once more. -/
def editHook : Hook Unit := .ofFunction "edit" [.beforeToolUse] fun ctx =>
  { ctx with toolCall := ctx.toolCall.map fun p => { p with call := { p.call with arguments := .null } }.block "late" }

/-- A hook that returns no call. -/
def dropHook : Hook Unit := .ofFunction "drop" [.beforeToolUse] fun ctx => { ctx with toolCall := none }

theorem execute_respects_veto_edited :
    let x : Executor Unit := { schemas := .lenient, hooks := (HookStack.empty.insert vetoHook 1).insert editHook 0 }
    let tools := ToolRegistry.ofList [echoTool]
    let call : ToolCall := ⟨"1", "echo", .bool true⟩
    let frame : Frame := { clock := fun n => ⟨n, 0⟩, random := fun _ => 0 }
    Vetoed (x.passes {} call {} ()) "not allowed" ∧ (∀ h ∈ x.passes {} call {} (), ¬h.Drops) ∧
      (invokedCalls ((x.execute [call] {} tools).exec frame { own := () }).journal).Subperm [] ∧
      ∃ record, ((x.execute [call] {} tools).exec frame { own := () }).value = .ok [record] ∧
        record.result = .failure "not allowed" := by
  intro x tools call frame
  have vetoed : Vetoed (x.passes {} call {} ()) "not allowed" := by
    refine ⟨?_, rfl⟩
    intro h hh
    rcases List.mem_cons.1 hh with rfl | hh
    · rintro _ ⟨⟩
      exact ⟨_, rfl, .inr ⟨"not allowed", rfl⟩⟩
    · obtain rfl := List.mem_singleton.1 hh
      rintro _ ⟨⟩
      exact ⟨_, rfl, .inr ⟨"late", rfl⟩⟩
  have kept : ∀ h ∈ x.passes {} call {} (), ¬h.Drops := by
    intro h hh
    rcases List.mem_cons.1 hh with rfl | hh
    · rintro ⟨⟩
    · obtain rfl := List.mem_singleton.1 hh
      rintro ⟨⟩
  obtain ⟨earlier, p, later, waiting, place, -, invoked, recorded⟩ :=
    x.execute_respects_veto {} tools [] [] call frame { own := () } "not allowed" vetoed kept
  obtain ⟨rfl, rfl⟩ : earlier = [] ∧ later = [] := by
    obtain rfl := List.eq_nil_of_length_eq_zero place
    have alone : (p :: later).length = 1 := congrArg List.length waiting.symm
    exact ⟨rfl, List.eq_nil_of_length_eq_zero (Nat.succ.inj alone)⟩
  obtain ⟨record, e, he, reviewed, -, failed⟩ := recorded _ rfl
  obtain rfl : e = record := reviewed
  obtain rfl := Option.some.inj he
  exact ⟨vetoed, kept, invoked, _, rfl, failed⟩

/-- If a later hook drops the call, the veto is lost: the tool is invoked for the call as it was requested. -/
theorem veto_lost_with_the_call :
    let x : Executor Unit := { schemas := .lenient, hooks := (HookStack.empty.insert vetoHook 1).insert dropHook 0 }
    let tools := ToolRegistry.ofList [echoTool]
    let call : ToolCall := ⟨"1", "echo", .bool true⟩
    let frame : Frame := { clock := fun n => ⟨n, 0⟩, random := fun _ => 0 }
    let outcome := (x.execute [call] {} tools).exec frame { own := () }
    Vetoed (x.passes {} call {} ()) "not allowed" ∧ invokedCalls outcome.journal = [call] ∧
      outcome.value = .ok [.success call (.bool true) ⟨0, 0⟩ ⟨1, 0⟩] := by
  intro x tools call frame outcome
  refine ⟨⟨?_, rfl⟩, rfl, rfl⟩
  intro h hh
  rcases List.mem_cons.1 hh with rfl | hh
  · rintro _ ⟨⟩
    exact ⟨_, rfl, .inr ⟨"not allowed", rfl⟩⟩
  · obtain rfl := List.mem_singleton.1 hh
    rintro _ ⟨⟩

end Executor

end AgentLoop
