import AgentLoop.Hook.ReadyMade
import AgentLoop.Proofs.Tool.Veto

/-!
# Hooks that replace records

- `HookPass.replaced`: what hooks make of a record: each of them may replace it, and one that returns no record replaces
  nothing;
- `HookStack.toolExecution_dispatch`: a dispatch returns the record of the last hook only;
- `HookPass.Lost`: that one returned no record after another one had returned one. Then the record stays as the tool
  left it (`HookPass.getD_handedOn_of_lost`), otherwise it is replaced as it should be (`HookPass.getD_handedOn`);
- `Executor.execute_replaces`: so it is with each record of an execution. Replacements can be lost
  (`Executor.replacement_lost_with_the_record`).
-/

namespace AgentLoop

variable {σ α β μ : Type}

/-- What comes of an element of a list, when its turn comes. -/
theorem Program.exec_mapM_getElem? (f : α → Program σ μ β) (frame : Frame) {l : List α} {i : Nat} {a : α}
    (h : l[i]? = some a) (w : World σ) :
    ((l.mapM f).exec frame w).value[i]? =
      some ((f a).exec frame (((l.take i).mapM f).exec frame w).world).value := by
  induction l generalizing i w with
  | nil => cases h
  | cons b rest ih =>
    rw [List.mapM_cons]
    simp only [Program.bind_eq, Program.pure_eq, Program.exec_bind, Program.exec_done]
    cases i with
    | zero =>
      obtain rfl := Option.some.inj h
      rfl
    | succ i =>
      rw [List.take_succ_cons, List.mapM_cons]
      simp only [Program.bind_eq, Program.pure_eq, Program.exec_bind, Program.exec_done]
      exact ih h _

/-! ## Replacements -/

namespace HookPass

/-- The record that hooks make of one. A hook that returns no record replaces nothing. -/
def replaced (record : ToolExecution) : List HookPass → ToolExecution
  | [] => record
  | h :: rest => replaced (h.after.toolExecution.getD record) rest

/-- The record that a context carries after hooks. -/
def handedOn (record : Option ToolExecution) : List HookPass → Option ToolExecution
  | [] => record
  | h :: rest => handedOn h.after.toolExecution rest

/-- The last hook returned no record after another one had returned one. -/
def Lost (passes : List HookPass) : Prop :=
  ∃ earlier last, passes = earlier ++ [last] ∧ last.after.toolExecution = none ∧
    ∃ h ∈ earlier, h.after.toolExecution ≠ none

variable (record : ToolExecution)

theorem replaced_concat (earlier : List HookPass) (last : HookPass) :
    replaced record (earlier ++ [last]) = last.after.toolExecution.getD (replaced record earlier) := by
  induction earlier generalizing record with
  | nil => rfl
  | cons h rest ih => exact ih _

theorem handedOn_concat (carried : Option ToolExecution) (earlier : List HookPass) (last : HookPass) :
    handedOn carried (earlier ++ [last]) = last.after.toolExecution := by
  induction earlier generalizing carried with
  | nil => rfl
  | cons h rest ih => exact ih _

/-- Hooks that return no record replace nothing. -/
theorem replaced_of_none {passes : List HookPass} (h : ∀ h ∈ passes, h.after.toolExecution = none) :
    replaced record passes = record := by
  induction passes with
  | nil => rfl
  | cons first rest ih =>
    rw [replaced, h first List.mem_cons_self, Option.getD_none]
    exact ih fun h' hh => h h' (List.mem_cons_of_mem _ hh)

variable {passes : List HookPass}

/-- Unless a replacement is lost, falling back to the first record gives the one that the hooks made of it. -/
theorem getD_handedOn (kept : ¬Lost passes) : (handedOn (some record) passes).getD record = replaced record passes := by
  rcases List.eq_nil_or_concat' passes with rfl | ⟨earlier, last, rfl⟩
  · rfl
  · rw [handedOn_concat, replaced_concat]
    cases returned : last.after.toolExecution with
    | some e => rfl
    | none =>
      -- nobody replaced the record, or that would be lost now
      have untouched : ∀ h ∈ earlier, h.after.toolExecution = none := by
        intro h hh
        by_contra there
        exact kept ⟨earlier, last, rfl, returned, h, hh, there⟩
      exact (replaced_of_none record untouched).symm

theorem getD_handedOn_of_lost (lost : Lost passes) : (handedOn (some record) passes).getD record = record := by
  obtain ⟨earlier, last, rfl, returned, -⟩ := lost
  rw [handedOn_concat, returned, Option.getD_none]

end HookPass

/-- The record that hooks hand on is the one that a dispatch returns. -/
theorem HookStack.toolExecution_dispatch (t : HookTrigger) (entries : List (RankedHook σ)) (ctx : HookContext)
    (slot : Slot) (own : σ) :
    ((⟨entries⟩ : HookStack σ).dispatch t ctx slot own).value.toolExecution =
      HookPass.handedOn ctx.toolExecution (passes t slot entries ctx own) := by
  induction entries generalizing ctx own with
  | nil => rfl
  | cons e rest ih =>
    cases fires : e.hook.triggers.contains t with
    | false => rw [dispatch_skip fires, passes_skip fires, ih]
    | true => rw [dispatch_cons, passes_fire fires, HookPass.handedOn, ih]

namespace Executor

open Program (exec_bind)
open HookPass (replaced Lost)

variable (x : Executor σ) (state : ExecutionState) (tools : ToolRegistry σ)

/-! ## Records -/

/-- What each hook after tool use is given and returns for a record, when the collaborators have come to `own`. -/
def reviewPasses (record : ToolExecution) (slot : Slot) (own : σ) : List HookPass :=
  HookStack.passes .afterToolUse slot x.hooks.entries (.forToolExecution state record) own

/-- The collaborators' own state when the hooks after tool use look at the next record after these ones. -/
def ownReviewed (records : List ToolExecution) (frame : Frame) (w : World σ) : σ :=
  ((records.mapM (x.reviewed state)).exec frame w).world.own

/-- Brings calls to their ends, up to the hooks after tool use. -/
def brought (calls : List ToolCall) : Program σ StepMark (Except AgentError (List ToolExecution)) := do
  let prepared ← calls.mapM (x.prepare state tools)
  x.bring prepared

/-- What comes after that, unless a tool was misused. -/
def review : Except AgentError (List ToolExecution) → Program σ StepMark (Except AgentError (List ToolExecution))
  | .error e => Program.done (.error e)
  | .ok records => x.reviewAll state records

theorem execute_brought (calls : List ToolCall) :
    x.execute calls state tools = (x.brought state tools calls).bind (x.review state) :=
  (Program.bind_assoc _ _ _).symm

/-- The hooks fall back to the record that they were shown. -/
theorem exec_reviewed (record : ToolExecution) (frame : Frame) (w : World σ) :
    ((x.reviewed state record).exec frame w).value =
      (HookPass.handedOn (some record) (x.reviewPasses state record frame.slot w.own)).getD record := by
  have handed := HookStack.toolExecution_dispatch .afterToolUse x.hooks.entries (.forToolExecution state record)
    frame.slot w.own
  simp only [reviewed, HookStack.run, Program.bind_eq, Program.pure_eq, exec_bind, Program.exec_perform,
    Program.exec_note, Program.exec_done]
  exact congrArg (Option.getD · record) handed

/-- What the hooks after tool use make of each record. -/
theorem exec_reviewAll (records : List ToolExecution) (frame : Frame) (w : World σ) :
    ∃ es, ((x.reviewAll state records).exec frame w).value = .ok es ∧ es.length = records.length ∧
      ∀ i record, records[i]? = some record →
        es[i]? = some ((HookPass.handedOn (some record) (x.reviewPasses state record frame.slot
          (x.ownReviewed state (records.take i) frame w))).getD record) := by
  obtain ⟨-, -, es, value, reviewed⟩ := (x.ensures_reviewAll state records).exec frame w
  refine ⟨es, value, reviewed.length_eq.symm, fun i record there => ?_⟩
  unfold reviewAll at value
  split at value
  · rw [Program.bind_eq, exec_bind] at value
    rw [← Except.ok.inj value, Program.exec_mapM_getElem? _ frame there, exec_reviewed]
    rfl
  · rename_i unhandled
    rw [← Except.ok.inj value, there, reviewPasses,
      HookStack.passes_of_unhandled (Bool.eq_false_iff.2 unhandled)]
    rfl

/-- The hooks after tool use replace each record that was brought, one after another: one that returns no record
replaces nothing. But if the last one returns no record after another one had returned one, all replacements are lost,
and the record stays as it was brought. -/
theorem execute_replaces (calls : List ToolCall) (frame : Frame) (w : World σ) :
    let before := (x.brought state tools calls).exec frame w
    let outcome := (x.execute calls state tools).exec frame w
    (∀ e, before.value = .error e → outcome.value = .error e) ∧
      ∀ records, before.value = .ok records →
        ∃ es, outcome.value = .ok es ∧ es.length = records.length ∧
          ∀ i record, records[i]? = some record →
            let passes := x.reviewPasses state record frame.slot
              (x.ownReviewed state (records.take i) frame before.world)
            (¬Lost passes → es[i]? = some (replaced record passes)) ∧ (Lost passes → es[i]? = some record) := by
  intro before outcome
  have value : outcome.value = ((x.review state before.value).exec frame before.world).value := by
    show ((x.execute calls state tools).exec frame w).value = _
    rw [execute_brought, exec_bind]
  refine ⟨fun e failed => ?_, fun records fine => ?_⟩
  · rw [value, failed]
    rfl
  · rw [fine] at value
    obtain ⟨es, reviewed, length, each⟩ := x.exec_reviewAll state records frame before.world
    refine ⟨es, value.trans reviewed, length, fun i record there => ?_⟩
    intro passes
    rw [each i record there]
    exact ⟨fun kept => congrArg some (HookPass.getD_handedOn record kept),
      fun lost => congrArg some (HookPass.getD_handedOn_of_lost record lost)⟩

/-- A hook that hides what the tool gave. -/
def redactHook : Hook Unit := .ofFunction "redact" [.afterToolUse] fun ctx =>
  { ctx with toolExecution := ctx.toolExecution.map fun e => { e with result := .success (.str "[redacted]") } }

/-- A hook that returns no record. -/
def dropRecordHook : Hook Unit := .ofFunction "drop" [.afterToolUse] fun ctx => { ctx with toolExecution := none }

/-- A record that a hook replaces and another one looks at stays replaced. -/
theorem execute_replaces_redacted :
    let x : Executor Unit :=
      { schemas := .lenient, hooks := (HookStack.empty.insert redactHook 1).insert Hook.observer 0 }
    let tools := ToolRegistry.ofList [echoTool]
    let call : ToolCall := ⟨"1", "echo", .bool true⟩
    let frame : Frame := { clock := fun n => ⟨n, 0⟩, random := fun _ => 0 }
    let record := ToolExecution.success call (.bool true) ⟨0, 0⟩ ⟨1, 0⟩
    ((x.brought {} tools [call]).exec frame { own := () }).value = .ok [record] ∧
      ¬Lost (x.reviewPasses {} record {} ()) ∧
      ((x.execute [call] {} tools).exec frame { own := () }).value =
        .ok [{ record with result := .success (.str "[redacted]") }] := by
  intro x tools call frame record
  have fine : ((x.brought {} tools [call]).exec frame { own := () }).value = .ok [record] := rfl
  have kept : ¬Lost (x.reviewPasses {} record {} ()) := by
    rintro ⟨earlier, last, split, dropped, -⟩
    -- the last hook is the one that only looks
    have returned := HookPass.handedOn_concat none earlier last
    rw [← split, dropped] at returned
    cases returned
  obtain ⟨es, value, length, each⟩ := (x.execute_replaces {} tools [call] frame { own := () }).2 [record] fine
  obtain ⟨e, rfl⟩ := List.length_eq_one_iff.1 length
  have replaced : some e = some { record with result := .success (.str "[redacted]") } := (each 0 record rfl).1 kept
  rw [value, Option.some.inj replaced]
  exact ⟨fine, kept, rfl⟩

/-- If a later hook drops the record, the replacement is lost: what the tool gave comes back. -/
theorem replacement_lost_with_the_record :
    let x : Executor Unit :=
      { schemas := .lenient, hooks := (HookStack.empty.insert redactHook 1).insert dropRecordHook 0 }
    let tools := ToolRegistry.ofList [echoTool]
    let call : ToolCall := ⟨"1", "echo", .bool true⟩
    let frame : Frame := { clock := fun n => ⟨n, 0⟩, random := fun _ => 0 }
    let record := ToolExecution.success call (.bool true) ⟨0, 0⟩ ⟨1, 0⟩
    let outcome := (x.execute [call] {} tools).exec frame { own := () }
    replaced record (x.reviewPasses {} record {} ()) = { record with result := .success (.str "[redacted]") } ∧
      outcome.value = .ok [record] ∧ outcome.value ≠ .ok [replaced record (x.reviewPasses {} record {} ())] := by
  intro x tools call frame record outcome
  refine ⟨rfl, rfl, fun same => ?_⟩
  have same : ToolOutcome.success (.bool true) = .success (.str "[redacted]") :=
    congrArg ToolExecution.result (List.head_eq_of_cons_eq (Except.ok.inj same))
  cases same

end Executor

end AgentLoop
