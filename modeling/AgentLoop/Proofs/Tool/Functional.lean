import AgentLoop.Proofs.Tool.Execution

/-!
# Hooks and tools that are functions

- `HookStack.Functional`, `ToolRegistry.Functional`: what a hook makes of a context, and what comes of a tool with
  some arguments, does not depend on anybody's state;
- `Executor.exists_results`: with such hooks, what an execution returns is made of one result for each call, up to
  the first misuse;
- `HookStack.IgnoresTimes`: hooks that do not look at the times of records; what they leave differs in times only
  (`Executor.reviewedOf_alike`).
-/

namespace AgentLoop

variable {σ α β : Type}

/-! ## Functions -/

/-- What the hooks make of a context depends on the context only. -/
def HookStack.Functional (s : HookStack σ) : Prop :=
  ∀ e ∈ s.entries, ∃ f : HookContext → HookContext, ∀ ctx slot own, (e.hook.handle ctx slot own).value = f ctx

/-- What comes of a tool depends on its arguments only. -/
def ToolRegistry.Functional (r : ToolRegistry σ) : Prop :=
  ∀ t ∈ r.tools, ∃ f : Json → Except ToolError Json,
    ∀ arguments acts result, (t.invoke arguments).Goes acts result → result = f arguments

/-- The hooks for a trigger together are this function. -/
def HookStack.Computes (s : HookStack σ) (t : HookTrigger) (f : HookContext → HookContext) : Prop :=
  ∀ ctx slot own, (s.dispatch t ctx slot own).value = f ctx

/-- The first hook of a stack, and then the others. -/
theorem HookStack.dispatch_cons (e : RankedHook σ) (rest : List (RankedHook σ)) (t : HookTrigger) (ctx : HookContext)
    (slot : Slot) (own : σ) :
    ((⟨e :: rest⟩ : HookStack σ).dispatch t ctx slot own).value =
      ((⟨rest⟩ : HookStack σ).dispatch t (fire t ctx e slot own).value slot (fire t ctx e slot own).own).value := by
  unfold dispatch
  rw [List.foldlM_cons, Act.value_bind]

/-- A hook sees the trigger on which it fires. -/
theorem HookStack.fire_value (t : HookTrigger) (ctx : HookContext) (e : RankedHook σ) (slot : Slot) (own : σ) :
    (fire t ctx e slot own).value =
      if e.hook.triggers.contains t then (e.hook.handle { ctx with trigger := t } slot own).value else ctx := by
  unfold fire
  split
  · rfl
  · rfl

/-- Hooks that are functions are a function together. -/
theorem HookStack.Functional.dispatch {s : HookStack σ} (h : s.Functional) (t : HookTrigger) :
    ∃ f, s.Computes t f := by
  obtain ⟨entries⟩ := s
  induction entries with
  | nil => exact ⟨id, fun _ _ _ => rfl⟩
  | cons e rest ih =>
    obtain ⟨f, hf⟩ := h e List.mem_cons_self
    obtain ⟨g, hg⟩ := ih fun e he => h e (List.mem_cons_of_mem _ he)
    refine ⟨fun ctx => g (if e.hook.triggers.contains t then f { ctx with trigger := t } else ctx), ?_⟩
    intro ctx slot own
    rw [dispatch_cons, hg, fire_value, hf]

/-- A tool of such a registry gives the same result to everybody. -/
theorem ToolRegistry.Functional.result {tools : ToolRegistry σ} (h : tools.Functional) {schemas : SchemaLibrary}
    {p : PendingToolCall} {tool : Tool σ} (hv : p.verdict schemas tools = .ok tool) :
    ∃ v, ∀ acts result, (tool.invoke p.call.arguments).Goes acts result → result = v := by
  obtain ⟨-, found, -⟩ := PendingToolCall.verdict_eq_ok_iff.1 hv
  obtain ⟨f, hf⟩ := h tool (mem_of_get? found)
  exact ⟨f p.call.arguments, hf p.call.arguments⟩

/-- An invocation goes somehow, in any state of the collaborators. -/
theorem Invocation.exists_goes (i : Invocation σ) (own : σ) : ∃ acts result, i.Goes acts result := by
  induction i with
  | last a => exact ⟨_, _, .last a default own⟩
  | turn a next ih =>
    cases gives : (a default own).value with
    | some result => exact ⟨_, _, .ended gives⟩
    | none =>
      obtain ⟨acts, result, goes⟩ := ih default own
      exact ⟨_, _, .paused gives goes⟩

namespace Executor

variable (x : Executor σ) (state : ExecutionState) (tools : ToolRegistry σ)

/-- The call after hooks that are a function. -/
def pendingOf (f : HookContext → HookContext) (call : ToolCall) : PendingToolCall :=
  if x.hooks.handles .beforeToolUse then (f (.forToolCall state call)).toolCall.getD { call } else { call }

/-- The record after hooks that are a function. -/
def reviewedOf (f : HookContext → HookContext) (record : ToolExecution) : ToolExecution :=
  if x.hooks.handles .afterToolUse then (f (.forToolExecution state record)).toolExecution.getD record else record

variable {f g : HookContext → HookContext}

/-- Hooks that are a function treat the calls of a step one by one. -/
theorem pendingCalls_eq (hf : x.hooks.Computes .beforeToolUse f) (calls : List ToolCall) (frame : Frame) (w : World σ) :
    x.pendingCalls state calls frame w = calls.map (x.pendingOf state f) := by
  have one (call : ToolCall) : (x.pending state call).Ensures fun journal acts p =>
      (∀ m ∈ journal, m.invoked? = none) ∧ acts = x.consulted .beforeToolUse (.forToolCall state call) ∧
        x.pendingOf state f call = p := by
    unfold pending consulted pendingOf
    split
    · exact fun slot own => ⟨List.forall_mem_singleton.2 rfl, rfl, by rw [← hf]⟩
    · exact ⟨fun _ hm => absurd hm (by simp), rfl, rfl⟩
  have all := ((Program.ensures_mapM one calls).exec frame w).2.2
  rw [← List.forall₂_map_left_iff, List.forall₂_eq_eq_eq] at all
  exact all.symm

theorem reviewed_eq (hg : x.hooks.Computes .afterToolUse g) {records es : List ToolExecution}
    (h : List.Forall₂ (x.Reviewed state) records es) : es = records.map (x.reviewedOf state g) := by
  have one (record e : ToolExecution) (h : x.Reviewed state record e) : x.reviewedOf state g record = e := by
    unfold Reviewed at h
    unfold reviewedOf
    split at h
    · rename_i handled
      obtain ⟨slot, own, rfl⟩ := h
      rw [if_pos handled, hg]
    · rename_i unhandled
      rw [if_neg unhandled, h]
  have all := h.imp one
  rw [← List.forall₂_map_left_iff, List.forall₂_eq_eq_eq] at all
  exact all.symm

/-! ## Results -/

/-- Records only. -/
theorem mapM_ok (es : List ToolExecution) :
    ((es.map .ok : List (Except AgentError ToolExecution)).mapM id) = .ok es := by
  induction es with
  | nil => rfl
  | cons e es ih =>
    rw [List.map_cons, mapM_ok_cons, ih]
    rfl

/-- The first error counts. -/
theorem mapM_error (es : List ToolExecution) (e : AgentError) (rest : List (Except AgentError ToolExecution)) :
    (es.map Except.ok ++ Except.error e :: rest).mapM id = .error e := by
  induction es with
  | nil => exact mapM_error_cons e rest
  | cons a es ih =>
    rw [List.map_cons, List.cons_append, mapM_ok_cons, ih]
    rfl

/-- If every call may end, an execution is made of one end for each call, up to the first misuse. -/
theorem Executed.exists_results {Ends : α → Except AgentError ToolExecution → Prop} (mayEnd : ∀ c, ∃ r, Ends c r)
    {parallel : Bool} {calls reached : List α} {v : Except AgentError (List ToolExecution)}
    (h : Executed Ends parallel calls reached v) : ∃ rs, List.Forall₂ Ends calls rs ∧ v = rs.mapM id := by
  have ok {as : List α} {es : List ToolExecution} (h : List.Forall₂ (fun c e => Ends c (.ok e)) as es) :
      List.Forall₂ Ends as (es.map .ok) := List.forall₂_map_right_iff.2 h
  cases h with
  | records all => exact ⟨_, ok all, (mapM_ok _).symm⟩
  | misuse split all misused others =>
    rename_i before after c es e
    choose r hr using mayEnd
    have rest : List.Forall₂ Ends after (after.map r) :=
      List.forall₂_map_right_iff.2 (List.forall₂_same.2 fun c _ => hr c)
    refine ⟨es.map Except.ok ++ Except.error e :: after.map r, ?_, (mapM_error _ _ _).symm⟩
    rw [split]
    exact List.rel_append (ok all) (.cons misused rest)

/-- A call may end in any state of the collaborators. -/
theorem exists_ends (p : PendingToolCall) (schemas : SchemaLibrary) (tools : ToolRegistry σ) (own : σ) :
    ∃ r, p.Ends schemas tools r := by
  unfold PendingToolCall.Ends PendingToolCall.Goes
  split
  · exact ⟨_, [], rfl, default, rfl⟩
  · rename_i tool _
    obtain ⟨acts, result, goes⟩ := (tool.invoke p.call.arguments).exists_goes own
    exact ⟨_, acts, default, default, result, goes, rfl⟩

/-- With hooks that are functions, what an execution returns is made of one result for each call, up to the first
misuse. -/
theorem exists_results (hf : x.hooks.Computes .beforeToolUse f)
    (hg : x.hooks.Computes .afterToolUse g) (calls : List ToolCall)
    (frame : Frame) (w : World σ) :
    ∃ rs, List.Forall₂ (fun c r => (x.pendingOf state f c).Ends x.schemas tools r) calls rs ∧
      ((x.execute calls state tools).exec frame w).value = (rs.mapM id).map (List.map (x.reviewedOf state g)) := by
  obtain ⟨reached, result, after, executed, -, returned⟩ := x.execute_ended state tools calls frame w
  rw [x.pendingCalls_eq state hf] at executed
  obtain ⟨rs, ends, hresult⟩ := Executed.exists_results (fun p => exists_ends p x.schemas tools w.own) executed
  refine ⟨rs, List.forall₂_map_left_iff.1 ends, ?_⟩
  rw [← hresult]
  cases result with
  | error e => exact (returned.misuse rfl).1
  | ok records =>
    obtain ⟨-, es, hv, reviewed⟩ := returned.records rfl
    rw [hv, x.reviewed_eq state hg reviewed]
    rfl

end Executor

/-! ## Times -/

/-- Two records that differ in nothing but their times. -/
def ToolExecution.SameButTimes (a b : ToolExecution) : Prop := a.toolCall = b.toolCall ∧ a.result = b.result

/-- Two contexts that differ in nothing but the times of a record. -/
structure HookContext.SameButTimes (a b : HookContext) : Prop where
  trigger : a.trigger = b.trigger
  state : a.state = b.state
  toolCall : a.toolCall = b.toolCall
  toolExecution : Option.Rel ToolExecution.SameButTimes a.toolExecution b.toolExecution
  failure : a.failure = b.failure

/-- The hooks do not look at the times of records. -/
def HookStack.IgnoresTimes (s : HookStack σ) : Prop :=
  ∀ e ∈ s.entries, ∀ (a b : HookContext) (slot slot' : Slot) (own own' : σ), a.SameButTimes b →
    (e.hook.handle a slot own).value.SameButTimes (e.hook.handle b slot' own').value

/-- Hooks that do not look at times do not do so together. -/
theorem HookStack.IgnoresTimes.dispatch {s : HookStack σ} (h : s.IgnoresTimes) (t : HookTrigger) {a b : HookContext}
    (same : a.SameButTimes b) (slot slot' : Slot) (own own' : σ) :
    (s.dispatch t a slot own).value.SameButTimes (s.dispatch t b slot' own').value := by
  obtain ⟨entries⟩ := s
  induction entries generalizing a b own own' with
  | nil => exact same
  | cons e rest ih =>
    rw [dispatch_cons, dispatch_cons]
    refine ih ?_ _ _ (fun e he => h e (List.mem_cons_of_mem _ he))
    rw [fire_value, fire_value]
    split
    · refine h e List.mem_cons_self _ _ _ _ _ _ ?_
      exact ⟨rfl, same.state, same.toolCall, same.toolExecution, same.failure⟩
    · exact same

/-- The same error, or related values. -/
def Alike (R : α → α → Prop) : Except AgentError α → Except AgentError α → Prop
  | .ok a, .ok b => R a b
  | .error e, .error e' => e = e'
  | _, _ => False

theorem Alike.map {R : α → α → Prop} {S : β → β → Prop} {k : α → β} (hk : ∀ a b, R a b → S (k a) (k b))
    {v v' : Except AgentError α} (h : Alike R v v') : Alike S (v.map k) (v'.map k) := by
  cases v with
  | error e =>
    cases v' with
    | error e' => exact h
    | ok b => exact h
  | ok a =>
    cases v' with
    | error e' => exact h
    | ok b => exact hk a b h

theorem Alike.error_iff {R : α → α → Prop} {v v' : Except AgentError α} (h : Alike R v v') (e : AgentError) :
    v = .error e ↔ v' = .error e := by
  cases v with
  | error a =>
    cases v' with
    | error b =>
      obtain rfl : a = b := h
      exact Iff.rfl
    | ok b => exact h.elim
  | ok a =>
    cases v' with
    | error b => exact h.elim
    | ok b => exact ⟨fun he => (by cases he), fun he => (by cases he)⟩

theorem Alike.cons {R : α → α → Prop} {a b : α} {v v' : Except AgentError (List α)} (hab : R a b)
    (h : Alike (List.Forall₂ R) v v') : Alike (List.Forall₂ R) (v.map (a :: ·)) (v'.map (b :: ·)) := by
  cases v with
  | error e =>
    cases v' with
    | error e' => exact h
    | ok bs => exact h
  | ok as =>
    cases v' with
    | error e' => exact h
    | ok bs => exact List.Forall₂.cons hab h

/-- Alike results come to alike lists, or to the same first error. -/
theorem mapM_alike {R : α → α → Prop} {rs rs' : List (Except AgentError α)} (h : List.Forall₂ (Alike R) rs rs') :
    Alike (List.Forall₂ R) (rs.mapM id) (rs'.mapM id) := by
  induction h with
  | nil => exact .nil
  | @cons r r' rs rs' hr _ ih =>
    cases r with
    | error e =>
      cases r' with
      | error e' =>
        rw [mapM_error_cons, mapM_error_cons]
        exact hr
      | ok b => exact hr.elim
    | ok a =>
      cases r' with
      | error e' => exact hr.elim
      | ok b =>
        rw [mapM_ok_cons, mapM_ok_cons]
        exact ih.cons hr

namespace Executor

variable (x : Executor σ) (state : ExecutionState) {tools : ToolRegistry σ} {g : HookContext → HookContext}

theorem concluded_alike (call : ToolCall) (startedAt completedAt startedAt' completedAt' : Instant)
    (v : Except ToolError Json) :
    Alike ToolExecution.SameButTimes (concluded call startedAt completedAt v)
      (concluded call startedAt' completedAt' v) := by
  unfold concluded
  split
  · exact ⟨rfl, rfl⟩
  · split
    · exact rfl
    · exact ⟨rfl, rfl⟩

/-- What becomes of a call is always the same, times aside. -/
theorem ends_alike (functional : tools.Functional) {schemas : SchemaLibrary} {p : PendingToolCall}
    {r r' : Except AgentError ToolExecution} (h : p.Ends schemas tools r) (h' : p.Ends schemas tools r') :
    Alike ToolExecution.SameButTimes r r' := by
  obtain ⟨_, h⟩ := h
  obtain ⟨_, h'⟩ := h'
  unfold PendingToolCall.Goes at h h'
  cases hv : p.verdict schemas tools with
  | error message =>
    rw [hv] at h h'
    obtain ⟨-, now, rfl⟩ := h
    obtain ⟨-, now', rfl⟩ := h'
    exact ⟨rfl, rfl⟩
  | ok tool =>
    rw [hv] at h h'
    obtain ⟨v, same⟩ := functional.result hv
    obtain ⟨startedAt, completedAt, result, goes, rfl⟩ := h
    obtain ⟨startedAt', completedAt', result', goes', rfl⟩ := h'
    rw [same _ _ goes, same _ _ goes']
    exact concluded_alike _ _ _ _ _ v

theorem getD_alike {o o' : Option ToolExecution} (h : Option.Rel ToolExecution.SameButTimes o o')
    {a b : ToolExecution} (same : a.SameButTimes b) : (o.getD a).SameButTimes (o'.getD b) := by
  cases h with
  | some h => exact h
  | none => exact same

/-- Hooks that do not look at times leave records alike. -/
theorem reviewedOf_alike (ignores : x.hooks.IgnoresTimes)
    (hg : x.hooks.Computes .afterToolUse g) (own : σ)
    {a b : ToolExecution} (same : a.SameButTimes b) :
    (x.reviewedOf state g a).SameButTimes (x.reviewedOf state g b) := by
  unfold reviewedOf
  split
  · have contexts : (HookContext.forToolExecution state a).SameButTimes (.forToolExecution state b) :=
      ⟨rfl, rfl, rfl, .some same, rfl⟩
    have after := (ignores.dispatch .afterToolUse contexts default default own own).toolExecution
    rw [hg, hg] at after
    exact getD_alike after same
  · exact same

/-- Results of the same calls are alike. -/
theorem results_alike (functional : tools.Functional) {f : HookContext → HookContext} {calls : List ToolCall}
    {rs rs' : List (Except AgentError ToolExecution)}
    (h : List.Forall₂ (fun c r => (x.pendingOf state f c).Ends x.schemas tools r) calls rs)
    (h' : List.Forall₂ (fun c r => (x.pendingOf state f c).Ends x.schemas tools r) calls rs') :
    List.Forall₂ (Alike ToolExecution.SameButTimes) rs rs' := by
  induction h generalizing rs' with
  | nil =>
    cases h'
    exact .nil
  | cons hc _ ih =>
    obtain ⟨r', rest', hc', others, rfl⟩ := List.forall₂_cons_left_iff.1 h'
    exact .cons (ends_alike functional hc hc') (ih others)

/-- The only error of a call is a misuse. -/
theorem misuse_of_ends {schemas : SchemaLibrary} {p : PendingToolCall} {e : AgentError}
    (h : p.Ends schemas tools (.error e)) : ∃ tool message, e = .toolMisuse tool message := by
  obtain ⟨_, h⟩ := h
  unfold PendingToolCall.Goes at h
  split at h
  · obtain ⟨-, now, same⟩ := h
    cases same
  · obtain ⟨startedAt, completedAt, result, -, same⟩ := h
    unfold concluded at same
    split at same
    · cases same
    · split at same
      · exact ⟨_, _, Except.error.inj same⟩
      · cases same

/-- There is one record for each call, or a misuse. -/
theorem execute_records (calls : List ToolCall) (tools : ToolRegistry σ) (frame : Frame) (w : World σ) :
    let outcome := (x.execute calls state tools).exec frame w
    (∃ records, outcome.value = .ok records ∧ records.length = calls.length) ∨
      ∃ tool message, outcome.value = .error (.toolMisuse tool message) := by
  intro outcome
  obtain ⟨_, result, _, executed, -, returned⟩ := x.execute_ended state tools calls frame w
  have each : (x.pendingCalls state calls frame w).length = calls.length := x.length_pendingCalls state calls frame w
  cases executed with
  | records all =>
    obtain ⟨-, es, same, reviewed⟩ := returned.records rfl
    exact .inl ⟨es, same, reviewed.length_eq.symm.trans (all.length_eq.symm.trans each)⟩
  | misuse _ _ ends =>
    obtain ⟨same, -⟩ := returned.misuse rfl
    obtain ⟨tool, message, rfl⟩ := misuse_of_ends ends
    exact .inr ⟨tool, message, same⟩

end Executor

end AgentLoop
