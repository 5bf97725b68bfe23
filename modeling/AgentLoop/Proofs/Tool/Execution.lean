import AgentLoop.Proofs.Tool.Interleaving

/-!
# The tool calls of a step

- `PendingToolCall.isApproved`: the calls for which a tool is invoked: no hook vetoed them, they name a tool, and
  their arguments pass its schema (`isApproved_iff`);
- `Executor.Reviewed`: what the hooks after tool use make of a record;
- `Executor.execute_invokes_approved`: the tools are invoked for the approved calls, once for each of them and with
  the arguments that were checked. Every call gets its record, in order; if nothing was invoked, it is a failure.
-/

namespace AgentLoop

variable {σ : Type}

namespace PendingToolCall

variable (p : PendingToolCall) (schemas : SchemaLibrary) (tools : ToolRegistry σ)

/-- Is a tool to be invoked for a call? -/
def isApproved : Bool := (p.verdict schemas tools).toOption.isSome

/-- How a call may go: without a tool nothing is done, and it is rejected; otherwise its tool does what it does with the
arguments, and gives the result. -/
def Goes (acts : List (Act σ Unit)) (r : Except AgentError ToolExecution) : Prop :=
  match p.verdict schemas tools with
  | .error message => acts = [] ∧ ∃ now, r = .ok (.rejected p.call message now)
  | .ok tool => (tool.invoke p.call.arguments).GoesFor p.call acts r

/-- What may become of a call. -/
def Ends (r : Except AgentError ToolExecution) : Prop := ∃ acts, p.Goes schemas tools acts r

variable {p schemas tools}

theorem isApproved_iff :
    p.isApproved schemas tools = true ↔
      p.blocked = none ∧ ∃ tool, tools.get? p.call.name = some tool ∧
        schemas.validate tool.definition.parameters p.call.arguments = .ok () := by
  have approved : p.isApproved schemas tools = true ↔ ∃ tool, p.verdict schemas tools = .ok tool := by
    unfold isApproved
    cases p.verdict schemas tools with
    | error message => simp [Except.toOption]
    | ok tool => simp [Except.toOption]
  rw [approved]
  constructor
  · rintro ⟨tool, h⟩
    obtain ⟨free, found, valid⟩ := verdict_eq_ok_iff.1 h
    exact ⟨free, tool, found, valid⟩
  · rintro ⟨free, tool, found, valid⟩
    exact ⟨tool, verdict_eq_ok_iff.2 ⟨free, found, valid⟩⟩

/-- A prepared call goes as its verdict says. -/
theorem goes_of_prepared {now : Instant} {acts : List (Act σ Unit)} {r : Except AgentError ToolExecution}
    (h : (p.prepared schemas tools now).Goes acts r) : p.Goes schemas tools acts r := by
  unfold prepared at h
  unfold Goes
  cases hv : p.verdict schemas tools with
  | error message =>
    rw [hv] at h
    exact ⟨h.1, now, h.2⟩
  | ok tool =>
    rw [hv] at h
    exact h

variable (p)

theorem invocations_prepared (now : Instant) :
    (p.prepared schemas tools now).invocations = if p.isApproved schemas tools then [p.call] else [] := by
  unfold prepared isApproved
  cases p.verdict schemas tools <;> rfl

variable {p}

theorem verdict_of_not_approved (h : p.isApproved schemas tools = false) :
    ∃ message, p.verdict schemas tools = .error message := by
  unfold isApproved at h
  cases hv : p.verdict schemas tools with
  | error message => exact ⟨message, rfl⟩
  | ok tool =>
    rw [hv] at h
    cases h

/-- A record is one of the call that was checked. If no tool was invoked, nothing was done, and the record is a failure
for the reason found. -/
theorem record_of_goes {acts : List (Act σ Unit)} {e : ToolExecution} (h : p.Goes schemas tools acts (.ok e)) :
    e.toolCall = p.call ∧
      (p.isApproved schemas tools = false →
        acts = [] ∧ ∃ message, p.verdict schemas tools = .error message ∧ e.result = .failure message) := by
  constructor
  · unfold Goes at h
    split at h
    · obtain ⟨-, now, same⟩ := h
      cases same
      rfl
    · obtain ⟨startedAt, completedAt, result, -, same⟩ := h
      exact Executor.toolCall_of_concluded same.symm
  · intro rejected
    obtain ⟨message, hv⟩ := verdict_of_not_approved rejected
    unfold Goes at h
    rw [hv] at h
    obtain ⟨nothing, now, same⟩ := h
    cases same
    exact ⟨nothing, message, hv, rfl⟩

end PendingToolCall

/-- What is executed is executed under other names, too. -/
theorem Executed.map {α β : Type} {Ends : α → Except AgentError ToolExecution → Prop}
    {Ends' : β → Except AgentError ToolExecution → Prop} (f : α → β) (ends : ∀ a r, Ends a r → Ends' (f a) r)
    {parallel : Bool} {calls reached : List α} {v : Except AgentError (List ToolExecution)}
    (h : Executed Ends parallel calls reached v) : Executed Ends' parallel (calls.map f) (reached.map f) v := by
  have named (b : β) (a : α) (r : Except AgentError ToolExecution) (same : b = f a) (h : Ends a r) : Ends' b r :=
    same ▸ ends a r h
  have related : List.Forall₂ (fun b a => b = f a) (calls.map f) calls :=
    List.forall₂_map_left_iff.2 (List.forall₂_same.2 fun _ _ => rfl)
  obtain ⟨reached', alike, executed⟩ := h.of_forall₂ named related
  rw [← List.forall₂_map_right_iff, List.forall₂_eq_eq_eq] at alike
  exact alike ▸ executed

namespace Executor

open Program (exec_bind ensures_bind)

variable (x : Executor σ) (state : ExecutionState) (tools : ToolRegistry σ)

/-! ## The parts of an execution -/

/-- Brings prepared calls to their ends. -/
def bring (calls : List (PreparedCall σ)) : Program σ StepMark (Except AgentError (List ToolExecution)) :=
  if x.parallel then interleaved x.schedule calls else inOrder calls

/-- Shows records to the hooks after tool use. -/
def reviewAll (records : List ToolExecution) : Program σ StepMark (Except AgentError (List ToolExecution)) := do
  if x.hooks.handles .afterToolUse then return .ok (← records.mapM (x.reviewed state))
  else return .ok records

theorem execute_eq (calls : List ToolCall) :
    x.execute calls state tools = (calls.mapM (x.prepare state tools)).bind fun prepared =>
      (x.bring prepared).bind fun
        | .error e => Program.done (.error e)
        | .ok records => x.reviewAll state records := rfl

/-- What the hooks after tool use make of a record, if there are any. -/
def Reviewed (record e : ToolExecution) : Prop :=
  if x.hooks.handles .afterToolUse then
    ∃ slot own,
      e = (x.hooks.dispatch .afterToolUse (.forToolExecution state record) slot own).value.toolExecution.getD record
  else e = record

theorem ensures_bring (calls : List (PreparedCall σ)) :
    (x.bring calls).Ensures fun journal acts v =>
      ∃ courses reached, courses.map Course.call = calls ∧ Executed Course.Goes x.parallel courses reached v ∧
        (invokedCalls journal).Perm (reached.flatMap (·.call.invocations)) ∧ acts.Perm (reached.flatMap (·.acts)) := by
  unfold bring
  cases x.parallel with
  | true => exact (ensures_interleaved x.schedule calls).mono fun journal acts v ⟨courses, h⟩ => ⟨courses, courses, h⟩
  | false =>
    refine (ensures_inOrder calls).mono fun journal acts v ⟨courses, reached, same, executed, began, did⟩ => ?_
    exact ⟨courses, reached, same, executed, .of_eq began, .of_eq did⟩

/-- A record is shown to the hooks; nothing is invoked. -/
theorem ensures_reviewed (handled : x.hooks.handles .afterToolUse = true) (record : ToolExecution) :
    (x.reviewed state record).Ensures fun journal acts e =>
      (∀ m ∈ journal, m.invoked? = none) ∧ acts = x.consulted .afterToolUse (.forToolExecution state record) ∧
        x.Reviewed state record e := by
  intro slot own
  refine ⟨List.forall_mem_singleton.2 rfl, ?_, ?_⟩
  · rw [consulted, if_pos handled]
  · rw [Reviewed, if_pos handled]
    exact ⟨slot, own, rfl⟩

/-- Records are shown to the hooks one after another; nothing is invoked. -/
theorem ensures_reviewAll (records : List ToolExecution) :
    (x.reviewAll state records).Ensures fun journal acts v =>
      invokedCalls journal = [] ∧
        acts = records.flatMap (fun r => x.consulted .afterToolUse (.forToolExecution state r)) ∧
        ∃ es, v = .ok es ∧ List.Forall₂ (x.Reviewed state) records es := by
  unfold reviewAll
  cases handled : x.hooks.handles .afterToolUse with
  | true =>
    refine (ensures_bind _ _).2 ?_
    refine (Program.ensures_mapM (x.ensures_reviewed state handled) records).mono
      fun journal acts es ⟨marks, did, reviewed⟩ => ?_
    refine ⟨?_, ?_, es, rfl, reviewed⟩
    · rw [List.append_nil]
      exact invokedCalls_eq_nil marks
    · rw [List.append_nil]
      exact did
  | false =>
    refine ⟨rfl, ?_, records, rfl, ?_⟩
    · simp [consulted, handled]
    · simp [Reviewed, handled, List.forall₂_same]

/-! ## Executions -/

/-- What an execution of prepared calls returns: after a misuse only that, otherwise the records as the hooks after
tool use leave them. -/
structure Returned (result : Except AgentError (List ToolExecution)) (acts : List (Act σ Unit))
    (v : Except AgentError (List ToolExecution)) : Prop where
  misuse {e : AgentError} : result = .error e → v = .error e ∧ acts = []
  records {records : List ToolExecution} : result = .ok records →
    acts = records.flatMap (fun r => x.consulted .afterToolUse (.forToolExecution state r)) ∧
      ∃ es, v = .ok es ∧ List.Forall₂ (x.Reviewed state) records es

/-- The execution of prepared calls: first the tools act, then the hooks after tool use. -/
theorem ensures_executePrepared (prepared : List (PreparedCall σ)) :
    ((x.bring prepared).bind fun
      | .error e => Program.done (.error e)
      | .ok records => x.reviewAll state records).Ensures fun journal acts v =>
      ∃ courses reached result after, courses.map Course.call = prepared ∧
        Executed Course.Goes x.parallel courses reached result ∧
        (invokedCalls journal).Perm (reached.flatMap (·.call.invocations)) ∧
        (∃ during, acts = during ++ after ∧ during.Perm (reached.flatMap (·.acts))) ∧
        x.Returned state result after v := by
  refine (ensures_bind _ _).2 ((x.ensures_bring prepared).mono fun journal during result h => ?_)
  obtain ⟨courses, reached, same, executed, began, did⟩ := h
  cases result with
  | error e =>
    refine ⟨courses, reached, .error e, [], same, executed, ?_, ⟨during, rfl, did⟩, ?_⟩
    · rw [List.append_nil]
      exact began
    · exact ⟨fun h => ⟨by rw [Except.error.inj h], rfl⟩, fun h => by cases h⟩
  | ok records =>
    refine (x.ensures_reviewAll state records).mono fun journal' after v ⟨quiet, reviewing, reviewed⟩ => ?_
    refine ⟨courses, reached, .ok records, after, same, executed, ?_, ⟨during, rfl, did⟩, ?_⟩
    · rw [invokedCalls_append, quiet, List.append_nil]
      exact began
    · refine ⟨fun h => (by cases h), fun h => ?_⟩
      rw [← Except.ok.inj h]
      exact ⟨reviewing, reviewed⟩

/-- Calls that have gone somehow after their preparation have gone so before it. -/
theorem courses_of_prepared {R : PendingToolCall → PreparedCall σ → Prop} {ps : List PendingToolCall}
    {courses : List (Course (PreparedCall σ) σ)} (h : List.Forall₂ R ps (courses.map Course.call)) :
    ∃ courses' : List (Course PendingToolCall σ), courses'.map Course.call = ps ∧
      List.Forall₂ (fun c' c => R c'.call c.call ∧ c'.acts = c.acts) courses' courses := by
  induction courses generalizing ps with
  | nil =>
    cases h
    exact ⟨[], rfl, .nil⟩
  | cons c rest ih =>
    obtain ⟨p, others, hp, hrest, rfl⟩ := List.forall₂_cons_right_iff.1 h
    obtain ⟨courses', same, related⟩ := ih hrest
    exact ⟨⟨p, c.acts⟩ :: courses', by rw [List.map_cons, same], .cons ⟨hp, rfl⟩ related⟩

/-- What related elements give is the same for both lists. -/
theorem flatMap_of_forall₂ {α β γ : Type} {R : α → β → Prop} {F : α → List γ} {G : β → List γ}
    (same : ∀ a b, R a b → G b = F a) {as : List α} {bs : List β} (h : List.Forall₂ R as bs) :
    bs.flatMap G = as.flatMap F := by
  induction h with
  | nil => rfl
  | cons hab _ ih => rw [List.flatMap_cons, List.flatMap_cons, ih, same _ _ hab]

/-- The calls for which a tool is invoked are the approved ones. -/
theorem flatMap_approved (ps : List PendingToolCall) :
    (ps.flatMap fun p => if p.isApproved x.schemas tools then [p.call] else []) =
      (ps.filter fun p => p.isApproved x.schemas tools).map (·.call) := by
  induction ps with
  | nil => rfl
  | cons p rest ih =>
    rw [List.flatMap_cons, ih]
    cases approved : p.isApproved x.schemas tools with
    | true => simp [approved]
    | false => simp [approved]

/-- The calls of a step after all hooks before tool use. -/
def pendingCalls (calls : List ToolCall) (frame : Frame) (w : World σ) : List PendingToolCall :=
  ((calls.mapM (x.pending state)).exec frame w).value

/-- How a call that waited has gone. -/
def Went (c : Course PendingToolCall σ) (r : Except AgentError ToolExecution) : Prop :=
  c.call.Goes x.schemas tools c.acts r

/-- An execution: the hooks before tool use act, then the tools of the calls that are reached, then the hooks after
tool use. The tools are invoked for the approved ones of the calls that are reached. -/
theorem execute_executed (calls : List ToolCall) (frame : Frame) (w : World σ) :
    ∃ courses reached result during after, courses.map Course.call = x.pendingCalls state calls frame w ∧
      Executed (x.Went tools) x.parallel courses reached result ∧
      (invokedCalls ((x.execute calls state tools).exec frame w).journal).Perm
        (((reached.map Course.call).filter fun p => p.isApproved x.schemas tools).map (·.call)) ∧
      (x.execute calls state tools).acts frame w =
        calls.flatMap (fun call => x.consulted .beforeToolUse (.forToolCall state call)) ++ (during ++ after) ∧
      during.Perm (reached.flatMap (·.acts)) ∧
      x.Returned state result after ((x.execute calls state tools).exec frame w).value := by
  obtain ⟨quiet, before⟩ := (x.ensures_prepareAll state tools calls).exec frame w
  have verdicts := x.prepared_verdicts state tools calls frame (rfl : w.own = w.own)
  obtain ⟨prepared, reached', result, after, same, executed, began, ⟨during, did, order⟩, returned⟩ :=
    (x.ensures_executePrepared state ((calls.mapM (x.prepare state tools)).exec frame w).value).exec frame
      ((calls.mapM (x.prepare state tools)).exec frame w).world
  rw [← same] at verdicts
  obtain ⟨courses, waited, related⟩ := courses_of_prepared verdicts
  have goes (c' : Course PendingToolCall σ) (c : Course (PreparedCall σ) σ) (r : Except AgentError ToolExecution) :
      ((∃ now, c.call = c'.call.prepared x.schemas tools now) ∧ c'.acts = c.acts) → c.Goes r → x.Went tools c' r := by
    rintro ⟨⟨now, call⟩, acts⟩ h
    unfold Course.Goes at h
    rw [call, ← acts] at h
    exact PendingToolCall.goes_of_prepared h
  obtain ⟨reached, alike, executed'⟩ := executed.of_forall₂ goes related
  refine ⟨courses, reached, result, during, after, waited, executed', ?_, ?_, ?_, ?_⟩
  · have invoked (c' : Course PendingToolCall σ) (c : Course (PreparedCall σ) σ) :
        ((∃ now, c.call = c'.call.prepared x.schemas tools now) ∧ c'.acts = c.acts) →
          c.call.invocations = if c'.call.isApproved x.schemas tools then [c'.call.call] else [] := by
      rintro ⟨⟨now, call⟩, -⟩
      rw [call, PendingToolCall.invocations_prepared]
    rw [flatMap_of_forall₂ invoked alike] at began
    rw [execute_eq, exec_bind, invokedCalls_append, invokedCalls_eq_nil quiet, ← flatMap_approved, List.flatMap_map]
    exact began
  · rw [execute_eq, Program.acts_bind, before, did]
  · rw [flatMap_of_forall₂ (fun _ _ h => h.2.symm) alike] at order
    exact order
  · rw [execute_eq, exec_bind]
    exact returned

/-- The same without what the tools do. -/
theorem execute_ended (calls : List ToolCall) (frame : Frame) (w : World σ) :
    ∃ reached result after,
      Executed (fun p r => p.Ends x.schemas tools r) x.parallel (x.pendingCalls state calls frame w) reached result ∧
      (invokedCalls ((x.execute calls state tools).exec frame w).journal).Perm
        ((reached.filter fun p => p.isApproved x.schemas tools).map (·.call)) ∧
      x.Returned state result after ((x.execute calls state tools).exec frame w).value := by
  obtain ⟨courses, reached, result, _, after, waited, executed, began, -, -, returned⟩ :=
    x.execute_executed state tools calls frame w
  have ended : Executed (fun p r => p.Ends x.schemas tools r) x.parallel (courses.map Course.call) _ result :=
    executed.map Course.call fun c r h => ⟨c.acts, h⟩
  rw [waited] at ended
  exact ⟨_, result, after, ended, began, returned⟩

theorem length_pendingCalls (calls : List ToolCall) (frame : Frame) (w : World σ) :
    (x.pendingCalls state calls frame w).length = calls.length := by
  have paired := (Program.ensures_mapM (R := fun _ _ => True)
    (fun call => (x.ensures_pending state call).mono fun _ _ _ h => ⟨h.1, h.2, trivial⟩) calls).exec frame w
  exact paired.2.2.length_eq.symm

end Executor

end AgentLoop
