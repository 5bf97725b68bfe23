import AgentLoop.Proofs.Effect.Reads
import AgentLoop.Proofs.Tool.Functional

/-!
# Sequential and parallel execution agree

- `PreparedCall.Yields`: what may become of a prepared call whose tool is a function. With suitable readings of the
  clock it does (`Executor.reaches_finish`), and so do all calls of a step, one after another or side by side
  (`Executor.reaches_inOrder`, `Executor.reaches_interleaved`);
- `Executor.reaches_execute`: with suitable readings an execution returns any results that its calls may have;
- `Executor.execute_modes_agree`: two executions with the same hooks and the same schema library return the same, up to
  the clock, whatever the modes and the schedules; what they return is made of what each call comes to alone.
-/

namespace AgentLoop

variable {σ : Type}

/-! ## A single call -/

/-- What may become of an invocation for a call that began at that time, if its result is the same for everybody. -/
def Invocation.Yields (i : Invocation σ) (call : ToolCall) (startedAt : Instant)
    (r : Except AgentError ToolExecution) : Prop :=
  ∃ v completedAt, (∀ acts result, i.Goes acts result → result = v) ∧
    r = Executor.concluded call startedAt completedAt v

/-- What may become of a prepared call, if its result is the same for everybody. -/
def PreparedCall.Yields : PreparedCall σ → Except AgentError ToolExecution → Prop
  | .settled e, r => r = .ok e
  | .ready call tool, r => ∃ startedAt, (tool.invoke call.arguments).Yields call startedAt r

/-- With tools that are functions, what may become of a call may become of it after its preparation. -/
theorem PendingToolCall.Ends.exists_yields {p : PendingToolCall} {schemas : SchemaLibrary} {tools : ToolRegistry σ}
    (functional : tools.Functional) {r : Except AgentError ToolExecution} (h : p.Ends schemas tools r) :
    ∃ now, (p.prepared schemas tools now).Yields r := by
  obtain ⟨_, h⟩ := h
  unfold PendingToolCall.Goes at h
  unfold PendingToolCall.prepared
  cases hv : p.verdict schemas tools with
  | error message =>
    rw [hv] at h
    exact h.2
  | ok tool =>
    rw [hv] at h
    obtain ⟨v, same⟩ := functional.result hv
    obtain ⟨startedAt, completedAt, result, goes, rfl⟩ := h
    exact ⟨default, startedAt, v, completedAt, same, by rw [same _ _ goes]⟩

namespace Executor

open Program (Reaches)

variable (x : Executor σ) (state : ExecutionState) (schemas : SchemaLibrary) (tools : ToolRegistry σ)

theorem reaches_start (call : ToolCall) (startedAt : Instant) :
    (start call : Program σ StepMark Instant).Reaches (· = startedAt) :=
  (Reaches.note _).bind_eq ((Reaches.readClock startedAt).bind_eq ((Reaches.note _).bind_eq (.done rfl)))

/-- An act that is watched tells what it saw. -/
theorem reaches_watched {α : Type} (a : Act σ α) :
    (Program.perform a.watched : Program σ StepMark _).Reaches fun seen =>
      (a seen.1 seen.2.1).value = seen.2.2 :=
  .perform fun _ _ => rfl

/-- A tool whose result is the same for everybody comes to it, however often it pauses. -/
theorem reaches_work {i : Invocation σ} {v : Except ToolError Json}
    (same : ∀ acts result, i.Goes acts result → result = v) : (work i).Reaches (· = v) := by
  induction i with
  | last a => exact .perform fun slot own => same _ _ (.last a slot own)
  | turn a next ih =>
    rw [work]
    refine (reaches_watched a).bind ?_
    rintro ⟨slot, own, _ | result⟩ gives
    · exact ih slot own fun acts result goes => same _ _ (.paused gives goes)
    · exact .done (same _ _ (.ended gives))

theorem reaches_conclude (call : ToolCall) (startedAt completedAt : Instant) (v : Except ToolError Json) :
    (conclude call startedAt v : Program σ StepMark _).Reaches (· = concluded call startedAt completedAt v) := by
  refine (Reaches.readClock completedAt).bind_eq ?_
  cases v with
  | ok value => exact (Reaches.note _).bind_eq (.done rfl)
  | error e =>
    simp only [concluded]
    split
    · exact .done rfl
    · exact (Reaches.note _).bind_eq (.done rfl)

/-- With suitable readings, a call comes to any end that it may have. -/
theorem reaches_finish {c : PreparedCall σ} {r : Except AgentError ToolExecution} (h : c.Yields r) :
    (finish c).Reaches (· = r) := by
  cases c with
  | settled e =>
    obtain rfl : r = .ok e := h
    exact .done rfl
  | ready call tool =>
    obtain ⟨startedAt, v, completedAt, same, rfl⟩ := h
    exact (reaches_start call startedAt).bind_eq ((reaches_work same).bind_eq (reaches_conclude _ _ _ _))

/-- With suitable readings, calls one after another come to any ends that they may have, up to the first misuse. -/
theorem reaches_inOrder {calls : List (PreparedCall σ)} {rs : List (Except AgentError ToolExecution)}
    (h : List.Forall₂ PreparedCall.Yields calls rs) : (inOrder calls).Reaches (· = rs.mapM id) := by
  induction h with
  | nil => exact .done rfl
  | @cons c r calls rs hc _ ih =>
    refine (reaches_finish hc).bind_eq ?_
    cases r with
    | error e =>
      rw [mapM_error_cons]
      exact .done rfl
    | ok e =>
      rw [mapM_ok_cons]
      refine Reaches.bind_eq ih ?_
      cases rs.mapM id with
      | error e => exact .done rfl
      | ok es => exact .done rfl

end Executor

/-! ## Side by side -/

/-- What may become of a call at its place whose result is the same for everybody. If it has begun, its time is
known. -/
def RunningCall.YieldsAt (c : RunningCall σ) (e : Nat × Except AgentError ToolExecution) : Prop :=
  e.1 = c.index ∧ ∃ startedAt, (∀ t, c.startedAt = some t → t = startedAt) ∧ c.rest.Yields c.call startedAt e.2

namespace Executor

open Program (Reaches)

variable (x : Executor σ) (state : ExecutionState) (schemas : SchemaLibrary) (tools : ToolRegistry σ)

theorem reaches_begun {c : RunningCall σ} {startedAt : Instant}
    (known : ∀ t, c.startedAt = some t → t = startedAt) : (begun c).Reaches (· = startedAt) := by
  unfold begun
  cases hc : c.startedAt with
  | none => exact reaches_start c.call startedAt
  | some t => exact .done (known t hc)

/-- A turn leads a call to its result, or to something that still leads there. -/
def LeadsTo (e : Nat × Except AgentError ToolExecution) {c : RunningCall σ} :
    Except AgentError ToolExecution ⊕ c.Left → Prop
  | .inl result => result = e.2
  | .inr left => left.val.YieldsAt e

/-- With suitable readings, a turn of a call ends with its result, or leaves it something to do. -/
theorem reaches_advance {c : RunningCall σ} {e : Nat × Except AgentError ToolExecution} (h : c.YieldsAt e) :
    (advance c).Reaches (LeadsTo e) := by
  obtain ⟨index, call, began, rest⟩ := c
  obtain ⟨place, startedAt, known, v, completedAt, same, hr⟩ := h
  have concludes : (conclude call startedAt v : Program σ StepMark _).Reaches (· = e.2) :=
    hr ▸ reaches_conclude call startedAt completedAt v
  refine (reaches_begun known).bind_eq ?_
  cases rest with
  | last a =>
    have last : (Program.perform a : Program σ StepMark _).Reaches (· = v) :=
      .perform fun slot own => same _ _ (.last a slot own)
    exact last.bind_eq (concludes.bind_eq (.done rfl))
  | turn a next =>
    refine (reaches_watched a).bind ?_
    rintro ⟨slot, own, _ | result⟩ gives
    · have left (acts : List (Act σ Unit)) (result : Except ToolError Json) (goes : (next slot own).Goes acts result) :
          result = v := same _ _ (.paused gives goes)
      exact .done ⟨place, startedAt, fun t ht => (Option.some.inj ht).symm, v, completedAt, left, hr⟩
    · obtain rfl : result = v := same _ _ (.ended gives)
      exact concludes.bind_eq (.done rfl)

/-- Whatever the schedule, with suitable readings calls side by side come to any ends that they may have. -/
theorem reaches_interleave (schedule : Nat → Nat) (turn : Nat) (results : Results) {running : List (RunningCall σ)}
    {ended : Results} (h : List.Forall₂ RunningCall.YieldsAt running ended) :
    (interleave schedule turn results running).Reaches fun all => all.Perm (ended ++ results) := by
  induction running using waiting_induction generalizing turn results ended with
  | step running ih =>
    cases picked : running[schedule turn % running.length]? with
    | none =>
      obtain rfl := nobody_waits picked
      cases h
      rw [interleave_none picked]
      exact .done (.refl _)
    | some c =>
      -- the ends in the order in which the call that is picked comes first
      obtain ⟨ended', yields, same⟩ := List.perm_comp_forall₂ (Waiting.picked_perm picked).symm h
      obtain ⟨e, rest, hce, others, rfl⟩ := List.forall₂_cons_left_iff.1 yields
      rw [interleave_some picked]
      refine (reaches_advance hce).bind fun r leads => ?_
      cases r with
      | inl result =>
        obtain rfl : result = e.2 := leads
        refine (ih _ (Waiting.fewer_of_ended picked) _ _ others).mono fun all hall => ?_
        rw [← hce.1] at hall
        exact (hall.trans List.perm_middle).trans (same.append_right results)
      | inr left =>
        have waiting : List.Forall₂ RunningCall.YieldsAt
            (running.eraseIdx (schedule turn % running.length) ++ [left.val]) (rest ++ [e]) :=
          List.rel_append others (.cons leads .nil)
        refine (ih _ (Waiting.fewer_of_left picked left) _ _ waiting).mono fun all hall => ?_
        exact hall.trans (.append_right results ((List.perm_append_singleton e rest).trans same))

/-- The ends of the work to do give every call the result at its place. -/
theorem sorted_yields (index : Nat) {calls : List (PreparedCall σ)} {rs : List (Except AgentError ToolExecution)}
    (h : List.Forall₂ PreparedCall.Yields calls rs) :
    ∃ ended, List.Forall₂ RunningCall.YieldsAt (sorted index calls).2 ended ∧
      (ended ++ (sorted index calls).1).Perm ((List.range' index rs.length).zip rs) := by
  induction h generalizing index with
  | nil => exact ⟨[], .nil, .refl _⟩
  | @cons c r calls rs hc _ ih =>
    obtain ⟨ended, yields, order⟩ := ih (index + 1)
    cases c with
    | settled e =>
      obtain rfl : r = .ok e := hc
      exact ⟨ended, yields, List.perm_middle.trans (order.cons _)⟩
    | ready call tool =>
      obtain ⟨startedAt, hr⟩ := hc
      have waits : RunningCall.YieldsAt ⟨index, call, none, tool.invoke call.arguments⟩ (index, r) :=
        ⟨rfl, startedAt, fun _ ht => (by cases ht), hr⟩
      exact ⟨(index, r) :: ended, .cons waits yields, order.cons _⟩

/-- With suitable readings, calls side by side come to any ends that they may have, and then to the first misuse. -/
theorem reaches_interleaved (schedule : Nat → Nat) {calls : List (PreparedCall σ)}
    {rs : List (Except AgentError ToolExecution)} (h : List.Forall₂ PreparedCall.Yields calls rs) :
    (interleaved schedule calls).Reaches (· = rs.mapM id) := by
  obtain ⟨ended, yields, order⟩ := sorted_yields 0 h
  refine (reaches_interleave schedule 0 (sorted 0 calls).1 yields).bind fun all hall => ?_
  rw [h.length_eq, results_inRequestOrder (hall.trans order)]
  exact .done rfl

/-! ## Executions -/

theorem reaches_bring {calls : List (PreparedCall σ)} {rs : List (Except AgentError ToolExecution)}
    (h : List.Forall₂ PreparedCall.Yields calls rs) : (x.bring calls).Reaches (· = rs.mapM id) := by
  unfold bring
  split
  · exact reaches_interleaved x.schedule h
  · exact reaches_inOrder h

variable {f g : HookContext → HookContext}

/-- A call that is settled may be settled at any time. -/
theorem reaches_judge (p : PendingToolCall) (now : Instant) :
    (judge schemas tools p).Reaches (· = p.prepared schemas tools now) := by
  unfold PendingToolCall.prepared
  cases h : p.verdict schemas tools with
  | ok tool =>
    rw [judge_ok h]
    exact .done rfl
  | error message =>
    have settled : (reject p.call message : Program σ StepMark _).Reaches
        (· = .settled (.rejected p.call message now)) := (Reaches.readClock now).bind_eq (.done rfl)
    obtain plain | ⟨e, announced⟩ := judge_error h
    · rw [plain]
      exact settled
    · rw [announced]
      exact (Reaches.note _).bind_eq settled

/-- Hooks that are a function, dispatched. -/
theorem reaches_run {s : HookStack σ} {t : HookTrigger} (hf : s.Computes t f) (ctx : HookContext) :
    (s.run StepMark.dispatched t ctx).Reaches (· = f ctx) := by
  have dispatched : (Program.perform (s.dispatch t ctx) : Program σ StepMark _).Reaches (· = f ctx) :=
    .perform (hf ctx)
  exact dispatched.bind_eq ((Reaches.note _).bind_eq (.done rfl))

theorem reaches_pending (hf : x.hooks.Computes .beforeToolUse f) (call : ToolCall) :
    (x.pending state call).Reaches (· = x.pendingOf state f call) := by
  unfold pending pendingOf
  split
  · exact (reaches_run hf _).bind_eq (.done rfl)
  · exact .done rfl

/-- Records are shown to hooks that are a function. -/
theorem reaches_reviewAll (hg : x.hooks.Computes .afterToolUse g) (records : List ToolExecution) :
    (x.reviewAll state records).Reaches (· = .ok (records.map (x.reviewedOf state g))) := by
  unfold reviewAll
  split
  · rename_i handled
    have one (r : ToolExecution) : (x.reviewed state r).Reaches (· = x.reviewedOf state g r) := by
      unfold reviewed reviewedOf
      rw [if_pos handled]
      exact (reaches_run hg _).bind_eq (.done rfl)
    have all : List.Forall₂ (fun r e => (x.reviewed state r).Reaches (· = e)) records
        (records.map (x.reviewedOf state g)) :=
      List.forall₂_map_right_iff.2 (List.forall₂_same.2 fun r _ => one r)
    exact (Program.reaches_mapM all).bind_eq (.done rfl)
  · rename_i unhandled
    have same : records.map (x.reviewedOf state g) = records := by
      refine List.map_id'' (fun r => ?_) records
      rw [reviewedOf, if_neg unhandled]
    rw [same]
    exact .done rfl

variable {tools}

/-- Calls may be prepared so that any results that they may have are still open. -/
theorem reaches_prepareAll (functional : tools.Functional) (hf : x.hooks.Computes .beforeToolUse f)
    {calls : List ToolCall} {rs : List (Except AgentError ToolExecution)}
    (h : List.Forall₂ (fun c r => (x.pendingOf state f c).Ends x.schemas tools r) calls rs) :
    ∃ prepared, (calls.mapM (x.prepare state tools)).Reaches (· = prepared) ∧
      List.Forall₂ PreparedCall.Yields prepared rs := by
  have one : ∃ prepared, List.Forall₂ (fun call c => (x.prepare state tools call).Reaches (· = c)) calls prepared ∧
      List.Forall₂ PreparedCall.Yields prepared rs := by
    induction h with
    | nil => exact ⟨[], .nil, .nil⟩
    | @cons call r calls rs hc _ ih =>
      obtain ⟨prepared, reaches, yields⟩ := ih
      obtain ⟨now, hnow⟩ := hc.exists_yields functional
      have judged := reaches_judge x.schemas tools (x.pendingOf state f call) now
      exact ⟨_ :: prepared, .cons ((x.reaches_pending state hf call).bind_eq judged) reaches, .cons hnow yields⟩
  obtain ⟨prepared, reaches, yields⟩ := one
  exact ⟨prepared, Program.reaches_mapM reaches, yields⟩

/-- With suitable readings, an execution returns any results that its calls may have, up to the first misuse. -/
theorem reaches_execute (functional : tools.Functional) (hf : x.hooks.Computes .beforeToolUse f)
    (hg : x.hooks.Computes .afterToolUse g) {calls : List ToolCall} {rs : List (Except AgentError ToolExecution)}
    (h : List.Forall₂ (fun c r => (x.pendingOf state f c).Ends x.schemas tools r) calls rs) :
    (x.execute calls state tools).Reaches (· = (rs.mapM id).map (List.map (x.reviewedOf state g))) := by
  obtain ⟨prepared, reaches, yields⟩ := x.reaches_prepareAll state functional hf h
  rw [execute_eq]
  refine reaches.bind_eq ((x.reaches_bring yields).bind_eq ?_)
  cases rs.mapM id with
  | error e => exact .done rfl
  | ok records => exact x.reaches_reviewAll state hg records

/-- What a call comes to when it is executed alone with these hooks: whatever else there is, a suitable clock lets it
come to that. -/
def Alone (schemas : SchemaLibrary) (hooks : HookStack σ) (state : ExecutionState) (tools : ToolRegistry σ)
    (call : ToolCall) (r : Except AgentError ToolExecution) : Prop :=
  ∀ (frame : Frame) (w : World σ), ∃ clock,
    ((({ schemas, hooks } : Executor σ).execute [call] state tools).exec { frame with clock } w).value =
      r.map fun e => [e]

/-- What may become of a call is what it comes to alone, after the hooks. -/
theorem alone_of_ends (functional : tools.Functional) (hf : x.hooks.Computes .beforeToolUse f)
    (hg : x.hooks.Computes .afterToolUse g) {call : ToolCall} {r : Except AgentError ToolExecution}
    (h : (x.pendingOf state f call).Ends x.schemas tools r) :
    Alone x.schemas x.hooks state tools call (r.map (x.reviewedOf state g)) := by
  intro frame w
  let alone : Executor σ := { schemas := x.schemas, hooks := x.hooks }
  obtain ⟨clock, value⟩ := (alone.reaches_execute state functional hf hg (.cons h .nil)).exists_clock frame w
  refine ⟨clock, value.trans ?_⟩
  cases r with
  | error e => rfl
  | ok e => rfl

/-- Results of calls come to the records that the calls come to alone, or to the first misuse. -/
theorem alone_of_results (functional : tools.Functional) (hf : x.hooks.Computes .beforeToolUse f)
    (hg : x.hooks.Computes .afterToolUse g) {calls : List ToolCall} {rs : List (Except AgentError ToolExecution)}
    (h : List.Forall₂ (fun c r => (x.pendingOf state f c).Ends x.schemas tools r) calls rs)
    {value : Except AgentError (List ToolExecution)}
    (hvalue : value = (rs.mapM id).map (List.map (x.reviewedOf state g))) :
    (∃ es, List.Forall₂ (fun c e => Alone x.schemas x.hooks state tools c (.ok e)) calls es ∧ value = .ok es) ∨
      ∃ before c after es tool message, calls = before ++ c :: after ∧
        List.Forall₂ (fun c e => Alone x.schemas x.hooks state tools c (.ok e)) before es ∧
        Alone x.schemas x.hooks state tools c (.error (.toolMisuse tool message)) ∧
        value = .error (.toolMisuse tool message) := by
  have alone {as : List ToolCall} {es : List ToolExecution}
      (h : List.Forall₂ (fun c e => (x.pendingOf state f c).Ends x.schemas tools (.ok e)) as es) :
      List.Forall₂ (fun c e => Alone x.schemas x.hooks state tools c (.ok e)) as (es.map (x.reviewedOf state g)) :=
    List.forall₂_map_right_iff.2 (h.imp fun _ _ h => x.alone_of_ends state functional hf hg h)
  obtain ⟨reached, executed⟩ : ∃ reached, Executed _ true calls reached (rs.mapM id) := ⟨_, executed_mapM h⟩
  generalize rs.mapM id = v at hvalue executed
  cases executed with
  | records all => exact .inl ⟨_, alone all, hvalue⟩
  | misuse split all misused others =>
    obtain ⟨tool, message, rfl⟩ := misuse_of_ends misused
    refine .inr ⟨_, _, _, _, tool, message, split, alone all, ?_, hvalue⟩
    exact x.alone_of_ends state functional hf hg misused

/-- With hooks and tools that are functions, an execution returns the records of its calls, each of which is what the
call comes to alone; or else the first misuse, which is what that call comes to alone. Any other execution with the
same hooks and schema library, in any mode and with any schedule, returns the same with a suitable clock; with any
other clock, it returns the same errors, and records that differ in their times only, provided that hooks do not look
at times. -/
theorem execute_modes_agree (hooks : x.hooks.Functional) (functional : tools.Functional) (calls : List ToolCall)
    (frame : Frame) (w : World σ) :
    let value := ((x.execute calls state tools).exec frame w).value
    ((∃ es, List.Forall₂ (fun c e => Alone x.schemas x.hooks state tools c (.ok e)) calls es ∧ value = .ok es) ∨
      ∃ before c after es tool message, calls = before ++ c :: after ∧
        List.Forall₂ (fun c e => Alone x.schemas x.hooks state tools c (.ok e)) before es ∧
        Alone x.schemas x.hooks state tools c (.error (.toolMisuse tool message)) ∧
        value = .error (.toolMisuse tool message)) ∧
    ∀ y : Executor σ, y.schemas = x.schemas → y.hooks = x.hooks → ∀ (frame' : Frame) (w' : World σ),
      let value' := ((y.execute calls state tools).exec frame' w').value
      (∃ clock, ((y.execute calls state tools).exec { frame' with clock } w').value = value) ∧
      (∀ e, value = .error e ↔ value' = .error e) ∧
      (x.hooks.IgnoresTimes → ∀ es es', value = .ok es → value' = .ok es' →
        List.Forall₂ ToolExecution.SameButTimes es es') := by
  intro value
  obtain ⟨f, hf⟩ := hooks.dispatch .beforeToolUse
  obtain ⟨g, hg⟩ := hooks.dispatch .afterToolUse
  obtain ⟨rs, ends, hvalue⟩ := x.exists_results state tools hf hg calls frame w
  refine ⟨x.alone_of_results state functional hf hg ends hvalue, ?_⟩
  rintro ⟨_, _, parallel, schedule⟩ rfl rfl frame' w' value'
  let y : Executor σ := ⟨x.schemas, x.hooks, parallel, schedule⟩
  obtain ⟨rs', ends', hvalue'⟩ := y.exists_results state tools hf hg calls frame' w'
  have alike := mapM_alike (x.results_alike state functional ends ends')
  refine ⟨?_, ?_, ?_⟩
  · obtain ⟨clock, h⟩ := (y.reaches_execute state functional hf hg ends).exists_clock frame' w'
    exact ⟨clock, h.trans hvalue.symm⟩
  · have errors : Alike (fun _ _ => True) value value' := by
      rw [show value = _ from hvalue, show value' = _ from hvalue']
      exact alike.map fun _ _ _ => trivial
    exact errors.error_iff
  · intro ignores es es' hes hes'
    have reviewed : Alike (List.Forall₂ ToolExecution.SameButTimes) value value' := by
      rw [show value = _ from hvalue, show value' = _ from hvalue']
      exact alike.map fun as bs h => List.rel_map
        (fun a b same => x.reviewedOf_alike state ignores hg w.own same) h
    rw [hes, hes'] at reviewed
    exact reviewed

/-- A tool that pauses once and gives back its arguments. -/
def echoTool : Tool Unit where
  definition := ⟨"echo", "gives back its arguments", .bool true⟩
  invoke arguments := .turn (pure none) fun _ _ => .last (pure (.ok arguments))

/-- A hook that lets every call go to the tool `echo`. -/
def echoHook : Hook Unit := .ofFunction "echo" [.beforeToolUse] fun ctx =>
  { ctx with toolCall := ctx.toolCall.map fun p => { p with call := { p.call with name := "echo" } } }

theorem execute_modes_agree_echo :
    let hooks := HookStack.empty.insert echoHook 0
    let tools := ToolRegistry.ofList [echoTool]
    let calls : List ToolCall := [⟨"1", "say", .null⟩, ⟨"2", "echo", .bool true⟩]
    let frame : Frame := { clock := fun n => ⟨n, 0⟩, random := fun _ => 0 }
    let records : List ToolExecution :=
      [.success ⟨"1", "echo", .null⟩ .null ⟨0, 0⟩ ⟨1, 0⟩,
        .success ⟨"2", "echo", .bool true⟩ (.bool true) ⟨2, 0⟩ ⟨3, 0⟩]
    hooks.Functional ∧ tools.Functional ∧
      ((({ schemas := .lenient, hooks } : Executor Unit).execute calls {} tools).exec frame ⟨0, 0, [], ()⟩).value =
        .ok records ∧
      ∃ clock, ((({ schemas := .lenient, hooks, parallel := true } : Executor Unit).execute calls {} tools).exec
        { frame with clock } ⟨0, 0, [], ()⟩).value = .ok records := by
  intro hooks tools calls frame records
  let x : Executor Unit := { schemas := .lenient, hooks }
  have functional : hooks.Functional := by
    intro e he
    obtain rfl := List.mem_singleton.1 he
    exact ⟨_, fun _ _ _ => rfl⟩
  have functional' : tools.Functional := by
    intro t ht
    obtain rfl := List.mem_singleton.1 ht
    refine ⟨.ok, fun arguments acts result goes => ?_⟩
    -- after the one pause there is the last turn
    cases goes with
    | ended gives => cases gives
    | paused _ rest => cases rest with
      | last => rfl
  obtain ⟨-, agree⟩ := execute_modes_agree x {} functional functional' calls frame ⟨0, 0, [], ()⟩
  have value : ((x.execute calls {} tools).exec frame ⟨0, 0, [], ()⟩).value = .ok records := rfl
  rw [value] at agree
  exact ⟨functional, functional', value, (agree { x with parallel := true } rfl rfl frame ⟨0, 0, [], ()⟩).1⟩

end Executor

end AgentLoop
