import AgentLoop.Proofs.Tool.Preparation

/-!
# Tools at work, one after another

- `Executor.concluded`: the record of a tool that has finished, unless it was misused;
- `Invocation.Goes`, `PreparedCall.Goes`: how an invocation and a prepared call may go: what is done, and what comes of
  it;
- `Course`: a call with what is done for it; `Executed`: what comes of the calls of a step: their records, or the first
  misuse;
- `Executor.ensures_inOrder`: calls that are brought to their ends one after another are executed up to the first
  misuse; for each of those that are ready the tool is invoked once and does what it does.
-/

namespace AgentLoop

/-- The calls for which tools were invoked. -/
def invokedCalls (journal : List StepMark) : List ToolCall := journal.filterMap StepMark.invoked?

theorem invokedCalls_append (a b : List StepMark) : invokedCalls (a ++ b) = invokedCalls a ++ invokedCalls b :=
  List.filterMap_append

theorem invokedCalls_eq_nil {journal : List StepMark} (h : ∀ m ∈ journal, m.invoked? = none) :
    invokedCalls journal = [] :=
  List.filterMap_eq_nil_iff.2 h

/-- The record of a tool that has finished, unless it was misused. -/
def Executor.concluded (call : ToolCall) (startedAt completedAt : Instant) :
    Except ToolError Json → Except AgentError ToolExecution
  | .ok value => .ok (.success call value startedAt completedAt)
  | .error e =>
    if e.misuse then .error (.toolMisuse call.name e.message)
    else .ok (.failure call e.message startedAt completedAt)

/-- A record is one of its call. -/
theorem Executor.toolCall_of_concluded {call : ToolCall} {startedAt completedAt : Instant}
    {result : Except ToolError Json} {e : ToolExecution} (h : concluded call startedAt completedAt result = .ok e) :
    e.toolCall = call := by
  cases result with
  | ok value =>
    cases h
    rfl
  | error error =>
    simp only [concluded] at h
    split at h
    · cases h
    · cases h
      rfl

variable {σ α β : Type}

/-- A call with what is done for it. -/
structure Course (α σ : Type) where
  call : α
  acts : List (Act σ Unit) := []

namespace Invocation

/-- How an invocation may go: what is done in its turns, and the result. -/
inductive Goes : Invocation σ → List (Act σ Unit) → Except ToolError Json → Prop
  | last (a : Act σ (Except ToolError Json)) (slot : Slot) (own : σ) : Goes (.last a) [a.effect] (a slot own).value
  | ended {a : Act σ (Option (Except ToolError Json))} {next : Slot → σ → Invocation σ} {slot : Slot} {own : σ}
      {result : Except ToolError Json} : (a slot own).value = some result → Goes (.turn a next) [a.effect] result
  | paused {a : Act σ (Option (Except ToolError Json))} {next : Slot → σ → Invocation σ} {slot : Slot} {own : σ}
      {acts : List (Act σ Unit)} {result : Except ToolError Json} : (a slot own).value = none →
      Goes (next slot own) acts result → Goes (.turn a next) (a.effect :: acts) result

/-- How an invocation for a call may go. -/
def GoesFor (i : Invocation σ) (call : ToolCall) (acts : List (Act σ Unit)) (r : Except AgentError ToolExecution) :
    Prop :=
  ∃ startedAt completedAt result, i.Goes acts result ∧ r = Executor.concluded call startedAt completedAt result

end Invocation

namespace PreparedCall

/-- The calls for which a tool is to be invoked. -/
def invocations : PreparedCall σ → List ToolCall
  | .settled _ => []
  | .ready call _ => [call]

/-- How a call may go: what its tool does, and what comes of it. -/
def Goes : PreparedCall σ → List (Act σ Unit) → Except AgentError ToolExecution → Prop
  | .settled e, acts, r => acts = [] ∧ r = .ok e
  | .ready call tool, acts, r => (tool.invoke call.arguments).GoesFor call acts r

end PreparedCall

/-- A call goes so. -/
def Course.Goes (c : Course (PreparedCall σ) σ) (r : Except AgentError ToolExecution) : Prop := c.call.Goes c.acts r

/-- What comes of the calls of a step: their records, or the first misuse. Side by side, all calls are reached and come
to some end; otherwise those up to the misuse. -/
inductive Executed (Ends : α → Except AgentError ToolExecution → Prop) (parallel : Bool) (calls : List α) :
    (reached : List α) → Except AgentError (List ToolExecution) → Prop
  | records {es : List ToolExecution} : List.Forall₂ (fun c e => Ends c (.ok e)) calls es →
      Executed Ends parallel calls calls (.ok es)
  | misuse {before after : List α} {c : α} {es : List ToolExecution} {e : AgentError} :
      calls = before ++ c :: after → List.Forall₂ (fun c e => Ends c (.ok e)) before es → Ends c (.error e) →
      (parallel = true → ∃ rs, List.Forall₂ Ends after rs) →
      Executed Ends parallel calls (if parallel then calls else before ++ [c]) (.error e)

/-- A record in front of other results. -/
theorem mapM_ok_cons (a : α) (rs : List (Except AgentError α)) :
    (.ok a :: rs).mapM id = (rs.mapM id).map (a :: ·) := by
  rw [List.mapM_cons]
  cases rs.mapM id <;> rfl

/-- An error in front of other results. -/
theorem mapM_error_cons (e : AgentError) (rs : List (Except AgentError α)) :
    (.error e :: rs).mapM id = .error e := by
  rw [List.mapM_cons]
  rfl

/-- A call with a record in front of others. -/
theorem Executed.cons {Ends : α → Except AgentError ToolExecution → Prop} {parallel : Bool} {c : α}
    {calls reached : List α} {e : ToolExecution} {v : Except AgentError (List ToolExecution)} (hc : Ends c (.ok e))
    (h : Executed Ends parallel calls reached v) :
    Executed Ends parallel (c :: calls) (c :: reached) (v.map (e :: ·)) := by
  cases h with
  | records all => exact .records (.cons hc all)
  | misuse split all misused others =>
    rename_i before after d es error
    have split' : c :: calls = (c :: before) ++ d :: after := by rw [split, List.cons_append]
    have reached : c :: (if parallel then calls else before ++ [d]) =
        if parallel then c :: calls else (c :: before) ++ [d] := by
      cases parallel <;> rfl
    rw [reached]
    exact .misuse split' (.cons hc all) misused others

/-- Every call that is reached comes to some end. -/
theorem Executed.ends {Ends : α → Except AgentError ToolExecution → Prop} {parallel : Bool} {calls reached : List α}
    {v : Except AgentError (List ToolExecution)} (h : Executed Ends parallel calls reached v) :
    ∀ c ∈ reached, ∃ r, Ends c r := by
  obtain ⟨rs, all⟩ : ∃ rs, List.Forall₂ Ends reached rs := by
    cases h with
    | records all => exact ⟨_, List.forall₂_map_right_iff.2 all⟩
    | misuse split all misused others =>
      have ok := List.forall₂_map_right_iff.2 all
      cases parallel with
      | true =>
        obtain ⟨rs, rest⟩ := others rfl
        rw [split]
        exact ⟨_, List.rel_append ok (.cons misused rest)⟩
      | false => exact ⟨_, List.rel_append ok (.cons misused .nil)⟩
  intro c hc
  obtain ⟨i, bound, rfl⟩ := List.getElem_of_mem hc
  exact ⟨_, all.get bound (all.length_eq ▸ bound)⟩

/-- Related elements are related to the same ones. -/
theorem forall₂_of_related {γ : Type} {R : α → β → Prop} {F : α → γ → Prop} {G : β → γ → Prop}
    (h : ∀ a b c, R a b → G b c → F a c) {as : List α} {bs : List β} {cs : List γ} (related : List.Forall₂ R as bs)
    (all : List.Forall₂ G bs cs) : List.Forall₂ F as cs := by
  induction related generalizing cs with
  | nil =>
    cases all
    exact .nil
  | cons hab _ ih =>
    obtain ⟨c, rest, hc, others, rfl⟩ := List.forall₂_cons_left_iff.1 all
    exact .cons (h _ _ _ hab hc) (ih others)

/-- If two lists of calls are related and the ends of the one are ends of the other, both are executed alike. -/
theorem Executed.of_forall₂ {R : α → β → Prop} {Ends : α → Except AgentError ToolExecution → Prop}
    {Ends' : β → Except AgentError ToolExecution → Prop} (ends : ∀ a b r, R a b → Ends' b r → Ends a r)
    {parallel : Bool} {calls : List α} {calls' reached' : List β} {v : Except AgentError (List ToolExecution)}
    (related : List.Forall₂ R calls calls') (h : Executed Ends' parallel calls' reached' v) :
    ∃ reached, List.Forall₂ R reached reached' ∧ Executed Ends parallel calls reached v := by
  have ok (a : α) (b : β) (e : ToolExecution) : R a b → Ends' b (.ok e) → Ends a (.ok e) := ends a b (.ok e)
  cases h with
  | records all => exact ⟨calls, related, .records (forall₂_of_related ok related all)⟩
  | misuse split all misused others =>
    rename_i before' after' c' es e
    rw [split] at related
    have first := List.forall₂_take_append calls before' (c' :: after') related
    obtain ⟨c, after, hc, last, rest⟩ :=
      List.forall₂_cons_right_iff.1 (List.forall₂_drop_append calls before' (c' :: after') related)
    have split' : calls = calls.take before'.length ++ c :: after := by
      rw [← rest, List.take_append_drop]
    have all' := forall₂_of_related ok first all
    have others' : parallel = true → ∃ rs, List.Forall₂ Ends after rs := fun together =>
      (others together).imp fun _ h => forall₂_of_related ends last h
    refine ⟨_, ?_, .misuse split' all' (ends _ _ _ hc misused) others'⟩
    cases parallel with
    | true =>
      rw [split]
      exact related
    | false => exact List.rel_append first (.cons hc .nil)

namespace Executor

open Program (ensures_bind)

/-! ## Parts of an invocation -/

theorem ensures_start (call : ToolCall) :
    (start call : Program σ StepMark Instant).Ensures fun journal acts _ =>
      invokedCalls journal = [call] ∧ acts = [] :=
  fun _ => ⟨rfl, rfl⟩

/-- A tool that works until it has its result. -/
theorem ensures_work (i : Invocation σ) :
    (work i : Program σ StepMark _).Ensures fun journal acts result => journal = [] ∧ i.Goes acts result := by
  induction i with
  | last a => exact fun slot own => ⟨rfl, .last a slot own⟩
  | turn a next ih =>
    rw [work]
    intro slot own
    simp only [Act.watched]
    cases gives : (a slot own).value with
    | some result => exact ⟨rfl, .ended gives⟩
    | none => exact (ih slot own).mono fun _ _ _ ⟨quiet, goes⟩ => ⟨quiet, .paused gives goes⟩

theorem ensures_conclude (call : ToolCall) (startedAt : Instant) (result : Except ToolError Json) :
    (conclude call startedAt result : Program σ StepMark _).Ensures fun journal acts r =>
      invokedCalls journal = [] ∧ acts = [] ∧ ∃ completedAt, r = concluded call startedAt completedAt result := by
  intro completedAt
  cases result with
  | ok value => exact ⟨rfl, rfl, completedAt, rfl⟩
  | error e =>
    simp only [concluded]
    split
    · exact ⟨rfl, rfl, completedAt, rfl⟩
    · exact ⟨rfl, rfl, completedAt, rfl⟩

/-! ## One after another -/

/-- A call that is brought to its end: if it is ready, its tool is invoked once. -/
theorem ensures_finish (c : PreparedCall σ) :
    (finish c).Ensures fun journal acts r => invokedCalls journal = c.invocations ∧ c.Goes acts r := by
  cases c with
  | settled e => exact ⟨rfl, rfl, rfl⟩
  | ready call tool =>
    refine (ensures_bind _ _).2 ((ensures_start call).mono fun journal acts startedAt ⟨began, still⟩ => ?_)
    refine (ensures_bind _ _).2 ((ensures_work _).mono fun journal' acts' result ⟨quiet, goes⟩ => ?_)
    refine (ensures_conclude call startedAt _).mono fun journal'' acts'' r ⟨quiet', still', completedAt, hr⟩ => ?_
    refine ⟨?_, startedAt, completedAt, result, ?_, hr⟩
    · rw [invokedCalls_append, invokedCalls_append, began, quiet, quiet']
      rfl
    · rw [still, still', List.nil_append, List.append_nil]
      exact goes

/-- Calls that are brought to their ends one after another. Nothing is done for those that are not reached. -/
theorem ensures_inOrder (calls : List (PreparedCall σ)) :
    (inOrder calls).Ensures fun journal acts v =>
      ∃ courses reached, courses.map Course.call = calls ∧ Executed Course.Goes false courses reached v ∧
        invokedCalls journal = reached.flatMap (·.call.invocations) ∧ acts = reached.flatMap (·.acts) := by
  induction calls with
  | nil => exact ⟨[], [], rfl, .records .nil, rfl, rfl⟩
  | cons c rest ih =>
    refine (ensures_bind _ _).2 ((ensures_finish c).mono fun journal acts r ⟨began, goes⟩ => ?_)
    let course : Course (PreparedCall σ) σ := ⟨c, acts⟩
    have goes : course.Goes r := goes
    cases r with
    | error e =>
      let others : List (Course (PreparedCall σ) σ) := rest.map fun c => { call := c }
      have first : course :: others = [] ++ course :: others := rfl
      refine ⟨_, [course], ?_, .misuse first .nil goes nofun, ?_, ?_⟩
      · rw [List.map_cons, List.map_map]
        exact congrArg _ (List.map_id _)
      · rw [List.append_nil, began, List.flatMap_singleton]
      · rw [List.append_nil, List.flatMap_singleton]
    | ok execution =>
      refine (ensures_bind _ _).2
        (ih.mono fun journal' acts' v ⟨courses, reached, same, executed, began', did'⟩ => ?_)
      have all := executed.cons goes
      have whole : (course :: courses).map Course.call = c :: rest := by rw [List.map_cons, same]
      have begun : invokedCalls (journal ++ (journal' ++ [])) =
          (course :: reached).flatMap (·.call.invocations) := by
        rw [List.append_nil, invokedCalls_append, began, began', List.flatMap_cons]
      have done : acts ++ (acts' ++ []) = (course :: reached).flatMap (·.acts) := by
        rw [List.append_nil, did', List.flatMap_cons]
      cases v with
      | error e => exact ⟨_, _, whole, all, begun, done⟩
      | ok executions => exact ⟨_, _, whole, all, begun, done⟩

end Executor

end AgentLoop
