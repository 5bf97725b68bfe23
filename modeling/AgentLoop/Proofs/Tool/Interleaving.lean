import Mathlib.Data.List.Perm.Basic
import AgentLoop.Proofs.Tool.Finishing

/-!
# Tools at work, side by side

- `Executor.ensures_advance`: what one turn of a call does;
- `Executor.ensures_interleave`: whatever the schedule, in the end all calls have ended; what was invoked and what was
  done is, up to the order, what the calls had still to do. The induction is on the calls that wait, of which there are
  fewer after each turn (`Executor.waiting_induction`);
- `Executor.ensures_interleaved`: calls side by side are executed like calls one after another, but all of them are
  reached.
-/

namespace AgentLoop

variable {σ : Type}

namespace RunningCall

/-- The calls for which a tool is still to be invoked. -/
def invocations (c : RunningCall σ) : List ToolCall := if c.startedAt.isNone then [c.call] else []

/-- How a call at its place in the request may go on: what is still done, and the result. -/
def GoesAt (c : RunningCall σ) (acts : List (Act σ Unit)) (e : Nat × Except AgentError ToolExecution) : Prop :=
  e.1 = c.index ∧ c.rest.GoesFor c.call acts e.2

end RunningCall

namespace Executor

open Program (ensures_bind)

/-! ## One turn -/

/-- What is left of a call after a turn in which it has not ended. -/
structure Advanced (c c' : RunningCall σ) (did : List (Act σ Unit)) : Prop where
  invocations : c'.invocations = []
  goesAt {acts : List (Act σ Unit)} {e : Nat × Except AgentError ToolExecution} :
    c'.GoesAt acts e → c.GoesAt (did ++ acts) e

/-- What a turn of a call does and leads to: the call has ended, or something is left of it. -/
def Turned (c : RunningCall σ) (did : List (Act σ Unit)) : Except AgentError ToolExecution ⊕ c.Left → Prop
  | .inl result => c.rest.GoesFor c.call did result
  | .inr left => Advanced c left.val did

theorem ensures_begun (c : RunningCall σ) :
    (begun c).Ensures fun journal acts _ => invokedCalls journal = c.invocations ∧ acts = [] := by
  unfold begun RunningCall.invocations
  cases c.startedAt with
  | none => exact ensures_start c.call
  | some t => exact ⟨rfl, rfl⟩

/-- What is recorded when a tool has its result ends a turn. -/
theorem ensures_concludes {i : Invocation σ} {did : List (Act σ Unit)} {result : Except ToolError Json}
    (goes : i.Goes did result) (call : ToolCall) (startedAt : Instant) (β : Type) :
    ((conclude call startedAt result).bind fun r => .done (.inl r) : Program σ StepMark (_ ⊕ β)).Ensures
      fun journal acts v => invokedCalls journal = [] ∧ ∃ r, v = .inl r ∧ i.GoesFor call (did ++ acts) r := by
  refine (ensures_bind _ _).2 ((ensures_conclude call startedAt result).mono ?_)
  rintro journal _ r ⟨quiet, rfl, completedAt, hr⟩
  show invokedCalls (journal ++ []) = [] ∧ ∃ r', Sum.inl r = Sum.inl r' ∧ i.GoesFor call (did ++ []) r'
  rw [List.append_nil, List.append_nil]
  exact ⟨quiet, r, rfl, startedAt, completedAt, result, goes, hr⟩

theorem ensures_goOn (startedAt : Instant) (c : RunningCall σ) :
    (goOn startedAt c).Ensures fun journal acts r => invokedCalls journal = [] ∧ Turned c acts r := by
  obtain ⟨index, call, began, rest⟩ := c
  cases rest with
  | last a =>
    refine fun slot own => (ensures_concludes (.last a slot own) call startedAt _).mono ?_
    rintro _ _ _ ⟨quiet, r, rfl, goes⟩
    exact ⟨quiet, goes⟩
  | turn a next =>
    intro slot own
    simp only [Act.watched]
    cases gives : (a slot own).value with
    | some result =>
      have goes : (Invocation.turn a next).Goes [a.effect] result := .ended gives
      refine (ensures_concludes goes call startedAt _).mono ?_
      rintro _ _ _ ⟨quiet, r, rfl, goes⟩
      exact ⟨quiet, goes⟩
    | none =>
      refine ⟨rfl, rfl, ?_⟩
      rintro acts e ⟨place, startedAt, completedAt, result, goes, same⟩
      exact ⟨place, startedAt, completedAt, result, .paused gives goes, same⟩

/-- A turn of a call: its tool is invoked if it has not been yet; the call ends, or something is left of it. -/
theorem ensures_advance (c : RunningCall σ) :
    (advance c).Ensures fun journal acts r => invokedCalls journal = c.invocations ∧ Turned c acts r := by
  refine (ensures_bind _ _).2 ((ensures_begun c).mono fun journal acts startedAt ⟨began, still⟩ => ?_)
  refine (ensures_goOn startedAt c).mono fun journal' acts' r ⟨quiet, turned⟩ => ?_
  rw [invokedCalls_append, began, quiet, still, List.append_nil]
  exact ⟨rfl, turned⟩

/-! ## All turns -/

/-- How a call has gone on: what was done, its place and the result. -/
abbrev Ended (σ : Type) : Type := List (Act σ Unit) × Nat × Except AgentError ToolExecution

/-- What comes of calls that go on side by side: each of them ends, and what was invoked and done is, up to the order,
what they had still to do. -/
structure Interleaved (running : List (RunningCall σ)) (results : Results) (journal : List StepMark)
    (acts : List (Act σ Unit)) (all : Results) : Prop where
  ended : ∃ ended : List (Ended σ), List.Forall₂ (fun c e => RunningCall.GoesAt c e.1 e.2) running ended ∧
    all.Perm (ended.map (·.2) ++ results) ∧ acts.Perm (ended.flatMap (·.1))
  invocations : (invokedCalls journal).Perm (running.flatMap (·.invocations))

namespace Interleaved

variable {running running' : List (RunningCall σ)} {results all : Results} {journal journal' : List StepMark}
  {acts acts' : List (Act σ Unit)} {c c' : RunningCall σ}

/-- It does not matter who waits longest. -/
theorem perm (h : Interleaved running results journal acts all) (p : running'.Perm running) :
    Interleaved running' results journal acts all := by
  obtain ⟨⟨ended, goes, order, did⟩, began⟩ := h
  obtain ⟨ended', goes', order'⟩ := List.perm_comp_forall₂ p goes
  refine ⟨⟨ended', goes', ?_, did.trans (order'.symm.flatMap_right _)⟩, began.trans (p.symm.flatMap_right _)⟩
  exact order.trans ((order'.symm.map _).append_right results)

/-- A call that ends in its turn. -/
theorem cons_ended {result : Except AgentError ToolExecution} (began : invokedCalls journal = c.invocations)
    (goes : c.rest.GoesFor c.call acts result)
    (h : Interleaved running ((c.index, result) :: results) journal' acts' all) :
    Interleaved (c :: running) results (journal ++ journal') (acts ++ acts') all := by
  obtain ⟨⟨ended, others, order, did⟩, began'⟩ := h
  refine ⟨⟨(acts, c.index, result) :: ended, .cons ⟨rfl, goes⟩ others, order.trans List.perm_middle, ?_⟩, ?_⟩
  · rw [List.flatMap_cons]
    exact did.append_left _
  · rw [invokedCalls_append, began, List.flatMap_cons]
    exact began'.append_left _

/-- A call that waits again after its turn. -/
theorem cons_advanced (began : invokedCalls journal = c.invocations) (left : Advanced c c' acts)
    (h : Interleaved (c' :: running) results journal' acts' all) :
    Interleaved (c :: running) results (journal ++ journal') (acts ++ acts') all := by
  obtain ⟨⟨ended, goes, order, did⟩, began'⟩ := h
  obtain ⟨⟨did', e⟩, rest, goes', others, rfl⟩ := List.forall₂_cons_left_iff.1 goes
  refine ⟨⟨(acts ++ did', e) :: rest, .cons (left.goesAt goes') others, order, ?_⟩, ?_⟩
  · rw [List.flatMap_cons] at did ⊢
    rw [List.append_assoc]
    exact did.append_left _
  · rw [List.flatMap_cons, left.invocations] at began'
    rw [invokedCalls_append, began, List.flatMap_cons]
    exact began'.append_left _

end Interleaved

/-- The schedule picks nobody only if nobody waits. -/
theorem nobody_waits {running : List (RunningCall σ)} {n : Nat} (h : running[n % running.length]? = none) :
    running = [] := by
  by_contra some
  have : n % running.length < running.length := Nat.mod_lt _ (List.length_pos_iff.2 some)
  rw [List.getElem?_eq_none_iff] at h
  omega

variable {schedule : Nat → Nat} {turn : Nat} {results : Results} {running : List (RunningCall σ)}

theorem interleave_none (h : running[schedule turn % running.length]? = none) :
    interleave schedule turn results running = Program.done results := by
  rw [interleave]
  split
  · rfl
  · rename_i picked
    rw [h] at picked
    cases picked

theorem interleave_some {c : RunningCall σ} (h : running[schedule turn % running.length]? = some c) :
    interleave schedule turn results running = (advance c).bind fun
      | .inl result => interleave schedule (turn + 1) ((c.index, result) :: results)
          (running.eraseIdx (schedule turn % running.length))
      | .inr left => interleave schedule (turn + 1) results
          (running.eraseIdx (schedule turn % running.length) ++ [left.val]) := by
  rw [interleave]
  split
  · rename_i picked
    rw [h] at picked
    cases picked
  · rename_i picked
    obtain rfl := Option.some.inj (picked.symm.trans h)
    rfl

/-- What holds of calls if it holds of fewer ones, holds. -/
theorem waiting_induction {motive : List (RunningCall σ) → Prop}
    (step : ∀ running, (∀ fewer, Waiting.Fewer ⟨fewer⟩ ⟨running⟩ → motive fewer) → motive running)
    (running : List (RunningCall σ)) : motive running :=
  WellFoundedRelation.wf.induction (C := fun q : Waiting σ => motive q.calls) ⟨running⟩ fun q ih =>
    step q.calls fun fewer less => ih ⟨fewer⟩ less

/-- Whatever the schedule, all calls come to their ends. -/
theorem ensures_interleave : (interleave schedule turn results running).Ensures (Interleaved running results) := by
  induction running using waiting_induction generalizing turn results with
  | step running ih =>
    cases picked : running[schedule turn % running.length]? with
    | none =>
      obtain rfl := nobody_waits picked
      rw [interleave_none picked]
      exact ⟨⟨[], .nil, .refl _, .refl _⟩, .refl _⟩
    | some c =>
      have order := Waiting.picked_perm picked
      rw [interleave_some picked]
      refine (ensures_bind _ _).2 ((ensures_advance c).mono fun journal acts r ⟨began, turned⟩ => ?_)
      cases r with
      | inl result =>
        refine (ih _ (Waiting.fewer_of_ended picked)).mono fun journal' acts' all h => ?_
        exact (h.cons_ended began turned).perm order
      | inr left =>
        have back := List.perm_append_singleton left.val (running.eraseIdx (schedule turn % running.length))
        refine (ih _ (Waiting.fewer_of_left picked left)).mono fun journal' acts' all h => ?_
        exact ((h.perm back.symm).cons_advanced began turned).perm order

/-! ## The results in the order of the request -/

theorem sorted_ready (index : Nat) (call : ToolCall) (tool : Tool σ) (rest : List (PreparedCall σ)) :
    sorted index (.ready call tool :: rest) =
      ((sorted (index + 1) rest).1, ⟨index, call, none, tool.invoke call.arguments⟩ :: (sorted (index + 1) rest).2) :=
  rfl

theorem sorted_settled (index : Nat) (e : ToolExecution) (rest : List (PreparedCall σ)) :
    sorted index (.settled e :: rest) =
      ((index, .ok e) :: (sorted (index + 1) rest).1, (sorted (index + 1) rest).2) :=
  rfl

/-- The work to do comes from the ready calls. -/
theorem flatMap_sorted {α : Type} {F : RunningCall σ → List α} {G : PreparedCall σ → List α}
    (settled : ∀ e, G (.settled e) = [])
    (ready : ∀ index call tool, F ⟨index, call, none, tool.invoke call.arguments⟩ = G (.ready call tool))
    (index : Nat) (calls : List (PreparedCall σ)) : (sorted index calls).2.flatMap F = calls.flatMap G := by
  induction calls generalizing index with
  | nil => rfl
  | cons c rest ih =>
    cases c with
    | settled e => rw [sorted_settled, List.flatMap_cons, ih, settled, List.nil_append]
    | ready call tool => rw [sorted_ready, List.flatMap_cons, List.flatMap_cons, ih, ready]

/-- When the work is done, every call has a result at its place. -/
theorem sorted_ended (index : Nat) (calls : List (PreparedCall σ)) {ended : List (Ended σ)}
    (h : List.Forall₂ (fun c e => RunningCall.GoesAt c e.1 e.2) (sorted index calls).2 ended) :
    ∃ courses rs, courses.map Course.call = calls ∧ List.Forall₂ Course.Goes courses rs ∧
      (ended.map (·.2) ++ (sorted index calls).1).Perm ((List.range' index rs.length).zip rs) ∧
      ended.flatMap (·.1) = courses.flatMap (·.acts) := by
  induction calls generalizing index ended with
  | nil =>
    cases h
    exact ⟨[], [], rfl, .nil, .refl _, rfl⟩
  | cons c rest ih =>
    cases c with
    | settled e =>
      obtain ⟨courses, rs, same, goes, order, did⟩ := ih (index + 1) h
      let course : Course (PreparedCall σ) σ := { call := .settled e }
      have settled : course.Goes (.ok e) := ⟨rfl, rfl⟩
      refine ⟨course :: courses, .ok e :: rs, by rw [List.map_cons, same], .cons settled goes, ?_, ?_⟩
      · exact List.perm_middle.trans (order.cons _)
      · rw [did, List.flatMap_cons, List.nil_append]
    | ready call tool =>
      rw [sorted_ready] at h
      obtain ⟨⟨acts, place, r⟩, others, ⟨hplace, hr⟩, h', rfl⟩ := List.forall₂_cons_left_iff.1 h
      obtain rfl : place = index := hplace
      obtain ⟨courses, rs, same, goes, order, did⟩ := ih (place + 1) h'
      let course : Course (PreparedCall σ) σ := ⟨.ready call tool, acts⟩
      have served : course.Goes r := hr
      refine ⟨course :: courses, r :: rs, by rw [List.map_cons, same], .cons served goes, ?_, ?_⟩
      · exact order.cons _
      · rw [List.flatMap_cons, List.flatMap_cons, did]

/-- A result is found at its place, since there is only one for each place. -/
theorem lookup_of_mem {all : Results} {place : Nat} {r : Except AgentError ToolExecution}
    (places : (all.map (·.1)).Nodup) (h : (place, r) ∈ all) : all.lookup place = some r := by
  induction all with
  | nil => cases h
  | cons head rest ih =>
    rw [List.map_cons, List.nodup_cons] at places
    obtain rfl | h := List.mem_cons.1 h
    · exact List.lookup_cons_self
    · have other : (place == head.1) = false := by
        rw [beq_eq_false_iff_ne]
        rintro rfl
        exact places.1 (List.mem_map.2 ⟨_, h, rfl⟩)
      rw [List.lookup_cons, other]
      exact ih places.2 h

theorem filterMap_lookup {all : Results} (index : Nat) (rs : List (Except AgentError ToolExecution))
    (h : ∀ e ∈ (List.range' index rs.length).zip rs, all.lookup e.1 = some e.2) :
    (List.range' index rs.length).filterMap (fun i => all.lookup i) = rs := by
  induction rs generalizing index with
  | nil => rfl
  | cons r rs ih =>
    rw [List.length_cons, List.range'_succ] at h ⊢
    have first : all.lookup index = some r := h (index, r) List.mem_cons_self
    have rest := ih (index + 1) fun e he => h e (List.mem_cons_of_mem _ he)
    rw [List.filterMap_cons_some (f := fun i => all.lookup i) first, rest]

/-- Results at their places give back their list, in whatever order they came. -/
theorem results_inRequestOrder {all : Results} {rs : List (Except AgentError ToolExecution)}
    (h : all.Perm ((List.range' 0 rs.length).zip rs)) :
    (List.range rs.length).filterMap (fun i => all.lookup i) = rs := by
  have keys : ((List.range' 0 rs.length).zip rs).map (·.1) = List.range' 0 rs.length :=
    List.map_fst_zip (Nat.le_of_eq List.length_range')
  have places : (all.map (·.1)).Nodup := by
    rw [(h.map (·.1)).nodup_iff, keys]
    exact List.nodup_range'
  rw [List.range_eq_range']
  exact filterMap_lookup 0 rs fun e he => lookup_of_mem places (h.mem_iff.2 he)

/-- The results of calls that have all ended come to the records, or to the first misuse. -/
theorem executed_mapM {α : Type} {Ends : α → Except AgentError ToolExecution → Prop} {calls : List α}
    {rs : List (Except AgentError ToolExecution)} (h : List.Forall₂ Ends calls rs) :
    Executed Ends true calls calls (rs.mapM id) := by
  induction h with
  | nil => exact .records .nil
  | @cons c r calls rs ends others ih =>
    cases r with
    | error e =>
      have first : c :: calls = [] ++ c :: calls := rfl
      rw [mapM_error_cons]
      exact .misuse first .nil ends fun _ => ⟨rs, others⟩
    | ok e =>
      rw [mapM_ok_cons]
      exact ih.cons ends

/-- Calls that are brought to their ends side by side, whatever the schedule. -/
theorem ensures_interleaved (schedule : Nat → Nat) (calls : List (PreparedCall σ)) :
    (interleaved schedule calls).Ensures fun journal acts v =>
      ∃ courses, courses.map Course.call = calls ∧ Executed Course.Goes true courses courses v ∧
        (invokedCalls journal).Perm (courses.flatMap (·.call.invocations)) ∧ acts.Perm (courses.flatMap (·.acts)) := by
  refine (ensures_bind _ _).2 (ensures_interleave.mono fun journal acts all ⟨⟨ended, goes, order, did⟩, began⟩ => ?_)
  obtain ⟨courses, rs, same, goes', order', did'⟩ := sorted_ended 0 calls goes
  rw [flatMap_sorted (G := PreparedCall.invocations) (fun _ => rfl) fun _ _ _ => rfl] at began
  have length : calls.length = rs.length := by rw [← same, List.length_map, goes'.length_eq]
  refine ⟨courses, same, ?_, ?_, ?_⟩
  · rw [length, results_inRequestOrder (order.trans order')]
    exact executed_mapM goes'
  · rw [List.append_nil, ← List.flatMap_map, same]
    exact began
  · rw [List.append_nil, ← did']
    exact did

end Executor

end AgentLoop
