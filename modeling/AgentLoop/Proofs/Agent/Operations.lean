import AgentLoop.Proofs.Agent.Sharing
import AgentLoop.Proofs.Run.Iteration

/-!
# The operations of an agent as moves

- `Shared.going_reaches`: a run that goes on often enough gets to the end of its part, and comes to what its program
  comes to;
- `Shared.gets_pull`: so it gives the item that `Session.pull` gives, and leaves the agent as `Session.pull` does;
- `Shared.gets_run`: a run that is begun and goes on leaves the agent as `Session.run` does, if that returns;
- `Shared.session_iterate`, `Shared.session_drop`: a run that is pulled step by step is begun as by `Session.iterate`,
  and given up as by `Session.drop`.
-/

namespace AgentLoop

namespace Shared

variable {σ : Type} {p : Pipeline σ} {frame : Frame} {d : Shared σ} {k : Nat}

/-- The run of a number is about to begin a part. -/
def IsAt (p : Pipeline σ) (d : Shared σ) (k : Nat) (token : Token) (part : Part) : Prop :=
  ∃ before, d.engagements[k]? = some (facing p token part before)

/-- What runs have given so far. -/
def items (d : Shared σ) : List (Except AgentError ExecutionState) := d.done.filterMap (·.item)

/-- A run goes on so many times. -/
def going (p : Pipeline σ) (frame : Frame) (k n : Nat) (d : Shared σ) : Shared σ :=
  d.after p frame (List.replicate n (.go k))

theorem going_succ (n : Nat) : d.going p frame k (n + 1) = (d.act p frame (.go k)).going p frame k n := rfl

theorem going_add (m n : Nat) : d.going p frame k (m + n) = (d.going p frame k m).going p frame k n := by
  rw [going, ← List.replicate_append_replicate, after, List.foldl_append]
  rfl

/-- A run with a part of which so much is left, and the world that it is in, at the end of the part. -/
def reached (p : Pipeline σ) (frame : Frame) (k : Nat) (e : Engagement σ) (d : Shared σ) : Shared σ :=
  let o := e.rest.exec { frame with slot := d.session.slot } d.session.world
  finishPart p k e o.value { d with session := ⟨d.session.slot, o.world⟩ }

/-- The next thing that a run does leads to the same end. -/
theorem reached_advance {e : Engagement σ} (mem : d.engagements[k]? = some e) (result : e.rest.result? = none) :
    reached p frame k e d =
      reached p frame k { e with rest := (e.rest.advance { frame with slot := d.session.slot } d.session.world).rest }
        (d.act p frame (.go k)) := by
  rw [act_go_advance mem result]
  simp only [reached, finishPart, Program.exec_advance _ e.rest, List.set_set]

/-- A run gets to the end of its part. -/
theorem going_reaches {token : Token} {part : Part} {rest : Program σ RunMark PartEnd} {before : List Token}
    (mem : d.engagements[k]? = some ⟨token, part, rest, before⟩) :
    ∃ n, d.going p frame k n = reached p frame k ⟨token, part, rest, before⟩ d := by
  -- One thing after another, until nothing is left of the part.
  have goOn {rest : Program σ RunMark PartEnd} {d : Shared σ}
      (mem : d.engagements[k]? = some ⟨token, part, rest, before⟩) (result : rest.result? = none)
      (later : let rest' := (rest.advance { frame with slot := d.session.slot } d.session.world).rest
        ∀ d' : Shared σ, d'.engagements[k]? = some ⟨token, part, rest', before⟩ →
          ∃ n, d'.going p frame k n = reached p frame k ⟨token, part, rest', before⟩ d') :
      ∃ n, d.going p frame k n = reached p frame k ⟨token, part, rest, before⟩ d := by
    have next : d.act p frame (.go k) = _ := act_go_advance mem result
    obtain ⟨n, later⟩ := later (d.act p frame (.go k)) (by rw [next, Held.getElem?_set mem, if_pos rfl])
    exact ⟨n + 1, by rw [going_succ, later, reached_advance mem result]⟩
  induction rest generalizing d with
  | done a => exact ⟨1, act_go_finish mem rfl⟩
  | now next ih | draw next ih | isCancelled t next ih | act a next ih => exact goOn mem rfl fun d' => ih _
  | mark m next ih => exact goOn mem rfl fun d' => ih

/-- A run that goes on gets to a part; by then runs have given these items, and the agent has come to this session. -/
def Gets (p : Pipeline σ) (frame : Frame) (d : Shared σ) (k : Nat) (token : Token) (part : Part)
    (given : List (Except AgentError ExecutionState)) (session : Session σ) : Prop :=
  ∃ n, (d.going p frame k n).IsAt p k token part ∧ (d.going p frame k n).items = d.items ++ given ∧
    (d.going p frame k n).session = session

section Gets

variable {token : Token} {part part' : Part} {given given' : List (Except AgentError ExecutionState)}
  {session session' : Session σ}

theorem Gets.trans (first : d.Gets p frame k token part given session)
    (second : ∀ d' : Shared σ, d'.IsAt p k token part → d'.session = session →
      d'.Gets p frame k token part' given' session') :
    d.Gets p frame k token part' (given ++ given') session' := by
  obtain ⟨n, at', items, left⟩ := first
  obtain ⟨m, at'', items', left'⟩ := second _ at' left
  refine ⟨n + m, ?_⟩
  rw [going_add]
  exact ⟨at'', by rw [items', items, List.append_assoc], left'⟩

/-- A run that is about to begin a part gets to the next one. -/
theorem gets_next {slot : Slot} {x : PartEnd} {w w' : World σ} {j : List RunMark} (at' : d.IsAt p k token part)
    (left : d.session = ⟨slot, w⟩) (comes : (p.part token part).exec { frame with slot } w = ⟨x, w', j⟩) :
    d.Gets p frame k token x.next x.item.toList
      (if part.holds && !x.next.holds then Session.released ⟨slot, w'⟩ else ⟨slot, w'⟩) := by
  obtain ⟨before, mem⟩ := at'
  obtain ⟨n, reaches⟩ : ∃ n, d.going p frame k n = _ := going_reaches mem
  have reached' : d.going p frame k n =
      finishPart p k (facing p token part before) x { d with session := ⟨slot, w'⟩ } := by
    rw [reaches, reached, left]
    simp only [comes]
    rfl
  have item : [({ x with token, part, before } : PartDone)].filterMap (·.item) = x.item.toList := by
    cases h : x.item <;> simp [h]
  refine ⟨n, ?_⟩
  rw [reached']
  refine ⟨⟨w'.cancelled, ?_⟩, ?_, rfl⟩
  · rw [finishPart, Held.getElem?_set mem, if_pos rfl]
    rfl
  · simp only [finishPart, items, List.filterMap_append]
    rw [← item]
    rfl

/-- A run that is about to check whether it goes on gets to the next item. -/
theorem gets_pullStep (frame : Frame) {slot : Slot} {s : ExecutionState} {w : World σ}
    (at' : d.IsAt p k token (.checking s)) (left : d.session = ⟨slot, w⟩) :
    let o := (p.pullStep token s).exec { frame with slot } w
    d.Gets p frame k token o.value.2.part o.value.1.toList
      (if !o.value.2.holds then Session.released ⟨slot, o.world⟩ else ⟨slot, o.world⟩) := by
  rcases check : (p.continuation token s).exec { frame with slot } w with ⟨c, w₁, j₁⟩
  cases c with
  | stop t =>
    rcases finish : (p.afterExecution t).exec { frame with slot } w₁ with ⟨r, w₂, j₂⟩
    have checked : (p.part token (.checking s)).exec { frame with slot } w = ⟨⟨none, .finishing t⟩, w₁, j₁⟩ := by
      simp [Pipeline.part, Program.exec_bind, check]
    have finished : (p.part token (.finishing t)).exec { frame with slot } w₁ = ⟨⟨some r, .ended⟩, w₂, j₂⟩ := by
      simp [Pipeline.part, Program.exec_bind, finish]
    rw [Pipeline.exec_pullStep_stop check finish]
    exact (gets_next at' left checked).trans fun d' at'' left' => gets_next at'' left' finished
  | proceed t =>
    have checked : (p.part token (.checking s)).exec { frame with slot } w = ⟨⟨none, .stepping t⟩, w₁, j₁⟩ := by
      simp [Pipeline.part, Program.exec_bind, check]
    rcases step : (p.runStep t).exec { frame with slot } w₁ with ⟨r, w₂, j₂⟩
    cases r with
    | error e =>
      have failed : (p.part token (.stepping t)).exec { frame with slot } w₁ =
          ⟨⟨some (.error e), .ended⟩, w₂, j₂⟩ := by simp [Pipeline.part, Program.exec_bind, step]
      rw [Pipeline.exec_pullStep_error check step]
      exact (gets_next at' left checked).trans fun d' at'' left' => gets_next at'' left' failed
    | ok u =>
      have stepped : (p.part token (.stepping t)).exec { frame with slot } w₁ =
          ⟨⟨some (.ok u), .checking u⟩, w₂, j₂⟩ := by simp [Pipeline.part, Program.exec_bind, step]
      rw [Pipeline.exec_pullStep_ok check step]
      exact (gets_next at' left checked).trans fun d' at'' left' => gets_next at'' left' stepped

end Gets

/-- A run that is pulled step by step gets to its next item, and leaves the agent, as in a pull. -/
theorem gets_pull {it : Iteration} (at' : d.IsAt p k it.token it.stage.part) :
    let pulled := d.session.pull p frame it
    d.Gets p frame k it.token pulled.2.1.stage.part pulled.1.toList pulled.2.2.1 := by
  obtain ⟨stage, token⟩ := it
  cases stage with
  | ended => exact gets_next at' rfl rfl
  | refused => exact gets_next at' rfl rfl
  | between s =>
    rcases step : (p.pullStep token s).exec { frame with slot := d.session.slot } d.session.world with
      ⟨⟨item, next⟩, w, j⟩
    have gets := gets_pullStep frame at' rfl
    rw [Session.pull_eq p frame step]
    rw [step] at gets
    exact gets
  | fresh s =>
    rcases start : (p.beforeExecution s).exec { frame with slot := d.session.slot } d.session.world with ⟨r, w, j⟩
    cases r with
    | error e =>
      have failed : (p.part token (.starting s)).exec { frame with slot := d.session.slot } d.session.world =
          ⟨⟨some (.error e), .ended⟩, w, j⟩ := by simp [Pipeline.part, Program.exec_bind, start]
      have pulled : (p.pull token (.fresh s)).exec { frame with slot := d.session.slot } d.session.world =
          ⟨(some (.error e), .ended), w, j⟩ := by simp [Pipeline.pull, Program.exec_bind, start]
      rw [Session.pull_eq p frame pulled]
      exact gets_next at' rfl failed
    | ok t =>
      have started : (p.part token (.starting s)).exec { frame with slot := d.session.slot } d.session.world =
          ⟨⟨none, .checking t⟩, w, j⟩ := by simp [Pipeline.part, Program.exec_bind, start]
      rcases step : (p.pullStep token t).exec { frame with slot := d.session.slot } w with ⟨⟨item, next⟩, w₂, j₂⟩
      have pulled : (p.pull token (.fresh s)).exec { frame with slot := d.session.slot } d.session.world =
          ⟨(item, next), w₂, j ++ j₂⟩ := by simp [Pipeline.pull, Program.exec_bind, start, step]
      have gets : d.Gets p frame k token next.part item.toList
          (if !next.holds then Session.released ⟨d.session.slot, w₂⟩ else ⟨d.session.slot, w₂⟩) :=
        (gets_next at' rfl started).trans fun d' at'' left => by
          have gets := gets_pullStep frame at'' left
          rwa [step] at gets
      rw [Session.pull_eq p frame pulled]
      exact gets

theorem gets_pulls (n : Nat) (it : Iteration) (at' : d.IsAt p k it.token it.stage.part) :
    let pulled := d.session.pulls p frame n it
    d.Gets p frame k it.token pulled.iteration.stage.part pulled.items pulled.session := by
  induction n generalizing d it with
  | zero => exact ⟨0, at', by simp [going, after, Session.pulls], rfl⟩
  | succ n ih =>
    refine (gets_pull at').trans fun d' at'' left => ?_
    have rest := ih (d.session.pull p frame it).2.1 at''
    rw [left] at rest
    exact rest

/-- A run that is begun and goes on gives what `Session.run` returns, if that returns, and leaves the agent as it
does. -/
theorem gets_run (s : ExecutionState) (rounds : Nat) (free : d.session.slot.active = false)
    (returns : (d.session.run p frame (rounds + 1) s).1.isSome = true) :
    ∃ states, (d.act p frame (.run s)).Gets p frame d.engagements.length d.session.slot.token .ended
      (List.map .ok states ++ (d.session.run p frame (rounds + 1) s).1.toList)
      (d.session.run p frame (rounds + 1) s).2.1 := by
  obtain ⟨states, r, course⟩ := Session.exists_course p frame (rounds + 1) s d.session
  obtain ⟨items, runs, ends⟩ := course.agree
  rw [runs] at returns ⊢
  have begun : d.act p frame (.run s) = d.begin p s := by
    simp only [act, free]
    rfl
  have iterated : d.session.iterate s =
      (⟨.fresh s, d.session.slot.token⟩, ⟨{ d.session.slot with active := true }, d.session.world⟩) := by
    simp only [Session.iterate, Slot.acquire, free]
    rfl
  have at' : (d.act p frame (.run s)).IsAt p d.engagements.length d.session.slot.token (.starting s) := by
    rw [begun, begin_free s free]
    exact ⟨_, by rw [List.getElem?_append_right (Nat.le_refl _), Nat.sub_self]; rfl⟩
  have session : (d.act p frame (.run s)).session = ⟨{ d.session.slot with active := true }, d.session.world⟩ := by
    rw [begun, begin_free s free]
  have pulled : d.session.iteratePulled p frame s (rounds + 1) =
      (d.act p frame (.run s)).session.pulls p frame (rounds + 1) ⟨.fresh s, d.session.slot.token⟩ := by
    rw [Session.iteratePulled, iterated, session]
  have gets : (d.act p frame (.run s)).Gets p frame d.engagements.length d.session.slot.token
      (d.session.iteratePulled p frame s (rounds + 1)).iteration.stage.part
      (d.session.iteratePulled p frame s (rounds + 1)).items
      (d.session.iteratePulled p frame s (rounds + 1)).session := by
    rw [pulled]
    exact gets_pulls (rounds + 1) ⟨.fresh s, d.session.slot.token⟩ at'
  rw [items, ends returns] at gets
  exact ⟨states, (if_pos returns).symm ▸ gets⟩

/-! ## Runs that are pulled step by step -/

/-- A run that is pulled step by step is begun at its stage, and the agent is left as `Session.iterate` leaves it. -/
theorem session_iterate (s : ExecutionState) :
    (d.act p frame (.iterate s)).session = (d.session.iterate s).2 ∧
      (d.act p frame (.iterate s)).IsAt p d.engagements.length (d.session.iterate s).1.token
        (d.session.iterate s).1.stage.part := by
  refine ⟨rfl, (d.session.iterate s).2.world.cancelled, ?_⟩
  simp only [act, begin]
  rw [List.getElem?_append_right (Nat.le_refl _), Nat.sub_self]
  rfl

/-- A run holds its agent between two pulls exactly if it holds it in the part that comes next. -/
theorem holds_part (stage : Stage) : stage.part.holds = stage.holds := by
  cases stage <;> rfl

/-- A run that is dropped between two pulls gives nothing more and has nothing left to do, and the agent is left as
`Session.drop` leaves it. -/
theorem session_drop {it : Iteration} (at' : d.IsAt p k it.token it.stage.part) :
    (d.act p frame (.drop k)).session = d.session.drop it ∧
      (d.act p frame (.drop k)).IsAt p k it.token .ended ∧ (d.act p frame (.drop k)).items = d.items := by
  obtain ⟨before, mem⟩ := at'
  rw [act_drop mem]
  refine ⟨?_, ⟨d.session.world.cancelled, ?_⟩, rfl⟩
  · rw [Session.drop, ← holds_part]
    rfl
  · rw [Held.getElem?_set mem, if_pos rfl]
    rfl

end Shared

end AgentLoop
