import AgentLoop.Effect.Program

/-!
# Programs in a world of panics

- `Act.Calm`, `Program.Calm`: nobody panics, whatever is answered;
- `Program.Endures`: every mark that a program writes before the first panic has a property, and if somebody panics, the
  mark that would have come next tells of it, unless there is another reason. It composes (`Endures.bind`);
- `Endures.attempt`: so it is with every attempt.
-/

namespace AgentLoop

variable {σ μ ν α β : Type}

/-- Nobody panics in an act. -/
def Act.Calm (a : Act σ α) : Prop := ∀ slot own, (a slot own).panicked = none

namespace Program

/-- Whatever is answered, the marks before the first panic are as `written` says. After a panic with a message the next
mark would be as `broken` says, unless there was an `excuse` for the panic. -/
def Endures (written : μ → Prop) (broken : String → μ → Prop) (excuse : Prop) : Program σ μ α → Prop
  | done _ => True
  | now next => ∀ t, Endures written broken excuse (next t)
  | draw next => ∀ n, Endures written broken excuse (next n)
  | isCancelled _ next => ∀ b, Endures written broken excuse (next b)
  | mark m next => written m ∧ Endures written broken excuse next
  | act a next => ∀ slot own,
    match (a slot own).panicked with
    | none => Endures written broken excuse (next (a slot own).value)
    | some message => excuse ∨ ∀ frame w, ∃ m rest,
        (exec frame (next (a slot own).value) w).journal = m :: rest ∧ broken message m

/-- Nobody panics while a program is executed, whatever is answered. -/
def Calm (x : Program σ μ α) : Prop := x.Endures (fun _ => True) (fun _ _ => False) False

namespace Endures

variable {written : μ → Prop} {broken : String → μ → Prop} {excuse : Prop} {x : Program σ μ α}
  {f : α → Program σ μ β}

/-! ## Rules -/

theorem done (a : α) : (done a : Program σ μ α).Endures written broken excuse := trivial

theorem readClock : (readClock : Program σ μ Instant).Endures written broken excuse := fun _ => trivial

theorem askCancelled (t : Token) : (askCancelled t : Program σ μ Bool).Endures written broken excuse := fun _ => trivial

theorem note {m : μ} (h : written m) : (note m : Program σ μ Unit).Endures written broken excuse := ⟨h, trivial⟩

/-- An act in which nobody panics without an excuse. -/
theorem perform {a : Act σ α} (h : ¬excuse → a.Calm) :
    (perform a : Program σ μ α).Endures written broken excuse := by
  intro slot own
  split
  · trivial
  · rename_i message panics
    by_cases excused : excuse
    · exact .inl excused
    · rw [h excused slot own] at panics
      cases panics

/-- An act whose panic shows in the mark that is written about it. -/
theorem perform_note {a : Act σ α} {m : α → μ}
    (calm : ∀ slot own, (a slot own).panicked = none → written (m (a slot own).value))
    (panics : ∀ slot own message, (a slot own).panicked = some message → broken message (m (a slot own).value)) :
    ((Program.perform a).bind fun b => (Program.note (m b)).bind fun _ => .done b : Program σ μ α).Endures written
      broken excuse := by
  intro slot own
  split
  · rename_i still
    exact ⟨calm slot own still, trivial⟩
  · rename_i message panicked
    exact .inr fun _ _ => ⟨_, _, rfl, panics slot own message panicked⟩

theorem bind (hx : x.Endures written broken excuse) (hf : ∀ a, (f a).Endures written broken excuse) :
    (x.bind f).Endures written broken excuse := by
  induction x with
  | done a => exact hf a
  | now next ih => exact fun t => ih t (hx t)
  | draw next ih => exact fun n => ih n (hx n)
  | isCancelled t next ih => exact fun b => ih b (hx b)
  | mark m next ih => exact ⟨hx.1, ih hx.2⟩
  | act a next ih =>
    intro slot own
    have first := hx slot own
    split at first
    · exact ih _ first
    · refine first.imp_right fun told frame w => ?_
      obtain ⟨m, rest, journal, tells⟩ := told frame w
      have whole := congrArg Outcome.journal (exec_bind frame w (next (a slot own).value) f)
      rw [journal] at whole
      exact ⟨m, _, whole, tells⟩

/-- With an excuse, only what is written counts. -/
theorem of_excuse (x : Program σ μ α) {f : μ → ν} {written : ν → Prop} {broken : String → ν → Prop}
    (writes : ∀ m, written (f m)) (h : excuse) : (x.mapMarks f).Endures written broken excuse := by
  induction x with
  | done a => trivial
  | now next ih => exact ih
  | draw next ih => exact ih
  | isCancelled t next ih => exact ih
  | mark m next ih => exact ⟨writes m, ih⟩
  | act a next ih =>
    intro slot own
    split
    · exact ih _
    · exact .inl h

/-- Where nobody panics, there are only other marks. -/
theorem of_calm {x : Program σ μ α} (calm : x.Calm) {f : μ → ν} {written : ν → Prop} {broken : String → ν → Prop}
    (writes : ∀ m, written (f m)) : (x.mapMarks f).Endures written broken excuse := by
  induction x with
  | done a => trivial
  | now next ih => exact fun t => ih t (calm t)
  | draw next ih => exact fun n => ih n (calm n)
  | isCancelled t next ih => exact fun b => ih b (calm b)
  | mark m next ih => exact ⟨writes m, ih calm.2⟩
  | act a next ih =>
    intro slot own
    have first := calm slot own
    split at first
    · exact ih _ first
    · obtain impossible | told := first
      · exact impossible.elim
      · obtain ⟨_, _, _, impossible⟩ := told ⟨fun _ => default, fun _ => 0, {}⟩ { own }
        exact impossible.elim

/-! ## Attempts -/

/-- The marks of an attempt are as they are to be, and if it comes to a panic without an excuse, the execution that
ignores it would write a mark that tells of it. -/
theorem attempt (h : x.Endures written broken excuse) (frame : Frame) (w : World σ) :
    (∀ m ∈ (x.attempt frame w).journal, written m) ∧
      ∀ message, (x.attempt frame w).value = .error message → excuse ∨
        ∃ m rest, (x.exec frame w).journal = (x.attempt frame w).journal ++ m :: rest ∧ broken message m := by
  induction x generalizing w with
  | done a =>
    refine ⟨List.forall_mem_nil _, fun message h => ?_⟩
    cases h
  | now next ih => exact ih _ (h _) _
  | draw next ih => exact ih _ (h _) _
  | isCancelled t next ih => exact ih _ (h _) _
  | mark m next ih =>
    obtain ⟨marks, broke⟩ := ih h.2 w
    refine ⟨List.forall_mem_cons.2 ⟨h.1, marks⟩, fun message panics => ?_⟩
    refine (broke message panics).imp_right ?_
    rintro ⟨n, rest, journal, tells⟩
    exact ⟨n, rest, congrArg (m :: ·) journal, tells⟩
  | act a next ih =>
    have first := h frame.slot w.own
    simp only [Program.attempt]
    cases panics : (a frame.slot w.own).panicked with
    | none =>
      rw [panics] at first
      exact ih _ first _
    | some message =>
      rw [panics] at first
      refine ⟨List.forall_mem_nil _, fun message' same => ?_⟩
      obtain rfl := Except.error.inj same
      exact first.imp_right fun told => told frame _

end Endures

end Program

end AgentLoop
