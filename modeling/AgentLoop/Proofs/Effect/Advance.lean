import AgentLoop.Effect.Program

/-!
# Programs one thing at a time

- what is cancelled stays cancelled (`Token.isCancelled_mono`, `Program.cancelled_exec`);
- `Program.advance`: a program does the first thing it has to do. Nothing else makes up an execution (`exec_advance`);
- `Program.Surely`: whatever a program is answered, as far as the answers about cancellations are among those allowed,
  its value has a property; this stays so while the program advances (`Surely.advance`).
-/

namespace AgentLoop

/-! ## Cancellations -/

namespace Token

variable {t : Token} {cancelled cancelled' : List Token}

theorem isCancelled_iff : t.isCancelled cancelled = true ↔ t ∈ cancelled ∨ all ∈ cancelled := by simp [isCancelled]

theorem isCancelled_mono (part : cancelled <+: cancelled') (h : t.isCancelled cancelled = true) :
    t.isCancelled cancelled' = true :=
  isCancelled_iff.2 ((isCancelled_iff.1 h).imp (part.subset ·) (part.subset ·))

theorem not_isCancelled_mono (part : cancelled <+: cancelled') (uncancelled : t.isCancelled cancelled' = false) :
    t.isCancelled cancelled = false :=
  Bool.eq_false_iff.2 fun h => by simp [isCancelled_mono part h] at uncancelled

end Token

/-- What is cancelled stays cancelled. -/
theorem Program.cancelled_exec {σ μ α : Type} (x : Program σ μ α) (frame : Frame) (w : World σ) :
    w.cancelled <+: (x.exec frame w).world.cancelled := by
  induction x generalizing w with
  | done a => exact List.prefix_refl _
  | now next ih => exact ih _ { w with ticks := w.ticks + 1 }
  | draw next ih => exact ih _ { w with drawn := w.drawn + 1 }
  | isCancelled t next ih => exact ih _ w
  | mark m next ih => exact ih w
  | act a next ih =>
    let acted := a frame.slot w.own
    exact (List.prefix_append w.cancelled acted.cancelled).trans
      (ih acted.value { w with own := acted.own, cancelled := w.cancelled ++ acted.cancelled })

/-! ## One thing at a time -/

/-- What is left after the first thing that a program does. -/
structure Advanced (σ μ α : Type) : Type 1 where
  rest : Program σ μ α
  world : World σ
  journal : List μ

namespace Program

variable {σ μ α β : Type}

/-- The value of a program that has nothing more to do. -/
def result? : Program σ μ α → Option α
  | done a => some a
  | _ => none

/-- A program does the first thing it has to do. -/
def advance (frame : Frame) : Program σ μ α → World σ → Advanced σ μ α
  | done a, w => ⟨done a, w, []⟩
  | now next, w => ⟨next (frame.clock w.ticks), { w with ticks := w.ticks + 1 }, []⟩
  | draw next, w => ⟨next (frame.random w.drawn), { w with drawn := w.drawn + 1 }, []⟩
  | isCancelled t next, w => ⟨next (t.isCancelled w.cancelled), w, []⟩
  | mark m next, w => ⟨next, w, [m]⟩
  | act a next, w =>
    let acted := a frame.slot w.own
    ⟨next acted.value, { w with own := acted.own, cancelled := w.cancelled ++ acted.cancelled }, []⟩

theorem eq_done {x : Program σ μ α} {a : α} (result : x.result? = some a) : x = done a := by
  cases x with
  | done b => exact congrArg done (Option.some.inj result)
  | _ => cases result

/-- An execution does the first thing and then the rest. -/
theorem exec_advance (frame : Frame) (x : Program σ μ α) (w : World σ) :
    let first := x.advance frame w
    let rest := first.rest.exec frame first.world
    x.exec frame w = { rest with journal := first.journal ++ rest.journal } := by
  cases x <;> rfl

theorem cancelled_advance (frame : Frame) (x : Program σ μ α) (w : World σ) :
    w.cancelled <+: (x.advance frame w).world.cancelled := by
  cases x with
  | act a next => exact List.prefix_append _ _
  | _ => exact List.prefix_refl _

/-- Whatever a program is answered, as far as the answers about cancellations are allowed, its value is as asked
for. -/
def Surely (allowed : Token → Bool → Prop) (post : α → Prop) : Program σ μ α → Prop
  | done a => post a
  | now next => ∀ t, Surely allowed post (next t)
  | draw next => ∀ n, Surely allowed post (next n)
  | isCancelled t next => ∀ b, allowed t b → Surely allowed post (next b)
  | mark _ next => Surely allowed post next
  | act _ next => ∀ b, Surely allowed post (next b)

variable {allowed : Token → Bool → Prop} {post : α → Prop} {x : Program σ μ α}

/-- What holds of every value is sure. -/
theorem surely_of_forall (x : Program σ μ α) (always : ∀ a, post a) : x.Surely allowed post := by
  induction x with
  | done a => exact always a
  | now next ih => exact ih
  | draw next ih => exact ih
  | isCancelled t next ih => exact fun b _ => ih b
  | mark m next ih => exact ih
  | act a next ih => exact ih

theorem Surely.bind {post : β → Prop} {between : α → Prop} {f : α → Program σ μ β} (first : x.Surely allowed between)
    (second : ∀ a, between a → (f a).Surely allowed post) : (x.bind f).Surely allowed post := by
  induction x with
  | done a => exact second a first
  | now next ih => exact fun t => ih t (first t)
  | draw next ih => exact fun n => ih n (first n)
  | isCancelled t next ih => exact fun b answer => ih b (first b answer)
  | mark m next ih => exact ih first
  | act a next ih => exact fun b => ih b (first b)

/-- What is sure of the second program, whatever the first one gives, is sure of both in a row. -/
theorem surely_bind {post : β → Prop} {f : α → Program σ μ β} (x : Program σ μ α)
    (second : ∀ a, (f a).Surely allowed post) : (x.bind f).Surely allowed post :=
  Surely.bind (surely_of_forall x fun _ => True.intro) fun a _ => second a

/-- What is sure stays sure. -/
theorem Surely.advance (sure : x.Surely allowed post) (frame : Frame) (w : World σ)
    (answers : ∀ t, allowed t (t.isCancelled w.cancelled)) : (x.advance frame w).rest.Surely allowed post := by
  cases x with
  | done a => exact sure
  | now next => exact sure _
  | draw next => exact sure _
  | isCancelled t next => exact sure _ (answers t)
  | mark m next => exact sure
  | act a next => exact sure _

theorem Surely.result {a : α} (sure : x.Surely allowed post) (result : x.result? = some a) : post a := by
  rw [eq_done result] at sure
  exact sure

end Program

end AgentLoop
