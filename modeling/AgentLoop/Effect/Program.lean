import AgentLoop.Effect.Act
import AgentLoop.Time.Basic

/-!
# Programs

- `Program`: a computation as a dialogue: it asks for the time, for random numbers and for cancellations, lets
  collaborators act, and writes marks into a journal;
- `Frame`: what answers while a run holds its slot; `World`: what changes meanwhile;
- `Program.exec`: the dialogue with a world whose collaborators do not panic. The journal of a composition is the one
  journal after the other (`exec_bind`);
- `Program.attempt`: the dialogue with any world, up to the first panic. Without one it is the same
  (`exec_of_attempt`), and up to one it leaves the same journal (`journal_of_attempt`).
-/

namespace AgentLoop

/-- A computation with collaborators of state `σ` and a journal of marks `μ`. -/
inductive Program (σ μ : Type) (α : Type) : Type 1 where
  | done (a : α)
  /-- Reads the clock. -/
  | now (next : Instant → Program σ μ α)
  /-- Draws a random number. -/
  | draw (next : UInt64 → Program σ μ α)
  /-- Asks whether a token is cancelled. -/
  | isCancelled (t : Token) (next : Bool → Program σ μ α)
  /-- Writes a mark. -/
  | mark (m : μ) (next : Program σ μ α)
  /-- Lets a collaborator act. -/
  | act {β : Type} (a : Act σ β) (next : β → Program σ μ α)

/-- What answers the questions of a program. -/
structure Frame where
  /-- The readings of the clock, in order. -/
  clock : Nat → Instant
  /-- The random numbers, in order. -/
  random : Nat → UInt64
  slot : Slot := {}

/-- What changes while a program runs. -/
structure World (σ : Type) where
  /-- How often the clock was read. -/
  ticks : Nat := 0
  /-- How many random numbers were drawn. -/
  drawn : Nat := 0
  /-- What was cancelled. -/
  cancelled : List Token := []
  /-- The collaborators' own state. -/
  own : σ

/-- What a program leaves behind. -/
structure Outcome (σ μ α : Type) where
  value : α
  world : World σ
  journal : List μ

namespace Program

variable {σ μ ν α β γ : Type}

/-- One program after another. -/
def bind (x : Program σ μ α) (f : α → Program σ μ β) : Program σ μ β :=
  match x with
  | done a => f a
  | now next => now fun t => bind (next t) f
  | draw next => draw fun n => bind (next n) f
  | isCancelled t next => isCancelled t fun b => bind (next b) f
  | mark m next => mark m (bind next f)
  | act a next => act a fun b => bind (next b) f

instance : Monad (Program σ μ) where
  pure := done
  bind := bind

/-- The reading of the clock. -/
def readClock : Program σ μ Instant := now done

/-- A random number. -/
def randomNumber : Program σ μ UInt64 := draw done

/-- Is a token cancelled? -/
def askCancelled (t : Token) : Program σ μ Bool := isCancelled t done

/-- Writes a mark. -/
def note (m : μ) : Program σ μ Unit := mark m (done ())

/-- Lets a collaborator act. -/
def perform (a : Act σ α) : Program σ μ α := act a done

/-- The same program with other marks. -/
def mapMarks (f : μ → ν) : Program σ μ α → Program σ ν α
  | done a => done a
  | now next => now fun t => mapMarks f (next t)
  | draw next => draw fun n => mapMarks f (next n)
  | isCancelled t next => isCancelled t fun b => mapMarks f (next b)
  | mark m next => mark (f m) (mapMarks f next)
  | act a next => act a fun b => mapMarks f (next b)

/-- Runs a program. What follows a panic is of no account. -/
def exec (frame : Frame) : Program σ μ α → World σ → Outcome σ μ α
  | done a, w => ⟨a, w, []⟩
  | now next, w => exec frame (next (frame.clock w.ticks)) { w with ticks := w.ticks + 1 }
  | draw next, w => exec frame (next (frame.random w.drawn)) { w with drawn := w.drawn + 1 }
  | isCancelled t next, w => exec frame (next (t.isCancelled w.cancelled)) w
  | mark m next, w =>
    let rest := exec frame next w
    { rest with journal := m :: rest.journal }
  | act a next, w =>
    let acted := a frame.slot w.own
    exec frame (next acted.value) { w with own := acted.own, cancelled := w.cancelled ++ acted.cancelled }

/-- Runs a program up to the first panic; gives the message of that, or the value. -/
def attempt (frame : Frame) : Program σ μ α → World σ → Outcome σ μ (Except String α)
  | done a, w => ⟨.ok a, w, []⟩
  | now next, w => attempt frame (next (frame.clock w.ticks)) { w with ticks := w.ticks + 1 }
  | draw next, w => attempt frame (next (frame.random w.drawn)) { w with drawn := w.drawn + 1 }
  | isCancelled t next, w => attempt frame (next (t.isCancelled w.cancelled)) w
  | mark m next, w =>
    let rest := attempt frame next w
    { rest with journal := m :: rest.journal }
  | act a next, w =>
    let acted := a frame.slot w.own
    let after : World σ := { w with own := acted.own, cancelled := w.cancelled ++ acted.cancelled }
    match acted.panicked with
    | none => attempt frame (next acted.value) after
    | some message => ⟨.error message, after, []⟩

/-- The message of the first panic, if there is one. -/
def panic? (frame : Frame) (x : Program σ μ α) (w : World σ) : Option String :=
  match (attempt frame x w).value with
  | .ok _ => none
  | .error message => some message

/-! ## Laws -/

variable (frame : Frame) (w : World σ)

@[simp] theorem bind_eq (x : Program σ μ α) (f : α → Program σ μ β) : x >>= f = bind x f := rfl

@[simp] theorem pure_eq (a : α) : (pure a : Program σ μ α) = done a := rfl

@[simp] theorem exec_done (a : α) : exec frame (done a : Program σ μ α) w = ⟨a, w, []⟩ := rfl

@[simp] theorem exec_readClock : exec frame (readClock : Program σ μ Instant) w =
    ⟨frame.clock w.ticks, { w with ticks := w.ticks + 1 }, []⟩ := rfl

@[simp] theorem exec_randomNumber : exec frame (randomNumber : Program σ μ UInt64) w =
    ⟨frame.random w.drawn, { w with drawn := w.drawn + 1 }, []⟩ := rfl

@[simp] theorem exec_askCancelled (t : Token) : exec frame (askCancelled t : Program σ μ Bool) w =
    ⟨t.isCancelled w.cancelled, w, []⟩ := rfl

@[simp] theorem exec_note (m : μ) : exec frame (note m : Program σ μ Unit) w = ⟨(), w, [m]⟩ := rfl

@[simp] theorem exec_perform (a : Act σ α) : exec frame (perform a : Program σ μ α) w =
    ⟨(a frame.slot w.own).value, { w with
      own := (a frame.slot w.own).own, cancelled := w.cancelled ++ (a frame.slot w.own).cancelled }, []⟩ := rfl

/-- The journal of a composition is the one journal after the other. -/
theorem exec_bind (x : Program σ μ α) (f : α → Program σ μ β) :
    exec frame (bind x f) w =
      { exec frame (f (exec frame x w).value) (exec frame x w).world with
        journal := (exec frame x w).journal ++
          (exec frame (f (exec frame x w).value) (exec frame x w).world).journal } := by
  induction x generalizing w with
  | done a => simp [bind]
  | now next ih => simp only [bind, exec, ih]
  | draw next ih => simp only [bind, exec, ih]
  | isCancelled t next ih => simp only [bind, exec, ih]
  | mark m next ih => simp only [bind, exec, ih, List.cons_append]
  | act a next ih => simp only [bind, exec, ih]

/-- Other marks change nothing but the journal. -/
theorem exec_mapMarks (f : μ → ν) (x : Program σ μ α) :
    exec frame (mapMarks f x) w =
      ⟨(exec frame x w).value, (exec frame x w).world, (exec frame x w).journal.map f⟩ := by
  induction x generalizing w with
  | done a => simp [mapMarks]
  | now next ih => simp only [mapMarks, exec, ih]
  | draw next ih => simp only [mapMarks, exec, ih]
  | isCancelled t next ih => simp only [mapMarks, exec, ih]
  | mark m next ih => simp only [mapMarks, exec, ih, List.map_cons]
  | act a next ih => simp only [mapMarks, exec, ih]

/-- Where nobody panics, a program leaves what it leaves. -/
theorem exec_of_attempt {x : Program σ μ α} {a : α} (h : (attempt frame x w).value = .ok a) :
    exec frame x w = { attempt frame x w with value := a } := by
  induction x generalizing w with
  | done b => simp only [attempt, exec, Except.ok.inj h]
  | now next ih => exact ih _ _ h
  | draw next ih => exact ih _ _ h
  | isCancelled t next ih => exact ih _ _ h
  | mark m next ih => simp only [exec, attempt, ih w h]
  | act b next ih =>
    simp only [attempt] at h ⊢
    split at h
    · exact ih _ _ h
    · cases h

theorem attempt_of_panic? {x : Program σ μ α} {message : String} (h : panic? frame x w = some message) :
    (attempt frame x w).value = .error message := by
  unfold panic? at h
  split at h
  · cases h
  · rename_i panics
    rw [panics, Option.some.inj h]

/-- Up to the first panic, a program writes the same journal. -/
theorem journal_of_attempt (x : Program σ μ α) :
    ∃ rest, (exec frame x w).journal = (attempt frame x w).journal ++ rest := by
  induction x generalizing w with
  | done a => exact ⟨[], rfl⟩
  | now next ih => exact ih _ _
  | draw next ih => exact ih _ _
  | isCancelled t next ih => exact ih _ _
  | mark m next ih =>
    obtain ⟨rest, h⟩ := ih w
    exact ⟨rest, congrArg (m :: ·) h⟩
  | act a next ih =>
    simp only [attempt]
    split
    · exact ih _ _
    · exact ⟨_, rfl⟩

/-- Composition of programs does not depend on the brackets. -/
theorem bind_assoc (x : Program σ μ α) (f : α → Program σ μ β) (g : β → Program σ μ γ) :
    bind (bind x f) g = bind x fun a => bind (f a) g := by
  induction x with
  | done a => rfl
  | now next ih => simp only [bind, ih]
  | draw next ih => simp only [bind, ih]
  | isCancelled t next ih => simp only [bind, ih]
  | mark m next ih => simp only [bind, ih]
  | act a next ih => simp only [bind, ih]

/-- Nothing more is to be done. -/
theorem bind_done (x : Program σ μ α) : bind x done = x := by
  induction x with
  | done a => rfl
  | now next ih => simp only [bind, ih]
  | draw next ih => simp only [bind, ih]
  | isCancelled t next ih => simp only [bind, ih]
  | mark m next ih => simp only [bind, ih]
  | act a next ih => simp only [bind, ih]

instance : LawfulMonad (Program σ μ) :=
  LawfulMonad.mk' _ bind_done (fun _ _ => rfl) bind_assoc

end Program

end AgentLoop
