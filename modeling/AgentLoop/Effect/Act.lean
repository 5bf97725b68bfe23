import AgentLoop.Effect.Slot

/-!
# Acts of collaborators

- `Act`: what a tool, a hook, a handler or a backend does: it sees the run slot and its own state, changes that state
  and may cancel tokens. It reaches nothing else of the engine;
- `Act.panic`: it may also panic, as `Act.add` does when a sum is too large. Nothing happens after that, and its value
  is of no account.
-/

namespace AgentLoop

/-- What an act leaves behind. -/
structure Acted (σ α : Type) where
  value : α
  /-- The collaborators' own state afterwards. -/
  own : σ
  /-- The tokens that were cancelled. -/
  cancelled : List Token := []
  /-- The message of the panic that ended it, if one did. -/
  panicked : Option String := none

/-- Something that a collaborator with the state `σ` does. -/
def Act (σ α : Type) : Type := Slot → σ → Acted σ α

namespace Act

variable {σ α β : Type}

/-- Nothing is done. -/
def pure (a : α) : Act σ α := fun _ own => { value := a, own }

/-- One act after another; after a panic nothing else is done. -/
def bind (x : Act σ α) (f : α → Act σ β) : Act σ β := fun slot own =>
  let first := x slot own
  let second := f first.value slot first.own
  match first.panicked with
  | none => { second with cancelled := first.cancelled ++ second.cancelled }
  | some _ => { first with value := second.value }

instance : Monad (Act σ) where
  pure := pure
  bind := bind

section Bind

variable (x : Act σ α) (f : α → Act σ β) (slot : Slot) (own : σ)

theorem bind_of_panicked {message : String} (panics : (x slot own).panicked = some message) :
    (x >>= f) slot own = { x slot own with value := (f (x slot own).value slot (x slot own).own).value } := by
  show bind x f slot own = _
  simp only [bind, panics]

theorem bind_of_calm (calm : (x slot own).panicked = none) :
    (x >>= f) slot own =
      { f (x slot own).value slot (x slot own).own with
        cancelled := (x slot own).cancelled ++ (f (x slot own).value slot (x slot own).own).cancelled } := by
  show bind x f slot own = _
  simp only [bind, calm]

theorem value_bind : ((x >>= f) slot own).value = (f (x slot own).value slot (x slot own).own).value := by
  cases panics : (x slot own).panicked with
  | none => rw [bind_of_calm x f slot own panics]
  | some message => rw [bind_of_panicked x f slot own panics]

/-- The first panic counts. -/
theorem panicked_bind :
    ((x >>= f) slot own).panicked =
      (x slot own).panicked.or (f (x slot own).value slot (x slot own).own).panicked := by
  cases panics : (x slot own).panicked with
  | none => rw [bind_of_calm x f slot own panics, Option.none_or]
  | some message =>
    rw [bind_of_panicked x f slot own panics]
    exact panics

end Bind

/-- The run slot. -/
def slot : Act σ Slot := fun slot own => { value := slot, own }

/-- The own state. -/
def get : Act σ σ := fun _ own => { value := own, own }

/-- Changes the own state. -/
def modify (f : σ → σ) : Act σ Unit := fun _ own => { value := (), own := f own }

/-- Takes a value out of the own state. -/
def modifyGet (f : σ → α × σ) : Act σ α := fun _ own => { value := (f own).1, own := (f own).2 }

/-- Cancels a token. -/
def cancel (t : Token) : Act σ Unit := fun _ own => { value := (), own, cancelled := [t] }

/-- Panics; the value only stands in for the one that is missing. -/
def panic (message : String) (unused : α) : Act σ α := fun _ own =>
  { value := unused, own, panicked := some message }

/-- Adds two numbers; panics if the sum is too large. -/
def add (m n : UInt64) : Act σ UInt64 :=
  if m.toNat + n.toNat < UInt64.size then pure (m + n) else panic "attempt to add with overflow" (m + n)

theorem value_add (m n : UInt64) (slot : Slot) (own : σ) : (add m n slot own).value = m + n := by
  unfold add
  split <;> rfl

theorem panicked_add (m n : UInt64) (slot : Slot) (own : σ) :
    (add m n slot own).panicked =
      if m.toNat + n.toNat < UInt64.size then none else some "attempt to add with overflow" := by
  unfold add
  split <;> rfl

/-- The value of an act, with what it saw. -/
def watched (x : Act σ α) : Act σ (Slot × σ × α) := fun slot own =>
  let acted := x slot own
  { acted with value := (slot, own, acted.value) }

end Act

/-- A part of a state. -/
structure Lens (σ τ : Type) where
  get : σ → τ
  set : τ → σ → σ

namespace Lens

/-- A state as a part of itself. -/
def whole {σ : Type} : Lens σ σ := ⟨fun s => s, fun t _ => t⟩

end Lens

end AgentLoop
