import AgentLoop.Proofs.Effect.Ensures

/-!
# What a program may leave behind

- `Act.MayGive`, `Program.MayLeave`: the values of an act, and the journals and values of a program, whatever is
  answered and whatever state the collaborators are in;
- every execution leaves such a journal and value (`mayLeave_exec`);
- a composition is taken apart by `MayLeave.of_bind`;
- what a program ensures holds of all that it may leave behind (`Ensures.mayLeave`).
-/

namespace AgentLoop

/-- A value that an act may give. -/
def Act.MayGive {σ α : Type} (x : Act σ α) (a : α) : Prop := ∃ slot own, (x slot own).value = a

namespace Program

variable {σ μ ν α β : Type}

/-- A journal and a value that a program may leave behind. -/
def MayLeave : Program σ μ α → List μ → α → Prop
  | done a, journal, b => journal = [] ∧ a = b
  | now next, journal, b => ∃ t, MayLeave (next t) journal b
  | draw next, journal, b => ∃ n, MayLeave (next n) journal b
  | isCancelled _ next, journal, b => ∃ c, MayLeave (next c) journal b
  | mark m next, journal, b => ∃ rest, journal = m :: rest ∧ MayLeave next rest b
  | act a next, journal, b => ∃ slot own, MayLeave (next (a slot own).value) journal b

variable {x : Program σ μ α} {f : α → Program σ μ β} {journal : List μ} {a : α} {b : β}

/-- What an execution leaves behind, a program may leave behind. -/
theorem mayLeave_exec (x : Program σ μ α) (frame : Frame) (w : World σ) :
    x.MayLeave (x.exec frame w).journal (x.exec frame w).value := by
  induction x generalizing w with
  | done a => exact ⟨rfl, rfl⟩
  | now next ih => exact ⟨_, ih _ _⟩
  | draw next ih => exact ⟨_, ih _ _⟩
  | isCancelled t next ih => exact ⟨_, ih _ _⟩
  | mark m next ih => exact ⟨_, rfl, ih w⟩
  | act a next ih => exact ⟨_, _, ih _ _⟩

theorem mayLeave_note {m : μ} {u : Unit} : (note m : Program σ μ Unit).MayLeave journal u ↔ journal = [m] := by
  constructor
  · rintro ⟨_, rfl, rfl, -⟩
    rfl
  · rintro rfl
    exact ⟨[], rfl, rfl, rfl⟩

theorem mayLeave_readClock {t : Instant} :
    (readClock : Program σ μ Instant).MayLeave journal t ↔ journal = [] := by
  constructor
  · rintro ⟨_, rfl, -⟩
    rfl
  · rintro rfl
    exact ⟨t, rfl, rfl⟩

theorem mayLeave_askCancelled {t : Token} {c : Bool} :
    (askCancelled t : Program σ μ Bool).MayLeave journal c ↔ journal = [] := by
  constructor
  · rintro ⟨_, rfl, -⟩
    rfl
  · rintro rfl
    exact ⟨c, rfl, rfl⟩

theorem mayLeave_perform {x : Act σ α} :
    (perform x : Program σ μ α).MayLeave journal a ↔ journal = [] ∧ x.MayGive a := by
  constructor
  · rintro ⟨slot, own, rfl, h⟩
    exact ⟨rfl, slot, own, h⟩
  · rintro ⟨rfl, slot, own, h⟩
    exact ⟨slot, own, rfl, h⟩

/-- A composition leaves what the first program leaves, and then what the second one does. -/
theorem MayLeave.of_bind (h : (bind x f).MayLeave journal b) :
    ∃ first a second, x.MayLeave first a ∧ (f a).MayLeave second b ∧ journal = first ++ second := by
  induction x generalizing journal with
  | done a => exact ⟨[], a, journal, ⟨rfl, rfl⟩, h, rfl⟩
  | now next ih =>
    obtain ⟨t, h⟩ := h
    obtain ⟨first, a, second, hx, rest⟩ := ih t h
    exact ⟨first, a, second, ⟨t, hx⟩, rest⟩
  | draw next ih =>
    obtain ⟨n, h⟩ := h
    obtain ⟨first, a, second, hx, rest⟩ := ih n h
    exact ⟨first, a, second, ⟨n, hx⟩, rest⟩
  | isCancelled t next ih =>
    obtain ⟨c, h⟩ := h
    obtain ⟨first, a, second, hx, rest⟩ := ih c h
    exact ⟨first, a, second, ⟨c, hx⟩, rest⟩
  | mark m next ih =>
    obtain ⟨_, rfl, h⟩ := h
    obtain ⟨first, a, second, hx, hf, rfl⟩ := ih h
    exact ⟨m :: first, a, second, ⟨first, rfl, hx⟩, hf, rfl⟩
  | act act next ih =>
    obtain ⟨slot, own, h⟩ := h
    obtain ⟨first, a, second, hx, rest⟩ := ih _ h
    exact ⟨first, a, second, ⟨slot, own, hx⟩, rest⟩

/-- What is ensured holds of all that a program may leave behind. -/
theorem Ensures.mayLeave {post : List μ → List (Act σ Unit) → α → Prop} (ensured : x.Ensures post)
    (h : x.MayLeave journal a) : ∃ acts, post journal acts a := by
  induction x generalizing post journal with
  | done b =>
    obtain ⟨rfl, rfl⟩ := h
    exact ⟨[], ensured⟩
  | now next ih =>
    obtain ⟨t, h⟩ := h
    exact ih t (ensured t) h
  | draw next ih =>
    obtain ⟨n, h⟩ := h
    exact ih n (ensured n) h
  | isCancelled t next ih =>
    obtain ⟨c, h⟩ := h
    exact ih c (ensured c) h
  | mark m next ih =>
    obtain ⟨rest, rfl, h⟩ := h
    obtain ⟨acts, holds⟩ := ih ensured h
    exact ⟨acts, holds⟩
  | act act next ih =>
    obtain ⟨slot, own, h⟩ := h
    obtain ⟨acts, holds⟩ := ih _ (ensured slot own) h
    exact ⟨act.effect :: acts, holds⟩

/-- Other marks change nothing but the journal. -/
theorem MayLeave.of_mapMarks {g : μ → ν} {journal : List ν} (h : (mapMarks g x).MayLeave journal a) :
    ∃ marks, x.MayLeave marks a ∧ journal = marks.map g := by
  induction x generalizing journal with
  | done b =>
    obtain ⟨rfl, same⟩ := h
    exact ⟨[], ⟨rfl, same⟩, rfl⟩
  | now next ih =>
    obtain ⟨t, h⟩ := h
    obtain ⟨marks, hx, same⟩ := ih t h
    exact ⟨marks, ⟨t, hx⟩, same⟩
  | draw next ih =>
    obtain ⟨n, h⟩ := h
    obtain ⟨marks, hx, same⟩ := ih n h
    exact ⟨marks, ⟨n, hx⟩, same⟩
  | isCancelled t next ih =>
    obtain ⟨c, h⟩ := h
    obtain ⟨marks, hx, same⟩ := ih c h
    exact ⟨marks, ⟨c, hx⟩, same⟩
  | mark m next ih =>
    obtain ⟨_, rfl, h⟩ := h
    obtain ⟨marks, hx, rfl⟩ := ih h
    exact ⟨m :: marks, ⟨marks, rfl, hx⟩, rfl⟩
  | act act next ih =>
    obtain ⟨slot, own, h⟩ := h
    obtain ⟨marks, hx, same⟩ := ih _ h
    exact ⟨marks, ⟨slot, own, hx⟩, same⟩

end Program

end AgentLoop
