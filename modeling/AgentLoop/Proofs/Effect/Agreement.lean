import AgentLoop.Proofs.Effect.Ensures

/-!
# Programs that agree

- `Act.Keeps`, `Program.Keeps`: whatever is answered, a property of the collaborators' own state is kept; it is enough
  that every act keeps it (`Keeps.of_acts`);
- `Program.Agree`: from equal worlds, two programs come to related values, to equal worlds and to equal journals,
  hidden marks aside. This composes (`Agree.bind`), and a program agrees with itself (`Keeps.agree`).
-/

namespace AgentLoop

variable {σ μ ν α β γ δ : Type} {P : σ → Prop}

/-- An act keeps a property of the collaborators' own state. -/
def Act.Keeps (P : σ → Prop) (a : Act σ α) : Prop := ∀ slot own, P own → P (a slot own).own

/-- So do acts that all keep it. -/
theorem Act.keeps_foldl {acts : List (Act σ Unit)} (h : ∀ a ∈ acts, a.Keeps P) (slot : Slot) {own : σ} (hown : P own) :
    P (acts.foldl (fun own a => (a slot own).own) own) := by
  induction acts generalizing own with
  | nil => exact hown
  | cons a rest ih =>
    exact ih (fun b hb => h b (List.mem_cons_of_mem _ hb)) (h a List.mem_cons_self slot own hown)

/-- What two executions leave behind agrees: their values are related, and nothing else differs but hidden marks. The
own state has the property `P`. -/
structure Outcome.Agrees (P : σ → Prop) (hidden : μ → Bool) (R : α → β → Prop) (o : Outcome σ μ α)
    (o' : Outcome σ μ β) : Prop where
  value : R o.value o'.value
  world : o.world = o'.world
  own : P o.world.own
  journal : (o.journal.filter fun m => !hidden m) = o'.journal.filter fun m => !hidden m

namespace Program

/-- Whatever is answered, a program keeps a property of the collaborators' own state. -/
def Keeps (P : σ → Prop) (x : Program σ μ α) : Prop :=
  ∀ (frame : Frame) (w : World σ), P w.own → P (x.exec frame w).world.own

namespace Keeps

variable {x : Program σ μ α} {f : α → Program σ μ β}

theorem done (a : α) : (Program.done a : Program σ μ α).Keeps P := fun _ _ h => h

theorem note (m : μ) : (Program.note m : Program σ μ Unit).Keeps P := fun _ _ h => h

theorem readClock : (Program.readClock : Program σ μ Instant).Keeps P := fun _ _ h => h

theorem randomNumber : (Program.randomNumber : Program σ μ UInt64).Keeps P := fun _ _ h => h

theorem askCancelled (t : Token) : (Program.askCancelled t : Program σ μ Bool).Keeps P := fun _ _ h => h

theorem perform {a : Act σ α} (h : a.Keeps P) : (Program.perform a : Program σ μ α).Keeps P :=
  fun frame w hw => h frame.slot w.own hw

theorem bind (hx : x.Keeps P) (hf : ∀ a, (f a).Keeps P) : (x.bind f).Keeps P := by
  intro frame w hw
  rw [exec_bind]
  exact hf _ frame _ (hx frame w hw)

/-- It is enough that every act keeps the property. -/
theorem of_acts (h : ∀ (frame : Frame) (w : World σ), ∀ a ∈ x.acts frame w, a.Keeps P) : x.Keeps P := by
  intro frame w hw
  rw [own_exec]
  exact Act.keeps_foldl (h frame w) frame.slot hw

end Keeps

/-- From equal worlds, two programs come to related values, equal worlds and equal journals, hidden marks aside, as long
as the collaborators' own state has the property `P`, which is kept. -/
def Agree (P : σ → Prop) (hidden : μ → Bool) (R : α → β → Prop) (x : Program σ μ α) (y : Program σ μ β) : Prop :=
  ∀ (frame : Frame) (w : World σ), P w.own → (x.exec frame w).Agrees P hidden R (y.exec frame w)

/-- A program agrees with itself. -/
theorem Keeps.agree {x : Program σ μ α} (h : x.Keeps P) (hidden : μ → Bool) : x.Agree P hidden Eq x :=
  fun frame w hw => ⟨rfl, rfl, h frame w hw, rfl⟩

namespace Agree

variable {hidden : μ → Bool} {R : α → β → Prop} {S : γ → δ → Prop} {x : Program σ μ α} {y : Program σ μ β}

theorem done {a : α} {b : β} (h : R a b) :
    (Program.done a : Program σ μ α).Agree P hidden R (Program.done b : Program σ μ β) :=
  fun _ _ hw => ⟨h, rfl, hw, rfl⟩

/-- Programs that agree, followed by programs that agree wherever the values are related. -/
theorem bind {f : α → Program σ μ γ} {g : β → Program σ μ δ} (hx : x.Agree P hidden R y)
    (hf : ∀ a b, R a b → (f a).Agree P hidden S (g b)) : (x.bind f).Agree P hidden S (y.bind g) := by
  intro frame w hw
  have first := hx frame w hw
  have second := hf _ _ first.value frame _ first.own
  have second : ((f (x.exec frame w).value).exec frame (x.exec frame w).world).Agrees P hidden S
      ((g (y.exec frame w).value).exec frame (y.exec frame w).world) := by
    rw [← first.world]
    exact second
  rw [exec_bind, exec_bind]
  refine ⟨second.value, second.world, second.own, ?_⟩
  rw [List.filter_append, List.filter_append, first.journal, second.journal]

/-- Programs that come to equal values, followed by programs that agree. -/
theorem bind_same {y : Program σ μ α} {f : α → Program σ μ γ} {g : α → Program σ μ δ} (hx : x.Agree P hidden Eq y)
    (hf : ∀ a, (f a).Agree P hidden S (g a)) : (x.bind f).Agree P hidden S (y.bind g) := by
  apply hx.bind
  rintro a _ rfl
  exact hf a

/-- Other marks, of which the same ones are hidden. -/
theorem mapMarks {hidden' : ν → Bool} {f : μ → ν} (same : ∀ m, hidden' (f m) = hidden m)
    (h : x.Agree P hidden R y) : (x.mapMarks f).Agree P hidden' R (y.mapMarks f) := by
  intro frame w hw
  have agrees := h frame w hw
  have shown (journal : List μ) :
      ((journal.map f).filter fun m => !hidden' m) = (journal.filter fun m => !hidden m).map f := by
    rw [List.filter_map]
    congr 2
    funext m
    simp [same]
  rw [exec_mapMarks, exec_mapMarks]
  refine ⟨agrees.value, agrees.world, agrees.own, ?_⟩
  rw [shown, shown, agrees.journal]

end Agree

end Program

end AgentLoop
