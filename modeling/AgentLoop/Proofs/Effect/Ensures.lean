import Mathlib.Data.List.Forall2
import AgentLoop.Effect.Program

/-!
# What holds of every dialogue

- `Program.acts`: what the collaborators are let do in an execution, in order. It decides what becomes of their own
  state (`own_exec`);
- `Program.Ensures`: the journal, the acts and the value of a program are related, whatever is answered and whatever
  the collaborators do; it composes (`ensures_bind`, `ensures_mapM`) and holds of every execution (`Ensures.exec`);
- `Program.Writes`: every mark that a program may write has a property.
-/

namespace AgentLoop

/-- What an act does, its value aside. -/
def Act.effect {σ α : Type} (a : Act σ α) : Act σ Unit := fun slot own =>
  { a slot own with value := () }

namespace Program

variable {σ μ ν α β : Type}

/-! ## Acts -/

/-- What the collaborators are let do. -/
def acts (frame : Frame) : Program σ μ α → World σ → List (Act σ Unit)
  | done _, _ => []
  | now next, w => acts frame (next (frame.clock w.ticks)) { w with ticks := w.ticks + 1 }
  | draw next, w => acts frame (next (frame.random w.drawn)) { w with drawn := w.drawn + 1 }
  | isCancelled t next, w => acts frame (next (t.isCancelled w.cancelled)) w
  | mark _ next, w => acts frame next w
  | act a next, w =>
    let acted := a frame.slot w.own
    a.effect :: acts frame (next acted.value) { w with own := acted.own, cancelled := w.cancelled ++ acted.cancelled }

/-- The acts of a composition are those of the one program and then those of the other. -/
theorem acts_bind (frame : Frame) (w : World σ) (x : Program σ μ α) (f : α → Program σ μ β) :
    (bind x f).acts frame w = x.acts frame w ++ (f (x.exec frame w).value).acts frame (x.exec frame w).world := by
  induction x generalizing w with
  | done a => rfl
  | now next ih => exact ih _ _
  | draw next ih => exact ih _ _
  | isCancelled t next ih => exact ih _ _
  | mark m next ih => exact ih w
  | act a next ih => exact congrArg (a.effect :: ·) (ih _ _)

/-- Only acts change the collaborators' own state. -/
theorem own_exec (frame : Frame) (w : World σ) (x : Program σ μ α) :
    (x.exec frame w).world.own = (x.acts frame w).foldl (fun own a => (a frame.slot own).own) w.own := by
  induction x generalizing w with
  | done a => rfl
  | now next ih => exact ih _ _
  | draw next ih => exact ih _ _
  | isCancelled t next ih => exact ih _ _
  | mark m next ih => exact ih w
  | act a next ih => exact ih _ _

/-! ## Postconditions -/

/-- Whatever is answered and whatever collaborators do, `post` relates the journal, the acts and the value of a
program. -/
def Ensures : Program σ μ α → (List μ → List (Act σ Unit) → α → Prop) → Prop
  | done a, post => post [] [] a
  | now next, post => ∀ t, Ensures (next t) post
  | draw next, post => ∀ n, Ensures (next n) post
  | isCancelled _ next, post => ∀ b, Ensures (next b) post
  | mark m next, post => Ensures next fun journal acts a => post (m :: journal) acts a
  | act a next, post =>
    ∀ slot own, Ensures (next (a slot own).value) fun journal acts b => post journal (a.effect :: acts) b

section Rules

variable {post post' : List μ → List (Act σ Unit) → α → Prop} {x : Program σ μ α}

/-- What is ensured holds of every execution. -/
theorem Ensures.exec (h : x.Ensures post) (frame : Frame) (w : World σ) :
    post (x.exec frame w).journal (x.acts frame w) (x.exec frame w).value := by
  induction x generalizing post w with
  | done a => exact h
  | now next ih => exact ih _ (h _) _
  | draw next ih => exact ih _ (h _) _
  | isCancelled t next ih => exact ih _ (h _) _
  | mark m next ih => exact ih h w
  | act a next ih => exact ih _ (h _ _) _

theorem Ensures.mono (h : x.Ensures post) (imp : ∀ journal acts a, post journal acts a → post' journal acts a) :
    x.Ensures post' := by
  induction x generalizing post post' with
  | done a => exact imp _ _ _ h
  | now next ih => exact fun t => ih t (h t) imp
  | draw next ih => exact fun n => ih n (h n) imp
  | isCancelled t next ih => exact fun b => ih b (h b) imp
  | mark m next ih => exact ih h fun _ => imp _
  | act a next ih => exact fun slot own => ih _ (h slot own) fun _ _ => imp _ _

/-- A composition ensures what the second program ensures after the journal and the acts of the first one. -/
theorem ensures_bind (f : α → Program σ μ β) (post : List μ → List (Act σ Unit) → β → Prop) :
    (bind x f).Ensures post ↔
      x.Ensures fun journal acts a =>
        (f a).Ensures fun journal' acts' b => post (journal ++ journal') (acts ++ acts') b := by
  induction x generalizing post with
  | done a => rfl
  | now next ih => exact forall_congr' fun t => ih t post
  | draw next ih => exact forall_congr' fun n => ih n post
  | isCancelled t next ih => exact forall_congr' fun b => ih b post
  | mark m next ih => exact ih _
  | act a next ih => exact forall_congr' fun slot => forall_congr' fun own => ih _ _

/-- Other marks change nothing but the journal. -/
theorem ensures_mapMarks (f : μ → ν) (post : List ν → List (Act σ Unit) → α → Prop) :
    (mapMarks f x).Ensures post ↔ x.Ensures fun journal acts a => post (journal.map f) acts a := by
  induction x generalizing post with
  | done a => rfl
  | now next ih => exact forall_congr' fun t => ih t post
  | draw next ih => exact forall_congr' fun n => ih n post
  | isCancelled t next ih => exact forall_congr' fun b => ih b post
  | mark m next ih => exact ih _
  | act a next ih => exact forall_congr' fun slot => forall_congr' fun own => ih _ _

/-- What holds of every journal, whatever is done, and every value is ensured. -/
theorem Ensures.of_forall (h : ∀ journal acts a, post journal acts a) : x.Ensures post := by
  induction x generalizing post with
  | done a => exact h _ _ _
  | now next ih => exact fun t => ih t h
  | draw next ih => exact fun n => ih n h
  | isCancelled t next ih => exact fun b => ih b h
  | mark m next ih => exact ih fun _ => h _
  | act a next ih => exact fun slot own => ih _ fun _ _ => h _ _

/-- A program for each element of a list: the acts are those of the elements, one after another. -/
theorem ensures_mapM {P : μ → Prop} {does : α → List (Act σ Unit)} {R : α → β → Prop} {f : α → Program σ μ β}
    (h : ∀ a, (f a).Ensures fun journal acts b => (∀ m ∈ journal, P m) ∧ acts = does a ∧ R a b) (l : List α) :
    (l.mapM f).Ensures fun journal acts bs =>
      (∀ m ∈ journal, P m) ∧ acts = l.flatMap does ∧ List.Forall₂ R l bs := by
  induction l with
  | nil => exact ⟨fun _ hm => absurd hm (by simp), rfl, .nil⟩
  | cons a l ih =>
    rw [List.mapM_cons]
    refine (ensures_bind _ _).2 ((h a).mono fun journal acts b ⟨marks, did, hb⟩ => ?_)
    refine (ensures_bind _ _).2 (ih.mono fun journal' acts' bs ⟨marks', did', hbs⟩ => ?_)
    refine ⟨fun m hm => ?_, by simp [did, did'], .cons hb hbs⟩
    rw [List.append_nil] at hm
    exact (List.mem_append.1 hm).elim (marks m) (marks' m)

end Rules

/-! ## Marks -/

/-- Every mark that a program may write has the property `P`. -/
def Writes (P : μ → Prop) (x : Program σ μ α) : Prop := x.Ensures fun journal _ _ => ∀ m ∈ journal, P m

section Writes

variable {P : μ → Prop}

theorem Writes.done (a : α) : (done a : Program σ μ α).Writes P := fun _ h => absurd h (by simp)

theorem Writes.note {m : μ} (h : P m) : (note m : Program σ μ Unit).Writes P := fun n hn => by
  rw [List.mem_singleton.1 hn]
  exact h

theorem Writes.readClock : (readClock : Program σ μ Instant).Writes P := fun t => Writes.done t

theorem Writes.askCancelled (t : Token) : (askCancelled t : Program σ μ Bool).Writes P := fun b => Writes.done b

theorem Writes.perform (a : Act σ α) : (perform a : Program σ μ α).Writes P := fun _ _ => Writes.done _

theorem Writes.bind {x : Program σ μ α} {f : α → Program σ μ β} (hx : x.Writes P) (hf : ∀ a, (f a).Writes P) :
    (bind x f).Writes P := by
  refine (ensures_bind f _).2 (hx.mono fun journal _ a h => (hf a).mono fun journal' _ _ h' m hm => ?_)
  exact (List.mem_append.1 hm).elim (h m) (h' m)

theorem Writes.mapM {f : α → Program σ μ β} (h : ∀ a, (f a).Writes P) (l : List α) : (l.mapM f).Writes P := by
  induction l with
  | nil => exact Writes.done _
  | cons a rest ih =>
    rw [List.mapM_cons]
    exact (h a).bind fun _ => ih.bind fun _ => Writes.done _

end Writes

end Program

end AgentLoop
