import AgentLoop.Proofs.Effect.Ensures

/-!
# While the clock keeps to some times

- `Program.EnsuresAt`: the journal and the value of a program are related as long as every reading of the clock is one
  of some times, whatever else is answered; it composes (`ensuresAt_bind`);
- it holds of the executions whose clock keeps to these times from then on (`EnsuresAt.exec`), and where all times will
  do, it is ensured (`EnsuresAt.ensures`).
-/

namespace AgentLoop

namespace Program

variable {σ μ ν α β : Type} {C : Instant → Prop}

/-- As long as every reading of the clock is one of some times, `post` relates the journal and the value of a
program. -/
def EnsuresAt (C : Instant → Prop) : Program σ μ α → (List μ → α → Prop) → Prop
  | done a, post => post [] a
  | now next, post => ∀ t, C t → EnsuresAt C (next t) post
  | draw next, post => ∀ n, EnsuresAt C (next n) post
  | isCancelled _ next, post => ∀ b, EnsuresAt C (next b) post
  | mark m next, post => EnsuresAt C next fun journal a => post (m :: journal) a
  | act a next, post => ∀ slot own, EnsuresAt C (next (a slot own).value) post

variable {post post' : List μ → α → Prop} {x : Program σ μ α}

theorem EnsuresAt.mono (h : x.EnsuresAt C post) (imp : ∀ journal a, post journal a → post' journal a) :
    x.EnsuresAt C post' := by
  induction x generalizing post post' with
  | done a => exact imp _ _ h
  | now next ih => exact fun t ht => ih t (h t ht) imp
  | draw next ih => exact fun n => ih n (h n) imp
  | isCancelled t next ih => exact fun b => ih b (h b) imp
  | mark m next ih => exact ih h fun _ => imp _
  | act a next ih => exact fun slot own => ih _ (h slot own) imp

/-- A composition ensures what the second program ensures after the journal of the first one. -/
theorem ensuresAt_bind (f : α → Program σ μ β) (post : List μ → β → Prop) :
    (bind x f).EnsuresAt C post ↔
      x.EnsuresAt C fun journal a => (f a).EnsuresAt C fun journal' b => post (journal ++ journal') b := by
  induction x generalizing post with
  | done a => rfl
  | now next ih => exact forall_congr' fun t => forall_congr' fun _ => ih t post
  | draw next ih => exact forall_congr' fun n => ih n post
  | isCancelled t next ih => exact forall_congr' fun b => ih b post
  | mark m next ih => exact ih _
  | act a next ih => exact forall_congr' fun slot => forall_congr' fun own => ih _ _

/-- Other marks change nothing but the journal. -/
theorem ensuresAt_mapMarks (f : μ → ν) (post : List ν → α → Prop) :
    (mapMarks f x).EnsuresAt C post ↔ x.EnsuresAt C fun journal a => post (journal.map f) a := by
  induction x generalizing post with
  | done a => rfl
  | now next ih => exact forall_congr' fun t => forall_congr' fun _ => ih t post
  | draw next ih => exact forall_congr' fun n => ih n post
  | isCancelled t next ih => exact forall_congr' fun b => ih b post
  | mark m next ih => exact ih _
  | act a next ih => exact forall_congr' fun slot => forall_congr' fun own => ih _ _

/-- What holds of every journal and every value is ensured. -/
theorem EnsuresAt.of_forall (h : ∀ journal a, post journal a) : x.EnsuresAt C post := by
  induction x generalizing post with
  | done a => exact h _ _
  | now next ih => exact fun t _ => ih t h
  | draw next ih => exact fun n => ih n h
  | isCancelled t next ih => exact fun b => ih b h
  | mark m next ih => exact ih fun _ => h _
  | act a next ih => exact fun slot own => ih _ h

/-- It holds of an execution whose clock keeps to these times from then on. -/
theorem EnsuresAt.exec (h : x.EnsuresAt C post) (frame : Frame) (w : World σ)
    (times : ∀ n, w.ticks ≤ n → C (frame.clock n)) : post (x.exec frame w).journal (x.exec frame w).value := by
  induction x generalizing post w with
  | done a => exact h
  | now next ih => exact ih _ (h _ (times _ (Nat.le_refl _))) _ fun n later => times n (Nat.le_of_succ_le later)
  | draw next ih => exact ih _ (h _) _ times
  | isCancelled t next ih => exact ih _ (h _) _ times
  | mark m next ih => exact ih h w times
  | act a next ih => exact ih _ (h _ _) _ times

/-- Where all times will do, it is ensured. -/
theorem EnsuresAt.ensures (h : x.EnsuresAt (fun _ => True) post) : x.Ensures fun journal _ a => post journal a := by
  induction x generalizing post with
  | done a => exact h
  | now next ih => exact fun t => ih t (h t trivial)
  | draw next ih => exact fun n => ih n (h n)
  | isCancelled t next ih => exact fun b => ih b (h b)
  | mark m next ih => exact ih h
  | act a next ih => exact fun slot own => ih _ (h slot own)

/-! ## Values alone -/

/-- As long as every reading of the clock is one of some times, the value of a program is as it should be. -/
def GivesAt (C : Instant → Prop) (good : α → Prop) (x : Program σ μ α) : Prop := x.EnsuresAt C fun _ a => good a

namespace GivesAt

variable {good : α → Prop} {good' : β → Prop} {f : α → Program σ μ β}

theorem done {a : α} (h : good a) : (Program.done a : Program σ μ α).GivesAt C good := h

/-- Whatever a program gives. -/
theorem any (x : Program σ μ α) : x.GivesAt C fun _ => True := EnsuresAt.of_forall fun _ _ => trivial

theorem readClock : (Program.readClock : Program σ μ Instant).GivesAt C C := fun _ ht => ht

theorem bind (hx : x.GivesAt C good) (hf : ∀ a, good a → (f a).GivesAt C good') : (x.bind f).GivesAt C good' :=
  (ensuresAt_bind f _).2 (EnsuresAt.mono hx fun _ a ha => hf a ha)

end GivesAt

end Program

end AgentLoop
