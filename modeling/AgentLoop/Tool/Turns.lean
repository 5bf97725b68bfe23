import AgentLoop.Time.Basic
import AgentLoop.Tool.Registry

/-!
# Calls at work

- `RunningCall`: a call whose tool is at work;
- `Shrinks`: a list out of which an element was taken, or in which a smaller one took its place, wherever it stands
  now. This cannot go on forever (`wellFounded_shrinks`);
- `Waiting`: calls that wait for their turns. As no tool pauses forever, all of them come to an end.
-/

namespace AgentLoop

/-! ## Lists that shrink -/

section Shrinks

variable {α : Type} {r : α → α → Prop} {a : α} {l l' m : List α}

/-- An element was taken away, or a smaller one took its place. The order is of no account. -/
def Shrinks (r : α → α → Prop) (l' l : List α) : Prop :=
  ∃ a rest, l.Perm (a :: rest) ∧ ∃ b : Option α, (∀ b' ∈ b, r b' a) ∧ l'.Perm (b.toList ++ rest)

theorem acc_of_perm (h : Acc (Shrinks r) l) (order : m.Perm l) : Acc (Shrinks r) m := by
  refine ⟨m, fun l' ⟨a, rest, split, more⟩ => ?_⟩
  exact h.inv ⟨a, rest, order.symm.trans split, more⟩

/-- One element more does not matter, if it cannot be made smaller forever. -/
theorem acc_shrinks_cons (ha : Acc r a) (hl : Acc (Shrinks r) l) : Acc (Shrinks r) (a :: l) := by
  induction ha generalizing l with
  | intro a _ smaller =>
    induction hl with
    | intro l fewer shorter =>
      refine ⟨_, fun l' ⟨x, rest, split, b, below, there⟩ => ?_⟩
      refine acc_of_perm ?_ there
      -- either the new element is the one that was taken, or another one
      rcases List.mem_cons.1 (split.mem_iff.2 List.mem_cons_self) with rfl | inside
      · have same : Acc (Shrinks r) rest := acc_of_perm (.intro l fewer) (List.Perm.cons_inv split).symm
        cases b with
        | none => exact same
        | some b => exact smaller b (below b rfl) same
      · obtain ⟨front, back, rfl⟩ := List.append_of_mem inside
        have others : rest.Perm (a :: (front ++ back)) :=
          (List.Perm.cons_inv (split.symm.trans ((List.perm_middle.cons a).trans (.swap x a _))))
        have shrunk : Shrinks r (b.toList ++ (front ++ back)) (front ++ x :: back) :=
          ⟨x, front ++ back, List.perm_middle, b, below, .refl _⟩
        exact acc_of_perm (shorter _ shrunk) ((others.append_left _).trans List.perm_middle)

theorem wellFounded_shrinks (h : WellFounded r) : WellFounded (Shrinks r) := by
  refine ⟨fun l => ?_⟩
  induction l with
  | nil =>
    refine ⟨_, fun l' ⟨a, rest, split, _⟩ => ?_⟩
    cases split.nil_eq
  | cons a rest ih => exact acc_shrinks_cons (h.apply a) ih

end Shrinks

/-! ## Calls that wait for their turns -/

variable {σ : Type}

/-- A call whose tool is at work. -/
structure RunningCall (σ : Type) where
  /-- The place of the call in the request. -/
  index : Nat
  call : ToolCall
  /-- When the tool was invoked, once it was. -/
  startedAt : Option Instant
  rest : Invocation σ

namespace RunningCall

/-- What is left of a call after a turn. -/
def Follows (c' c : RunningCall σ) : Prop := c'.rest.Follows c.rest

/-- What may be left of a call after a turn. -/
abbrev Left (c : RunningCall σ) : Type := { c' : RunningCall σ // c'.Follows c }

end RunningCall

/-- Calls that wait for their turns, the one that waits longest first. -/
structure Waiting (σ : Type) where
  calls : List (RunningCall σ)

namespace Waiting

/-- In a turn, a call ends or goes on for one turn less. -/
def Fewer (q' q : Waiting σ) : Prop := Shrinks RunningCall.Follows q'.calls q.calls

instance : WellFoundedRelation (Waiting σ) where
  rel := Fewer
  wf := InvImage.wf Waiting.calls (wellFounded_shrinks (InvImage.wf RunningCall.rest Invocation.wellFounded_follows))

variable {calls : List (RunningCall σ)} {n : Nat} {c : RunningCall σ}

/-- The call that is picked, and the others. -/
theorem picked_perm (h : calls[n]? = some c) : calls.Perm (c :: calls.eraseIdx n) := by
  obtain ⟨bound, rfl⟩ := List.getElem?_eq_some_iff.1 h
  have split : calls = calls.take n ++ calls[n] :: calls.drop (n + 1) := by
    rw [← List.drop_eq_getElem_cons bound, List.take_append_drop]
  rw [List.eraseIdx_eq_take_drop_succ]
  exact (List.Perm.of_eq split).trans List.perm_middle

theorem fewer_of_ended (h : calls[n]? = some c) : Fewer ⟨calls.eraseIdx n⟩ ⟨calls⟩ :=
  ⟨c, _, picked_perm h, none, nofun, .refl _⟩

theorem fewer_of_left (h : calls[n]? = some c) (left : c.Left) : Fewer ⟨calls.eraseIdx n ++ [left.val]⟩ ⟨calls⟩ := by
  refine ⟨c, _, picked_perm h, some left.val, fun c' same => ?_, List.perm_append_comm⟩
  obtain rfl := Option.some.inj same
  exact left.property

end Waiting

end AgentLoop
