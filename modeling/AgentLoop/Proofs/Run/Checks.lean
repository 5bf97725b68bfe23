import AgentLoop.Proofs.Run.Calls
import AgentLoop.Proofs.Run.Parts

/-!
# Checks of the loop

- `Pipeline.PassedTo`: the loop comes from one check to another one, by checks that let it go on and passes that give a
  state;
- so it comes to each check in its journal (`LoopTrace.of_check`), and a check in a run stands in its loop
  (`RunTrace.of_check`).
-/

namespace AgentLoop

namespace Pipeline

variable {σ : Type} {p : Pipeline σ} {rounds : Nat} {s t : ExecutionState} {journal before after : List RunMark}
  {r : Option (Except AgentError ExecutionState)}

variable (p) in
/-- The loop comes from one check to another one: every check in between lets it go on, and every pass gives a state. -/
inductive PassedTo : ExecutionState → List RunMark → ExecutionState → Prop
  | here (s : ExecutionState) : PassedTo s [] s
  | passed {s t u : ExecutionState} {journal before : List RunMark} : p.CheckTrace s (.proceed s) →
      p.PassTrace s journal (.ok u) → PassedTo u before t →
      PassedTo s (.entered .shouldContinue s :: (journal ++ before)) t

/-- There is no check in other phases. -/
theorem not_split_within {phases : List Phase} (within : ∀ m ∈ journal, m.Within phases)
    (other : .shouldContinue ∉ phases) : journal ≠ before ++ .entered .shouldContinue t :: after := by
  rintro rfl
  exact other (within (.entered .shouldContinue t) (by simp))

/-- The loop comes to each of its checks. -/
theorem LoopTrace.of_check (h : p.LoopTrace rounds s journal r)
    (check : journal = before ++ .entered .shouldContinue t :: after) : p.PassedTo s before t := by
  induction h generalizing before with
  | cutOff s => simp at check
  | stopped _ =>
    cases before with
    | nil =>
      cases check
      exact .here _
    | cons m before => simp at check
  | failed _ pass =>
    cases before with
    | nil =>
      cases check
      exact .here _
    | cons m before =>
      obtain ⟨-, check₁⟩ := List.cons.inj check
      exact absurd check₁ (not_split_within pass.within (by decide))
  | passed granted pass _ ih =>
    cases before with
    | nil =>
      cases check
      exact .here _
    | cons m before =>
      obtain ⟨rfl, check₁⟩ := List.cons.inj check
      rcases split_append check₁ with ⟨rest, check₂, -⟩ | ⟨before', rfl, check₂⟩
      · exact absurd check₂ (not_split_within pass.within (by decide))
      · obtain ⟨rfl, -⟩ := granted.granted_of_proceed
        exact .passed granted pass (ih check₂)

/-- A check in a run stands in its loop. -/
theorem RunTrace.of_check (h : p.RunTrace rounds s journal r)
    (check : journal = before ++ .entered .shouldContinue t :: after) :
    ∃ first before' u, before = first ++ before' ∧ p.BeginTrace s first (.ok u) ∧ p.PassedTo u before' t := by
  cases h with
  | aborted began => exact absurd check (not_split_within began.within (by decide))
  | looped began loop close =>
    rcases split_append check with ⟨rest, check₁, -⟩ | ⟨before', rfl, check₁⟩
    · exact absurd check₁ (not_split_within began.within (by decide))
    · rcases split_append check₁ with ⟨rest, check₂, -⟩ | ⟨before'', -, check₂⟩
      · exact ⟨_, before', _, rfl, began, loop.of_check check₂⟩
      · exact absurd check₂ (not_split_within close.within (by decide))

end Pipeline

end AgentLoop
