import Mathlib.Data.List.Perm.Basic
import AgentLoop.Pipeline.Criterion
import AgentLoop.Proofs.Usage

/-!
# Budgets for tokens

Counts of tokens are capped three times: those of the inputs and those of the outputs along a list of steps, and then
their total. It comes to one cap at the end:

- `exactTokens`: the tokens of steps, however many these are;
- `Usage.total_add`, `toNat_total_usageOf`: the capped total of steps is their exact number of tokens, or the largest
  count if that is smaller;
- `runSteps_sublist`: what is recorded in a run adds to its steps;
- `ExecutionState.budget_exact`: hence a budget stops the loop exactly if the run has used it up, in whatever order its
  steps stand, and no step that is recorded later lets the loop go on.
-/

namespace AgentLoop

/-- The total of a sum is the capped sum of the totals. -/
theorem Usage.total_add (u v : Usage) : (u + v).total = cappedAdd u.total v.total := by
  show cappedAdd (cappedAdd u.inputTokens v.inputTokens) (cappedAdd u.outputTokens v.outputTokens) =
    cappedAdd (cappedAdd u.inputTokens u.outputTokens) (cappedAdd v.inputTokens v.outputTokens)
  rw [cappedAdd_assoc, cappedAdd_assoc, ← cappedAdd_assoc v.inputTokens, cappedAdd_comm v.inputTokens, cappedAdd_assoc]

/-- The tokens of a step, input and output together; none if the backend did not answer. -/
def Step.exactTokens (step : Step) : Nat :=
  match step.inference with
  | none => 0
  | some info => info.usage.inputTokens.toNat + info.usage.outputTokens.toNat

namespace ExecutionState

/-- The tokens of steps, without any cap. -/
def exactTokens : List Step → Nat
  | [] => 0
  | step :: rest => step.exactTokens + exactTokens rest

/-! ## Totals -/

/-- The total of a list of steps is capped once. -/
theorem toNat_total_usageOf (steps : List Step) :
    (usageOf steps).total.toNat = min (UInt64.size - 1) (exactTokens steps) := by
  induction steps with
  | nil => rfl
  | cons step rest ih =>
    rw [exactTokens, Step.exactTokens]
    cases answered : step.inference with
    | none =>
      have same : usageOf (step :: rest) = usageOf rest := by
        unfold usageOf
        rw [List.filterMap_cons, answered, Option.map_none]
      rw [same, ih, Nat.zero_add]
    | some info =>
      have first : usageOf (step :: rest) = info.usage + usageOf rest := by
        unfold usageOf
        rw [List.filterMap_cons, answered, Option.map_some, Usage.sum_cons]
      rw [first, Usage.total_add, toNat_cappedAdd, ih, Usage.total, toNat_cappedAdd]
      dsimp only
      omega

/-- The number of tokens does not depend on the order of the steps. -/
theorem exactTokens_perm {steps steps' : List Step} (h : steps.Perm steps') :
    exactTokens steps = exactTokens steps' := by
  induction h with
  | nil => rfl
  | cons step _ ih => rw [exactTokens, exactTokens, ih]
  | swap step step' rest => exact Nat.add_left_comm _ _ _
  | trans _ _ first second => exact first.trans second

/-- More steps have no fewer tokens. -/
theorem exactTokens_le_of_sublist {steps steps' : List Step} (h : steps.Sublist steps') :
    exactTokens steps ≤ exactTokens steps' := by
  induction h with
  | slnil => exact Nat.le_refl 0
  | cons step _ ih => exact Nat.le_trans ih (Nat.le_add_left _ _)
  | cons_cons step _ ih => exact Nat.add_le_add_left ih _

/-! ## The steps of a run -/

variable {s t : ExecutionState}

theorem runSteps_perm {steps : List Step} (h : steps.Perm s.steps) :
    ({ s with steps } : ExecutionState).runSteps.Perm s.runSteps := by
  unfold runSteps
  dsimp only
  split
  · exact h
  · exact h.filter _

/-- What is recorded in a run adds to its steps. -/
theorem runSteps_sublist (same : t.stats.startedAt = s.stats.startedAt) (h : s.steps.Sublist t.steps) :
    s.runSteps.Sublist t.runSteps := by
  unfold runSteps
  rw [same]
  split
  · exact h
  · exact h.filter _

theorem runSteps_withStep (s : ExecutionState) (step : Step) : s.runSteps.Sublist (s.withStep step).runSteps :=
  runSteps_sublist rfl (List.sublist_append_left _ _)

theorem runSteps_withFinalStep (s : ExecutionState) (step : Step) (keepTraces : Bool) :
    s.runSteps.Sublist (s.withFinalStep step keepTraces).runSteps := by
  cases keepTraces
  · exact runSteps_sublist rfl (List.sublist_append_left _ _)
  · exact runSteps_sublist rfl (List.sublist_append_left _ _)

/-- The tokens of a run, capped once. -/
theorem toNat_total_runUsage (s : ExecutionState) :
    s.runUsage.total.toNat = min (UInt64.size - 1) (exactTokens s.runSteps) := toNat_total_usageOf _

/-- A budget is used up if the run has at least so many tokens. The cap does not matter, as no budget exceeds it. -/
theorem tokenUsageLimit_stops_iff (budget : UInt64) (s : ExecutionState) (elapsed : Nat) :
    ((Criterion.tokenUsageLimit budget).evaluate ⟨s, elapsed⟩).isSome = true ↔
      budget.toNat ≤ exactTokens s.runSteps := by
  have capped : budget ≤ s.runUsage.total ↔ budget.toNat ≤ exactTokens s.runSteps := by
    have bounded := budget.toNat_lt
    rw [UInt64.le_iff_toNat_le, toNat_total_runUsage]
    simp only [UInt64.size]
    omega
  rw [← capped]
  unfold Criterion.tokenUsageLimit
  dsimp only
  rw [Option.isSome_ite]

/-- A budget that is used up stays so while steps are recorded. -/
theorem tokenUsageLimit_stops_of_sublist {budget : UInt64} {elapsed : Nat} (elapsed' : Nat)
    (stops : ((Criterion.tokenUsageLimit budget).evaluate ⟨s, elapsed⟩).isSome = true)
    (more : s.runSteps.Sublist t.runSteps) :
    ((Criterion.tokenUsageLimit budget).evaluate ⟨t, elapsed'⟩).isSome = true :=
  (tokenUsageLimit_stops_iff budget t elapsed').2
    (Nat.le_trans ((tokenUsageLimit_stops_iff budget s elapsed).1 stops) (exactTokens_le_of_sublist more))

/-- The total of a run is the exact number of its tokens, or the largest count if that is smaller, in whatever order the
steps stand. A budget stops the loop if and only if the exact number comes to it, and once it does, it does so after any
step that is recorded. -/
theorem budget_exact (s : ExecutionState) :
    s.runUsage.total.toNat = min (UInt64.size - 1) (exactTokens s.runSteps) ∧
      (∀ steps : List Step, steps.Perm s.steps →
        ({ s with steps } : ExecutionState).runUsage.total = s.runUsage.total) ∧
      (∀ (budget : UInt64) (elapsed : Nat), ((Criterion.tokenUsageLimit budget).evaluate ⟨s, elapsed⟩).isSome = true ↔
        budget.toNat ≤ exactTokens s.runSteps) ∧
      ∀ (budget : UInt64) (elapsed : Nat), ((Criterion.tokenUsageLimit budget).evaluate ⟨s, elapsed⟩).isSome = true →
        ∀ (step : Step) (keepTraces : Bool) (elapsed' : Nat),
          ((Criterion.tokenUsageLimit budget).evaluate ⟨s.withStep step, elapsed'⟩).isSome = true ∧
          ((Criterion.tokenUsageLimit budget).evaluate ⟨s.withFinalStep step keepTraces, elapsed'⟩).isSome = true := by
  refine ⟨toNat_total_runUsage s, fun steps order => ?_,
    fun budget elapsed => tokenUsageLimit_stops_iff budget s elapsed,
    fun budget elapsed stops step keepTraces elapsed' => ⟨?_, ?_⟩⟩
  · apply UInt64.toNat_inj.1
    rw [toNat_total_runUsage, toNat_total_runUsage, exactTokens_perm (runSteps_perm order)]
  · exact tokenUsageLimit_stops_of_sublist elapsed' stops (s.runSteps_withStep step)
  · exact tokenUsageLimit_stops_of_sublist elapsed' stops (s.runSteps_withFinalStep step keepTraces)

/-- A step with these tokens. -/
def counted (inputTokens outputTokens : UInt64) : Step :=
  .finalResponse [] [] (some ⟨{ Usage.zero with inputTokens, outputTokens }, .endTurn, "m"⟩) ⟨0, 0⟩ ⟨0, 0⟩

/-- A state in which the outputs alone exceed the largest count. -/
def lavish : ExecutionState := { steps := [counted 3 18446744073709551615, counted 4 5] }

/-- Its total is the largest count, also with its steps the other way around, and that budget is used up for good. -/
theorem budget_exact_lavish :
    exactTokens lavish.runSteps = 18446744073709551627 ∧
      [counted 4 5, counted 3 18446744073709551615].Perm lavish.steps ∧
      lavish.runUsage.total = 18446744073709551615 ∧
      ({ lavish with steps := [counted 4 5, counted 3 18446744073709551615] } : ExecutionState).runUsage.total =
        18446744073709551615 ∧
      ((Criterion.tokenUsageLimit 18446744073709551615).evaluate ⟨lavish, 0⟩).isSome = true ∧
      ((Criterion.tokenUsageLimit 18446744073709551615).evaluate ⟨lavish.withStep (counted 1 1), 0⟩).isSome = true := by
  obtain ⟨total, order, stops, later⟩ := lavish.budget_exact
  have exact : exactTokens lavish.runSteps = 18446744073709551627 := rfl
  have swapped : [counted 4 5, counted 3 18446744073709551615].Perm lavish.steps := .swap _ _ _
  have largest : lavish.runUsage.total = 18446744073709551615 := by
    apply UInt64.toNat_inj.1
    rw [total, exact]
    rfl
  have now := (stops 18446744073709551615 0).2 (by rw [exact]; decide)
  exact ⟨exact, swapped, largest, (order _ swapped).trans largest, now, (later _ 0 now (counted 1 1) false 0).1⟩

end ExecutionState

end AgentLoop
