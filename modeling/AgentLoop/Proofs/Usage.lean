import AgentLoop.Usage

/-!
# Sums of usages

Capped sums do not depend on the order of the counts, so neither do sums of usages:

- `Usage.add_assoc`, `Usage.add_comm`, `Usage.zero_add`, `Usage.add_zero`: the laws of addition;
- `Usage.sum_cons`, `Usage.sum_append`: the sum of a list of usages, part by part.
-/

namespace AgentLoop

theorem cappedAdd_comm (a b : UInt64) : cappedAdd a b = cappedAdd b a := by
  unfold cappedAdd
  rw [Nat.add_comm]

theorem cappedAdd_assoc (a b c : UInt64) : cappedAdd (cappedAdd a b) c = cappedAdd a (cappedAdd b c) := by
  apply UInt64.toNat_inj.1
  simp only [toNat_cappedAdd]
  omega

/-- Nothing adds no tokens. -/
theorem cappedAdd_zero_left (a : UInt64) : cappedAdd 0 a = a := by
  apply UInt64.toNat_inj.1
  have := a.toNat_lt
  rw [toNat_cappedAdd]
  simp only [UInt64.toNat_zero, UInt64.size]
  omega

namespace Usage

theorem addOptional_comm (a b : Option UInt64) : addOptional a b = addOptional b a := by
  cases a <;> cases b <;> simp [addOptional, cappedAdd_comm]

theorem addOptional_assoc (a b c : Option UInt64) :
    addOptional (addOptional a b) c = addOptional a (addOptional b c) := by
  cases a <;> cases b <;> cases c <;> simp [addOptional, cappedAdd_assoc]

theorem addOptional_none (a : Option UInt64) : addOptional none a = a := by cases a <;> rfl

protected theorem add_comm (u v : Usage) : u + v = v + u := by
  show add u v = add v u
  simp only [add, cappedAdd_comm u.inputTokens, cappedAdd_comm u.outputTokens, addOptional_comm u.reasoningTokens,
    addOptional_comm u.cacheReadTokens, addOptional_comm u.cacheWriteTokens]

protected theorem add_assoc (u v w : Usage) : u + v + w = u + (v + w) := by
  show add (add u v) w = add u (add v w)
  simp only [add, cappedAdd_assoc, addOptional_assoc]

protected theorem zero_add (u : Usage) : zero + u = u := by
  show add zero u = u
  simp only [add, zero, cappedAdd_zero_left, addOptional_none]

protected theorem add_zero (u : Usage) : u + zero = u := by
  rw [Usage.add_comm, Usage.zero_add]

/-- What is summed from a usage on is added to it. -/
theorem foldl_add (u : Usage) (us : List Usage) : us.foldl add u = u + sum us := by
  induction us generalizing u with
  | nil => exact u.add_zero.symm
  | cons v rest ih =>
    have from_zero : sum (v :: rest) = v + sum rest := by
      show rest.foldl add (zero + v) = v + sum rest
      rw [Usage.zero_add, ih]
    rw [List.foldl_cons, ih, from_zero]
    exact u.add_assoc v _

@[simp] theorem sum_nil : sum [] = zero := rfl

theorem sum_cons (u : Usage) (us : List Usage) : sum (u :: us) = u + sum us := by
  show us.foldl add (zero + u) = u + sum us
  rw [Usage.zero_add, foldl_add]

theorem sum_singleton (u : Usage) : sum [u] = u := by
  rw [sum_cons, sum_nil, Usage.add_zero]

theorem sum_append (us vs : List Usage) : sum (us ++ vs) = sum us + sum vs := by
  induction us with
  | nil => rw [List.nil_append, sum_nil, Usage.zero_add]
  | cons u rest ih => rw [List.cons_append, sum_cons, sum_cons, ih, Usage.add_assoc]

end Usage

end AgentLoop
