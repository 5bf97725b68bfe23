import AgentLoop.Proofs.Run.Marks

/-!
# Calls of the driver

Where a call of the driver stands in the journal of a run, and what follows it:

- a call in a composed journal stands in the one part or in the other (`split_append`), and not among plain marks
  (`split_plain`);
- `PassTrace.of_call`: a pass with a call consists of the phase before the step, the call, and what follows it;
- `LoopRest`: what follows a call in the loop (`LoopTrace.of_call`);
- a call in the loop stands in a pass (`LoopTrace.pass_of_call`), and a call in a run in its loop (`RunTrace.of_call`).
-/

namespace AgentLoop

/-! ## Composed journals -/

section Split

variable {a b before after : List RunMark} {m : RunMark}

/-- A mark of a composed journal stands in the first part, or in the second one. -/
theorem split_append (split : a ++ b = before ++ m :: after) :
    (∃ rest, a = before ++ m :: rest ∧ after = rest ++ b) ∨
      ∃ rest, before = a ++ rest ∧ b = rest ++ m :: after := by
  rcases List.append_eq_append_iff.1 split with ⟨rest, rfl, rfl⟩ | ⟨rest, rfl, rest_eq⟩
  · exact .inr ⟨rest, rfl, rfl⟩
  · cases rest with
    | nil => exact .inr ⟨[], by simp, by simpa using rest_eq.symm⟩
    | cons n rest =>
      obtain ⟨rfl, rfl⟩ := List.cons.inj rest_eq
      exact .inl ⟨rest, rfl, rfl⟩

/-- A mark stands behind the marks of which it is none. -/
theorem split_not_mem (apart : m ∉ a) (split : a ++ b = before ++ m :: after) :
    ∃ rest, before = a ++ rest ∧ b = rest ++ m :: after := by
  rcases split_append split with ⟨rest, rfl, -⟩ | found
  · simp at apart
  · exact found

/-- So does a call of the driver. -/
theorem split_quiet (drives : m.drives = true) (quiet : ∀ n ∈ a, n.drives = false)
    (split : a ++ b = before ++ m :: after) : ∃ rest, before = a ++ rest ∧ b = rest ++ m :: after := by
  refine split_not_mem (fun hm => ?_) split
  rw [quiet m hm] at drives
  cases drives

theorem split_plain (drives : m.drives = true) (plain : ∀ n ∈ a, n.isPlain = true)
    (split : a ++ b = before ++ m :: after) : ∃ rest, before = a ++ rest ∧ b = rest ++ m :: after :=
  split_quiet drives (fun n hn => RunMark.drives_of_isPlain (plain n hn)) split

theorem split_cons {n : RunMark} (drives : m.drives = true) (plain : n.isPlain = true)
    (split : n :: b = before ++ m :: after) : ∃ rest, before = n :: rest ∧ b = rest ++ m :: after :=
  split_plain drives (List.forall_mem_singleton.2 plain) split

/-- There is no call of the driver among plain marks. -/
theorem not_split_plain (drives : m.drives = true) (plain : ∀ n ∈ a, n.isPlain = true) : a ≠ before ++ m :: after := by
  rintro rfl
  rw [RunMark.drives_of_isPlain (plain m (by simp))] at drives
  cases drives

end Split

namespace Pipeline

variable {σ : Type} {p : Pipeline σ} {rounds : Nat} {s t : ExecutionState} {journal before after : List RunMark}
  {result : Except AgentError Step}

/-! ## Passes -/

theorem PassTrace.of_call {r : Except AgentError ExecutionState} (h : p.PassTrace s journal r)
    (call : journal = before ++ .drove t result :: after) :
    ∃ (first : List RunMark) (marks : List StepMark), before = passMark s :: (first ++ marks.map .step) ∧
      p.PhaseTrace .beforeStep s.withStepStarted first (.ok t) ∧
      (p.driver.useTools t p.tools p.executor).MayLeave marks result ∧
      p.FollowTrace s.withStepStarted.stats.stepCounter t result after r := by
  have opening {first : List RunMark} (plain : ∀ m ∈ first, m.isPlain = true) :
      ∀ m ∈ passMark s :: first, m.drives = false := by
    simp only [List.forall_mem_cons]
    exact ⟨rfl, fun m hm => RunMark.drives_of_isPlain (plain m hm)⟩
  have marking (marks : List StepMark) : ∀ m ∈ marks.map RunMark.step, m.drives = false := by simp [RunMark.drives]
  cases h with
  | interrupted phase recovery =>
    obtain ⟨rest, -, call₁⟩ := split_quiet rfl (opening phase.plain) call
    exact absurd call₁ (not_split_plain rfl recovery.plain)
  | ended phase _ =>
    have whole := (List.append_nil _).trans call
    obtain ⟨rest, -, call₁⟩ := split_quiet rfl (opening phase.plain) whole
    simp at call₁
  | @called first last marks u result' _ phase _ leaves follows =>
    obtain ⟨rest, rfl, call₁⟩ := split_quiet rfl (opening phase.plain) call
    rw [callMarks, List.append_assoc] at call₁
    obtain ⟨rest, rfl, call₂⟩ := split_quiet rfl (marking marks) call₁
    cases rest with
    | nil =>
      obtain ⟨same, rfl⟩ := List.cons.inj call₂
      obtain ⟨rfl, rfl⟩ := RunMark.drove.inj same
      exact ⟨first, marks, by simp, phase, leaves, follows⟩
    | cons m rest =>
      obtain ⟨-, call₃⟩ := List.cons.inj call₂
      exact absurd call₃ (not_split_plain rfl follows.plain)

/-! ## Loops and runs -/

variable (p) in
/-- What follows a call of the driver in the loop: the rest of its pass, and the passes after that. -/
inductive LoopRest (s : ExecutionState) (result : Except AgentError Step) :
    List RunMark → Option (Except AgentError ExecutionState) → Prop
  | failed {number : UInt32} {journal : List RunMark} {e : AgentError} :
      p.FollowTrace number s result journal (.error e) → LoopRest s result journal (some (.error e))
  | passed {number : UInt32} {n : Nat} {journal journal' : List RunMark} {t : ExecutionState}
      {r : Option (Except AgentError ExecutionState)} : p.FollowTrace number s result journal (.ok t) →
      p.LoopTrace n t journal' r → LoopRest s result (journal ++ journal') r

theorem LoopTrace.of_call {r : Option (Except AgentError ExecutionState)} (h : p.LoopTrace rounds s journal r)
    (call : journal = before ++ .drove t result :: after) : p.LoopRest t result after r := by
  induction h generalizing before with
  | cutOff s => simp at call
  | stopped _ =>
    obtain ⟨before', -, call₁⟩ := split_cons rfl rfl call
    simp at call₁
  | failed _ pass =>
    obtain ⟨before', -, call₁⟩ := split_cons rfl rfl call
    obtain ⟨-, -, -, -, -, follows⟩ := pass.of_call call₁
    exact .failed follows
  | passed _ pass loop ih =>
    obtain ⟨before', -, call₁⟩ := split_cons rfl rfl call
    rcases split_append call₁ with ⟨last, call₂, rfl⟩ | ⟨last, -, call₂⟩
    · obtain ⟨-, -, -, -, -, follows⟩ := pass.of_call call₂
      exact .passed follows loop
    · exact ih call₂

/-- A call of the driver in the loop stands in a pass. -/
theorem LoopTrace.pass_of_call {r : Option (Except AgentError ExecutionState)} (h : p.LoopTrace rounds s journal r)
    (call : journal = before ++ .drove t result :: after) :
    ∃ front opening follow rest u r', p.PassTrace u (opening ++ .drove t result :: follow) r' ∧
      before = front ++ opening ∧ after = follow ++ rest := by
  induction h generalizing before with
  | cutOff s => simp at call
  | stopped _ =>
    obtain ⟨before', -, call₁⟩ := split_cons rfl rfl call
    simp at call₁
  | @failed _ s u _ _ _ pass =>
    obtain ⟨before', rfl, rfl⟩ := split_cons rfl rfl call
    exact ⟨[.entered .shouldContinue s], before', after, [], u, _, pass, rfl, by simp⟩
  | @passed _ s u _ first last _ _ pass _ ih =>
    obtain ⟨before', rfl, call₁⟩ := split_cons rfl rfl call
    rcases split_append call₁ with ⟨follow, rfl, rfl⟩ | ⟨before'', rfl, call₂⟩
    · exact ⟨[.entered .shouldContinue s], before', follow, last, u, _, pass, rfl, rfl⟩
    · obtain ⟨front, opening, follow, rest, v, r', pass', rfl, rfl⟩ := ih call₂
      exact ⟨.entered .shouldContinue s :: (first ++ front), opening, follow, rest, v, r', pass', by simp, rfl⟩

/-- A call of the driver in a run stands in its loop. -/
theorem RunTrace.of_call {r : Option (Except AgentError ExecutionState)} (h : p.RunTrace rounds s journal r)
    (call : journal = before ++ .drove t result :: after) :
    ∃ first middle last u r', p.BeginTrace s first (.ok u) ∧ p.LoopTrace rounds u middle r' ∧ p.CloseTrace r' last r ∧
      journal = first ++ (middle ++ last) ∧
      ∃ before' after', before = first ++ before' ∧ middle = before' ++ .drove t result :: after' ∧
        after = after' ++ last := by
  cases h with
  | aborted began => exact absurd call (not_split_plain rfl began.plain)
  | @looped first middle last u r' _ began loop close =>
    obtain ⟨before', rfl, call₁⟩ := split_plain rfl began.plain call
    rcases split_append call₁ with ⟨after', call₂, rfl⟩ | ⟨rest, -, call₂⟩
    · exact ⟨first, middle, last, u, r', began, loop, close, rfl, before', after', rfl, call₂, rfl⟩
    · exact absurd call₂ (not_split_plain rfl close.plain)

end Pipeline

end AgentLoop
