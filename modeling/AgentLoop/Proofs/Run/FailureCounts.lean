import Mathlib.Data.List.DropRight
import AgentLoop.Proofs.Run.Checks
import AgentLoop.Proofs.Run.FailureHistory
import AgentLoop.Proofs.Run.PhaseOrder
import AgentLoop.Proofs.Run.Retries

/-!
# What the counts of failures say

The counts of a run are updated step by step. Here is what they come to, as a function of the recorded steps:

- `Step.verdict`: the failure as which a step counts, if it counts as one;
- `ErrorPolicy.row`: the steps at the end of a history that all failed in one kind, which is the longest such row
  (`longestRow_row`); `ErrorPolicy.Refuses`: when a policy refuses to go on;
- `CountsFailures`: the counts and the status of a state are those of some steps. Another step keeps that up, whichever
  of its updates the engine makes (`CountsFailures.failedStep`, `CountsFailures.toolFailures`);
- `Tallies`: so does a part of a run, for the steps that it records (`PassTrace.tallies`, `PassedTo.tallies`);
- `failures_counted`: at every check of a run, the counts are those of the steps that were recorded so far.
-/

namespace AgentLoop

/-- The failure as which a step counts: that of a failed step, or that of the failed tools of another step. -/
def Step.verdict (step : Step) : Option StepFailure :=
  if step.isError then some step.cause
  else if step.failedToolCount = 0 then none
  else some ⟨.tool, toString step.failedToolCount ++ " tool execution(s) failed"⟩

theorem Step.verdict_of_isError {step : Step} (failed : step.isError = true) : step.verdict = some step.cause :=
  if_pos failed

/-- How many of some steps count as failures. -/
def failureCount (steps : List Step) : Nat := steps.countP fun step => step.verdict.isSome

theorem failureCount_concat (steps : List Step) (step : Step) :
    failureCount (steps ++ [step]) = failureCount steps + step.verdict.isSome.toNat := by
  rw [failureCount, List.countP_append, List.countP_singleton, ← failureCount]
  cases step.verdict <;> rfl

/-! ## Rows of failures -/

namespace ErrorPolicy

variable (policy : ErrorPolicy)

/-- The kind in which a step fails, as far as rows go: failed tools that the policy ignores end a row, as a step without
failures does. -/
def rowKind? (step : Step) : Option ErrorKind :=
  if step.isError = false ∧ policy.decision .tool = .ignore then none else step.verdict.map (·.kind)

/-- The kind in which the last of some steps fails. -/
def lastKind? (steps : List Step) : Option ErrorKind := steps.getLast?.bind policy.rowKind?

/-- The steps at the end of a history that fail in the kind of the last one. -/
def row (steps : List Step) : List Step :=
  match policy.lastKind? steps with
  | none => []
  | some kind => steps.rtakeWhile fun step => policy.rowKind? step = some kind

/-- All steps of a row fail in one kind. -/
def IsRow (row : List Step) : Prop := ∃ kind, ∀ step ∈ row, policy.rowKind? step = some kind

/-- The longest row at the end of a history. -/
structure LongestRow (steps row : List Step) : Prop where
  suffix : row <:+ steps
  isRow : policy.IsRow row
  longest {other : List Step} : other <:+ steps → policy.IsRow other → other.length ≤ row.length

/-- After some steps, a policy refuses to go on: it stops for the failure as which the last step counts, or the row that
the step ends is longer than its retries. A row is counted up to the largest count. -/
structure Refuses (steps : List Step) (failure : StepFailure) : Prop where
  last : steps.getLast?.bind Step.verdict = some failure
  decision : policy.decision failure.kind = .stop ∨
    policy.decision failure.kind = .retry ∧
      policy.maxRetries.toNat < min (policy.row steps).length (UInt32.size - 1)

variable {policy} {steps : List Step} {step : Step} {kind : ErrorKind} {failure : StepFailure}

theorem lastKind?_concat (steps : List Step) (step : Step) :
    policy.lastKind? (steps ++ [step]) = policy.rowKind? step := by
  rw [lastKind?, List.getLast?_concat]
  rfl

/-- A step that does not fail ends the row. -/
theorem row_concat_none (clean : policy.rowKind? step = none) : policy.row (steps ++ [step]) = [] := by
  rw [row, lastKind?_concat, clean]

/-- A step that fails continues the row of its kind, or begins one. -/
theorem row_concat_some (failed : policy.rowKind? step = some kind) :
    policy.row (steps ++ [step]) = (if policy.lastKind? steps = some kind then policy.row steps else []) ++ [step] := by
  rw [row, lastKind?_concat, failed]
  dsimp only
  rw [List.rtakeWhile_concat_pos _ _ _ (by simpa using failed)]
  congr 1
  split
  · rename_i again
    rw [row, again]
  · rename_i other
    refine List.rtakeWhile_eq_nil_iff.2 fun nonempty holds => other ?_
    rw [lastKind?, List.getLast?_eq_getLast_of_ne_nil nonempty]
    exact of_decide_eq_true holds

theorem length_row_concat_some (failed : policy.rowKind? step = some kind) :
    (policy.row (steps ++ [step])).length =
      if policy.lastKind? steps = some kind then (policy.row steps).length + 1 else 1 := by
  rw [row_concat_some failed, List.length_append]
  split <;> simp

/-- A row at the end of a history is of the kind of the last step. -/
theorem lastKind?_of_suffix {row : List Step} (suffix : row <:+ steps) (nonempty : row ≠ [])
    (alike : ∀ step ∈ row, policy.rowKind? step = some kind) : policy.lastKind? steps = some kind := by
  obtain ⟨front, rfl⟩ := suffix
  rw [lastKind?, List.getLast?_append_of_ne_nil _ nonempty, List.getLast?_eq_getLast_of_ne_nil nonempty]
  exact alike _ (List.getLast_mem nonempty)

theorem rowKind?_of_mem_row (kind_eq : policy.lastKind? steps = some kind) (mem : step ∈ policy.row steps) :
    policy.rowKind? step = some kind := by
  rw [row, kind_eq] at mem
  have holds := List.mem_rtakeWhile_imp (show step ∈ steps.rtakeWhile _ from mem)
  exact of_decide_eq_true holds

/-- No row at the end of a history is longer. -/
theorem longestRow_row (policy : ErrorPolicy) (steps : List Step) : policy.LongestRow steps (policy.row steps) := by
  induction steps using List.reverseRecOn with
  | nil => exact ⟨List.suffix_refl [], ⟨.unknown, by simp [row, lastKind?]⟩, fun suffix _ => by simp_all⟩
  | append_singleton steps step ih =>
    -- a row at the end of the longer history is empty, or its last step is the new one
    have ends {other : List Step} (suffix : other <:+ steps ++ [step]) (isRow : policy.IsRow other) :
        other = [] ∨ ∃ rest kind, other = rest ++ [step] ∧ rest <:+ steps ∧ policy.rowKind? step = some kind ∧
          ∀ step ∈ rest, policy.rowKind? step = some kind := by
      rcases List.suffix_concat_iff.1 suffix with rfl | ⟨rest, rfl, suffix'⟩
      · exact .inl rfl
      · obtain ⟨kind, alike⟩ := isRow
        exact .inr ⟨rest, kind, rfl, suffix', alike step (by simp), fun step hs => alike step (by simp [hs])⟩
    cases last : policy.rowKind? step with
    | none =>
      rw [row_concat_none last]
      refine ⟨List.nil_suffix, ⟨.unknown, by simp⟩, fun suffix isRow => ?_⟩
      rcases ends suffix isRow with rfl | ⟨_, _, -, -, some, -⟩
      · exact Nat.le_refl 0
      · rw [last] at some
        cases some
    | some kind =>
      refine ⟨?_, ⟨kind, ?_⟩, fun {other} suffix isRow => ?_⟩
      · rw [row_concat_some last]
        refine List.suffix_concat_iff.2 (.inr ⟨_, rfl, ?_⟩)
        split
        · exact ih.suffix
        · exact List.nil_suffix
      · rw [row_concat_some last]
        refine List.forall_mem_append.2 ⟨fun step hs => ?_, List.forall_mem_singleton.2 last⟩
        split at hs
        · rename_i again
          exact rowKind?_of_mem_row again hs
        · cases hs
      · rw [length_row_concat_some last]
        rcases ends suffix isRow with rfl | ⟨rest, kind', rfl, suffix', same, alike⟩
        · exact Nat.zero_le _
        · obtain rfl : kind = kind' := Option.some.inj (last.symm.trans same)
          rw [List.length_append, List.length_singleton]
          by_cases empty : rest = []
          · subst empty
            split <;> simp
          · rw [if_pos (lastKind?_of_suffix suffix' empty alike)]
            exact Nat.succ_le_succ (ih.longest suffix' ⟨kind, alike⟩)

theorem shouldContinue_eq_false_iff {n : UInt32} :
    policy.shouldContinue kind n = false ↔ policy.decision kind = .stop ∨
      policy.decision kind = .retry ∧ policy.maxRetries.toNat < n.toNat := by
  unfold shouldContinue
  cases policy.decision kind <;> simp [UInt32.lt_iff_toNat_lt]

end ErrorPolicy

/-! ## Counts -/

/-- The counts of a state: so many failures, so many of them in a row, and the kind of the row. -/
structure RunStats.Counts (stats : RunStats) (total row : Nat) (last : Option ErrorKind) : Prop where
  total : stats.totalFailures.toNat = min total (UInt32.size - 1)
  row : stats.consecutiveFailures.toNat = min row (UInt32.size - 1)
  last : stats.lastFailure = last

/-- The counts and the status of a state are those of some steps: as many failures as there are among them, the length
and the kind of the row at their end, and the state has failed just if the policy refuses to go on after them. -/
structure CountsFailures (policy : ErrorPolicy) (steps : List Step) (t : ExecutionState) : Prop where
  counts : t.stats.Counts (failureCount steps) (policy.row steps).length (policy.lastKind? steps)
  unfinished : t.status ≠ .completed
  failed : t.status = .failed ↔ ∃ failure, policy.Refuses steps failure

section Counts

variable {s t : ExecutionState} {total row : Nat} {last : Option ErrorKind}

theorem RunStats.Counts.recorded (h : s.stats.Counts total row last) (kind : ErrorKind) :
    (s.withFailureRecorded kind).stats.Counts (total + 1) (if last = some kind then row + 1 else 1) (some kind) where
  total := by
    simp only [ExecutionState.withFailureRecorded, toNat_cappedSucc, h.total]
    omega
  row := by
    simp only [ExecutionState.withFailureRecorded, h.last]
    split
    · rw [toNat_cappedSucc, h.row]
      omega
    · rfl
  last := rfl

theorem RunStats.Counts.reset (h : s.stats.Counts total row last) :
    s.withFailuresReset.stats.Counts total 0 none where
  total := h.total
  row := rfl
  last := rfl

end Counts

namespace CountsFailures

variable {policy : ErrorPolicy} {steps : List Step} {step : Step} {failure : StepFailure} {s t : ExecutionState}

theorem of_same (h : CountsFailures policy steps s) (same : s.SameCounts t) : CountsFailures policy steps t where
  counts := same.stats ▸ h.counts
  unfinished := same.status ▸ h.unfinished
  failed := same.status ▸ h.failed

/-- Nothing is counted at the start of a run. -/
theorem started (s : ExecutionState) (now : Instant) : CountsFailures policy [] (s.withRunStarted now) where
  counts := ⟨rfl, rfl, rfl⟩
  unfinished := nofun
  failed := by
    constructor
    · rintro ⟨⟩
    · rintro ⟨_, last, _⟩
      cases last

theorem stepStarted (h : CountsFailures policy steps s) : CountsFailures policy steps s.withStepStarted :=
  ⟨⟨h.counts.total, h.counts.row, h.counts.last⟩, h.unfinished, h.failed⟩

/-- A step that does not fail ends the row. -/
theorem concat_clean (h : CountsFailures policy steps s) (running : s.status = .running)
    (clean : step.verdict = none) : CountsFailures policy (steps ++ [step]) s.withFailuresReset := by
  have rowKind : policy.rowKind? step = none := by simp [ErrorPolicy.rowKind?, clean]
  refine ⟨?_, h.unfinished, ?_⟩
  · rw [failureCount_concat, ErrorPolicy.row_concat_none rowKind, ErrorPolicy.lastKind?_concat, rowKind, clean]
    exact h.counts.reset
  · constructor
    · intro failed
      have failed : s.status = .failed := failed
      rw [running] at failed
      cases failed
    · rintro ⟨_, last, _⟩
      rw [List.getLast?_concat] at last
      simp [clean] at last

/-- So does a step with failed tools that the policy ignores, which is counted all the same. -/
theorem concat_ignored (h : CountsFailures policy steps s) (running : s.status = .running)
    (fine : step.isError = false) (ignored : policy.decision .tool = .ignore) (verdict : step.verdict = some failure)
    (tools : failure.kind = .tool) :
    CountsFailures policy (steps ++ [step]) (s.withFailureRecorded .tool).withFailuresReset := by
  have rowKind : policy.rowKind? step = none := if_pos ⟨fine, ignored⟩
  refine ⟨?_, h.unfinished, ?_⟩
  · rw [failureCount_concat, ErrorPolicy.row_concat_none rowKind, ErrorPolicy.lastKind?_concat, rowKind, verdict]
    exact (h.counts.recorded .tool).reset
  · constructor
    · intro failed
      have failed : s.status = .failed := failed
      rw [running] at failed
      cases failed
    · rintro ⟨other, last, decision⟩
      rw [List.getLast?_concat] at last
      obtain rfl : failure = other := Option.some.inj (verdict.symm.trans last)
      rw [tools, ignored] at decision
      simp at decision

/-- Any other failure is counted in its row, and fails the run unless the policy lets it go on. -/
theorem concat_failure (h : CountsFailures policy steps s) (running : s.status = .running)
    (verdict : step.verdict = some failure) (rowKind : policy.rowKind? step = some failure.kind)
    (stats : t.stats = (s.withFailureRecorded failure.kind).stats)
    (status : t.status = if policy.shouldContinue failure.kind t.stats.consecutiveFailures then s.status else .failed) :
    CountsFailures policy (steps ++ [step]) t := by
  have counts : t.stats.Counts (failureCount (steps ++ [step])) (policy.row (steps ++ [step])).length
      (policy.lastKind? (steps ++ [step])) := by
    rw [failureCount_concat, ErrorPolicy.length_row_concat_some rowKind, ErrorPolicy.lastKind?_concat, rowKind, verdict,
      stats]
    exact h.counts.recorded failure.kind
  have refuses : policy.shouldContinue failure.kind t.stats.consecutiveFailures = false ↔
      ∃ failure, policy.Refuses (steps ++ [step]) failure := by
    rw [ErrorPolicy.shouldContinue_eq_false_iff, counts.row]
    have last : (steps ++ [step]).getLast?.bind Step.verdict = some failure := by
      rw [List.getLast?_concat]
      exact verdict
    constructor
    · exact fun decision => ⟨failure, last, decision⟩
    · rintro ⟨other, last', decision⟩
      obtain rfl : failure = other := Option.some.inj (last.symm.trans last')
      exact decision
  refine ⟨counts, ?_, ?_⟩
  · rw [status, running]
    split <;> simp
  · rw [← refuses, status, running]
    cases policy.shouldContinue failure.kind t.stats.consecutiveFailures <;> simp

/-- A failed step is counted with its cause. -/
theorem failedStep (h : CountsFailures policy steps s) (running : s.status = .running) (failed : step.isError = true) :
    CountsFailures policy (steps ++ [step]) (s.withFailedStep policy step step.cause) := by
  have verdict := Step.verdict_of_isError failed
  have rowKind : policy.rowKind? step = some step.cause.kind := by simp [ErrorPolicy.rowKind?, failed, verdict]
  have stats : (s.withFailedStep policy step step.cause).stats = (s.withFailureRecorded step.cause.kind).stats := by
    unfold ExecutionState.withFailedStep
    dsimp only
    split <;> rfl
  refine h.concat_failure running verdict rowKind stats ?_
  rw [stats]
  exact s.status_withFailedStep policy step step.cause

/-- Another step is counted with its failed tools. -/
theorem toolFailures (h : CountsFailures policy steps s) (running : s.status = .running)
    (fine : step.isError = false) :
    CountsFailures policy (steps ++ [step]) (s.withToolFailures policy step.failedToolCount) := by
  unfold ExecutionState.withToolFailures
  by_cases clean : step.failedToolCount = 0
  · rw [if_pos clean]
    exact h.concat_clean running (by simp [Step.verdict, fine, clean])
  · rw [if_neg clean]
    have verdict : step.verdict = some ⟨.tool, toString step.failedToolCount ++ " tool execution(s) failed"⟩ := by
      simp [Step.verdict, fine, clean]
    dsimp only
    by_cases ignored : policy.decision .tool = .ignore
    · rw [if_pos ignored]
      exact h.concat_ignored running fine ignored verdict rfl
    · rw [if_neg ignored]
      have rowKind : policy.rowKind? step = some .tool := by simp [ErrorPolicy.rowKind?, ignored, verdict]
      split
      · rename_i goesOn
        exact h.concat_failure running verdict rowKind rfl (by rw [goesOn]; rfl)
      · rename_i stops
        exact h.concat_failure running verdict rowKind rfl (if_neg stops).symm

end CountsFailures

/-- As far as status and bookkeeping go, a mark leaves the state alone. -/
theorem RunMark.leavesCounts_iff (m : RunMark) : m.LeavesCounts ↔ m.Leaves fun s => (s.status, s.stats) := by
  have same (s t : ExecutionState) : s.SameCounts t ↔ (t.status, t.stats) = (s.status, s.stats) := by
    rw [Prod.mk.injEq]
    exact ⟨fun h => ⟨h.status, h.stats⟩, fun h => ⟨h.1, h.2⟩⟩
  cases m with
  | handled phase s r =>
    cases r with
    | ok t => exact same s t
    | error e => exact Iff.rfl
  | dispatched before after => exact same before.state after.state
  | _ => exact Iff.rfl

namespace Pipeline

variable {σ : Type} {p : Pipeline σ} {phase : Phase} {s t u : ExecutionState} {journal journal' : List RunMark}

/-! ## Parts of a run -/

theorem PhaseTrace.sameCounts (h : p.PhaseTrace phase s journal (.ok t)) (left : ∀ m ∈ journal, m.LeavesCounts) :
    s.SameCounts t := by
  have kept : (t.status, t.stats) = (s.status, s.stats) :=
    h.leaves (fun s => by obtain ⟨_, h⟩ := s.settled_eq; rw [h]) fun m hm => m.leavesCounts_iff.1 (left m hm)
  exact ⟨(Prod.mk.inj kept).1, (Prod.mk.inj kept).2⟩

theorem FailureTrace.sameCounts {step : Step} (h : p.FailureTrace s step journal (.ok t))
    (left : ∀ m ∈ journal, m.LeavesCounts) : (s.withFailedStep p.errorPolicy step step.cause).SameCounts t := by
  have kept : (t.status, t.stats) = _ :=
    h.leaves (fun s => by obtain ⟨_, h⟩ := s.settled_eq; rw [h]) fun m hm => m.leavesCounts_iff.1 (left m hm)
  exact ⟨(Prod.mk.inj kept).1, (Prod.mk.inj kept).2⟩

/-- A part of a run records some steps, one for each call of the driver, and counts their failures. -/
structure Tallies (p : Pipeline σ) (s : ExecutionState) (journal : List RunMark) (t : ExecutionState)
    (steps : List Step) : Prop where
  stand : List.Forall₂ StandsFor (journal.filter RunMark.drives) steps
  counts {earlier : List Step} :
    CountsFailures p.errorPolicy earlier s → CountsFailures p.errorPolicy (earlier ++ steps) t
  steps : (∀ m ∈ journal, m.LeavesHistory) → t.steps = s.steps ++ steps

theorem Tallies.refl (s : ExecutionState) : p.Tallies s [] s [] := by
  refine ⟨.nil, fun counts => ?_, fun _ => (List.append_nil _).symm⟩
  rwa [List.append_nil]

theorem Tallies.trans {steps steps' : List Step} (h : p.Tallies s journal t steps)
    (h' : p.Tallies t journal' u steps') : p.Tallies s (journal ++ journal') u (steps ++ steps') where
  stand := by
    rw [List.filter_append]
    exact List.rel_append h.stand h'.stand
  counts counts := by
    rw [← List.append_assoc]
    exact h'.counts (h.counts counts)
  steps left := by
    obtain ⟨left, left'⟩ := List.forall_mem_append.1 left
    rw [h'.steps left', h.steps left, List.append_assoc]

theorem filter_drives_plain (plain : ∀ m ∈ journal, m.isPlain = true) : journal.filter RunMark.drives = [] :=
  List.filter_eq_nil_iff.2 fun m hm => by simp [RunMark.drives_of_isPlain (plain m hm)]

/-- Where no handler fails, no phase does. -/
theorem PhaseTrace.not_failed {i : Interruption} (h : p.PhaseTrace phase s journal (.error i))
    (unfailing : ∀ m ∈ journal, m.fails = false) : False := by
  have fails := unfailing _ h.failed_mem
  cases fails

/-- What follows a call of the driver records the step as which its result counts. -/
theorem FollowTrace.tallies {number : UInt32} {result : Except AgentError Step} (marks : List StepMark)
    (h : p.FollowTrace number s result journal (.ok t)) (running : s.status = .running)
    (unfailing : ∀ m ∈ journal, m.fails = false) (left : ∀ m ∈ journal, m.LeavesCounts) :
    ∃ step, p.Tallies s (callMarks marks s result ++ journal) t [step] := by
  have called {step : Step} (counts : CountsAs s result (.ok step)) :
      List.Forall₂ StandsFor ((callMarks marks s result ++ journal).filter RunMark.drives) [step] := by
    have silent : (marks.map RunMark.step).filter RunMark.drives = [] := by simp [RunMark.drives]
    rw [callMarks, List.filter_append, List.filter_append, silent, filter_drives_plain h.plain]
    exact .cons (.call counts) .nil
  cases h with
  | @failed _ step _ counts isError failure =>
    refine ⟨step, called counts, fun earlier => ?_, fun left => ?_⟩
    · exact (earlier.failedStep running isError).of_same (failure.sameCounts ‹_›)
    · exact failure.steps (List.forall_mem_append.1 left).2
  | @recorded _ step _ counts fine record =>
    cases record with
    | interrupted executed _ => exact (executed.not_failed (List.forall_mem_append.1 unfailing).1).elim
    | interruptedLate _ after _ =>
      simp only [List.forall_mem_append] at unfailing
      exact (after.not_failed unfailing.2.1).elim
    | @completed _ _ u _ executed after =>
      simp only [List.forall_mem_append] at left
      obtain ⟨left, left', -⟩ := left
      have same : s.SameCounts u := (s.sameCounts_outcome step p.keepToolTraces).trans (executed.sameCounts left)
      refine ⟨step, called counts, fun earlier => ?_, fun left => ?_⟩
      · exact ((earlier.of_same same).toolFailures (same.status.trans running) fine).of_same (after.sameCounts left')
      · simp only [List.forall_mem_append] at left
        obtain ⟨-, left, left', -⟩ := left
        have recorded : u.steps = _ := executed.steps left
        have kept : t.steps = _ := after.steps left'
        rw [kept, (u.sameConversation_toolFailures p.errorPolicy step.failedToolCount).steps, recorded,
          s.steps_withOutcome]

/-- Where no handler fails, every pass from a running state calls the driver and records the step. -/
theorem PassTrace.tallies (h : p.PassTrace s journal (.ok t)) (running : s.status = .running)
    (unfailing : ∀ m ∈ journal, m.fails = false) (left : ∀ m ∈ journal, m.LeavesCounts) :
    ∃ step, p.Tallies s journal t [step] := by
  cases h with
  | interrupted before _ =>
    simp only [List.forall_mem_cons, List.forall_mem_append] at unfailing
    exact (before.not_failed unfailing.2.1).elim
  | ended before terminal =>
    have same := before.sameCounts (List.forall_mem_cons.1 left).2
    have running : s.withStepStarted.status = .running := running
    rw [ExecutionState.isTerminal, same.status, running] at terminal
    cases terminal
  | @called first _ marks u _ _ before _ _ follows =>
    simp only [List.forall_mem_cons, List.forall_mem_append] at unfailing left
    obtain ⟨-, -, -, unfailing⟩ := unfailing
    obtain ⟨-, left, -, left'⟩ := left
    have same := before.sameCounts left
    have begun : p.Tallies s (passMark s :: first) u [] := by
      refine ⟨?_, fun counts => ?_, fun left => ?_⟩
      · rw [List.filter_cons_of_neg (by simp [passMark, RunMark.drives]), filter_drives_plain before.plain]
        exact .nil
      · rw [List.append_nil]
        exact counts.stepStarted.of_same same
      · rw [List.append_nil]
        exact before.steps (List.forall_mem_cons.1 left).2
    obtain ⟨step, rest⟩ := follows.tallies marks (same.status.trans running) unfailing left'
    exact ⟨step, by simpa using begun.trans rest⟩

/-- So does the loop, from one check to another one. -/
theorem PassedTo.tallies (h : p.PassedTo s journal t) (unfailing : ∀ m ∈ journal, m.fails = false)
    (left : ∀ m ∈ journal, m.LeavesCounts) : ∃ steps, p.Tallies s journal t steps := by
  induction h with
  | here s => exact ⟨[], .refl s⟩
  | @passed s _ _ _ _ check pass _ ih =>
    simp only [List.forall_mem_cons, List.forall_mem_append] at unfailing left
    obtain ⟨-, unfailing, unfailing'⟩ := unfailing
    obtain ⟨-, left, left'⟩ := left
    obtain ⟨-, running, -⟩ := check.granted_of_proceed
    have checked : p.Tallies s [.entered .shouldContinue s] s [] :=
      ⟨.nil, fun counts => by rwa [List.append_nil], fun _ => (List.append_nil _).symm⟩
    obtain ⟨step, first⟩ := pass.tallies (ExecutionState.status_of_not_terminal running) unfailing left
    obtain ⟨steps, rest⟩ := ih unfailing' left'
    exact ⟨step :: steps, checked.trans (first.trans rest)⟩

/-- The beginning of a run records nothing, where no handler fails. -/
theorem BeginTrace.tallies (h : p.BeginTrace s journal (.ok t)) (unfailing : ∀ m ∈ journal, m.fails = false)
    (left : ∀ m ∈ journal, m.LeavesCounts) :
    ∃ now, p.Tallies (s.withRunStarted now) journal t [] := by
  cases h with
  | interrupted began _ => exact (began.not_failed (List.forall_mem_append.1 unfailing).1).elim
  | @begun now _ _ began =>
    refine ⟨now, ?_, fun counts => ?_, fun left => ?_⟩
    · rw [List.filter_append, filter_drives_plain began.plain]
      exact .nil
    · rw [List.append_nil]
      exact counts.of_same (began.sameCounts (List.forall_mem_append.1 left).1)
    · rw [List.append_nil]
      exact began.steps (List.forall_mem_append.1 left).1

variable (p)

/-- As long as no handler fails and status and bookkeeping are left alone, at every check of a run one step has been
recorded for each call of the driver, and the counts are those of these steps: as many failures as there are among them,
the length and the kind of the longest row at their end, and the run has failed just if the policy refuses to go on
after the last step. -/
theorem failures_counted (token : Token) (rounds : Nat) (s t : ExecutionState) (frame : Frame) (w : World σ)
    {before after : List RunMark}
    (check : ((p.run token rounds s).exec frame w).journal = before ++ .entered .shouldContinue t :: after)
    (unfailing : ∀ m ∈ before, m.fails = false) (left : ∀ m ∈ before, m.LeavesCounts) :
    ∃ recorded, List.Forall₂ StandsFor (before.filter RunMark.drives) recorded ∧
      ((∀ m ∈ before, m.LeavesHistory) → t.steps = s.steps ++ recorded) ∧
      CountsFailures p.errorPolicy recorded t ∧ p.errorPolicy.LongestRow recorded (p.errorPolicy.row recorded) := by
  obtain ⟨first, before, u, rfl, began, passed⟩ := (p.runTrace_exec token rounds s frame w).of_check check
  obtain ⟨unfailing, unfailing'⟩ := List.forall_mem_append.1 unfailing
  obtain ⟨left, left'⟩ := List.forall_mem_append.1 left
  obtain ⟨now, start⟩ := began.tallies unfailing left
  obtain ⟨recorded, rest⟩ := passed.tallies unfailing' left'
  have whole := start.trans rest
  exact ⟨recorded, whole.stand, whole.steps, whole.counts (.started s now), p.errorPolicy.longestRow_row recorded⟩

/-- A pipeline whose driver fails, then reports a failed tool, and then fails until its retries are used up. -/
def faltering : Pipeline Nat where
  driver :=
    { name := "falters"
      useTools := fun s _ _ => do
        let seen ← Program.perform (Act.modifyGet fun n => (n, n + 1))
        let now ← Program.readClock
        let broken : ToolExecution := .failure ⟨"1", "search", .null⟩ "broken" now now
        if seen = 1 then return .ok (.toolExecution s.inferenceMessages [] [broken] none now now)
        return .error (.validation "rejected") }
  tools := .empty
  schemas := .lenient
  handlers := [(.beforeStep, ⟨"remind", fun _ s => pure (.ok (s.withMessage (.user "go on")))⟩)]
  errorPolicy := { maxRetries := 1 }

/-- What comes of its run. -/
def faltered : Outcome Nat RunMark (Option (Except AgentError ExecutionState)) :=
  (faltering.run (.run 0) 6 (.ofUser "question")).exec ⟨fun _ => ⟨0, 0⟩, fun _ => 0, {}⟩ { own := 0 }

/-- Of its four failures, the last two are in a row, which is one more than is retried. -/
theorem failures_counted_faltering :
    ∃ before t after, faltered.journal = before ++ .entered .shouldContinue t :: after ∧
      (∀ m ∈ before, m.fails = false) ∧ (∀ m ∈ before, m.LeavesCounts) ∧
      (t.status = .failed ∧ t.stats.totalFailures = 4 ∧ t.stats.consecutiveFailures = 2) ∧
      ∃ recorded, recorded.length = 4 ∧ CountsFailures faltering.errorPolicy recorded t := by
  have check : faltered.journal =
      faltered.journal.take 31 ++ .entered .shouldContinue _ :: faltered.journal.drop 32 := rfl
  have unfailing : ∀ m ∈ faltered.journal.take 31, m.fails = false := by decide +kernel
  have left : ∀ m ∈ faltered.journal.take 31, m.LeavesCounts := by
    simp only [RunMark.leavesCounts_iff]
    decide +kernel
  have calls : ((faltered.journal.take 31).filter RunMark.drives).length = 4 := by decide +kernel
  obtain ⟨recorded, stand, -, counts, -⟩ := faltering.failures_counted (.run 0) 6 _ _ _ _ check unfailing left
  refine ⟨_, _, _, check, unfailing, left, ?_, recorded, stand.length_eq.symm.trans calls, counts⟩
  decide +kernel

end Pipeline

end AgentLoop
