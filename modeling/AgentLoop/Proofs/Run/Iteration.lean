import AgentLoop.Agent.Session
import AgentLoop.Proofs.Run.StepCount

/-!
# A run and its iteration agree

- `Pipeline.Rounds`: the rounds of a loop: the states that its steps leave behind and what comes of it. Both the loop
  (`Rounds.exec_loop`) and the pulls of an iteration (`Session.pulls_of_rounds`) follow them;
- `Session.Course`: the same for a whole run of an agent, which has a course for every number of rounds
  (`Session.exists_course`);
- `Session.iterate_agrees_with_run`: the items of an iteration are the states of the course and then what the run
  returns, and the journals are the same.
-/

namespace AgentLoop

namespace Pipeline

open Program (done exec_bind)

variable {σ : Type} (p : Pipeline σ)

/-! ## Rounds -/

/-- The rounds of a loop from a state and a world: the states that its steps leave behind and what comes of it, which
is nothing if the loop is cut off before; the world and the journal afterwards. -/
inductive Rounds (token : Token) (frame : Frame) : (rounds : Nat) → ExecutionState → World σ →
    List ExecutionState → Option (Except AgentError ExecutionState) → World σ → List RunMark → Prop
  | cutOff (s : ExecutionState) (w : World σ) : Rounds token frame 0 s w [] none w []
  | stopped {n : Nat} {s t : ExecutionState} {w w₁ w₂ : World σ} {j₁ j₂ : List RunMark}
      {r : Except AgentError ExecutionState} : (p.continuation token s).exec frame w = ⟨.stop t, w₁, j₁⟩ →
      (p.afterExecution t).exec frame w₁ = ⟨r, w₂, j₂⟩ → Rounds token frame (n + 1) s w [] (some r) w₂ (j₁ ++ j₂)
  | failed {n : Nat} {s t : ExecutionState} {w w₁ w₂ : World σ} {j₁ j₂ : List RunMark} {e : AgentError} :
      (p.continuation token s).exec frame w = ⟨.proceed t, w₁, j₁⟩ →
      (p.runStep t).exec frame w₁ = ⟨.error e, w₂, j₂⟩ →
      Rounds token frame (n + 1) s w [] (some (.error e)) w₂ (j₁ ++ j₂)
  | stepped {n : Nat} {s t u : ExecutionState} {w w₁ w₂ w₃ : World σ} {j₁ j₂ j₃ : List RunMark}
      {states : List ExecutionState} {r : Option (Except AgentError ExecutionState)} :
      (p.continuation token s).exec frame w = ⟨.proceed t, w₁, j₁⟩ →
      (p.runStep t).exec frame w₁ = ⟨.ok u, w₂, j₂⟩ → Rounds token frame n u w₂ states r w₃ j₃ →
      Rounds token frame (n + 1) s w (u :: states) r w₃ (j₁ ++ (j₂ ++ j₃))

/-- A loop has its rounds, however many are asked for. -/
theorem exists_rounds (token : Token) (frame : Frame) (n : Nat) (s : ExecutionState) (w : World σ) :
    ∃ states r w' j, p.Rounds token frame n s w states r w' j := by
  induction n generalizing s w with
  | zero => exact ⟨_, _, _, _, .cutOff s w⟩
  | succ n ih =>
    rcases hc : (p.continuation token s).exec frame w with ⟨c, w₁, j₁⟩
    cases c with
    | stop t => exact ⟨_, _, _, _, .stopped hc rfl⟩
    | proceed t =>
      rcases hr : (p.runStep t).exec frame w₁ with ⟨r, w₂, j₂⟩
      cases r with
      | error e => exact ⟨_, _, _, _, .failed hc hr⟩
      | ok u =>
        obtain ⟨states, r, w₃, j₃, h⟩ := ih u w₂
        exact ⟨_, _, _, _, .stepped hc hr h⟩

/-- What a run does when its loop is over. -/
def afterLoop : Option (Except AgentError ExecutionState) →
    Program σ RunMark (Option (Except AgentError ExecutionState))
  | none => return none
  | some (.error e) => return some (.error e)
  | some (.ok s) => return some (← p.afterExecution s)

theorem run_eq (token : Token) (n : Nat) (s : ExecutionState) :
    p.run token n s = (p.beforeExecution s).bind fun
      | .error e => done (some (.error e))
      | .ok s => (p.loop token n s).bind p.afterLoop := rfl

theorem loop_bind_afterLoop (token : Token) (n : Nat) (s : ExecutionState) :
    (p.loop token (n + 1) s).bind p.afterLoop = (p.continuation token s).bind fun
      | .stop t => (p.afterExecution t).bind fun r => done (some r)
      | .proceed t => (p.runStep t).bind fun
        | .error e => done (some (.error e))
        | .ok u => (p.loop token n u).bind p.afterLoop := by
  simp only [loop, Program.bind_eq, Program.bind_assoc]
  congr 1
  funext c
  cases c with
  | stop t => rfl
  | proceed t =>
    simp only [Program.bind_assoc]
    congr 1
    funext r
    cases r <;> rfl

variable {p} {token : Token} {frame : Frame} {n : Nat} {s t : ExecutionState} {w w₁ w₂ : World σ}
  {states : List ExecutionState} {r : Option (Except AgentError ExecutionState)} {j j₁ j₂ : List RunMark}

/-- A loop and what follows it come to what its rounds come to. -/
theorem Rounds.exec_loop (h : p.Rounds token frame n s w states r w₂ j) :
    ((p.loop token n s).bind p.afterLoop).exec frame w = ⟨r, w₂, j⟩ := by
  induction h with
  | cutOff s w => rfl
  | stopped hc hr => simp only [loop_bind_afterLoop, exec_bind, hc, hr, Program.exec_done, List.append_nil]
  | failed hc hr => simp only [loop_bind_afterLoop, exec_bind, hc, hr, Program.exec_done, List.append_nil]
  | stepped hc hr _ ih => simp only [loop_bind_afterLoop, exec_bind _ _ (p.continuation _ _),
      exec_bind _ _ (p.runStep _), hc, hr, ih]

/-- The last pull gives what the run returns. -/
theorem exec_pullStep_stop {r : Except AgentError ExecutionState}
    (hc : (p.continuation token s).exec frame w = ⟨.stop t, w₁, j₁⟩)
    (hr : (p.afterExecution t).exec frame w₁ = ⟨r, w₂, j₂⟩) :
    (p.pullStep token s).exec frame w = ⟨(some r, .ended), w₂, j₁ ++ j₂⟩ := by
  simp [pullStep, exec_bind, hc, hr]

/-- A pull whose step fails is the last one. -/
theorem exec_pullStep_error {e : AgentError}
    (hc : (p.continuation token s).exec frame w = ⟨.proceed t, w₁, j₁⟩)
    (hr : (p.runStep t).exec frame w₁ = ⟨.error e, w₂, j₂⟩) :
    (p.pullStep token s).exec frame w = ⟨(some (.error e), .ended), w₂, j₁ ++ j₂⟩ := by
  simp [pullStep, exec_bind, hc, hr]

/-- Any other pull gives the state after a step. -/
theorem exec_pullStep_ok {u : ExecutionState}
    (hc : (p.continuation token s).exec frame w = ⟨.proceed t, w₁, j₁⟩)
    (hr : (p.runStep t).exec frame w₁ = ⟨.ok u, w₂, j₂⟩) :
    (p.pullStep token s).exec frame w = ⟨(some (.ok u), .between u), w₂, j₁ ++ j₂⟩ := by
  simp [pullStep, exec_bind, hc, hr]

end Pipeline

/-! ## Pulls -/

/-- What several pulls leave behind. -/
structure Pulled (σ : Type) where
  /-- The items that were pulled, without the nothing after the last one. -/
  items : List (Except AgentError ExecutionState)
  iteration : Iteration
  session : Session σ
  journal : List RunMark

namespace Session

open Program (exec_bind)

variable {σ : Type} (p : Pipeline σ) (frame : Frame)

/-- Pulls so many times in a row. -/
def pulls : (k : Nat) → Iteration → Session σ → Pulled σ
  | 0, it, session => ⟨[], it, session, []⟩
  | k + 1, it, session =>
    let (item, it, session, journal) := session.pull p frame it
    let rest := pulls k it session
    { rest with items := item.toList ++ rest.items, journal := journal ++ rest.journal }

/-- A pull, given what its program comes to. -/
theorem pull_eq {stage stage' : Stage} {token : Token} {slot : Slot} {w w' : World σ} {j : List RunMark}
    {item : Option (Except AgentError ExecutionState)}
    (h : (p.pull token stage).exec { frame with slot } w = ⟨(item, stage'), w', j⟩) :
    pull p frame ⟨stage, token⟩ ⟨slot, w⟩ =
      (item, ⟨stage', token⟩, if stage.holds && !stage'.holds then released ⟨slot, w'⟩ else ⟨slot, w'⟩, j) := by
  simp only [pull, h]

/-- Nothing comes after the end. -/
theorem pulls_ended (k : Nat) (token : Token) (session : Session σ) :
    session.pulls p frame k ⟨.ended, token⟩ = ⟨[], ⟨.ended, token⟩, session, []⟩ := by
  induction k with
  | zero => rfl
  | succ k ih =>
    have last : session.pull p frame ⟨.ended, token⟩ = (none, ⟨.ended, token⟩, session, []) := pull_eq p frame rfl
    rw [pulls, last]
    exact congrArg (fun rest : Pulled σ => ({ rest with journal := [] ++ rest.journal } : Pulled σ)) ih

/-- More pulls after some pulls. -/
theorem pulls_add (k more : Nat) (it : Iteration) (session : Session σ) :
    session.pulls p frame (k + more) it =
      let first := session.pulls p frame k it
      let rest := first.session.pulls p frame more first.iteration
      { rest with items := first.items ++ rest.items, journal := first.journal ++ rest.journal } := by
  induction k generalizing it session with
  | zero => simp [pulls]
  | succ k ih => rw [Nat.succ_add, pulls, pulls]; simp only [ih, List.append_assoc]

/-- More pulls after the end change nothing. -/
theorem pulls_add_of_ended {k : Nat} {it : Iteration} {session : Session σ}
    (h : (session.pulls p frame k it).iteration.stage = .ended) (more : Nat) :
    session.pulls p frame (k + more) it = session.pulls p frame k it := by
  rw [pulls_add]
  rcases hp : session.pulls p frame k it with ⟨items, ⟨stage, token⟩, session', journal⟩
  obtain rfl : stage = .ended := by rw [hp] at h; exact h
  simp [pulls_ended]

variable {p frame} {token : Token} {slot : Slot} {n : Nat} {s : ExecutionState} {w w' : World σ}
  {states : List ExecutionState} {r : Option (Except AgentError ExecutionState)} {j : List RunMark}

/-- The pulls of an iteration give the states of its rounds, and then what they come to. -/
theorem pulls_of_rounds (h : p.Rounds token { frame with slot } n s w states r w' j) :
    pulls p frame n ⟨.between s, token⟩ ⟨slot, w⟩ =
      ⟨states.map .ok ++ r.toList, ⟨if r.isSome then .ended else .between (states.getLastD s), token⟩,
        if r.isSome then released ⟨slot, w'⟩ else ⟨slot, w'⟩, j⟩ := by
  induction h with
  | cutOff s w => rfl
  | stopped hc hr =>
    rw [pulls, pull_eq p frame (Pipeline.exec_pullStep_stop hc hr)]
    simp [pulls_ended, Stage.holds]
  | failed hc hr =>
    rw [pulls, pull_eq p frame (Pipeline.exec_pullStep_error hc hr)]
    simp [pulls_ended, Stage.holds]
  | stepped hc hr _ ih =>
    rw [pulls, pull_eq p frame (Pipeline.exec_pullStep_ok hc hr)]
    simp [Stage.holds, ih, List.getLast?_cons]

variable (p frame)

/-- A whole run of an agent that is cut off after so many rounds: the states after each of its steps, and what it
returns, which is nothing if it is cut off. -/
inductive Course (rounds : Nat) (s : ExecutionState) (session : Session σ) :
    List ExecutionState → Option (Except AgentError ExecutionState) → Prop
  | refused : session.slot.acquire = none → Course rounds s session [] (some (.error .reentrantRun))
  | failed {slot : Slot} {e : AgentError} {w : World σ} {j : List RunMark} : session.slot.acquire = some slot →
      (p.beforeExecution s).exec { frame with slot } session.world = ⟨.error e, w, j⟩ →
      Course rounds s session [] (some (.error e))
  | ran {slot : Slot} {t : ExecutionState} {w w' : World σ} {j j' : List RunMark} {states : List ExecutionState}
      {r : Option (Except AgentError ExecutionState)} : session.slot.acquire = some slot →
      (p.beforeExecution s).exec { frame with slot } session.world = ⟨.ok t, w, j⟩ →
      p.Rounds slot.token { frame with slot } rounds t w states r w' j' → Course rounds s session states r

variable {p frame}

/-- The first pull goes on to the first step, unless the beginning of the run fails. -/
theorem pulls_fresh {t : ExecutionState}
    (h : (p.beforeExecution s).exec { frame with slot } w = ⟨.ok t, w', j⟩) :
    pulls p frame (n + 1) ⟨.fresh s, token⟩ ⟨slot, w⟩ =
      { pulls p frame (n + 1) ⟨.between t, token⟩ ⟨slot, w'⟩ with
        journal := j ++ (pulls p frame (n + 1) ⟨.between t, token⟩ ⟨slot, w'⟩).journal } := by
  rcases hp : (p.pullStep token t).exec { frame with slot } w' with ⟨⟨item, stage⟩, w₂, j₂⟩
  have first : (p.pull token (.fresh s)).exec { frame with slot } w = ⟨(item, stage), w₂, j ++ j₂⟩ := by
    simp [Pipeline.pull, exec_bind, h, hp]
  have second : (p.pull token (.between t)).exec { frame with slot } w' = ⟨(item, stage), w₂, j₂⟩ := hp
  rw [pulls, pull_eq p frame first, pulls, pull_eq p frame second]
  simp only [List.append_assoc]
  rfl

theorem pulls_fresh_error {e : AgentError}
    (h : (p.beforeExecution s).exec { frame with slot } w = ⟨.error e, w', j⟩) :
    pulls p frame (n + 1) ⟨.fresh s, token⟩ ⟨slot, w⟩ =
      ⟨[.error e], ⟨.ended, token⟩, released ⟨slot, w'⟩, j⟩ := by
  have first : (p.pull token (.fresh s)).exec { frame with slot } w = ⟨(some (.error e), .ended), w', j⟩ := by
    simp [Pipeline.pull, exec_bind, h]
  rw [pulls, pull_eq p frame first]
  simp [pulls_ended, Stage.holds]

theorem pulls_refused {session : Session σ} :
    session.pulls p frame (n + 1) ⟨.refused, token⟩ =
      ⟨[.error .reentrantRun], ⟨.ended, token⟩, session, []⟩ := by
  have first : session.pull p frame ⟨.refused, token⟩ =
      (some (.error .reentrantRun), ⟨.ended, token⟩, session, []) := pull_eq p frame rfl
  rw [pulls, first]
  simp [pulls_ended]

/-- An iteration from a state, pulled so many times. -/
def iteratePulled (p : Pipeline σ) (frame : Frame) (s : ExecutionState) (k : Nat) (session : Session σ) : Pulled σ :=
  (session.iterate s).2.pulls p frame k (session.iterate s).1

/-- A run has a course, however many rounds it is given. -/
theorem exists_course (p : Pipeline σ) (frame : Frame) (rounds : Nat) (s : ExecutionState) (session : Session σ) :
    ∃ states result, Course p frame rounds s session states result := by
  cases hs : session.slot.acquire with
  | none => exact ⟨_, _, .refused hs⟩
  | some slot =>
    rcases hb : (p.beforeExecution s).exec { frame with slot } session.world with ⟨r, w, j⟩
    cases r with
    | error e => exact ⟨_, _, .failed hs hb⟩
    | ok t =>
      obtain ⟨states, r, w', j', h⟩ := p.exists_rounds slot.token { frame with slot } rounds t w
      exact ⟨_, _, .ran hs hb h⟩

variable {session : Session σ}

/-- What a course says of a run and of the pulls of an iteration. -/
theorem Course.agree (h : Course p frame (n + 1) s session states r) :
    (session.iteratePulled p frame s (n + 1)).items = states.map .ok ++ r.toList ∧
      session.run p frame (n + 1) s =
        (r, if r.isSome then (session.iteratePulled p frame s (n + 1)).session
          else (session.iteratePulled p frame s (n + 1)).session.released,
          (session.iteratePulled p frame s (n + 1)).journal) ∧
      (r.isSome → (session.iteratePulled p frame s (n + 1)).iteration.stage = .ended) := by
  cases h with
  | refused hs => simp [iteratePulled, iterate, run, hs, pulls_refused]
  | failed hs hb => simp [iteratePulled, iterate, run, hs, pulls_fresh_error hb, Pipeline.run_eq, exec_bind, hb]
  | ran hs hb h =>
    cases r <;>
      simp [iteratePulled, iterate, run, hs, pulls_fresh hb, Pipeline.run_eq, exec_bind, hb, pulls_of_rounds h,
        h.exec_loop]

/-- At most one step begins in each pull. -/
theorem stepsBegun_pulls (k : Nat) (it : Iteration) (session : Session σ) :
    stepsBegun (session.pulls p frame k it).journal ≤ k := by
  induction k generalizing it session with
  | zero => exact Nat.le_refl 0
  | succ k ih =>
    have first := (p.begins_pull it.token it.stage).exec { frame with slot := session.slot } session.world
    have rest := ih (session.pull p frame it).2.1 (session.pull p frame it).2.2.1
    rw [pulls, stepsBegun_append, Nat.add_comm k]
    exact Nat.add_le_add first rest

/-- The first pulls of an iteration give the states after the steps of the run, in order, then what the run returns,
and then nothing more; the same has happened as in the run, and no more steps have begun than pulls were made. -/
theorem iterate_agrees_with_run (p : Pipeline σ) (frame : Frame) (s : ExecutionState) (session : Session σ)
    (k : Nat) :
    let pulled := session.iteratePulled p frame s (k + 1)
    stepsBegun (session.iteratePulled p frame s k).journal ≤ k ∧
      ∃ states result, Course p frame (k + 1) s session states result ∧
        pulled.items = states.map .ok ++ result.toList ∧
        session.run p frame (k + 1) s =
          (result, if result.isSome then pulled.session else pulled.session.released, pulled.journal) ∧
        (result.isSome → ∀ more, session.iteratePulled p frame s (k + 1 + more) = pulled) := by
  intro pulled
  obtain ⟨states, result, h⟩ := exists_course p frame (k + 1) s session
  obtain ⟨items, runs, ended⟩ := h.agree
  refine ⟨stepsBegun_pulls k _ _, states, result, h, items, runs, fun hr more => ?_⟩
  exact pulls_add_of_ended p frame (ended hr) more

end Session

end AgentLoop
