import AgentLoop.Proofs.Run.Calls

/-!
# What happens on the way to a state

- `HoldsAlong`: a relation says of each state that a part of a run shows, and of the one in which it ends, what has
  become of the first state by way of the journal so far;
- `Pipeline.Chronicle`: a relation that may be followed through a run: it composes, and handlers, hooks and the
  pipeline's own transformations respect it;
- `Chronicle.run`: such a relation holds along every run, from its input to what it returns. The parts of the run are
  taken one after the other, as the traces have them. It holds of what an attempt returns, too (`ends_attempt`).
-/

namespace AgentLoop

/-- The state that a handler or a dispatch of hooks has returned. -/
def RunMark.returned? : RunMark → Option ExecutionState
  | handled _ _ (.ok t) => some t
  | dispatched _ after => some after.state
  | _ => none

/-- At each mark of a journal, the relation says what has become of the first state: of the state that a collaborator is
given, by the marks before it, and of the state that it returns, by its own mark too. And so for the last state. -/
structure HoldsAlong (R : ExecutionState → List RunMark → ExecutionState → Prop) (s : ExecutionState)
    (journal : List RunMark) (last : Option ExecutionState) : Prop where
  given {before after : List RunMark} {m : RunMark} {u : ExecutionState} :
    journal = before ++ m :: after → m.state? = some u → R s before u
  returned {before after : List RunMark} {m : RunMark} {u : ExecutionState} :
    journal = before ++ m :: after → m.returned? = some u → R s (before ++ [m]) u
  ends {t : ExecutionState} : last = some t → R s journal t

/-- The state that an attempt of a run returns. -/
def Outcome.returned? {σ : Type} (o : Outcome σ RunMark (Except String (Option (Except AgentError ExecutionState)))) :
    Option ExecutionState :=
  (o.value.toOption.bind id).bind Except.toOption

/-- What holds along a journal, and more, holds along the front of it, if it holds where that ends. -/
theorem HoldsAlong.front {R R' : ExecutionState → List RunMark → ExecutionState → Prop} {s : ExecutionState}
    {journal rest : List RunMark} {last last' : Option ExecutionState} (h : HoldsAlong R s (journal ++ rest) last)
    (more : ∀ front back u, journal = front ++ back → R s front u → R' s front u)
    (ends : ∀ t, last' = some t → R s journal t) : HoldsAlong R' s journal last' where
  given {before after m u} split shown := by
    have place : journal ++ rest = before ++ m :: (after ++ rest) := by rw [split, List.append_assoc]; rfl
    exact more _ _ u split (h.given place shown)
  returned {before after m u} split shown := by
    have place : journal ++ rest = before ++ m :: (after ++ rest) := by rw [split, List.append_assoc]; rfl
    have own : journal = (before ++ [m]) ++ after := by rw [split, List.append_assoc]; rfl
    exact more _ _ u own (h.returned place shown)
  ends {t} same := more _ [] t (List.append_nil _).symm (ends t same)

namespace Pipeline

variable {σ : Type}

/-- A relation between a state, a journal and a later state that handlers and hooks respect, and everything that the
pipeline does itself. -/
structure Chronicle (p : Pipeline σ) (R : ExecutionState → List RunMark → ExecutionState → Prop) : Prop where
  refl (s : ExecutionState) : R s [] s
  trans {s t u : ExecutionState} {journal journal' : List RunMark} :
    R s journal t → R t journal' u → R s (journal ++ journal') u
  quiet {m : RunMark} (s : ExecutionState) : m.returned? = none → R s [m] s
  handled {phase : Phase} {handler : PhaseHandler σ} {s t : ExecutionState} : handler ∈ p.handlersOf phase →
    (handler.handle phase s).MayGive (.ok t) → R s [.handled phase s (.ok t)] t
  dispatched {ctx after : HookContext} : (p.hooks.dispatch ctx.trigger ctx).MayGive after →
    R ctx.state [.dispatched ctx after] after.state
  settled (s : ExecutionState) : R s [] s.settled
  runStarted (s : ExecutionState) (now : Instant) : R s [] (s.withRunStarted now)
  stepStarted (s : ExecutionState) : R s [] s.withStepStarted
  outcome (s : ExecutionState) (step : Step) : R s [] (s.withOutcome step p.keepToolTraces)
  toolFailures (s : ExecutionState) (failed : Nat) : R s [] (s.withToolFailures p.errorPolicy failed)
  failedStep (s : ExecutionState) (step : Step) : R s [] (s.withFailedStep p.errorPolicy step step.cause)
  completed (s : ExecutionState) (reason : TerminationReason) : R s [] (s.completed reason)
  failed (s : ExecutionState) (reason : TerminationReason) : R s [] (s.failed reason)
  ended (s : ExecutionState) : R s [] (s.ended p.keepToolTraces)

namespace Chronicle

variable {p : Pipeline σ} {R : ExecutionState → List RunMark → ExecutionState → Prop} {s t u : ExecutionState}
  {journal journal' : List RunMark} {last : Option ExecutionState} (c : p.Chronicle R)

include c

/-! ## One after another -/

theorem stay (s : ExecutionState) : HoldsAlong R s [] (some s) where
  given split := by simp at split
  returned split := by simp at split
  ends same := Option.some.inj same ▸ c.refl s

theorem append (h : HoldsAlong R s journal (some t)) (h' : HoldsAlong R t journal' last) :
    HoldsAlong R s (journal ++ journal') last where
  given split shown := by
    rcases split_append split with ⟨rest, inFirst, -⟩ | ⟨rest, rfl, inSecond⟩
    · exact h.given inFirst shown
    · exact c.trans (h.ends rfl) (h'.given inSecond shown)
  returned split shown := by
    rcases split_append split with ⟨rest, inFirst, -⟩ | ⟨rest, rfl, inSecond⟩
    · exact h.returned inFirst shown
    · rw [List.append_assoc]
      exact c.trans (h.ends rfl) (h'.returned inSecond shown)
  ends same := c.trans (h.ends rfl) (h'.ends same)

/-- The pipeline's own transformations leave no mark. -/
theorem trans_move (h : R s [] t) (h' : R t journal u) : R s journal u := by
  have whole := c.trans h h'
  rwa [List.nil_append] at whole

theorem move (h : R s [] t) (h' : HoldsAlong R t journal last) : HoldsAlong R s journal last where
  given split shown := c.trans_move h (h'.given split shown)
  returned split shown := c.trans_move h (h'.returned split shown)
  ends same := c.trans_move h (h'.ends same)

theorem settle (h : HoldsAlong R s journal (some t)) (move : R t [] u) : HoldsAlong R s journal (some u) := by
  have moved : HoldsAlong R t [] (some u) := c.move move (c.stay u)
  have whole := c.append h moved
  rwa [List.append_nil] at whole

/-- A single mark of a collaborator that is given the state. -/
theorem mark {m : RunMark} (given : ∀ u, m.state? = some u → u = s) (returned : ∀ u, m.returned? = some u → u = t)
    (h : R s [m] t) : HoldsAlong R s [m] (some t) := by
  have only {before after : List RunMark} {n : RunMark} (split : [m] = before ++ n :: after) : before = [] ∧ n = m := by
    cases before with
    | nil => exact ⟨rfl, (List.cons.inj split).1.symm⟩
    | cons _ _ => simp at split
  constructor
  · rintro before after n u split shown
    obtain ⟨rfl, rfl⟩ := only split
    exact given u shown ▸ c.refl s
  · rintro before after n u split shown
    obtain ⟨rfl, rfl⟩ := only split
    exact returned u shown ▸ h
  · exact fun same => Option.some.inj same ▸ h

/-- Marks that show no other state. -/
theorem silent (h : ∀ m ∈ journal, m.returned? = none ∧ ∀ u, m.state? = some u → u = s) :
    HoldsAlong R s journal (some s) := by
  induction journal with
  | nil => exact c.stay s
  | cons m rest ih =>
    obtain ⟨first, others⟩ := List.forall_mem_cons.1 h
    have marked : HoldsAlong R s [m] (some s) :=
      c.mark first.2 (fun u shown => by rw [first.1] at shown; cases shown) (c.quiet s first.1)
    exact c.append marked (ih others)

theorem entered (phase : Phase) (s : ExecutionState) : HoldsAlong R s [.entered phase s] (some s) :=
  c.silent (List.forall_mem_singleton.2 ⟨rfl, fun _ shown => (Option.some.inj shown).symm⟩)

theorem event (e : RunEvent) (s : ExecutionState) : HoldsAlong R s [.event e] (some s) :=
  c.silent (List.forall_mem_singleton.2 ⟨rfl, by simp [RunMark.state?]⟩)

/-! ## Phases -/

theorem handlers {phase : Phase} {handlers : List (PhaseHandler σ)} {r : Except Interruption ExecutionState}
    (h : HandlerTrace phase handlers s journal r) (members : ∀ handler ∈ handlers, handler ∈ p.handlersOf phase) :
    PhaseGood (fun t => HoldsAlong R s journal (some t)) r := by
  induction h with
  | done s => exact c.stay s
  | failed _ => exact c.silent (List.forall_mem_singleton.2 ⟨rfl, fun _ shown => (Option.some.inj shown).symm⟩)
  | @passed _ _ s t _ r gives _ ih =>
    obtain ⟨member, others⟩ := List.forall_mem_cons.1 members
    have first : HoldsAlong R s [.handled phase s (.ok t)] (some t) :=
      c.mark (fun _ shown => (Option.some.inj shown).symm) (fun _ shown => (Option.some.inj shown).symm)
        (c.handled member gives)
    cases r with
    | ok u => exact c.append first (ih others)
    | error i => exact c.append first (ih others)

theorem dispatch {after : HookContext} (ctx : HookContext) (gives : (p.hooks.dispatch ctx.trigger ctx).MayGive after) :
    HoldsAlong R ctx.state [.dispatched ctx after] (some after.state) :=
  c.mark (fun _ shown => (Option.some.inj shown).symm) (fun _ shown => (Option.some.inj shown).symm)
    (c.dispatched gives)

theorem hooks (ctx : HookContext) (h : p.HookTrace ctx.trigger ctx journal t) :
    HoldsAlong R ctx.state journal (some t) := by
  cases h with
  | unhandled _ => exact c.stay _
  | dispatched _ gives => exact c.dispatch ctx gives

theorem phase {phase : Phase} {r : Except Interruption ExecutionState} (h : p.PhaseTrace phase s journal r) :
    PhaseGood (fun t => HoldsAlong R s journal (some t)) r := by
  have entered := c.entered phase s
  cases h with
  | interrupted called => exact c.append entered (c.handlers called fun _ => id)
  | silent _ called =>
    have handled : HoldsAlong R s _ (some _) := c.handlers called fun _ => id
    exact c.settle (c.append entered handled) (c.settled _)
  | @hooked trigger _ _ t _ _ called fired =>
    have handled : HoldsAlong R s _ (some t) := c.handlers called fun _ => id
    have hooked := c.hooks { trigger, state := t } fired
    exact c.settle (c.append entered (c.append handled hooked)) (c.settled _)

/-! ## Failures -/

theorem failureHooks {failure : StepFailure} (h : p.FailureHookTrace s failure journal t) :
    HoldsAlong R s journal (some t) := by
  cases h with
  | unhandled _ => exact c.stay s
  | dispatched _ gives => exact c.settle (c.dispatch (.forFailure s failure) gives) (c.settled _)

theorem failure {step : Step} {r : Except AgentError ExecutionState} (h : p.FailureTrace s step journal r) :
    HoldsAlong R s journal r.toOption := by
  have first : HoldsAlong R s (p.failureMarks s step) (some (s.withFailedStep p.errorPolicy step step.cause)) :=
    c.append (c.event _ s) (c.move (c.failedStep s step) (c.entered .onError _))
  cases h with
  | bug called _ =>
    have handled : HoldsAlong R _ _ (some _) := c.handlers called fun _ => id
    exact { c.append first handled with ends := nofun }
  | swallowed called _ fired =>
    have handled : HoldsAlong R _ _ (some _) := c.handlers called fun _ => id
    exact c.append first (c.append handled (c.failureHooks fired))
  | handled called fired =>
    have handled : HoldsAlong R _ _ (some _) := c.handlers called fun _ => id
    exact c.append first (c.append handled (c.failureHooks fired))

theorem recovery {i : Interruption} {r : Except AgentError ExecutionState} (h : p.RecoveryTrace i journal r) :
    HoldsAlong R i.state journal r.toOption := by
  cases h with
  | bug _ => exact { c.stay i.state with ends := nofun }
  | recovered _ failed => exact c.failure failed

/-! ## Passes -/

theorem record {number : UInt32} {step : Step} {r : Except AgentError ExecutionState}
    (h : p.RecordTrace number s step journal r) : HoldsAlong R s journal r.toOption := by
  refine c.move (c.outcome s step) ?_
  cases h with
  | interrupted executed recovered =>
    have first : HoldsAlong R _ _ (some _) := c.phase executed
    exact c.append first (c.recovery recovered)
  | interruptedLate executed after recovered =>
    have first : HoldsAlong R _ _ (some _) := c.phase executed
    have second : HoldsAlong R _ _ (some _) := c.phase after
    exact c.append (c.settle first (c.toolFailures _ _)) (c.append second (c.recovery recovered))
  | completed executed after =>
    have first : HoldsAlong R _ _ (some _) := c.phase executed
    have second : HoldsAlong R _ _ (some _) := c.phase after
    exact c.append (c.settle first (c.toolFailures _ _)) (c.append second (c.event _ _))

theorem follow {number : UInt32} {result : Except AgentError Step} {r : Except AgentError ExecutionState}
    (h : p.FollowTrace number s result journal r) : HoldsAlong R s journal r.toOption := by
  cases h with
  | bug _ => exact { c.stay s with ends := nofun }
  | failed _ _ failure => exact c.failure failure
  | recorded _ _ record => exact c.record record

theorem call (marks : List StepMark) (s : ExecutionState) (result : Except AgentError Step) :
    HoldsAlong R s (callMarks marks s result) (some s) := by
  refine c.silent fun m hm => ?_
  rcases List.mem_append.1 hm with marked | drove
  · obtain ⟨_, -, rfl⟩ := List.mem_map.1 marked
    exact ⟨rfl, by simp [RunMark.state?]⟩
  · obtain rfl := List.mem_singleton.1 drove
    exact ⟨rfl, fun _ shown => (Option.some.inj shown).symm⟩

theorem pass {r : Except AgentError ExecutionState} (h : p.PassTrace s journal r) :
    HoldsAlong R s journal r.toOption := by
  have first : HoldsAlong R s [passMark s] (some s.withStepStarted) := c.settle (c.event _ s) (c.stepStarted s)
  cases h with
  | interrupted before recovered =>
    have second : HoldsAlong R _ _ (some _) := c.phase before
    exact c.append first (c.append second (c.recovery recovered))
  | ended before _ =>
    have second : HoldsAlong R _ _ (some _) := c.phase before
    exact c.append first second
  | called before _ _ follows =>
    have second : HoldsAlong R _ _ (some _) := c.phase before
    exact c.append first (c.append second (c.append (c.call _ _ _) (c.follow follows)))

/-! ## Runs -/

theorem check (h : p.CheckTrace s (.stop t)) : R s [] t := by
  cases h with
  | terminal _ => exact c.refl s
  | cancelled _ => exact c.completed s _
  | refused _ _ => exact c.completed s _

theorem loop {rounds : Nat} {r : Option (Except AgentError ExecutionState)} (h : p.LoopTrace rounds s journal r) :
    HoldsAlong R s journal (r.bind Except.toOption) := by
  induction h with
  | cutOff s => exact { c.stay s with ends := nofun }
  | stopped stops => exact c.settle (c.entered .shouldContinue _) (c.check stops)
  | failed goes pass =>
    obtain ⟨rfl, -⟩ := goes.granted_of_proceed
    exact c.append (c.entered .shouldContinue _) (c.pass pass)
  | passed goes pass _ ih =>
    obtain ⟨rfl, -⟩ := goes.granted_of_proceed
    exact c.append (c.entered .shouldContinue _) (c.append (c.pass pass) ih)

theorem begin {r : Except AgentError ExecutionState} (h : p.BeginTrace s journal r) :
    HoldsAlong R s journal r.toOption := by
  cases h with
  | interrupted began recovered =>
    have first : HoldsAlong R _ _ (some _) := c.phase began
    exact c.move (c.runStarted s _) (c.append first (c.recovery recovered))
  | begun began =>
    have first : HoldsAlong R _ _ (some _) := c.phase began
    exact c.move (c.runStarted s _) (c.append first (c.event _ _))

theorem finish {r : Except AgentError ExecutionState} (h : p.EndTrace s journal r) :
    HoldsAlong R s journal r.toOption := by
  cases h with
  | bug ended _ =>
    have first : HoldsAlong R _ _ (some _) := c.phase ended
    exact { first with ends := nofun }
  | @failed _ i t ended _ same =>
    have first : HoldsAlong R _ _ (some _) := c.phase ended
    have concluded : R i.state [] t := by
      rw [same]
      exact c.trans (c.failed _ _) (c.ended _)
    exact c.append first (c.move concluded (c.event _ t))
  | @finished _ t u ended same =>
    have first : HoldsAlong R _ _ (some _) := c.phase ended
    have concluded : R t [] u := by
      rw [same]
      exact c.ended t
    exact c.append first (c.move concluded (c.event _ u))

theorem runTrace {rounds : Nat} {r : Option (Except AgentError ExecutionState)} (h : p.RunTrace rounds s journal r) :
    HoldsAlong R s journal (r.bind Except.toOption) := by
  cases h with
  | aborted began => exact c.begin began
  | looped began loop close =>
    refine c.append (c.begin began) ?_
    have looped := c.loop loop
    cases close with
    | cutOff => exact List.append_nil _ ▸ looped
    | failed e => exact List.append_nil _ ▸ looped
    | ended ended => exact c.append looped (c.finish ended)

/-- The relation holds along every run. -/
theorem run (token : Token) (rounds : Nat) (s : ExecutionState) (frame : Frame) (w : World σ) :
    let outcome := (p.run token rounds s).exec frame w
    HoldsAlong R s outcome.journal (outcome.value.bind Except.toOption) :=
  c.runTrace (p.runTrace_exec token rounds s frame w)

/-- It holds of what an attempt of a run returns, if that does not come to a panic. -/
theorem ends_attempt (token : Token) (rounds : Nat) (s : ExecutionState) (frame : Frame) (w : World σ)
    {t : ExecutionState}
    (returned : ((p.run token rounds s).attempt frame w).returned? = some t) :
    R s ((p.run token rounds s).attempt frame w).journal t := by
  cases value : ((p.run token rounds s).attempt frame w).value with
  | error message =>
    rw [Outcome.returned?, value] at returned
    cases returned
  | ok v =>
    have along := c.run token rounds s frame w
    dsimp only at along
    rw [(p.run token rounds s).exec_of_attempt frame w value] at along
    rw [Outcome.returned?, value] at returned
    exact along.ends returned

end Chronicle

end Pipeline

end AgentLoop
