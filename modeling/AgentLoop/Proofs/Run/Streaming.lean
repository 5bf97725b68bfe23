import AgentLoop.Agent.Builder
import AgentLoop.Agent.Session
import AgentLoop.Proofs.Driver.Streaming

/-!
# Runs that stream

- `Pipeline.Keeps`: what handlers, hooks and tools do keeps a property of the collaborators' own state. Then every part
  of a run keeps it in which the driver is not called, in the order of their definitions;
- `Pipeline.agree_run`: two pipelines with drivers that agree, and with the same collaborators otherwise, have runs that
  agree: one lemma for each part in which the driver is called (`agree_drive`, `agree_runStep`, `agree_loop`);
- `AgentBuilder.pipelineIn_eq`: the pipelines of an agent in its two modes differ in their drivers only;
- `Session.run_modes_agree`: over a scripted backend, a run of an agent that streams and one that waits for complete
  responses come to the same, and the same happens in them, pieces of text aside.
-/

namespace AgentLoop

/-- Does a mark report a piece of text? -/
def RunMark.isPartial : RunMark → Bool
  | step m => m.isPartial
  | _ => false

variable {σ : Type} {P : σ → Prop}

namespace Pipeline

open Program

/-- Whatever handlers, hooks and tools do keeps a property of the own state. -/
structure Keeps (P : σ → Prop) (p : Pipeline σ) : Prop where
  handlers : ∀ h ∈ p.handlers, ∀ phase s, (h.2.handle phase s).Keeps P
  hooks : p.hooks.Keeps P
  tools : p.tools.Keeps P

/-! ## Parts without the driver -/

theorem keeps_callHandlers {handlers : List (PhaseHandler σ)}
    (h : ∀ handler ∈ handlers, ∀ phase s, (handler.handle phase s).Keeps P) (phase : Phase) (s : ExecutionState) :
    (callHandlers phase handlers s).Keeps P := by
  induction handlers generalizing s with
  | nil => exact .done _
  | cons handler rest ih =>
    refine (Program.Keeps.perform (h handler List.mem_cons_self phase s)).bind fun result => ?_
    refine (Program.Keeps.note _).bind fun _ => ?_
    cases result with
    | error e => exact .done _
    | ok next => exact ih (fun other ho => h other (List.mem_cons_of_mem _ ho)) next

variable {p : Pipeline σ} (h : p.Keeps P)

include h

theorem Keeps.runHandlers (phase : Phase) (s : ExecutionState) : (p.runHandlers phase s).Keeps P := by
  refine (Program.Keeps.note _).bind fun _ => keeps_callHandlers ?_ phase s
  intro handler hh
  obtain ⟨entry, he, rfl⟩ := List.mem_map.1 hh
  exact h.handlers entry (List.mem_filter.1 he).1

theorem Keeps.runHooks (t : HookTrigger) (ctx : HookContext) : (p.runHooks t ctx).Keeps P := by
  have run : (p.hooks.run .dispatched t ctx : Program σ RunMark _).Keeps P :=
    (Program.Keeps.perform (h.hooks.dispatch t ctx)).bind fun _ => (Program.Keeps.note _).bind fun _ => .done _
  unfold Pipeline.runHooks
  split
  · exact run.bind fun _ => .done _
  · exact .done _

theorem Keeps.runPhase (phase : Phase) (s : ExecutionState) : (p.runPhase phase s).Keeps P := by
  refine (h.runHandlers phase s).bind fun r => ?_
  cases r with
  | error i => exact .done _
  | ok t =>
    cases phase.trigger with
    | none => exact .done _
    | some trigger => exact (h.runHooks trigger _).bind fun _ => .done _

theorem Keeps.afterFailure (s : ExecutionState) (failure : StepFailure) : (p.afterFailure s failure).Keeps P := by
  unfold Pipeline.afterFailure
  split
  · exact (h.runHooks _ _).bind fun _ => .done _
  · exact .done _

theorem Keeps.onError (s : ExecutionState) (step : Step) : (p.onError s step).Keeps P := by
  refine (Program.Keeps.note _).bind fun _ => (h.runHandlers _ _).bind fun r => ?_
  cases r with
  | ok t => exact (h.afterFailure t _).bind fun _ => .done _
  | error i =>
    dsimp only
    split
    · exact .done _
    · exact (h.afterFailure i.state _).bind fun _ => .done _

theorem Keeps.recover (i : Interruption) : (p.recover i).Keeps P := by
  unfold Pipeline.recover
  split
  · exact .done _
  · exact Program.Keeps.readClock.bind fun _ => Program.Keeps.readClock.bind fun _ => h.onError _ _

theorem Keeps.beforeExecution (s : ExecutionState) : (p.beforeExecution s).Keeps P := by
  refine Program.Keeps.readClock.bind fun now => (h.runPhase _ _).bind fun r => ?_
  cases r with
  | error i => exact h.recover i
  | ok t => exact (Program.Keeps.note _).bind fun _ => .done _

omit h in
theorem keeps_continuation (token : Token) (s : ExecutionState) : (p.continuation token s).Keeps P := by
  refine (Program.Keeps.note _).bind fun _ => ?_
  split
  · exact .done _
  · refine (Program.Keeps.askCancelled token).bind fun cancelled => ?_
    cases cancelled with
    | true => exact .done _
    | false =>
      refine Program.Keeps.readClock.bind fun now => ?_
      dsimp only
      split <;> exact .done _

theorem Keeps.recordStep (number : UInt32) (s : ExecutionState) (step : Step) :
    (p.recordStep number s step).Keeps P := by
  refine (h.runPhase _ _).bind fun r => ?_
  cases r with
  | error i => exact h.recover i
  | ok t =>
    refine (h.runPhase _ _).bind fun r => ?_
    cases r with
    | error i => exact h.recover i
    | ok u => exact (Program.Keeps.note _).bind fun _ => .done _

theorem Keeps.afterExecution (s : ExecutionState) : (p.afterExecution s).Keeps P := by
  have finish (t : ExecutionState) : (p.finish t).Keeps P := (Program.Keeps.note _).bind fun _ => .done _
  refine (h.runPhase _ s).bind fun r => ?_
  cases r with
  | ok t => exact (finish t).bind fun _ => .done _
  | error i =>
    dsimp only
    split
    · exact .done _
    · exact (finish _).bind fun _ => .done _

/-! ## Parts with the driver -/

variable {d : Driver σ}
  (agree : ∀ s, (p.driver.useTools s p.tools p.executor).Agree P StepMark.isPartial Eq
    (d.useTools s p.tools p.executor))

include agree

omit h in
theorem agree_drive (s : ExecutionState) :
    (p.drive s).Agree P RunMark.isPartial Eq (({ p with driver := d } : Pipeline σ).drive s) := by
  have steps : ((p.driver.useTools s p.tools p.executor).mapMarks .step).Agree P RunMark.isPartial Eq
      ((d.useTools s p.tools p.executor).mapMarks .step) := .mapMarks (fun _ => rfl) (agree s)
  apply (Program.Keeps.readClock.agree _).bind_same
  intro startedAt
  apply steps.bind_same
  intro result
  refine Program.Keeps.agree ((Program.Keeps.note _).bind fun _ => ?_) _
  cases result with
  | ok step => exact .done _
  | error e =>
    dsimp only
    split
    · exact .done _
    · exact Program.Keeps.readClock.bind fun _ => .done _

theorem agree_runStep (s : ExecutionState) :
    (p.runStep s).Agree P RunMark.isPartial Eq (({ p with driver := d } : Pipeline σ).runStep s) := by
  apply ((Program.Keeps.note _).agree _).bind_same
  intro _
  apply ((h.runPhase .beforeStep s.withStepStarted).agree _).bind_same
  intro r
  cases r with
  | error i => exact (h.recover i).agree _
  | ok t =>
    dsimp only
    split
    · exact .done rfl
    · apply (agree_drive agree t).bind_same
      intro r
      cases r with
      | error e => exact .done rfl
      | ok step =>
        dsimp only
        split
        · exact (h.onError t step).agree _
        · exact (h.recordStep _ t step).agree _

theorem agree_loop (token : Token) (rounds : Nat) (s : ExecutionState) :
    (p.loop token rounds s).Agree P RunMark.isPartial Eq
      (({ p with driver := d } : Pipeline σ).loop token rounds s) := by
  induction rounds generalizing s with
  | zero => exact .done rfl
  | succ rounds ih =>
    apply ((keeps_continuation token s).agree _).bind_same
    intro c
    cases c with
    | stop t => exact .done rfl
    | proceed t =>
      apply (agree_runStep h agree t).bind_same
      intro r
      cases r with
      | error e => exact .done rfl
      | ok u => exact ih u

/-- Two pipelines whose drivers agree have runs that agree. -/
theorem agree_run (token : Token) (rounds : Nat) (s : ExecutionState) :
    (p.run token rounds s).Agree P RunMark.isPartial Eq (({ p with driver := d } : Pipeline σ).run token rounds s) := by
  apply ((h.beforeExecution s).agree _).bind_same
  intro r
  cases r with
  | error e => exact .done rfl
  | ok t =>
    apply (agree_loop h agree token rounds t).bind_same
    intro r
    cases r with
    | none => exact .done rfl
    | some r =>
      cases r with
      | error e => exact .done rfl
      | ok u =>
        apply ((h.afterExecution u).agree _).bind_same
        intro r
        exact .done rfl

end Pipeline

/-! ## Agents -/

namespace AgentBuilder

/-- The agent with another way of waiting for responses. -/
def withMode (b : AgentBuilder σ) (mode : InferenceMode) : AgentBuilder σ :=
  { b with config := { b.config with inferenceMode := mode } }

/-- An agent with a scripted backend and one of the two drivers, whose collaborators leave a script behind that suits
the model wherever they found one. -/
structure Scripted (b : AgentBuilder σ) (info : BackendInfo) (script : Lens σ Script) : Prop where
  backend : b.backend = .scripted info script
  lawful : ∀ s own, script.get (script.set s own) = s
  choice : b.choice = .toolCalling ∨ b.choice = .react
  handlers : ∀ h ∈ b.handlers, ∀ phase s, (h.2.handle phase s).Keeps (script.Suits info.model)
  hooks : b.hooks.Keeps (script.Suits info.model)
  tools : b.tools.Keeps (script.Suits info.model)

/-- The pipeline of the agent when it waits for responses in a way, and its tools take turns in a way. -/
def pipelineIn (b : AgentBuilder σ) (mode : InferenceMode) (schedule : Nat → Nat) : Pipeline σ :=
  { (b.withMode mode).pipeline with schedule }

/-- The way of waiting concerns the driver only. The handlers for the decision to go on are left out. -/
theorem pipelineIn_eq (b : AgentBuilder σ) (mode : InferenceMode) (schedule : Nat → Nat) :
    b.pipelineIn mode schedule =
      { driver := (b.withMode mode).driver, tools := b.tools, schemas := b.schemas, hooks := b.hooks,
        handlers := b.handlers.filter fun h => h.1 ≠ .shouldContinue, criteria := b.config.criteria ++ b.criteria,
        errorPolicy := b.config.errorPolicy, keepToolTraces := b.config.keepToolTraces,
        parallelTools := b.config.parallelToolExecution, schedule } := by
  unfold pipelineIn pipeline
  rw [foldl_withHandler]
  rfl

namespace Scripted

variable {b : AgentBuilder σ} {info : BackendInfo} {script : Lens σ Script}

/-- The collaborators of the agent are those of its pipelines. -/
theorem keeps_pipelineIn (h : b.Scripted info script) (mode : InferenceMode) (schedule : Nat → Nat) :
    (b.pipelineIn mode schedule).Keeps (script.Suits info.model) := by
  rw [pipelineIn_eq]
  refine ⟨fun entry he => h.handlers entry ?_, h.hooks, h.tools⟩
  exact (List.mem_filter.1 he).1

/-- The drivers of the agent in its two modes agree. -/
theorem agree_driver (h : b.Scripted info script) (executor : Executor σ)
    (hooks : executor.hooks.Keeps (script.Suits info.model)) (s : ExecutionState) :
    ((b.withMode .blocking).driver.useTools s b.tools executor).Agree (script.Suits info.model)
      StepMark.isPartial Eq ((b.withMode .streaming).driver.useTools s b.tools executor) := by
  have backend (mode : InferenceMode) : (b.withMode mode).inference = ⟨.scripted info script, mode⟩ :=
    congrArg (Inference.mk · mode) h.backend
  have choice (mode : InferenceMode) : (b.withMode mode).choice = b.choice := rfl
  unfold driver
  rw [choice, choice, backend, backend]
  -- the two drivers have the same settings, and differ in the way of waiting only
  rcases h.choice with plain | react
  · rw [plain]
    let d : ToolCalling σ :=
      { inference := b.inference, cachedContext := b.cachedContext, systemPrompt := b.config.systemPrompt,
        toolChoice := b.config.toolChoice, temperature := b.config.temperature, maxTokens := b.config.maxTokens }
    exact ToolCalling.agree_step h.lawful hooks h.tools s d
  · rw [react]
    let d : ReAct σ :=
      { inference := b.inference, cachedContext := b.cachedContext, instructions := b.config.systemPrompt,
        temperature := b.config.temperature, maxTokens := b.config.maxTokens, finalize := b.finalize }
    exact ReAct.agree_step h.lawful hooks h.tools s d

/-- The runs of the agent in its two modes agree. -/
theorem agree_run (h : b.Scripted info script) (schedule : Nat → Nat) (token : Token) (rounds : Nat)
    (s : ExecutionState) :
    ((b.pipelineIn .blocking schedule).run token rounds s).Agree (script.Suits info.model)
      RunMark.isPartial Eq ((b.pipelineIn .streaming schedule).run token rounds s) := by
  have keeps := h.keeps_pipelineIn .blocking schedule
  rw [pipelineIn_eq] at keeps
  rw [pipelineIn_eq, pipelineIn_eq]
  exact Pipeline.agree_run keeps (fun t => h.agree_driver _ keeps.hooks t) token rounds s

end Scripted

end AgentBuilder

/-- Does an event report a piece of text? -/
def AgentEvent.isPartial : AgentEvent → Bool
  | step (.partialResponse _) => true
  | _ => false

/-- A mark reports a piece of text just if its event does. -/
theorem isPartial_event? (m : RunMark) : ∀ e ∈ m.event?, e.isPartial = m.isPartial := by
  rintro e found
  cases m with
  | event e' =>
    obtain rfl : .run e' = e := Option.some.inj found
    rfl
  | step m =>
    cases m with
    | event e' =>
      obtain rfl : .step e' = e := Option.some.inj found
      cases e' <;> rfl
    | requested _ => cases found
    | invoked _ => cases found
    | dispatched _ _ => cases found
  | entered _ _ => cases found
  | handled _ _ _ => cases found
  | dispatched _ _ => cases found
  | drove _ _ => cases found

/-- The events of a journal, pieces of text aside. -/
theorem filter_events (journal : List RunMark) :
    ((journal.filterMap RunMark.event?).filter fun e => !e.isPartial) =
      (journal.filter fun m => !m.isPartial).filterMap RunMark.event? := by
  rw [List.filter_filterMap, List.filterMap_filter]
  -- it is enough to look at a single mark
  congr 1
  funext m
  cases event : m.event? with
  | none => simp
  | some e => simp [isPartial_event? m e event, Option.filter]

namespace Session

/-- Runs that agree do so wherever an agent is asked for one. -/
theorem run_agrees {p q : Pipeline σ} {frame : Frame} {rounds : Nat} {s : ExecutionState} {session : Session σ}
    (agree : ∀ token, (p.run token rounds s).Agree P RunMark.isPartial Eq (q.run token rounds s))
    (own : P session.world.own) :
    (session.run p frame rounds s).1 = (session.run q frame rounds s).1 ∧
      (session.run p frame rounds s).2.1 = (session.run q frame rounds s).2.1 ∧
      ((session.run p frame rounds s).2.2.filter fun m => !m.isPartial) =
        (session.run q frame rounds s).2.2.filter fun m => !m.isPartial := by
  unfold run
  cases session.slot.acquire with
  | none => exact ⟨rfl, rfl, rfl⟩
  | some slot =>
    have agrees := agree slot.token { frame with slot } session.world own
    exact ⟨agrees.value, congrArg (fun w => released ⟨slot, w⟩) agrees.world, agrees.journal⟩

/-- Over a scripted backend, a run that streams and a run that waits for complete responses return the same, leave the
same behind, the requests that the backend received among it, and report the same events, pieces of text aside. -/
theorem run_modes_agree {b : AgentBuilder σ} {info : BackendInfo} {script : Lens σ Script} (h : b.Scripted info script)
    (schedule : Nat → Nat) (frame : Frame) (rounds : Nat) (s : ExecutionState) (session : Session σ)
    (suits : script.Suits info.model session.world.own) :
    let blocking := session.run (b.pipelineIn .blocking schedule) frame rounds s
    let streaming := session.run (b.pipelineIn .streaming schedule) frame rounds s
    blocking.1 = streaming.1 ∧ blocking.2.1 = streaming.2.1 ∧
      (script.get blocking.2.1.world.own).received = (script.get streaming.2.1.world.own).received ∧
      ((blocking.2.2.filterMap RunMark.event?).filter fun e => !e.isPartial) =
        (streaming.2.2.filterMap RunMark.event?).filter fun e => !e.isPartial := by
  intro blocking streaming
  obtain ⟨value, after, journal⟩ : blocking.1 = streaming.1 ∧ blocking.2.1 = streaming.2.1 ∧
      (blocking.2.2.filter fun m => !m.isPartial) = streaming.2.2.filter fun m => !m.isPartial :=
    run_agrees (fun token => h.agree_run schedule token rounds s) suits
  refine ⟨value, after, by rw [after], ?_⟩
  rw [filter_events, filter_events, journal]

/-- An agent with a tool that gives back its arguments, which talks to a script. -/
def echoAgent : AgentBuilder Script where
  backend := .scripted (Backend.scriptedInfo "mock" "model") .whole
  schemas := .lenient
  tools := .ofList [.ofFunction ⟨"echo", "gives back its arguments", .bool true⟩ .ok]

/-- A text in two parts with a call between them, then an answer. -/
def echoScript : Script where
  queue :=
    [.response { content := [.text "one ", .toolCall ⟨"1", "echo", .bool true⟩, .text "moment"], usage := .zero,
                 stopReason := .toolUse, model := "model" },
      .text "model" "done"]

theorem run_modes_agree_echo :
    let frame : Frame := { clock := fun n => ⟨n, 0⟩, random := fun _ => 0 }
    let session : Session Script := { world := { own := echoScript } }
    let blocking := session.run (echoAgent.pipelineIn .blocking fun _ => 0) frame 3 (.ofUser "question")
    let streaming := session.run (echoAgent.pipelineIn .streaming fun _ => 0) frame 3 (.ofUser "question")
    echoAgent.Scripted (Backend.scriptedInfo "mock" "model") .whole ∧ echoScript.Suits "model" ∧
      blocking.1 = streaming.1 ∧ blocking.2.1 = streaming.2.1 ∧ streaming.2.1.world.own.received.length = 2 ∧
      (streaming.2.2.filterMap RunMark.event?).filter AgentEvent.isPartial =
        [.step (.partialResponse "one "), .step (.partialResponse "moment"), .step (.partialResponse "done")] := by
  intro frame session blocking streaming
  have scripted : echoAgent.Scripted (Backend.scriptedInfo "mock" "model") .whole := by
    refine ⟨rfl, fun _ _ => rfl, .inl rfl, ?_, ?_, ?_⟩
    · intro handler hh
      cases hh
    · intro hook hh
      cases hh
    intro t ht arguments acts result goes a ha
    obtain rfl := List.mem_singleton.1 ht
    cases goes
    obtain rfl := List.mem_singleton.1 ha
    exact fun _ _ suits => suits
  have suits : echoScript.Suits "model" := by
    intro reply hr
    obtain rfl | hr := List.mem_cons.1 hr
    · exact ⟨rfl, by decide⟩
    · obtain rfl := List.mem_singleton.1 hr
      exact ⟨rfl, by decide⟩
  obtain ⟨value, after, -, -⟩ := run_modes_agree scripted (fun _ => 0) frame 3 (.ofUser "question") session suits
  exact ⟨scripted, suits, value, after, by decide +kernel, by decide +kernel⟩

end Session

end AgentLoop
