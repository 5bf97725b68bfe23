import AgentLoop.Agent.Session
import AgentLoop.Proofs.Effect.Advance

/-!
# An agent and its clones

- `Part`, `Pipeline.part`: the parts of a run, one after another, and what each may come to (`Part.LeadsTo`). A run
  holds its agent until its last part has come to an end;
- `Shared`: an agent with everything that was begun through it or through one of its clones; `Shared.act`: what one
  `Move` does. A run goes on by a single thing it has to do, so everything else may happen at any point in between;
- `Shared.Change`: the ways in which a move can change things, and `change_act`: there are no others;
- `Shared.Consistent`: the slot is taken exactly if a run holds the agent, and never two do. Every move keeps that
  (`Consistent.act`);
- `Shared.one_run_at_a_time`: who holds the agent after any moves, what is refused, and when the agent is free again.
-/

namespace AgentLoop

/-! ## Parts of a run -/

/-- The part of a run that comes next. -/
inductive Part where
  /-- The beginning. -/
  | starting (s : ExecutionState)
  /-- A continuation check. -/
  | checking (s : ExecutionState)
  /-- A step. -/
  | stepping (s : ExecutionState)
  /-- The end, after the last check. -/
  | finishing (s : ExecutionState)
  /-- The run was not let in. -/
  | refused
  /-- Nothing. -/
  | ended

/-- Does a run hold its agent in this part? -/
def Part.holds : Part → Bool
  | starting _ | checking _ | stepping _ | finishing _ => true
  | refused | ended => false

/-- The part that begins when an item is pulled. -/
def Stage.part : Stage → Part
  | fresh s => .starting s
  | between s => .checking s
  | refused => .refused
  | ended => .ended

/-- What a part of a run comes to. -/
structure PartEnd where
  /-- What the run gives. -/
  item : Option (Except AgentError ExecutionState)
  /-- The part that comes next. -/
  next : Part

/-- What a part of a run may come to. -/
inductive Part.LeadsTo : Part → PartEnd → Prop
  | notStarted (s : ExecutionState) (e : AgentError) : LeadsTo (.starting s) ⟨some (.error e), .ended⟩
  | started (s t : ExecutionState) : LeadsTo (.starting s) ⟨none, .checking t⟩
  | terminal (s : ExecutionState) : s.isTerminal = true → LeadsTo (.checking s) ⟨none, .finishing s⟩
  | stopped (s : ExecutionState) (reason : TerminationReason) : s.isTerminal = false →
      LeadsTo (.checking s) ⟨none, .finishing (s.completed reason)⟩
  | proceeds (s : ExecutionState) : s.isTerminal = false → LeadsTo (.checking s) ⟨none, .stepping s⟩
  | failed (s : ExecutionState) (e : AgentError) : LeadsTo (.stepping s) ⟨some (.error e), .ended⟩
  | stepped (s t : ExecutionState) : LeadsTo (.stepping s) ⟨some (.ok t), .checking t⟩
  | returned (s : ExecutionState) (r : Except AgentError ExecutionState) : LeadsTo (.finishing s) ⟨some r, .ended⟩
  | refused : LeadsTo .refused ⟨some (.error .reentrantRun), .ended⟩
  | ended : LeadsTo .ended ⟨none, .ended⟩

/-- The last part of a run that was let in: its end, or a part that failed. -/
def Part.IsLast (part : Part) (x : PartEnd) : Prop := (∃ s, part = .finishing s) ∨ ∃ e, x.item = some (.error e)

/-- A run holds its agent until its last part has come to an end. -/
theorem Part.LeadsTo.holds_next {part : Part} {x : PartEnd} (leads : part.LeadsTo x) :
    x.next.holds = true ↔ part.holds = true ∧ ¬part.IsLast x := by
  cases leads <;> simp [holds, IsLast]

namespace Pipeline

variable {σ : Type} (p : Pipeline σ)

/-- A part of a run. -/
def part (token : Token) : Part → Program σ RunMark PartEnd
  | .starting s => do
    match ← p.beforeExecution s with
    | .error e => return ⟨some (.error e), .ended⟩
    | .ok s => return ⟨none, .checking s⟩
  | .checking s => do
    match ← p.continuation token s with
    | .stop s => return ⟨none, .finishing s⟩
    | .proceed s => return ⟨none, .stepping s⟩
  | .stepping s => do
    match ← p.runStep s with
    | .error e => return ⟨some (.error e), .ended⟩
    | .ok s => return ⟨some (.ok s), .checking s⟩
  | .finishing s => do return ⟨some (← p.afterExecution s), .ended⟩
  | .refused => return ⟨some (.error .reentrantRun), .ended⟩
  | .ended => return ⟨none, .ended⟩

/-- What a continuation check decides, whatever it is answered: it asks for the token unless the status is terminal. -/
theorem surely_continuation {allowed : Token → Bool → Prop} {post : Continuation → Prop} {token : Token}
    {s : ExecutionState} (terminal : s.isTerminal = true → post (.stop s))
    (cancelled : s.isTerminal = false → allowed token true → post (.stop (s.completed .cancelled)))
    (stopped : ∀ reason, reason ≠ .cancelled → s.isTerminal = false → allowed token false →
      post (.stop (s.completed reason)))
    (proceeds : s.isTerminal = false → allowed token false → post (.proceed s)) :
    (p.continuation token s).Surely allowed post := by
  unfold continuation
  refine Program.surely_bind _ fun _ => ?_
  by_cases status : s.isTerminal = true
  · rw [if_pos status]
    exact terminal status
  rw [if_neg status]
  have running : s.isTerminal = false := Bool.eq_false_iff.2 status
  intro answer answered
  cases answer with
  | true => exact cancelled running answered
  | false =>
    intro now
    simp only [Program.bind]
    cases Criterion.firstStop p.criteria ⟨s, (s.elapsed now).getD 0⟩ with
    | none => exact proceeds running answered
    | some stop =>
      refine stopped _ ?_ running answered
      split <;> simp

/-- A part of a run comes to one of the ends it may come to. -/
theorem surely_part (token : Token) (part : Part) :
    (p.part token part).Surely (fun _ _ => True) part.LeadsTo := by
  cases part with
  | starting s =>
    refine Program.surely_bind _ fun r => ?_
    cases r with
    | error e => exact .notStarted s e
    | ok t => exact .started s t
  | checking s =>
    have decided : (p.continuation token s).Surely (fun _ _ => True) fun
        | .stop t => Part.LeadsTo (.checking s) ⟨none, .finishing t⟩
        | .proceed t => Part.LeadsTo (.checking s) ⟨none, .stepping t⟩ :=
      p.surely_continuation (.terminal s) (fun running _ => .stopped s _ running)
        (fun reason _ running _ => .stopped s reason running) (fun running _ => .proceeds s running)
    refine decided.bind fun c leads => ?_
    cases c <;> exact leads
  | stepping s =>
    refine Program.surely_bind _ fun r => ?_
    cases r with
    | error e => exact .failed s e
    | ok t => exact .stepped s t
  | finishing s => exact Program.surely_bind _ fun r => .returned s r
  | refused => exact .refused
  | ended => exact .ended

end Pipeline

/-! ## Everything begun through an agent -/

/-- A run, or a run that is pulled step by step. -/
structure Engagement (σ : Type) : Type 1 where
  /-- What ends the run. -/
  token : Token
  part : Part
  /-- What remains of the part. -/
  rest : Program σ RunMark PartEnd
  /-- What was cancelled when the part began. -/
  before : List Token

/-- A part of a run that has come to its end. -/
structure PartDone extends PartEnd where
  token : Token
  part : Part
  /-- What was cancelled when the part began. -/
  before : List Token

/-- An agent with everything that was begun through it or through one of its clones. -/
structure Shared (σ : Type) : Type 1 where
  session : Session σ
  /-- What was begun, also what has ended, in the order in which it was begun. -/
  engagements : List (Engagement σ)
  /-- The parts that have come to their ends, oldest first. -/
  done : List PartDone

/-- What may happen to an agent. Any token may be cancelled, whether or not it was fetched from the agent before. -/
inductive Move (σ : Type) where
  /-- A run is begun. -/
  | run (s : ExecutionState)
  /-- A run that is pulled step by step is begun. -/
  | iterate (s : ExecutionState)
  /-- The run of this number does the next thing it has to do. -/
  | go (k : Nat)
  /-- The run of this number is dropped. -/
  | drop (k : Nat)
  | cancel (t : Token)
  /-- Time passes, and others change what they share with the collaborators. -/
  | elsewhere (f : World σ → World σ)

namespace Shared

variable {σ : Type} (p : Pipeline σ) (frame : Frame)

/-- An agent through which nothing was begun yet. -/
def fresh (current : Nat) (w : World σ) : Shared σ := ⟨⟨{ current }, w⟩, [], []⟩

/-- A run before a part. -/
def facing (token : Token) (part : Part) (cancelled : List Token) : Engagement σ :=
  ⟨token, part, p.part token part, cancelled⟩

/-- A run that is pulled step by step is begun. -/
def begin (s : ExecutionState) (d : Shared σ) : Shared σ :=
  let (it, session) := d.session.iterate s
  { d with
    session
    engagements := d.engagements ++ [facing p it.token it.stage.part session.world.cancelled] }

/-- A part of a run comes to its end. A run that holds the agent frees it when nothing follows. -/
def finishPart (k : Nat) (e : Engagement σ) (x : PartEnd) (d : Shared σ) : Shared σ where
  session := if e.part.holds && !x.next.holds then d.session.released else d.session
  engagements := d.engagements.set k (facing p e.token x.next d.session.world.cancelled)
  done := d.done ++ [{ x with token := e.token, part := e.part, before := e.before }]

/-- A run does the next thing it has to do. -/
def go (k : Nat) (d : Shared σ) : Shared σ :=
  match d.engagements[k]? with
  | none => d
  | some e =>
    match e.rest.result? with
    | some x => d.finishPart p k e x
    | none =>
      let next := e.rest.advance { frame with slot := d.session.slot } d.session.world
      { d with
        session := { d.session with world := next.world }
        engagements := d.engagements.set k { e with rest := next.rest } }

/-- A run is dropped. -/
def drop (k : Nat) (d : Shared σ) : Shared σ :=
  match d.engagements[k]? with
  | none => d
  | some e =>
    { d with
      session := if e.part.holds then d.session.released else d.session
      engagements := d.engagements.set k (facing p e.token .ended d.session.world.cancelled) }

/-- What a move does. A run that is not let in returns at once. -/
def act (d : Shared σ) : Move σ → Shared σ
  | .run s => if d.session.slot.active then d else d.begin p s
  | .iterate s => d.begin p s
  | .go k => d.go p frame k
  | .drop k => d.drop p k
  | .cancel t => { d with session := d.session.cancel t }
  | .elsewhere f =>
    { d with session := { d.session with world := { f d.session.world with cancelled := d.session.world.cancelled } } }

/-- What moves do, one after another. -/
def after (d : Shared σ) (moves : List (Move σ)) : Shared σ := moves.foldl (fun d m => d.act p frame m) d

/-- Does the run of this number hold the agent? -/
def Holds (d : Shared σ) (k : Nat) : Prop := ∃ e, d.engagements[k]? = some e ∧ e.part.holds = true

/-! ## What can change -/

/-- The ways in which a move can change things. -/
inductive Change (d : Shared σ) : Move σ → Shared σ → Prop
  | nothing (m : Move σ) : Change d m d
  | begun (m : Move σ) (s : ExecutionState) : d.session.slot.active = false → Change d m
      ⟨⟨{ d.session.slot with active := true }, d.session.world⟩,
        d.engagements ++ [facing p d.session.slot.token (.starting s) d.session.world.cancelled], d.done⟩
  | refused (s : ExecutionState) : d.session.slot.active = true → Change d (.iterate s)
      ⟨d.session, d.engagements ++ [facing p d.session.slot.token .refused d.session.world.cancelled], d.done⟩
  | advanced (k : Nat) (e : Engagement σ) : d.engagements[k]? = some e → e.rest.result? = none → Change d (.go k)
      ⟨⟨d.session.slot, (e.rest.advance { frame with slot := d.session.slot } d.session.world).world⟩,
        d.engagements.set k
          { e with rest := (e.rest.advance { frame with slot := d.session.slot } d.session.world).rest }, d.done⟩
  | finished (k : Nat) (e : Engagement σ) (x : PartEnd) : d.engagements[k]? = some e → e.rest.result? = some x →
      Change d (.go k) (d.finishPart p k e x)
  | dropped (k : Nat) (e : Engagement σ) : d.engagements[k]? = some e → Change d (.drop k)
      ⟨if e.part.holds then d.session.released else d.session,
        d.engagements.set k (facing p e.token .ended d.session.world.cancelled), d.done⟩
  | outside (m : Move σ) (w : World σ) : d.session.world.cancelled <+: w.cancelled → (∀ k, m ≠ .go k ∧ m ≠ .drop k) →
      Change d m ⟨⟨d.session.slot, w⟩, d.engagements, d.done⟩

variable {p frame}

theorem begin_free {d : Shared σ} (s : ExecutionState) (free : d.session.slot.active = false) :
    d.begin p s = ⟨⟨{ d.session.slot with active := true }, d.session.world⟩,
      d.engagements ++ [facing p d.session.slot.token (.starting s) d.session.world.cancelled], d.done⟩ := by
  simp [begin, Session.iterate, Slot.acquire, free, Stage.part, Slot.token]

theorem begin_taken {d : Shared σ} (s : ExecutionState) (taken : d.session.slot.active = true) :
    d.begin p s =
      ⟨d.session, d.engagements ++ [facing p d.session.slot.token .refused d.session.world.cancelled], d.done⟩ := by
  simp [begin, Session.iterate, Slot.acquire, taken, Stage.part]

theorem act_go_advance {d : Shared σ} {k : Nat} {e : Engagement σ} (mem : d.engagements[k]? = some e)
    (result : e.rest.result? = none) :
    d.act p frame (.go k) =
      ⟨⟨d.session.slot, (e.rest.advance { frame with slot := d.session.slot } d.session.world).world⟩,
        d.engagements.set k
          { e with rest := (e.rest.advance { frame with slot := d.session.slot } d.session.world).rest }, d.done⟩ := by
  simp only [act, go, mem, result]

theorem act_go_finish {d : Shared σ} {k : Nat} {e : Engagement σ} {x : PartEnd} (mem : d.engagements[k]? = some e)
    (result : e.rest.result? = some x) : d.act p frame (.go k) = d.finishPart p k e x := by
  simp only [act, go, mem, result]

theorem act_drop {d : Shared σ} {k : Nat} {e : Engagement σ} (mem : d.engagements[k]? = some e) :
    d.act p frame (.drop k) =
      ⟨if e.part.holds then d.session.released else d.session,
        d.engagements.set k (facing p e.token .ended d.session.world.cancelled), d.done⟩ := by
  simp only [act, drop, mem]

/-- A move changes things in one of the ways. -/
theorem change_act (d : Shared σ) (m : Move σ) : Change p frame d m (d.act p frame m) := by
  cases m with
  | run s =>
    cases active : d.session.slot.active with
    | true =>
      simp only [act, active, if_true]
      exact .nothing _
    | false =>
      simp only [act, active, begin_free s active]
      exact .begun _ s active
  | iterate s =>
    cases active : d.session.slot.active with
    | true =>
      simp only [act, begin_taken s active]
      exact .refused s active
    | false =>
      simp only [act, begin_free s active]
      exact .begun _ s active
  | go k =>
    cases mem : d.engagements[k]? with
    | none =>
      simp only [act, go, mem]
      exact .nothing _
    | some e =>
      cases result : e.rest.result? with
      | none => exact act_go_advance mem result ▸ .advanced k e mem result
      | some x => exact act_go_finish mem result ▸ .finished k e x mem result
  | drop k =>
    cases mem : d.engagements[k]? with
    | none =>
      simp only [act, drop, mem]
      exact .nothing _
    | some e => exact act_drop mem ▸ .dropped k e mem
  | cancel t => exact .outside _ _ (List.prefix_append _ _) (by simp)
  | elsewhere f => exact .outside _ _ (List.prefix_refl _) (by simp)

/-- What holds of all runs, after one of them has changed. -/
theorem forall_set {P : Engagement σ → Prop} {es : List (Engagement σ)} {k : Nat} {a : Engagement σ}
    (all : ∀ e ∈ es, P e) (new : P a) : ∀ e ∈ es.set k a, P e := fun e mem => by
  rcases List.mem_or_eq_of_mem_set mem with mem | rfl
  · exact all e mem
  · exact new

/-- What holds of all runs, after another one was begun. -/
theorem forall_append {P : Engagement σ → Prop} {es : List (Engagement σ)} {a : Engagement σ}
    (all : ∀ e ∈ es, P e) (new : P a) : ∀ e ∈ es ++ [a], P e :=
  List.forall_mem_append.2 ⟨all, List.forall_mem_singleton.2 new⟩

end Shared

/-! ## One run at a time -/

/-- The slot is taken exactly if a run holds the agent; it is the only one, and the slot's token ends it. -/
inductive Held {σ : Type} (slot : Slot) (es : List (Engagement σ)) : Prop
  | free : slot.active = false → (∀ e ∈ es, e.part.holds = false) → Held slot es
  | taken (k : Nat) (e : Engagement σ) : slot.active = true → es[k]? = some e → e.part.holds = true →
      e.token = slot.token → (∀ i e', es[i]? = some e' → e'.part.holds = true → i = k) → Held slot es

namespace Held

variable {σ : Type} {slot slot' : Slot} {es : List (Engagement σ)} {k : Nat} {e a : Engagement σ}

/-- The runs after one of them has changed. -/
theorem getElem?_set {i : Nat} (mem : es[k]? = some e) :
    (es.set k a)[i]? = if i = k then some a else es[i]? := by
  have inside : k < es.length := (List.getElem?_eq_some_iff.1 mem).1
  rw [List.getElem?_set]
  by_cases same : k = i
  · simp [same, same ▸ inside]
  · simp [same, Ne.symm same]

/-- The runs after another one was begun. -/
theorem of_getElem?_append {i : Nat} (mem : (es ++ [a])[i]? = some e) :
    es[i]? = some e ∨ (i = es.length ∧ e = a) := by
  rcases Nat.lt_trichotomy i es.length with inside | rfl | beyond
  · exact .inl (List.getElem?_append_left inside ▸ mem)
  · exact .inr ⟨rfl, by simpa using mem.symm⟩
  · rw [List.getElem?_eq_none (by simp; omega)] at mem
    cases mem

/-- A run that holds the agent: the slot is taken, and its token ends the run. -/
theorem of_holds (h : Held slot es) (mem : es[k]? = some e) (holds : e.part.holds = true) :
    slot.active = true ∧ e.token = slot.token := by
  cases h with
  | free _ none => simp [none e (List.mem_of_getElem? mem)] at holds
  | taken k' e' active mem' _ token only =>
    obtain rfl : k = k' := only k e mem holds
    obtain rfl : e = e' := Option.some.inj (mem.symm.trans mem')
    exact ⟨active, token⟩

/-- There is no other run that holds the agent. -/
theorem unique (h : Held slot es) {i j : Nat} {e' : Engagement σ} (first : es[i]? = some e)
    (holds : e.part.holds = true) (second : es[j]? = some e') (holds' : e'.part.holds = true) : i = j := by
  cases h with
  | free _ none => simp [none e (List.mem_of_getElem? first)] at holds
  | taken k _ _ _ _ _ only => exact (only i e first holds).trans (only j e' second holds').symm

theorem active_iff (h : Held slot es) :
    slot.active = true ↔ ∃ (k : Nat) (e : Engagement σ), es[k]? = some e ∧ e.part.holds = true := by
  refine ⟨fun active => ?_, fun ⟨_, _, mem, holds⟩ => (h.of_holds mem holds).1⟩
  cases h with
  | free idle _ => simp [idle] at active
  | taken k e _ mem holds _ _ => exact ⟨k, e, mem, holds⟩

/-- A run that is not let in changes nothing. -/
theorem append (h : Held slot es) (idle : a.part.holds = false) : Held slot (es ++ [a]) := by
  cases h with
  | free active none => exact .free active (Shared.forall_append none idle)
  | taken k e active mem holds token only =>
    have inside : k < es.length := (List.getElem?_eq_some_iff.1 mem).1
    refine .taken k e active (by rw [List.getElem?_append_left inside, mem]) holds token fun i e' mem' holds' => ?_
    rcases of_getElem?_append mem' with mem' | ⟨-, rfl⟩
    · exact only i e' mem' holds'
    · simp [idle] at holds'

/-- A run that is let in holds the agent. -/
theorem push (h : Held slot es) (free : slot.active = false) (taken : slot'.active = true)
    (holds : a.part.holds = true) (token : a.token = slot'.token) : Held slot' (es ++ [a]) := by
  cases h with
  | taken _ _ active => simp [free] at active
  | free _ none =>
    refine .taken es.length a taken (by simp) holds token fun i e' mem' holds' => ?_
    rcases of_getElem?_append mem' with mem' | ⟨rfl, -⟩
    · simp [none e' (List.mem_of_getElem? mem')] at holds'
    · rfl

/-- A run goes on and holds what it held. -/
theorem set (h : Held slot es) (mem : es[k]? = some e) (holds : a.part.holds = e.part.holds)
    (token : a.token = e.token) : Held slot (es.set k a) := by
  cases h with
  | free active none =>
    exact .free active (Shared.forall_set none (holds.trans (none e (List.mem_of_getElem? mem))))
  | taken j e' active mem' holds' token' only =>
    have others (i : Nat) (e'' : Engagement σ) (mem'' : (es.set k a)[i]? = some e'') (holds'' : e''.part.holds = true) :
        i = j := by
      rw [getElem?_set mem] at mem''
      split at mem''
      · obtain rfl : a = e'' := Option.some.inj mem''
        exact only i e (by rw [‹i = k›, mem]) (holds ▸ holds'')
      · exact only i e'' mem'' holds''
    by_cases same : j = k
    · obtain rfl : e' = e := Option.some.inj (mem'.symm.trans (same ▸ mem))
      exact .taken j a active (by rw [getElem?_set mem, if_pos same]) (holds.trans holds') (token.trans token') others
    · exact .taken j e' active (by rw [getElem?_set mem, if_neg same, mem']) holds' token' others

/-- The run that holds the agent ends. -/
theorem leave (h : Held slot es) (mem : es[k]? = some e) (holds : e.part.holds = true) (idle : a.part.holds = false)
    (free : slot'.active = false) : Held slot' (es.set k a) := by
  refine .free free fun e' mem' => ?_
  obtain ⟨i, at'⟩ := List.mem_iff_getElem?.1 mem'
  rw [getElem?_set mem] at at'
  split at at'
  · rw [← Option.some.inj at', idle]
  · exact Bool.eq_false_iff.2 fun holds' => absurd (h.unique at' holds' mem holds) ‹_›

end Held

/-- A run of an agent between two moves. -/
structure Engagement.Sound {σ : Type} (p : Pipeline σ) (e : Engagement σ) : Prop where
  /-- Its part comes to one of its ends. -/
  leads : e.rest.Surely (fun _ _ => True) e.part.LeadsTo
  /-- If it does not hold the agent, then nothing but this end is left of its part. -/
  idle : e.part.holds = false → e.rest = p.part e.token e.part

namespace Shared

variable {σ : Type} {p : Pipeline σ} {frame : Frame} {d d' : Shared σ} {m : Move σ} {k : Nat} {e : Engagement σ}

/-- What holds between any two moves. -/
structure Consistent (p : Pipeline σ) (d : Shared σ) : Prop where
  held : Held d.session.slot d.engagements
  sound : ∀ e ∈ d.engagements, e.Sound p

theorem sound_facing (token : Token) (part : Part) (cancelled : List Token) :
    (facing p token part cancelled).Sound p :=
  ⟨p.surely_part token part, fun _ => rfl⟩

theorem consistent_fresh (current : Nat) (w : World σ) : (fresh current w).Consistent p :=
  ⟨.free rfl (by simp [fresh]), by simp [fresh]⟩

/-- What is left of the part of a run that does not hold the agent. -/
theorem Consistent.result_idle (h : d.Consistent p) (mem : d.engagements[k]? = some e) (idle : e.part.holds = false) :
    ∃ x, e.rest.result? = some x ∧ x.next.holds = false := by
  rw [(h.sound e (List.mem_of_getElem? mem)).idle idle]
  cases part : e.part with
  | refused | ended => exact ⟨_, rfl, rfl⟩
  | _ => simp [part, Part.holds] at idle

/-- The end of a part is one that it may come to. -/
theorem Consistent.leads (h : d.Consistent p) (mem : d.engagements[k]? = some e) {x : PartEnd}
    (result : e.rest.result? = some x) : e.part.LeadsTo x :=
  (h.sound e (List.mem_of_getElem? mem)).leads.result result

/-- Every move keeps this. -/
theorem Consistent.change (h : d.Consistent p) (change : Change p frame d m d') : d'.Consistent p := by
  cases change with
  | nothing => exact h
  | begun _ s free => exact ⟨h.held.push free rfl rfl rfl, forall_append h.sound (sound_facing ..)⟩
  | refused s taken => exact ⟨h.held.append rfl, forall_append h.sound (sound_facing ..)⟩
  | advanced k e mem result =>
    have sound := h.sound e (List.mem_of_getElem? mem)
    refine ⟨h.held.set mem rfl rfl, forall_set h.sound ⟨sound.leads.advance _ _ fun _ => trivial, fun idle => ?_⟩⟩
    obtain ⟨x, result', -⟩ := h.result_idle mem idle
    rw [result] at result'
    cases result'
  | finished k e x mem result =>
    refine ⟨?_, forall_set h.sound (sound_facing ..)⟩
    have next := (h.leads mem result).holds_next
    unfold finishPart
    by_cases leaves : (e.part.holds && !x.next.holds) = true
    · obtain ⟨holds, ends⟩ : e.part.holds = true ∧ x.next.holds = false := by simpa using leaves
      simp only [leaves, if_true]
      exact h.held.leave mem holds ends rfl
    · have same : x.next.holds = e.part.holds := by
        cases holds : e.part.holds <;> cases holds' : x.next.holds <;> simp_all
      simp only [leaves]
      exact h.held.set mem same rfl
  | dropped k e mem =>
    refine ⟨?_, forall_set h.sound (sound_facing ..)⟩
    cases holds : e.part.holds with
    | true => exact h.held.leave mem holds rfl rfl
    | false => exact h.held.set mem holds.symm rfl
  | outside _ w grows _ => exact ⟨h.held, h.sound⟩

theorem Consistent.act (h : d.Consistent p) (m : Move σ) : (d.act p frame m).Consistent p := h.change (change_act d m)

theorem Consistent.after (h : d.Consistent p) (moves : List (Move σ)) : (d.after p frame moves).Consistent p := by
  induction moves generalizing d with
  | nil => exact h
  | cons m rest ih => exact ih (h.act m)

/-- The last item of a run is given: what it returns, or its error. -/
def GivesLast (d d' : Shared σ) : Prop := ∃ x, d'.done = d.done ++ [x] ∧ x.part.IsLast x.toPartEnd

/-- A run that was set to something that holds the agent. -/
theorem holds_set {session : Session σ} {done : List PartDone} {a : Engagement σ} (mem : d.engagements[k]? = some e)
    (holds : a.part.holds = true) : Holds ⟨session, d.engagements.set k a, done⟩ k :=
  ⟨a, by simp only [Held.getElem?_set mem, if_true], holds⟩

theorem givesLast_finishPart {x : PartEnd} : d.GivesLast (d.finishPart p k e x) ↔ e.part.IsLast x := by
  refine ⟨fun ⟨y, done, last⟩ => ?_, fun last => ⟨_, rfl, last⟩⟩
  obtain rfl : _ = y := by simpa [finishPart] using done
  exact last

/-- The run that holds the agent frees it with its last item; until then the slot stays as it is. -/
theorem Consistent.slot_go (h : d.Consistent p) (holds : d.Holds k) :
    (d.GivesLast (d.act p frame (.go k)) → (d.act p frame (.go k)).session.slot.active = false) ∧
      (¬d.GivesLast (d.act p frame (.go k)) →
        (d.act p frame (.go k)).session.slot = d.session.slot ∧ (d.act p frame (.go k)).Holds k) := by
  obtain ⟨e, mem, held⟩ := holds
  cases result : e.rest.result? with
  | none =>
    rw [act_go_advance mem result]
    exact ⟨fun ⟨x, done, _⟩ => by simp at done, fun _ => ⟨rfl, holds_set mem held⟩⟩
  | some x =>
    have leads := (h.leads mem result).holds_next
    rw [act_go_finish mem result, givesLast_finishPart]
    constructor
    · intro last
      have ends : x.next.holds = false := Bool.eq_false_iff.2 fun goes => (leads.1 goes).2 last
      simp only [finishPart, held, ends, Bool.not_false, Bool.and_true, if_true]
      rfl
    · intro notLast
      have goes : x.next.holds = true := leads.2 ⟨held, notLast⟩
      refine ⟨?_, holds_set mem goes⟩
      simp only [finishPart, goes, Bool.not_true, Bool.and_false]
      rfl

/-- Dropping the run that holds the agent frees it. -/
theorem active_drop (holds : d.Holds k) : (d.act p frame (.drop k)).session.slot.active = false := by
  obtain ⟨e, mem, held⟩ := holds
  rw [act_drop mem, if_pos held]
  rfl

/-- What does not hold the agent does nothing to it. -/
theorem Consistent.session_of_not_holds (h : d.Consistent p) (idle : ¬d.Holds k) :
    (d.act p frame (.go k)).session = d.session ∧ (d.act p frame (.drop k)).session = d.session := by
  cases mem : d.engagements[k]? with
  | none => exact ⟨by simp only [Shared.act, go, mem], by simp only [Shared.act, Shared.drop, mem]⟩
  | some e =>
    have out : e.part.holds = false := Bool.eq_false_iff.2 fun holds => idle ⟨e, mem, holds⟩
    obtain ⟨x, result, -⟩ := h.result_idle mem out
    rw [act_go_finish mem result, act_drop mem, finishPart, out]
    exact ⟨rfl, rfl⟩

/-- A run that is let in holds the agent. -/
theorem holds_begin (s : ExecutionState) (free : d.session.slot.active = false) :
    (d.begin p s).Holds d.engagements.length := by
  rw [begin_free s free]
  exact ⟨_, by rw [List.getElem?_append_right (Nat.le_refl _), Nat.sub_self]; rfl, rfl⟩

/-- Whatever was done through an agent and its clones: the slot is taken exactly if a run holds the agent, and never two
do. While it is taken, runs are refused and nothing else changes; while it is free, the next run is let in. It is free
as soon as the run that holds it has been dropped or has given its last item, and no other run frees it. -/
theorem one_run_at_a_time (p : Pipeline σ) (frame : Frame) (current : Nat) (w : World σ) (moves : List (Move σ)) :
    let d := (fresh current w).after p frame moves
    ((d.session.slot.active = true ↔ ∃ k, d.Holds k) ∧ ∀ i j, d.Holds i → d.Holds j → i = j) ∧
      (d.session.slot.active = true → ∀ s,
        (∀ rounds, d.session.run p frame rounds s = (some (.error .reentrantRun), d.session, [])) ∧
          d.act p frame (.run s) = d ∧
          d.session.iterate s = (⟨.refused, d.session.slot.token⟩, d.session) ∧
          (∀ token, d.session.pull p frame ⟨.refused, token⟩ =
            (some (.error .reentrantRun), ⟨.ended, token⟩, d.session, [])) ∧
          d.act p frame (.iterate s) =
            ⟨d.session, d.engagements ++ [facing p d.session.slot.token .refused d.session.world.cancelled], d.done⟩) ∧
      (d.session.slot.active = false → ∀ s, (d.act p frame (.run s)).Holds d.engagements.length ∧
        (d.act p frame (.iterate s)).Holds d.engagements.length) ∧
      (∀ k, d.Holds k → (d.act p frame (.drop k)).session.slot.active = false ∧
        (d.GivesLast (d.act p frame (.go k)) → (d.act p frame (.go k)).session.slot.active = false) ∧
        (¬d.GivesLast (d.act p frame (.go k)) →
          (d.act p frame (.go k)).session.slot = d.session.slot ∧ (d.act p frame (.go k)).Holds k)) ∧
      ∀ k, ¬d.Holds k →
        (d.act p frame (.go k)).session = d.session ∧ (d.act p frame (.drop k)).session = d.session := by
  intro d
  have h : d.Consistent p := (consistent_fresh current w).after moves
  refine ⟨⟨h.held.active_iff, fun i j hi hj => ?_⟩, fun taken s => ?_, fun free s => ?_, fun k holds => ?_,
    fun k idle => h.session_of_not_holds idle⟩
  · obtain ⟨e, mem, holds⟩ := hi
    obtain ⟨e', mem', holds'⟩ := hj
    exact h.held.unique mem holds mem' holds'
  · have refused : d.session.slot.acquire = none := by simp [Slot.acquire, taken]
    refine ⟨fun rounds => ?_, ?_, ?_, fun token => rfl, begin_taken s taken⟩
    · simp only [Session.run, refused]
    · simp only [act, taken, if_true]
    · simp only [Session.iterate, refused]
  · simp only [act, free]
    exact ⟨holds_begin s free, holds_begin s free⟩
  · exact ⟨active_drop holds, h.slot_go holds⟩

end Shared

end AgentLoop
