import AgentLoop.Proofs.Agent.Sharing

/-!
# Which runs a cancellation ends

- `Slot.release`: when a run ends, a token that was cancelled is replaced by one that nobody has cancelled
  (`not_isCancelled_release`), and run numbers only grow (`current_le_release`);
- `Engagement.Watched`: a continuation check stops a run whose token was cancelled before the check began, and no run
  whose token is not cancelled when it ends. This holds between any two moves;
- `Shared.Settled`: what holds of the checks that have ended. Runs that were stopped have different tokens, because the
  tokens of those that are over have smaller numbers than the slot's token;
- `Shared.cancellation_ends_one_run`: all of this after any moves.
-/

namespace AgentLoop

/-! ## Tokens -/

namespace Token

variable {t : Token} {cancelled : List Token}

/-- The numbers beyond all that was cancelled are beyond each. -/
theorem next_le_beyond (mem : t ∈ cancelled) : t.next ≤ beyond cancelled := by
  have largest (ns : List Nat) (start n : Nat) (inside : n ≤ start ∨ n ∈ ns) : n ≤ ns.foldl max start := by
    induction ns generalizing start with
    | nil => exact inside.resolve_right List.not_mem_nil
    | cons m rest ih =>
      refine ih _ ?_
      rcases inside with small | mem
      · exact .inl (Nat.le_trans small (Nat.le_max_left _ _))
      · rcases List.mem_cons.1 mem with rfl | mem
        · exact .inl (Nat.le_max_right _ _)
        · exact .inr mem
  exact largest _ 0 _ (.inr (List.mem_map_of_mem mem))

end Token

namespace Slot

variable {slot : Slot} {cancelled : List Token}

theorem current_le_release : slot.current ≤ (slot.release cancelled).current := by
  unfold release
  split
  · exact Nat.le_trans (Nat.le_succ _) (Nat.le_max_left _ _)
  · exact Nat.le_refl _

/-- A token that was cancelled is replaced. -/
theorem current_lt_release (h : slot.token.isCancelled cancelled = true) :
    slot.current < (slot.release cancelled).current := by
  simp only [release, h, if_true]
  exact Nat.le_max_left _ _

/-- When a run has ended, the token of the next one is not cancelled unless every run is. -/
theorem not_isCancelled_release (h : (slot.release cancelled).token.isCancelled cancelled = true) :
    Token.all ∈ cancelled := by
  refine (Token.isCancelled_iff.1 h).resolve_left fun mem => ?_
  by_cases old : slot.token.isCancelled cancelled = true
  · have small := Token.next_le_beyond mem
    rw [release, if_pos old] at small
    exact absurd (Nat.le_trans small (Nat.le_max_right _ _)) (Nat.not_succ_le_self _)
  · rw [release, if_neg old] at mem
    exact old (Token.isCancelled_iff.2 (.inl mem))

end Slot

/-! ## Checks -/

/-- A run was stopped at a step boundary because it was cancelled. -/
def PartDone.Stopped (x : PartDone) : Prop :=
  ∃ s, s.isTerminal = false ∧ x.part = .checking s ∧ x.next = .finishing (s.completed .cancelled)

/-- What the token means for a check in progress, given all that was cancelled. -/
structure Engagement.Watched {σ : Type} (cancelled : List Token) (e : Engagement σ) : Prop where
  grown : e.before <+: cancelled
  stops : ∀ s, e.part = .checking s → s.isTerminal = false → e.token.isCancelled e.before = true →
    e.rest.Surely (fun t b => t = e.token → b = true) fun x => x.next = .finishing (s.completed .cancelled)
  goesOn : ∀ s, e.part = .checking s → s.isTerminal = false → e.token.isCancelled cancelled = false →
    e.rest.Surely (fun t b => t = e.token → b = false) fun x => x.next ≠ .finishing (s.completed .cancelled)

namespace Engagement.Watched

variable {σ : Type} {e : Engagement σ} {cancelled cancelled' : List Token}

theorem mono (h : e.Watched cancelled) (grows : cancelled <+: cancelled') : e.Watched cancelled' :=
  ⟨h.grown.trans grows, h.stops, fun s part running valid =>
    h.goesOn s part running (Token.not_isCancelled_mono grows valid)⟩

theorem facing (p : Pipeline σ) (token : Token) (part : Part) (cancelled : List Token) :
    (Shared.facing p token part cancelled).Watched cancelled where
  grown := List.prefix_refl _
  stops s checking running _ := by
    obtain rfl : part = .checking s := checking
    have decided : (p.continuation token s).Surely (fun t b => t = token → b = true) fun c =>
        c = .stop (s.completed .cancelled) :=
      p.surely_continuation (fun terminal => by simp [running] at terminal) (fun _ _ => rfl)
        (fun _ _ _ valid => by simp at valid) (fun _ valid => by simp at valid)
    refine decided.bind fun c stops => ?_
    rw [stops]
    exact rfl
  goesOn s checking running _ := by
    obtain rfl : part = .checking s := checking
    have decided : (p.continuation token s).Surely (fun t b => t = token → b = false) fun c =>
        c ≠ .stop (s.completed .cancelled) :=
      p.surely_continuation (fun terminal => by simp [running] at terminal) (fun _ cancelled => by simp at cancelled)
        (fun reason other _ _ same => by
          injection same with same
          exact other (Option.some.inj (congrArg ExecutionState.termination same)))
        (fun _ _ => nofun)
    refine decided.bind fun c stops => ?_
    cases c with
    | stop t => exact fun same => stops (by injection same with same; rw [same])
    | proceed t => exact nofun

/-- A check in progress does the next thing it has to do. -/
theorem advance (h : e.Watched cancelled) (frame : Frame) (w : World σ) (now : w.cancelled = cancelled) :
    Watched (e.rest.advance frame w).world.cancelled { e with rest := (e.rest.advance frame w).rest } := by
  have grows := e.rest.cancelled_advance frame w
  subst now
  refine ⟨h.grown.trans grows, fun s part running cancelled => ?_, fun s part running valid => ?_⟩
  · exact (h.stops s part running cancelled).advance frame w fun t same => by
      rw [same]
      exact Token.isCancelled_mono h.grown cancelled
  · have validBefore := Token.not_isCancelled_mono grows valid
    exact (h.goesOn s part running validBefore).advance frame w fun t same => by rw [same, validBefore]

end Engagement.Watched

/-! ## Runs that were stopped -/

namespace Shared

variable {σ : Type} {p : Pipeline σ} {frame : Frame} {d d' : Shared σ} {m : Move σ}

/-- What a check has come to, given all that was cancelled. -/
structure Checked (cancelled : List Token) (x : PartDone) : Prop where
  leads : x.part.LeadsTo x.toPartEnd
  /-- A run whose token was cancelled before the check is stopped. -/
  stops : ∀ s, x.part = .checking s → s.isTerminal = false → x.token.isCancelled x.before = true → x.Stopped
  /-- The token of a run that was stopped is cancelled. -/
  stopped : x.Stopped → x.token.isCancelled cancelled = true

/-- A token of a run that was stopped: the slot has gone on to a later one, or will when that run has finished. -/
def Spent (slot : Slot) (es : List (Engagement σ)) (t : Token) : Prop :=
  ∃ n, t = .run n ∧
    (n < slot.current ∨ n = slot.current ∧ ∃ (k : Nat) (e : Engagement σ) (s : ExecutionState),
      es[k]? = some e ∧ e.part = .finishing s)

/-- What holds of the checks that have ended, between any two moves. -/
structure Settled (p : Pipeline σ) (d : Shared σ) : Prop where
  consistent : d.Consistent p
  watched : ∀ e ∈ d.engagements, e.Watched d.session.world.cancelled
  checked : ∀ x ∈ d.done, Checked d.session.world.cancelled x
  spent : ∀ x ∈ d.done, x.Stopped → Spent d.session.slot d.engagements x.token
  apart : d.done.Pairwise fun x y => x.Stopped → y.Stopped → x.token ≠ y.token

theorem settled_fresh (current : Nat) (w : World σ) : (fresh current w).Settled p :=
  ⟨consistent_fresh current w, by simp [fresh], by simp [fresh], by simp [fresh], .nil⟩

theorem Checked.mono {cancelled cancelled' : List Token} {x : PartDone} (h : Checked cancelled x)
    (grows : cancelled <+: cancelled') : Checked cancelled' x :=
  ⟨h.leads, h.stops, fun stopped => Token.isCancelled_mono grows (h.stopped stopped)⟩

namespace Spent

variable {slot slot' : Slot} {es : List (Engagement σ)} {t : Token} {k : Nat} {e a : Engagement σ}
  {cancelled : List Token}

theorem append (h : Spent slot es t) (same : slot'.current = slot.current) : Spent slot' (es ++ [a]) t := by
  obtain ⟨n, rfl, earlier | ⟨rfl, k, e, s, mem, part⟩⟩ := h
  · exact ⟨n, rfl, .inl (same ▸ earlier)⟩
  · have inside : k < es.length := (List.getElem?_eq_some_iff.1 mem).1
    exact ⟨_, rfl, .inr ⟨same.symm, k, e, s, by rw [List.getElem?_append_left inside, mem], part⟩⟩

/-- A run goes on; it is not one that was finishing. -/
theorem set (h : Spent slot es t) (mem : es[k]? = some e) (goes : ∀ s, e.part = .finishing s → a.part = .finishing s) :
    Spent slot (es.set k a) t := by
  obtain ⟨n, rfl, earlier | ⟨rfl, j, e', s, mem', part⟩⟩ := h
  · exact ⟨n, rfl, .inl earlier⟩
  · refine ⟨_, rfl, .inr ⟨rfl, j, ?_⟩⟩
    simp only [Held.getElem?_set mem]
    by_cases same : j = k
    · obtain rfl : e' = e := Option.some.inj (mem'.symm.trans (same ▸ mem))
      exact ⟨a, s, by rw [if_pos same], goes s part⟩
    · exact ⟨e', s, by rw [if_neg same, mem'], part⟩

/-- The slot is freed: a token that was cancelled is replaced. -/
theorem release (h : Spent slot es t) (cancelled' : t.isCancelled cancelled = true) :
    Spent (slot.release cancelled) (es.set k a) t := by
  obtain ⟨n, rfl, earlier | ⟨rfl, -⟩⟩ := h
  · exact ⟨n, rfl, .inl (Nat.lt_of_lt_of_le earlier Slot.current_le_release)⟩
  · exact ⟨_, rfl, .inl (Slot.current_lt_release cancelled')⟩

end Spent

@[simp] theorem world_finishPart {k : Nat} {e : Engagement σ} {x : PartEnd} :
    (d.finishPart p k e x).session.world = d.session.world := by
  unfold finishPart
  split <;> rfl

/-- A run that is at a check has another token than the runs that were stopped. -/
theorem Spent.ne_of_checking {t : Token} {k : Nat} {e : Engagement σ} {s : ExecutionState}
    (h : Spent d.session.slot d.engagements t) (held : Held d.session.slot d.engagements)
    (mem : d.engagements[k]? = some e) (part : e.part = .checking s) : t ≠ e.token := by
  have holds : e.part.holds = true := by rw [part, Part.holds]
  rw [(held.of_holds mem holds).2]
  obtain ⟨n, rfl, earlier | ⟨-, j, e', s', mem', part'⟩⟩ := h
  · exact fun same => Nat.ne_of_lt earlier (Token.run.inj same)
  · have holds' : e'.part.holds = true := by rw [part', Part.holds]
    obtain rfl : k = j := held.unique mem holds mem' holds'
    obtain rfl : e = e' := Option.some.inj (mem.symm.trans mem')
    rw [part] at part'
    cases part'

/-- The end of a part keeps what holds of the checks. -/
theorem Settled.finishPart {k : Nat} {e : Engagement σ} {x : PartEnd} (h : d.Settled p)
    (mem : d.engagements[k]? = some e) (result : e.rest.result? = some x)
    (next : (d.finishPart p k e x).Consistent p) : (d.finishPart p k e x).Settled p := by
  have leads := h.consistent.leads mem result
  have watched := h.watched e (List.mem_of_getElem? mem)
  let y : PartDone := { x with token := e.token, part := e.part, before := e.before }
  have checked : Checked d.session.world.cancelled y := by
    refine ⟨leads, fun s part running cancelled =>
      ⟨s, running, part, (watched.stops s part running cancelled).result result⟩,
      fun ⟨s, running, part, stopped⟩ => ?_⟩
    refine Decidable.byContradiction fun valid => ?_
    exact (watched.goesOn s part running (Bool.eq_false_iff.2 valid)).result result stopped
  have spent : ∀ x' ∈ d.done ++ [y], x'.Stopped →
      Spent (d.finishPart p k e x).session.slot (d.finishPart p k e x).engagements x'.token := by
    intro x' mem' stopped
    unfold Shared.finishPart
    rcases List.mem_append.1 mem' with old | new
    · by_cases leaves : (e.part.holds && !x.next.holds) = true
      · rw [if_pos leaves]
        exact (h.spent x' old stopped).release ((h.checked x' old).stopped stopped)
      · rw [if_neg leaves]
        refine (h.spent x' old stopped).set mem fun s part => ?_
        rw [part] at leads leaves
        cases leads
        exact absurd rfl leaves
    · obtain rfl : x' = y := List.mem_singleton.1 new
      obtain ⟨s, -, part, stops⟩ := stopped
      have holds : e.part.holds = true := by rw [show e.part = _ from part, Part.holds]
      have goes : x.next.holds = true := by rw [show x.next = _ from stops, Part.holds]
      have kept : ¬(e.part.holds && !x.next.holds) = true := by simp [goes]
      rw [if_neg kept]
      exact ⟨_, (h.consistent.held.of_holds mem holds).2, .inr ⟨rfl, k, _, _,
        by rw [Held.getElem?_set mem, if_pos rfl], stops⟩⟩
  refine ⟨next, ?_, ?_, spent, ?_⟩
  · rw [world_finishPart]
    exact forall_set h.watched (.facing ..)
  · rw [world_finishPart]
    exact List.forall_mem_append.2 ⟨h.checked, List.forall_mem_singleton.2 checked⟩
  · refine List.pairwise_append.2 ⟨h.apart, List.pairwise_singleton .., fun x' mem' y' memY stopped stoppedY => ?_⟩
    obtain rfl : y' = y := List.mem_singleton.1 memY
    obtain ⟨s, -, part, -⟩ := stoppedY
    exact (h.spent x' mem' stopped).ne_of_checking h.consistent.held mem part

/-- Every move keeps what holds of the checks. -/
theorem Settled.change (h : d.Settled p) (change : Change p frame d m d') : d'.Settled p := by
  have next := h.consistent.change change
  cases change with
  | nothing => exact h
  | begun _ s free =>
    exact ⟨next, forall_append h.watched (.facing ..), h.checked,
      fun x mem stopped => (h.spent x mem stopped).append rfl, h.apart⟩
  | refused s taken =>
    exact ⟨next, forall_append h.watched (.facing ..), h.checked,
      fun x mem stopped => (h.spent x mem stopped).append rfl, h.apart⟩
  | advanced k e mem result =>
    have grows := e.rest.cancelled_advance { frame with slot := d.session.slot } d.session.world
    have watched := (h.watched e (List.mem_of_getElem? mem)).advance { frame with slot := d.session.slot } _ rfl
    exact ⟨next, forall_set (fun e' mem' => (h.watched e' mem').mono grows) watched,
      fun x mem => (h.checked x mem).mono grows,
      fun x mem' stopped => (h.spent x mem' stopped).set mem fun _ part => part, h.apart⟩
  | finished k e x mem result => exact h.finishPart mem result next
  | dropped k e mem =>
    cases holds : e.part.holds with
    | true =>
      rw [holds] at next
      exact ⟨next, forall_set h.watched (.facing ..), h.checked,
        fun x mem' stopped => (h.spent x mem' stopped).release ((h.checked x mem').stopped stopped), h.apart⟩
    | false =>
      rw [holds] at next
      exact ⟨next, forall_set h.watched (.facing ..), h.checked,
        fun x mem' stopped => (h.spent x mem' stopped).set mem fun s part => by simp [part, Part.holds] at holds,
        h.apart⟩
  | outside _ w grows _ =>
    exact ⟨next, fun e mem => (h.watched e mem).mono grows, fun x mem => (h.checked x mem).mono grows, h.spent,
      h.apart⟩

theorem Settled.act (h : d.Settled p) (m : Move σ) : (d.act p frame m).Settled p := h.change (change_act d m)

theorem Settled.after (h : d.Settled p) (moves : List (Move σ)) : (d.after p frame moves).Settled p := by
  induction moves generalizing d with
  | nil => exact h
  | cons m rest ih => exact ih (h.act m)

/-- A run keeps its token. -/
theorem token_change {k : Nat} {e : Engagement σ} (change : Change p frame d m d') (mem : d.engagements[k]? = some e) :
    ∃ e' : Engagement σ, d'.engagements[k]? = some e' ∧ e'.token = e.token := by
  have inside : k < d.engagements.length := (List.getElem?_eq_some_iff.1 mem).1
  have set {i : Nat} {e₀ a : Engagement σ} (mem₀ : d.engagements[i]? = some e₀) (same : a.token = e₀.token) :
      ∃ e' : Engagement σ, (d.engagements.set i a)[k]? = some e' ∧ e'.token = e.token := by
    simp only [Held.getElem?_set mem₀]
    by_cases at' : k = i
    · obtain rfl : e = e₀ := Option.some.inj (mem.symm.trans (at' ▸ mem₀))
      exact ⟨a, by rw [if_pos at'], same⟩
    · exact ⟨e, by rw [if_neg at', mem], rfl⟩
  cases change with
  | nothing | outside => exact ⟨e, mem, rfl⟩
  | begun | refused => exact ⟨e, by rw [List.getElem?_append_left inside, mem], rfl⟩
  | advanced i e₀ mem₀ _ | finished i e₀ _ mem₀ _ | dropped i e₀ mem₀ => exact set mem₀ rfl

/-- When a run has ended, the agent's token is not cancelled unless every run is. -/
theorem not_isCancelled_of_free (change : Change p frame d m d') (taken : d.session.slot.active = true)
    (free : d'.session.slot.active = false) (cancelled : d'.session.isCancelled = true) :
    Token.all ∈ d'.session.world.cancelled := by
  have released (leaves : Bool) (same : d'.session = if leaves then d.session.released else d.session) :
      Token.all ∈ d'.session.world.cancelled := by
    cases leaves with
    | true =>
      rw [same] at cancelled ⊢
      exact Slot.not_isCancelled_release cancelled
    | false =>
      rw [same] at free
      simp [taken] at free
  cases change with
  | nothing | refused | advanced | outside => simp [taken] at free
  | begun => simp at free
  | finished => exact released _ rfl
  | dropped => exact released _ rfl

/-- A check asks for the token first, and a run that is cancelled then is stopped. -/
theorem done_check {k : Nat} {token : Token} {s : ExecutionState} {before : List Token}
    (mem : d.engagements[k]? = some (facing p token (.checking s) before)) (running : s.isTerminal = false)
    (cancelled : token.isCancelled d.session.world.cancelled = true) :
    (d.after p frame [.go k, .go k, .go k]).done =
      d.done ++ [⟨⟨none, .finishing (s.completed .cancelled)⟩, token, .checking s, before⟩] := by
  obtain ⟨next, asks, stops⟩ : ∃ next, p.part token (.checking s) =
      .mark (.entered .shouldContinue s) (.isCancelled token next) ∧
      next true = .done ⟨none, .finishing (s.completed .cancelled)⟩ := by
    simp only [Pipeline.part, Pipeline.continuation, running, Bool.false_eq_true, if_false]
    exact ⟨_, rfl, rfl⟩
  have at' (a : Engagement σ) (e : Engagement σ) (es : List (Engagement σ)) (mem : es[k]? = some e) :
      (es.set k a)[k]? = some a := by rw [Held.getElem?_set mem, if_pos rfl]
  have first : d.act p frame (.go k) =
      ⟨d.session, d.engagements.set k ⟨token, .checking s, .isCancelled token next, before⟩, d.done⟩ := by
    rw [act_go_advance mem (by rw [facing, asks]; rfl)]
    simp only [facing, asks]
    rfl
  have mem₁ := at' ⟨token, .checking s, .isCancelled token next, before⟩ _ _ mem
  have second : (d.act p frame (.go k)).act p frame (.go k) =
      ⟨d.session, (d.engagements.set k ⟨token, .checking s, .isCancelled token next, before⟩).set k
        ⟨token, .checking s, next true, before⟩, d.done⟩ := by
    rw [first, act_go_advance mem₁ rfl, ← cancelled]
    rfl
  have mem₂ := at' ⟨token, .checking s, next true, before⟩ _ _ mem₁
  show (((d.act p frame (.go k)).act p frame (.go k)).act p frame (.go k)).done = _
  rw [second, act_go_finish mem₂ (by rw [stops]; rfl)]
  rfl

/-- Whatever was done through an agent and its clones, and whatever was cancelled meanwhile: a run is ended by the token
that was current when it began. Where its status is still running, a continuation check stops it as cancelled if its
token, or that of every run, was cancelled before, and never if neither is; then only its end follows. After the end of
a run the current token is not cancelled unless every run is, and no two runs are stopped by one token. -/
theorem cancellation_ends_one_run (p : Pipeline σ) (frame : Frame) (current : Nat) (w : World σ)
    (moves : List (Move σ)) :
    let d := (fresh current w).after p frame moves
    (d.session.slot.active = false → ∀ s, ∀ m ∈ [Move.run s, Move.iterate s],
        (d.act p frame m).engagements =
          d.engagements ++ [facing p d.session.slot.token (.starting s) d.session.world.cancelled]) ∧
      (∀ (k : Nat) (e : Engagement σ) (m : Move σ), d.engagements[k]? = some e →
        ∃ e' : Engagement σ, (d.act p frame m).engagements[k]? = some e' ∧ e'.token = e.token) ∧
      (∀ k token s before, d.engagements[k]? = some (facing p token (.checking s) before) → s.isTerminal = false →
        token.isCancelled d.session.world.cancelled = true →
        (d.after p frame [.go k, .go k, .go k]).done =
          d.done ++ [⟨⟨none, .finishing (s.completed .cancelled)⟩, token, .checking s, before⟩]) ∧
      (∀ x ∈ d.done,
        (∀ s, x.part = .checking s → s.isTerminal = false → x.token.isCancelled x.before = true → x.Stopped) ∧
          (x.Stopped → x.token.isCancelled d.session.world.cancelled = true) ∧
          ∀ s, x.part = .finishing s → x.next = .ended) ∧
      (∀ m, d.session.slot.active = true → (d.act p frame m).session.slot.active = false →
        (d.act p frame m).session.isCancelled = true → Token.all ∈ (d.act p frame m).session.world.cancelled) ∧
      d.done.Pairwise fun x y => x.Stopped → y.Stopped → x.token ≠ y.token := by
  intro d
  have h : d.Settled p := (settled_fresh current w).after moves
  refine ⟨fun free s m begins => ?_, fun k e m => token_change (change_act d m), fun k token s before => done_check,
    fun x mem => ?_, fun m => not_isCancelled_of_free (change_act d m), h.apart⟩
  · have begun : d.act p frame m = d.begin p s := by
      rcases List.mem_cons.1 begins with rfl | begins
      · simp only [act, free]
        rfl
      · rw [List.mem_singleton.1 begins, act]
    rw [begun, begin_free s free]
  · have checked := h.checked x mem
    refine ⟨checked.stops, checked.stopped, fun s part => ?_⟩
    have leads := checked.leads
    rw [part] at leads
    generalize x.toPartEnd = y at leads
    cases leads
    rfl

end Shared

end AgentLoop
