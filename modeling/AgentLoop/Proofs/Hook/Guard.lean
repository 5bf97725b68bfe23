import AgentLoop.Hook.Guard

/-!
# What a guard denies

- `Json.Within`: a text stands somewhere in a value, at any depth (`Json.mem_texts`);
- `ToolCallGuard.Denies`: the tool of a call is guarded, and some text within the arguments holds a denied one;
- `ToolCallGuard.FirstMatch`: the first of the denied texts that is held (`Denies.exists_firstMatch`);
- `ToolCallGuard.exists_inspected`: the guard vetoes exactly the calls that it denies, names the first denied text that
  is held, and changes nothing else.
-/

namespace AgentLoop

/-! ## Texts within values -/

namespace Json

/-- A text stands somewhere in a value, at any depth. Keys do not count. -/
inductive Within (text : String) : Json → Prop
  | here : Within text (.str text)
  | item {v : Json} {items : List Json} : v ∈ items → Within text v → Within text (.arr items)
  | entry {key : String} {v : Json} {entries : List (String × Json)} :
      (key, v) ∈ entries → Within text v → Within text (.obj entries)

variable {text : String}

mutual
/-- The texts of a value are those that stand somewhere in it. -/
theorem mem_texts : ∀ {v : Json}, text ∈ v.texts ↔ Within text v
  | .null | .bool _ | .num _ => ⟨fun h => (nomatch h), fun h => (nomatch h)⟩
  | .str s => by
    rw [texts, List.mem_singleton]
    constructor
    · rintro rfl
      exact .here
    · rintro ⟨⟩
      rfl
  | .arr items => by
    rw [texts, mem_textsOfItems]
    constructor
    · rintro ⟨v, hv, h⟩
      exact .item hv h
    · rintro (_ | ⟨hv, h⟩)
      exact ⟨_, hv, h⟩
  | .obj entries => by
    rw [texts, mem_textsOfEntries]
    constructor
    · rintro ⟨key, v, hv, h⟩
      exact .entry hv h
    · rintro (_ | _ | ⟨hv, h⟩)
      exact ⟨_, _, hv, h⟩

theorem mem_textsOfItems : ∀ {items : List Json}, text ∈ textsOfItems items ↔ ∃ v ∈ items, Within text v
  | [] => ⟨fun h => (nomatch h), fun ⟨_, h, _⟩ => (nomatch h)⟩
  | v :: rest => by
    rw [textsOfItems, List.mem_append, mem_texts, mem_textsOfItems]
    simp only [List.mem_cons, exists_eq_or_imp]

theorem mem_textsOfEntries :
    ∀ {entries : List (String × Json)}, text ∈ textsOfEntries entries ↔ ∃ key v, (key, v) ∈ entries ∧ Within text v
  | [] => ⟨fun h => (nomatch h), fun ⟨_, _, h, _⟩ => (nomatch h)⟩
  | (key, v) :: rest => by
    rw [textsOfEntries, List.mem_append, mem_texts, mem_textsOfEntries]
    constructor
    · rintro (h | ⟨k, u, hu, h⟩)
      · exact ⟨key, v, List.mem_cons_self, h⟩
      · exact ⟨k, u, List.mem_cons_of_mem _ hu, h⟩
    · rintro ⟨k, u, hu, h⟩
      rcases List.mem_cons.1 hu with same | hu
      · cases same
        exact .inl h
      · exact .inr ⟨k, u, hu, h⟩
end

end Json

namespace ToolCallGuard

/-! ## Denied calls -/

/-- Some text within the arguments holds a pattern as a piece. -/
def Matches (pattern : String) (arguments : Json) : Prop :=
  ∃ text, Json.Within text arguments ∧ pattern.toList <:+: text.toList

/-- A tool is guarded: it is named, or no tools are. -/
def InScope (g : ToolCallGuard) (tool : String) : Prop := ∀ tools, g.tools = some tools → tool ∈ tools

/-- The guard denies a call. -/
def Denies (g : ToolCallGuard) (call : ToolCall) : Prop :=
  g.InScope call.name ∧ ∃ pattern ∈ g.patterns, Matches pattern call.arguments

/-- The first of the patterns that the arguments match. -/
def FirstMatch (g : ToolCallGuard) (arguments : Json) (pattern : String) : Prop :=
  ∃ earlier later, g.patterns = earlier ++ pattern :: later ∧ Matches pattern arguments ∧
    ∀ p ∈ earlier, ¬Matches p arguments

variable (g : ToolCallGuard) {arguments : Json} {pattern : String}

theorem any_holds_iff : (arguments.texts.any fun text => holds text pattern) = true ↔ Matches pattern arguments := by
  simp only [List.any_eq_true, Json.mem_texts, holds, hasInfix_iff, Matches]

theorem guards_iff {tool : String} : g.guards tool = true ↔ g.InScope tool := by
  unfold guards InScope
  cases g.tools with
  | none => exact ⟨fun _ _ h => (nomatch h), fun _ => rfl⟩
  | some tools =>
    rw [Option.all_some, List.contains_iff_mem]
    constructor
    · rintro h _ ⟨⟩
      exact h
    · intro h
      exact h tools rfl

theorem matchingPattern_eq_some_iff : g.matchingPattern arguments = some pattern ↔ g.FirstMatch arguments pattern := by
  unfold matchingPattern FirstMatch
  rw [List.find?_eq_some_iff_append, any_holds_iff]
  constructor
  · rintro ⟨here, earlier, later, split, before⟩
    refine ⟨earlier, later, split, here, fun p hp now => ?_⟩
    have missed := before p hp
    rw [any_holds_iff.2 now] at missed
    cases missed
  · rintro ⟨earlier, later, split, here, before⟩
    refine ⟨here, earlier, later, split, fun p hp => ?_⟩
    rw [Bool.not_eq_true', Bool.eq_false_iff]
    exact fun now => before p hp (any_holds_iff.1 now)

theorem matchingPattern_eq_none_iff : g.matchingPattern arguments = none ↔ ∀ p ∈ g.patterns, ¬Matches p arguments := by
  unfold matchingPattern
  rw [List.find?_eq_none]
  exact forall₂_congr fun p _ => not_congr any_holds_iff

variable {g}

/-- Some pattern is the first one to be matched by a denied call. -/
theorem Denies.exists_firstMatch {call : ToolCall} (h : g.Denies call) :
    ∃ pattern, g.FirstMatch call.arguments pattern := by
  obtain ⟨-, p, hp, now⟩ := h
  cases found : g.matchingPattern call.arguments with
  | none => exact absurd now (g.matchingPattern_eq_none_iff.1 found p hp)
  | some pattern => exact ⟨pattern, g.matchingPattern_eq_some_iff.1 found⟩

/-- Whatever is matched first is matched. -/
theorem FirstMatch.denies {call : ToolCall} (h : g.FirstMatch call.arguments pattern) (scope : g.InScope call.name) :
    g.Denies call := by
  obtain ⟨earlier, later, split, now, -⟩ := h
  exact ⟨scope, pattern, split ▸ List.mem_append_right _ List.mem_cons_self, now⟩

/-! ## What the guard does -/

/-- What the guard says of a call that matches a pattern. -/
def complaint (g : ToolCallGuard) (pattern : String) : String := g.reason ++ ": matched '" ++ pattern ++ "'"

variable {ctx : HookContext} {p : PendingToolCall}

/-- A call that is denied is vetoed for the first pattern that it matches. -/
theorem inspect_of_denied (given : ctx.toolCall = some p) (scope : g.InScope p.call.name)
    (first : g.FirstMatch p.call.arguments pattern) :
    g.inspect ctx = { ctx with toolCall := some (p.block (g.complaint pattern)) } := by
  unfold inspect
  rw [given]
  dsimp only
  rw [if_pos (g.guards_iff.2 scope), g.matchingPattern_eq_some_iff.2 first]
  simp only [HookContext.block, given, Option.map_some, complaint]

/-- Nothing is done about any other call. -/
theorem inspect_of_allowed (given : ctx.toolCall = some p) (allowed : ¬g.Denies p.call) : g.inspect ctx = ctx := by
  unfold inspect
  rw [given]
  dsimp only
  split
  · rename_i scope
    split
    · rename_i pattern found
      exact absurd ((g.matchingPattern_eq_some_iff.1 found).denies (g.guards_iff.1 scope)) allowed
    · rfl
  · rfl

/-- The guard vetoes a call if it denies it, and does nothing else. A veto that stands already stays as it is; a new one
names the first pattern that is matched. -/
theorem exists_inspected (g : ToolCallGuard) (given : ctx.toolCall = some p) :
    ∃ q, g.inspect ctx = { ctx with toolCall := some q } ∧ q.call = p.call ∧
      (q.isBlocked = true ↔ p.isBlocked = true ∨ g.Denies p.call) ∧
      (∀ reason, p.blocked = some reason → q.blocked = some reason) ∧
      (p.blocked = none → ∀ reason, q.blocked = some reason →
        ∃ pattern, g.FirstMatch p.call.arguments pattern ∧ reason = g.complaint pattern) := by
  by_cases denied : g.Denies p.call
  · obtain ⟨pattern, first⟩ := denied.exists_firstMatch
    refine ⟨_, inspect_of_denied given denied.1 first, rfl, ?_, ?_, ?_⟩
    · exact iff_of_true rfl (.inr denied)
    · intro reason earlier
      rw [PendingToolCall.block, earlier, Option.getD_some]
    · intro free reason named
      rw [PendingToolCall.block, free, Option.getD_none] at named
      exact ⟨pattern, first, (Option.some.inj named).symm⟩
  · refine ⟨p, ?_, rfl, ?_, fun _ earlier => earlier, ?_⟩
    · rw [inspect_of_allowed given denied, ← given]
    · rw [or_iff_left denied]
    · intro free reason named
      rw [free] at named
      cases named

end ToolCallGuard

end AgentLoop
