import AgentLoop.Proofs.Json.Entries
import AgentLoop.Proofs.Json.Equality
import AgentLoop.Proofs.Json.Members

/-!
# How deep values are nested

- `Json.Shallow`: lists and objects are nested at most so deep in a value. Equal values are nested alike
  (`Shallow.of_beq`), and objects may be brought into order (`Shallow.normalize`);
- `Reader.items_invariant`, `Reader.entries_invariant`: what every item or entry keeps, all of them keep;
- `Json.shallow_of_read`: a value that is read is nested less deep than the limit.
-/

namespace AgentLoop

namespace Json

/-- Lists and objects are nested at most so deep in a value. -/
inductive Shallow : Nat → Json → Prop
  | plain {n : Nat} {v : Json} : v.Plain → Shallow n v
  | arr {n : Nat} {items : List Json} : (∀ v ∈ items, Shallow n v) → Shallow (n + 1) (.arr items)
  | obj {n : Nat} {entries : List (String × Json)} : (∀ e ∈ entries, Shallow n e.2) → Shallow (n + 1) (.obj entries)

variable {n : Nat} {v w : Json}

theorem normalizeItems_eq (items : List Json) : normalizeItems items = items.map normalize := by
  induction items with
  | nil => rfl
  | cons v rest ih => rw [normalizeItems, ih, List.map_cons]

theorem normalizeEntries_eq (entries : List (String × Json)) :
    normalizeEntries entries = entries.map fun e => (e.1, e.2.normalize) := by
  induction entries with
  | nil => rfl
  | cons e rest ih =>
    obtain ⟨key, v⟩ := e
    rw [normalizeEntries, ih, List.map_cons]

theorem Shallow.normalize (h : Shallow n v) : Shallow n v.normalize := by
  induction h with
  | plain h =>
    rw [h.normalize_eq]
    exact .plain h
  | arr _ ih =>
    rw [Json.normalize, normalizeItems_eq]
    refine .arr fun v mem => ?_
    obtain ⟨w, mem', rfl⟩ := List.mem_map.1 mem
    exact ih w mem'
  | obj _ ih =>
    rw [Json.normalize, normalizeEntries_eq]
    refine .obj fun e mem => ?_
    obtain ⟨e', mem', rfl⟩ := List.mem_map.1 (Entries.mem_of_mem_ofList mem)
    exact ih e' mem'

/-- Each item of a list equals one of any equal list. -/
theorem exists_of_beqItems {as bs : List Json} (h : beqItems as bs = true) :
    ∀ b ∈ bs, ∃ a ∈ as, beq a b = true := by
  induction as generalizing bs with
  | nil =>
    cases bs with
    | nil => exact fun _ mem => nomatch mem
    | cons => cases h
  | cons a as ih =>
    cases bs with
    | nil => cases h
    | cons b bs =>
      obtain ⟨first, rest⟩ := Bool.and_eq_true_iff.1 h
      intro w mem
      rcases List.mem_cons.1 mem with rfl | mem
      · exact ⟨a, List.mem_cons_self, first⟩
      · obtain ⟨v, mem, same⟩ := ih rest w mem
        exact ⟨v, List.mem_cons_of_mem _ mem, same⟩

theorem exists_of_beqEntries {as bs : List (String × Json)} (h : beqEntries as bs = true) :
    ∀ b ∈ bs, ∃ a ∈ as, beq a.2 b.2 = true := by
  induction as generalizing bs with
  | nil =>
    cases bs with
    | nil => exact fun _ mem => nomatch mem
    | cons => cases h
  | cons a as ih =>
    cases bs with
    | nil => cases h
    | cons b bs =>
      obtain ⟨first, rest⟩ := Bool.and_eq_true_iff.1 h
      intro w mem
      rcases List.mem_cons.1 mem with rfl | mem
      · exact ⟨a, List.mem_cons_self, (Bool.and_eq_true_iff.1 first).2⟩
      · obtain ⟨v, mem, same⟩ := ih rest w mem
        exact ⟨v, List.mem_cons_of_mem _ mem, same⟩

/-- What equals a value without brackets has none either. -/
theorem Plain.of_beq (plain : v.Plain) (same : beq v w = true) : w.Plain := by
  cases w with
  | arr => cases v <;> first | cases same | cases plain
  | obj => cases v <;> first | cases same | cases plain
  | _ => trivial

/-- Equal values are nested alike. -/
theorem Shallow.of_beq (h : Shallow n v) (same : beq v w = true) : Shallow n w := by
  induction h generalizing w with
  | @plain _ v h => exact .plain (h.of_beq same)
  | arr _ ih =>
    cases w with
    | arr bs =>
      refine .arr fun b mem => ?_
      obtain ⟨a, mem, same⟩ := exists_of_beqItems same b mem
      exact ih a mem same
    | _ => cases same
  | obj _ ih =>
    cases w with
    | obj bs =>
      refine .obj fun b mem => ?_
      obtain ⟨a, mem, same⟩ := exists_of_beqEntries same b mem
      exact ih a mem same
    | _ => cases same

end Json

/-! ## Values that are read -/

namespace Reader

variable {α β : Type} {P : β → Prop} {depth : Nat}

theorem keeps_hasItem (first : Bool) : Keeps (hasItem first) := by
  refine keeps_bind keeps_peekToken fun ch => ?_
  split
  · exact keeps_failPeek _
  · exact keeps_pure _
  · split
    · exact keeps_pure _
    · split
      · refine keeps_bind keeps_eat fun _ => keeps_bind keeps_peekToken fun ch => ?_
        split
        · exact keeps_failPeek _
        · exact keeps_failPeek _
        · exact keeps_pure _
      · exact keeps_failPeek _

/-- What every item keeps, at its nesting, all of them keep. -/
theorem items_invariant {step : Nat → β → Reader β} (keeps : ∀ index b, Keeps (step index b))
    (invariant : ∀ index b c b' c', c.depth = depth → P b → step index b c = .ok b' c' → P b')
    {fuel index : Nat} {b b' : β} {c c' : Cursor} (here : c.depth = depth) (h : P b)
    (read : items step fuel index b c = .ok b' c') : P b' := by
  induction fuel generalizing index b c with
  | zero =>
    cases read
    exact h
  | succ fuel ih =>
    obtain ⟨more, c₁, found, read⟩ := bind_eq_ok.1 read
    have here₁ : c₁.depth = depth := (keeps_hasItem _ c more c₁ found).trans here
    cases more with
    | false =>
      cases read
      exact h
    | true =>
      obtain ⟨b₁, c₂, item, read⟩ := bind_eq_ok.1 read
      exact ih ((keeps _ _ c₁ b₁ c₂ item).trans here₁) (invariant _ _ c₁ b₁ c₂ here₁ h item) read

/-- What every entry keeps, at its nesting, all of them keep. -/
theorem entries_invariant {step : String → β → Reader β} (keeps : ∀ key b, Keeps (step key b))
    (invariant : ∀ key b c b' c', c.depth = depth → P b → step key b c = .ok b' c' → P b')
    {fuel index : Nat} {b b' : β} {c c' : Cursor} (here : c.depth = depth) (h : P b)
    (read : entries step fuel index b c = .ok b' c') : P b' := by
  induction fuel generalizing index b c with
  | zero =>
    cases read
    exact h
  | succ fuel ih =>
    obtain ⟨more, c₁, found, read⟩ := bind_eq_ok.1 read
    have here₁ : c₁.depth = depth := (keeps_hasEntry _ c more c₁ found).trans here
    cases more with
    | false =>
      cases read
      exact h
    | true =>
      obtain ⟨_, c₂, eaten, read⟩ := bind_eq_ok.1 read
      obtain ⟨key, c₃, named, read⟩ := bind_eq_ok.1 read
      obtain ⟨b₁, c₄, entry, read⟩ := bind_eq_ok.1 read
      have here₃ : c₃.depth = depth :=
        (keeps_string c₂ key c₃ named).trans ((keeps_eat c₁ _ c₂ eaten).trans here₁)
      exact ih ((keeps _ _ c₃ b₁ c₄ entry).trans here₃) (invariant _ _ c₃ b₁ c₄ here₃ h entry) read

/-- Brackets cost one level of nesting. -/
theorem shallow_of_rawValue {v : Json} {c c' : Cursor} (here : c.depth = depth)
    (read : rawValue depth c = .ok v c') : Json.Shallow (depth - 1) v := by
  induction depth generalizing v c c' with
  | zero => cases read
  | succ depth ih =>
    unfold rawValue at read
    rw [peekToken_bind] at read
    have inside : (afterGap c).depth = depth + 1 := (depth_afterGap c).trans here
    generalize nextToken c = next at read
    split at read
    · obtain ⟨fuel, _, ⟨⟩, read⟩ := bind_eq_ok.1 read
      obtain ⟨items, c₁, read, ⟨⟩⟩ := bind_eq_ok.1 read
      obtain ⟨deep, c₂, c₃, body, -, -⟩ := enclosed_eq_ok.1 read
      have shallow : ∀ v ∈ items, Json.Shallow (depth - 1) v := by
        refine items_invariant (P := fun read => ∀ v ∈ read, Json.Shallow (depth - 1) v)
          (fun _ _ => keeps_bind (keeps_rawValue _) fun _ => keeps_pure _) (fun _ read c b' c' here shallow item => ?_)
          (by rw [inside, Nat.add_sub_cancel]) (List.forall_mem_nil _) body
        obtain ⟨w, _, item, ⟨⟩⟩ := bind_eq_ok.1 item
        exact List.forall_mem_cons.2 ⟨ih here item, shallow⟩
      rw [inside] at deep
      obtain ⟨n, rfl⟩ : ∃ n, depth = n + 1 := ⟨depth - 1, by omega⟩
      exact .arr fun v mem => shallow v (List.mem_reverse.1 mem)
    · obtain ⟨fuel, _, ⟨⟩, read⟩ := bind_eq_ok.1 read
      obtain ⟨entries, c₁, read, ⟨⟩⟩ := bind_eq_ok.1 read
      obtain ⟨deep, c₂, c₃, body, -, -⟩ := enclosed_eq_ok.1 read
      have shallow : ∀ e ∈ entries, Json.Shallow (depth - 1) e.2 := by
        refine entries_invariant (P := fun read => ∀ e ∈ read, Json.Shallow (depth - 1) e.2)
          (fun _ _ => keeps_bind keeps_colon fun _ => keeps_bind (keeps_rawValue _) fun _ => keeps_pure _)
          (fun _ read c b' c' here shallow entry => ?_)
          (by rw [inside, Nat.add_sub_cancel]) (List.forall_mem_nil _) body
        obtain ⟨_, c₁, colon, entry⟩ := bind_eq_ok.1 entry
        obtain ⟨w, _, entry, ⟨⟩⟩ := bind_eq_ok.1 entry
        exact List.forall_mem_cons.2 ⟨ih ((keeps_colon c _ c₁ colon).trans here) entry, shallow⟩
      rw [inside] at deep
      obtain ⟨n, rfl⟩ : ∃ n, depth = n + 1 := ⟨depth - 1, by omega⟩
      exact .obj fun e mem => shallow e (List.mem_reverse.1 mem)
    · exact .plain (scalar_eq_ok read).1

end Reader

/-- A value that is read is nested less deep than the limit. -/
theorem Json.shallow_of_read {text : String} {v : Json} (read : Json.read text = .ok v) :
    Json.Shallow (nestingLimit - 1) v := by
  obtain ⟨c₁, c₂, read, -⟩ := Reader.run_eq_ok.1 read
  obtain ⟨raw, read', rfl⟩ := Reader.value_eq_ok.1 read
  exact (Reader.shallow_of_rawValue rfl read').normalize

end AgentLoop
