import AgentLoop.Proofs.Json.Shallow
import AgentLoop.Proofs.Json.Tokens

/-!
# The ways to write a value

- `Json.Spelled`: how a value may be written. Blanks may stand around every token, the members of an object in any
  order, a number in any way that is read as that number, and any character of a text may be escaped;
- `Json.Spelled.takes`: however a value is written, in front of whatever may stand behind a value, it is read, as long
  as it is nested less deep than the limit;
- `Json.Spelled.read`: hence a text that spells such a value is read as that value.
-/

namespace AgentLoop

namespace Json

open Reader (Escaped Numeral isGap)

/-! ## The grammar -/

theorem isGap_eq_false {ch : Char} (head : (ch = '-' || ch.isDigit) = true) : isGap ch = false := by
  refine Bool.eq_false_iff.2 fun blank => ?_
  simp only [isGap, Bool.or_eq_true, decide_eq_true_eq] at blank
  rcases blank with ((rfl | rfl) | rfl) | rfl <;> cases head

/-- Blanks between tokens. -/
def Gap (cs : List Char) : Prop := ∀ ch ∈ cs, isGap ch = true

/-- Texts with commas between them. -/
def separated : List (List Char) → List Char
  | [] => []
  | t :: rest => t ++ rest.flatMap (',' :: ·)

/-- How the key of a member is written, with the blanks around it. -/
inductive Label : String → List Char → Prop
  | quoted {before cs s after : List Char} : Gap before → Escaped cs s → Gap after →
      Label (String.ofList s) (before ++ '"' :: (cs ++ '"' :: after))

/-- A member of an object, and how it is written. -/
structure Member where
  key : String
  value : Json
  label : List Char
  text : List Char

/-- The member of the object. -/
def Member.entry (m : Member) : String × Json := (m.key, m.value)

/-- Its text. -/
def Member.written (m : Member) : List Char := m.label ++ ':' :: m.text

/-- The ways to write a value. -/
inductive Spelled : Json → List Char → Prop
  | null : Spelled .null ['n', 'u', 'l', 'l']
  | yes : Spelled (.bool true) ['t', 'r', 'u', 'e']
  | no : Spelled (.bool false) ['f', 'a', 'l', 's', 'e']
  | num {x : Number} {token : List Char} : Numeral token x → Spelled (.num x) token
  | str {s cs : List Char} : Escaped cs s → Spelled (.str (String.ofList s)) ('"' :: (cs ++ ['"']))
  | arr {items : List (Json × List Char)} {gap : List Char} : (∀ e ∈ items, Spelled e.1 e.2) → Gap gap →
      Spelled (.arr (items.map (·.1))) ('[' :: (separated (items.map (·.2)) ++ (gap ++ [']'])))
  | obj {members : List Member} {entries : Entries} {gap : List Char} : (∀ m ∈ members, Label m.key m.label) →
      (∀ m ∈ members, Spelled m.value m.text) → (members.map Member.entry).Perm entries →
      entries.Pairwise (fun a b => a.1 < b.1) → Gap gap →
      Spelled (.obj entries) ('\x7b' :: (separated (members.map Member.written) ++ (gap ++ ['\x7d'])))
  | before {v : Json} {gap cs : List Char} : Gap gap → Spelled v cs → Spelled v (gap ++ cs)
  | after {v : Json} {gap cs : List Char} : Spelled v cs → Gap gap → Spelled v (cs ++ gap)

variable {v : Json} {cs gap : List Char}

/-- There is a token in a text, and the first one does not end a list. -/
def Begins (cs : List Char) : Prop :=
  ∃ gap ch tail, cs = gap ++ ch :: tail ∧ Gap gap ∧ isGap ch = false ∧ ch ≠ ']'

theorem Spelled.begins (h : Spelled v cs) : Begins cs := by
  have at_once {ch : Char} {tail : List Char} (token : isGap ch = false) (other : ch ≠ ']') : Begins (ch :: tail) :=
    ⟨[], ch, tail, rfl, List.forall_mem_nil _, token, other⟩
  induction h with
  | null => exact at_once rfl (by decide)
  | yes => exact at_once rfl (by decide)
  | no => exact at_once rfl (by decide)
  | num numeral =>
    obtain ⟨ch, tail, rfl, head⟩ := numeral.head
    refine at_once (isGap_eq_false head) ?_
    rintro rfl
    cases head
  | str _ => exact at_once rfl (by decide)
  | arr _ _ _ => exact at_once rfl (by decide)
  | obj _ _ _ _ _ _ => exact at_once rfl (by decide)
  | @before _ gap _ blank _ ih =>
    obtain ⟨gap', ch, tail, rfl, blank', rest⟩ := ih
    exact ⟨gap ++ gap', ch, tail, (List.append_assoc _ _ _).symm, List.forall_mem_append.2 ⟨blank, blank'⟩, rest⟩
  | @after _ gap _ _ _ ih =>
    obtain ⟨gap', ch, tail, rfl, rest⟩ := ih
    exact ⟨gap', ch, tail ++ gap, by simp, rest⟩

end Json

/-! ## Tokens -/

namespace Reader

open Json (Begins Gap)

variable {α β : Type} {r : Reader α} {c : Cursor} {a : α} {b : β} {ch : Char} {gap gap₁ tail rest rest₁ : List Char}

theorem ends_nil : Ends [] := fun _ h => by cases h

theorem ends_cons (h : isEnd ch = true) : Ends (ch :: tail) := by
  rintro _ ⟨⟩
  exact h

theorem ends_append (blank : Gap gap) (ends : Ends rest) : Ends (gap ++ rest) := by
  cases gap with
  | nil => exact ends
  | cons ch gap =>
    refine ends_cons ?_
    have := blank ch List.mem_cons_self
    simp only [isEnd, this, Bool.true_or]

/-- Where the next token is. -/
theorem rest_afterGap (blank : Gap gap) (token : isGap ch = false) (here : c.rest = gap ++ ch :: tail) :
    (afterGap c).rest = ch :: tail := by
  rw [afterGap, Cursor.rest_foldl_advance, here, List.takeWhile_append_of_pos blank,
    List.takeWhile_cons_of_neg (Bool.eq_false_iff.1 token), List.append_nil, List.drop_left]

/-- A value may be read before blanks or after them. -/
theorem rawValue_foldl_advance {depth : Nat} (deep : depth ≠ 0) (blank : Gap gap) (here : c.rest = gap ++ rest) :
    rawValue depth (gap.foldl (fun c _ => c.advance) c) = rawValue depth c := by
  have same : afterGap (gap.foldl (fun c _ => c.advance) c) = afterGap c := by
    rw [afterGap, afterGap, Cursor.rest_foldl_advance, here, List.drop_left, List.takeWhile_append_of_pos blank,
      List.foldl_append]
  rw [← rawValue_afterGap deep, same, rawValue_afterGap deep]

theorem nextToken_of_rest (next : (afterGap c).rest = ch :: tail) : nextToken c = some ch := by
  rw [nextToken, next, List.head?_cons]

theorem nextToken_of_begins {cs : List Char} (begins : Begins cs) (here : c.rest = cs ++ rest) :
    ∃ ch, nextToken c = some ch ∧ ch ≠ ']' := by
  obtain ⟨gap, ch, tail, rfl, blank, token, other⟩ := begins
  rw [List.append_assoc] at here
  exact ⟨ch, nextToken_of_rest (rest_afterGap blank token here), other⟩

theorem gives_peekToken {f : Option Char → Reader β} (next : (afterGap c).rest = ch :: tail)
    (h : Gives (f (some ch)) (afterGap c) b rest) : Gives (peekToken >>= f) c b rest := by
  obtain ⟨c', read, there⟩ := h
  refine ⟨c', ?_, there⟩
  rw [peekToken_bind, nextToken_of_rest next, read]

theorem gives_ident {word : List Char} (here : c.rest = word ++ rest) : Gives (ident word) c () rest := by
  induction word generalizing c with
  | nil => exact gives_pure here
  | cons ch word ih =>
    refine gives_peek here ?_
    dsimp only
    rw [if_pos rfl]
    exact gives_bind (gives_eat here) fun c₁ _ there => ih there

theorem gives_colon (next : (afterGap c).rest = ':' :: rest) : Gives colon c () rest :=
  gives_peekToken next (gives_eat next)

theorem gives_endList (next : (afterGap c).rest = ']' :: rest) : Gives endList c () rest :=
  gives_peekToken next (gives_eat next)

theorem gives_endObject (next : (afterGap c).rest = '\x7d' :: rest) : Gives endObject c () rest :=
  gives_peekToken next (gives_eat next)

theorem gives_enclosed {ending : Reader Unit} (deep : 1 < c.depth)
    (body : Gives r { c.advance with depth := c.depth - 1 } a rest₁)
    (closes : ∀ c₂ : Cursor, c₂.rest = rest₁ → Gives ending c₂ () rest) : Gives (enclosed ending r) c a rest := by
  obtain ⟨c₂, read, here₂⟩ := body
  obtain ⟨c₃, ended, there⟩ := closes c₂ here₂
  exact ⟨{ c₃ with depth := c.depth }, enclosed_eq_ok.2 ⟨deep, c₂, c₃, read, ended, rfl⟩, there⟩

/-! ## Is there another item or entry? -/

theorem hasItem_end {first : Bool} (next : nextToken c = some ']') : hasItem first c = .ok false (afterGap c) := by
  unfold hasItem
  rw [peekToken_bind, next]
  rfl

theorem hasItem_first (next : nextToken c = some ch) (other : ch ≠ ']') : hasItem true c = .ok true (afterGap c) := by
  unfold hasItem
  rw [peekToken_bind]
  generalize nextToken c = token at next
  split
  · cases next
  · exact absurd (Option.some.inj next).symm other
  · rfl

/-- After a comma comes an item. -/
theorem hasItem_comma (comma : (afterGap c).rest = ',' :: tail) (next : nextToken (afterGap c).advance = some ch)
    (other : ch ≠ ']') : hasItem false c = .ok true (afterGap (afterGap c).advance) := by
  unfold hasItem
  rw [peekToken_bind, nextToken_of_rest comma]
  show (eat >>= fun _ => peekToken >>= _) (afterGap c) = _
  refine bind_eq_ok.2 ⟨(), (afterGap c).advance, rfl, ?_⟩
  rw [peekToken_bind]
  generalize nextToken (afterGap c).advance = token at next
  split
  · cases next
  · exact absurd (Option.some.inj next).symm other
  · rfl

theorem hasEntry_end {first : Bool} (next : nextToken c = some '\x7d') : hasEntry first c = .ok false (afterGap c) := by
  unfold hasEntry
  rw [peekToken_bind, next]
  rfl

theorem hasEntry_first (next : nextToken c = some '"') : hasEntry true c = .ok true (afterGap c) := by
  unfold hasEntry
  rw [peekToken_bind, next]
  rfl

/-- After a comma comes a key. -/
theorem hasEntry_comma (comma : (afterGap c).rest = ',' :: tail) (next : nextToken (afterGap c).advance = some '"') :
    hasEntry false c = .ok true (afterGap (afterGap c).advance) := by
  unfold hasEntry
  rw [peekToken_bind, nextToken_of_rest comma]
  show (eat >>= fun _ => peekToken >>= _) (afterGap c) = _
  refine bind_eq_ok.2 ⟨(), (afterGap c).advance, rfl, ?_⟩
  rw [peekToken_bind, next]
  rfl

/-! ## Items and entries -/

/-- At this nesting, in front of whatever may stand behind a value, a text is read as this value; of the blanks at its
end some may be left. -/
def Takes (depth : Nat) (v : Json) (text : List Char) : Prop :=
  ∀ (c : Cursor) (rest : List Char), c.depth = depth → c.rest = text ++ rest → Ends rest →
    ∃ raw gap, raw.normalize = v ∧ Gap gap ∧ Gives (rawValue depth) c raw (gap ++ rest)

theorem ends_separated {texts : List (List Char)} {closing : Char} (blank : Gap gap) (ends : isEnd closing = true) :
    Ends (texts.flatMap (',' :: ·) ++ (gap ++ closing :: rest)) := by
  cases texts with
  | nil =>
    rw [List.flatMap_nil, List.nil_append]
    exact ends_append blank (ends_cons ends)
  | cons t texts => exact ends_cons rfl

theorem flatMap_comma_cons (t : List Char) (texts : List (List Char)) (rest : List Char) :
    (t :: texts).flatMap (',' :: ·) ++ rest = ',' :: (t ++ (texts.flatMap (',' :: ·) ++ rest)) := by simp

section Items

variable {step : Nat → β → Reader β} {fuel index : Nat} {c₁ : Cursor}

theorem items_end (found : hasItem (index == 0) c = .ok false c₁) : items step (fuel + 1) index b c = .ok b c₁ :=
  bind_eq_ok.2 ⟨false, c₁, found, rfl⟩

variable {depth : Nat} {read : List Json} {e : Json × List Char} {es : List (Json × List Char)}

/-- An item is read, and then the others. -/
theorem gives_items_cons (found : hasItem (index == 0) c = .ok true (afterGap c₁)) (takes : Takes depth e.1 e.2)
    (deep : depth ≠ 0) (level : c₁.depth = depth) (here : c₁.rest = e.2 ++ rest₁) (ends : Ends rest₁)
    (others : ∀ c₂ raw gap, Gap gap → c₂.depth = depth → c₂.rest = gap ++ rest₁ →
      ∃ raws : List Json, raws.map Json.normalize = es.map (·.1) ∧
        Gives (items (fun _ read => do return (← rawValue depth) :: read) fuel (index + 1) (raw :: read)) c₂
          (raws.reverse ++ raw :: read) rest) :
    ∃ raws : List Json, raws.map Json.normalize = (e :: es).map (·.1) ∧
      Gives (items (fun _ read => do return (← rawValue depth) :: read) (fuel + 1) index read) c (raws.reverse ++ read)
        rest := by
  obtain ⟨raw, gap, same, blank, c₂, item, here₂⟩ := takes c₁ rest₁ level here ends
  have level₂ : c₂.depth = depth := (keeps_rawValue _ c₁ raw c₂ item).trans level
  obtain ⟨raws, sames, c', read', there⟩ := others c₂ raw gap blank level₂ here₂
  refine ⟨raw :: raws, by rw [List.map_cons, same, sames, List.map_cons], c', ?_, there⟩
  rw [List.reverse_cons, List.append_assoc]
  have step : (do return (← rawValue depth) :: read : Reader (List Json)) (afterGap c₁) = .ok (raw :: read) c₂ :=
    bind_eq_ok.2 ⟨raw, c₂, (rawValue_afterGap deep).trans item, rfl⟩
  exact bind_eq_ok.2 ⟨true, _, found, bind_eq_ok.2 ⟨raw :: read, c₂, step, read'⟩⟩

/-- After an item, all that follow are read, up to the closing bracket. -/
theorem gives_items_after (index : Nat) (read : List Json) (takes : ∀ e ∈ es, Takes depth e.1 e.2)
    (begins : ∀ e ∈ es, Begins e.2) (deep : depth ≠ 0) (enough : es.length < fuel) (blank : Gap gap) (blank₁ : Gap gap₁)
    (level : c.depth = depth)
    (here : c.rest = gap₁ ++ ((es.map (·.2)).flatMap (',' :: ·) ++ (gap ++ ']' :: rest))) :
    ∃ raws : List Json, raws.map Json.normalize = es.map (·.1) ∧
      Gives (items (fun _ read => do return (← rawValue depth) :: read) fuel (index + 1) read) c (raws.reverse ++ read)
        (']' :: rest) := by
  obtain ⟨fuel, rfl⟩ : ∃ n, fuel = n + 1 := ⟨fuel - 1, by omega⟩
  -- `gap₁` is what the item before may have left behind it
  induction es generalizing fuel index read c gap₁ with
  | nil =>
    rw [List.map_nil, List.flatMap_nil, List.nil_append, ← List.append_assoc] at here
    have closed := rest_afterGap (List.forall_mem_append.2 ⟨blank₁, blank⟩) rfl here
    exact ⟨[], rfl, afterGap c, items_end (hasItem_end (nextToken_of_rest closed)), closed⟩
  | cons e es ih =>
    obtain ⟨fuel, rfl⟩ : ∃ n, fuel = n + 1 := ⟨fuel - 1, by simp at enough; omega⟩
    obtain ⟨first, takes⟩ := List.forall_mem_cons.1 takes
    obtain ⟨begun, begins⟩ := List.forall_mem_cons.1 begins
    rw [List.map_cons, flatMap_comma_cons] at here
    have comma := rest_afterGap blank₁ rfl here
    have here₁ : (afterGap c).advance.rest = _ := (Cursor.rest_advance _).trans (congrArg List.tail comma)
    obtain ⟨ch, next, other⟩ := nextToken_of_begins begun here₁
    refine gives_items_cons (hasItem_comma comma next other) first deep ?_ here₁ (ends_separated blank rfl)
      fun c₂ raw gap₂ blank₂ level₂ here₂ => ?_
    · rw [Cursor.depth_advance, depth_afterGap, level]
    · exact ih (index + 1) (raw :: read) takes begins blank₂ level₂ here₂ fuel (Nat.lt_of_succ_lt_succ enough)

/-- What stands in the brackets of a list is read. -/
theorem gives_allItems (takes : ∀ e ∈ es, Takes depth e.1 e.2) (begins : ∀ e ∈ es, Begins e.2) (deep : depth ≠ 0)
    (enough : es.length < fuel) (blank : Gap gap) (level : c.depth = depth)
    (here : c.rest = Json.separated (es.map (·.2)) ++ (gap ++ ']' :: rest)) :
    ∃ raws : List Json, raws.map Json.normalize = es.map (·.1) ∧
      Gives (items (fun _ read => do return (← rawValue depth) :: read) fuel 0 []) c (raws.reverse ++ [])
        (']' :: rest) := by
  obtain ⟨fuel, rfl⟩ : ∃ n, fuel = n + 1 := ⟨fuel - 1, by omega⟩
  cases es with
  | nil =>
    have closed := rest_afterGap blank rfl here
    exact ⟨[], rfl, afterGap c, items_end (hasItem_end (nextToken_of_rest closed)), closed⟩
  | cons e es =>
    obtain ⟨first, takes⟩ := List.forall_mem_cons.1 takes
    obtain ⟨begun, begins⟩ := List.forall_mem_cons.1 begins
    rw [List.map_cons, Json.separated, List.append_assoc] at here
    obtain ⟨ch, next, other⟩ := nextToken_of_begins begun here
    exact gives_items_cons (hasItem_first next other) first deep level here (ends_separated blank rfl)
      fun c₂ raw gap₂ blank₂ level₂ here₂ =>
        gives_items_after 0 [raw] takes begins deep (Nat.lt_of_succ_lt_succ enough) blank blank₂ level₂ here₂

end Items

section Entries

open Json (Label Member)

variable {step : String → β → Reader β} {fuel index : Nat} {c₁ : Cursor}

theorem entries_end (found : hasEntry (index == 0) c = .ok false c₁) :
    entries step (fuel + 1) index b c = .ok b c₁ := bind_eq_ok.2 ⟨false, c₁, found, rfl⟩

variable {key : String} {label : List Char}

/-- A key begins with a quote. -/
theorem nextToken_label (h : Label key label) (here : c.rest = label ++ rest) : nextToken c = some '"' := by
  obtain ⟨blank, -, -⟩ := h
  rw [List.append_assoc, List.cons_append] at here
  exact nextToken_of_rest (rest_afterGap blank rfl here)

/-- A key is read after the blanks before it, with its colon. -/
theorem label_read (h : Label key label) (here : c.rest = label ++ ':' :: rest) :
    ∃ c₁ c₂ c₃, eat (afterGap c) = .ok () c₁ ∧ string c₁ = .ok key c₂ ∧ colon c₂ = .ok () c₃ ∧ c₃.rest = rest ∧
      c₃.depth = c.depth := by
  obtain ⟨blank, escaped, blank'⟩ := h
  simp only [List.append_assoc, List.cons_append] at here
  obtain ⟨c₁, eaten, here₁⟩ := gives_eat (rest_afterGap blank rfl here)
  obtain ⟨c₂, named, here₂⟩ := escaped.read here₁
  obtain ⟨c₃, parted, here₃⟩ := gives_colon (rest_afterGap blank' rfl here₂)
  refine ⟨c₁, c₂, c₃, eaten, named, parted, here₃, ?_⟩
  rw [keeps_colon c₂ _ c₃ parted, keeps_string c₁ _ c₂ named, keeps_eat _ _ c₁ eaten, depth_afterGap]

variable {depth : Nat} {read : Entries} {m : Member} {ms : List Member}

/-- A member is read, and then the others. -/
theorem gives_entries_cons (found : hasEntry (index == 0) c = .ok true (afterGap c₁)) (label : Label m.key m.label)
    (takes : Takes depth m.value m.text) (level : c₁.depth = depth) (here : c₁.rest = m.written ++ rest₁)
    (ends : Ends rest₁)
    (others : ∀ c₂ raw gap, Gap gap → c₂.depth = depth → c₂.rest = gap ++ rest₁ →
      ∃ raws : Entries, Json.normalizeEntries raws = ms.map Member.entry ∧
        Gives (entries (fun key read => do colon; return (key, ← rawValue depth) :: read) fuel (index + 1)
          ((m.key, raw) :: read)) c₂ (raws.reverse ++ (m.key, raw) :: read) rest) :
    ∃ raws : Entries, Json.normalizeEntries raws = (m :: ms).map Member.entry ∧
      Gives (entries (fun key read => do colon; return (key, ← rawValue depth) :: read) (fuel + 1) index read) c
        (raws.reverse ++ read) rest := by
  rw [Member.written, List.append_assoc, List.cons_append] at here
  obtain ⟨c₂, c₃, c₄, eaten, named, parted, here₄, level₄⟩ := label_read label here
  obtain ⟨raw, gap, same, blank, c₅, value, here₅⟩ := takes c₄ rest₁ (level₄.trans level) here₄ ends
  have level₅ : c₅.depth = depth := ((keeps_rawValue _ c₄ raw c₅ value).trans level₄).trans level
  obtain ⟨raws, sames, c', read', there⟩ := others c₅ raw gap blank level₅ here₅
  refine ⟨(m.key, raw) :: raws, by rw [Json.normalizeEntries, same, sames]; rfl, c', ?_, there⟩
  rw [List.reverse_cons, List.append_assoc]
  have step : (do colon; return (m.key, ← rawValue depth) :: read : Reader Entries) c₃ =
      .ok ((m.key, raw) :: read) c₅ :=
    bind_eq_ok.2 ⟨(), c₄, parted, bind_eq_ok.2 ⟨raw, c₅, value, rfl⟩⟩
  exact bind_eq_ok.2 ⟨true, _, found, bind_eq_ok.2 ⟨(), c₂, eaten, bind_eq_ok.2 ⟨m.key, c₃, named,
    bind_eq_ok.2 ⟨(m.key, raw) :: read, c₅, step, read'⟩⟩⟩⟩

/-- After a member, all that follow are read, up to the closing brace. -/
theorem gives_entries_after (index : Nat) (read : Entries) (labels : ∀ m ∈ ms, Label m.key m.label)
    (takes : ∀ m ∈ ms, Takes depth m.value m.text) (enough : ms.length < fuel) (blank : Gap gap) (blank₁ : Gap gap₁)
    (level : c.depth = depth)
    (here : c.rest = gap₁ ++ ((ms.map Member.written).flatMap (',' :: ·) ++ (gap ++ '\x7d' :: rest))) :
    ∃ raws : Entries, Json.normalizeEntries raws = ms.map Member.entry ∧
      Gives (entries (fun key read => do colon; return (key, ← rawValue depth) :: read) fuel (index + 1) read) c
        (raws.reverse ++ read) ('\x7d' :: rest) := by
  obtain ⟨fuel, rfl⟩ : ∃ n, fuel = n + 1 := ⟨fuel - 1, by omega⟩
  induction ms generalizing fuel index read c gap₁ with
  | nil =>
    rw [List.map_nil, List.flatMap_nil, List.nil_append, ← List.append_assoc] at here
    have closed := rest_afterGap (List.forall_mem_append.2 ⟨blank₁, blank⟩) rfl here
    exact ⟨[], rfl, afterGap c, entries_end (hasEntry_end (nextToken_of_rest closed)), closed⟩
  | cons m ms ih =>
    obtain ⟨fuel, rfl⟩ : ∃ n, fuel = n + 1 := ⟨fuel - 1, by simp at enough; omega⟩
    obtain ⟨label, labels⟩ := List.forall_mem_cons.1 labels
    obtain ⟨first, takes⟩ := List.forall_mem_cons.1 takes
    rw [List.map_cons, flatMap_comma_cons] at here
    have comma := rest_afterGap blank₁ rfl here
    have here₁ : (afterGap c).advance.rest = _ := (Cursor.rest_advance _).trans (congrArg List.tail comma)
    have next := nextToken_label label (here₁.trans (List.append_assoc _ _ _))
    refine gives_entries_cons (hasEntry_comma comma next) label first ?_ here₁ (ends_separated blank rfl)
      fun c₂ raw gap₂ blank₂ level₂ here₂ => ?_
    · rw [Cursor.depth_advance, depth_afterGap, level]
    · exact ih (index + 1) ((m.key, raw) :: read) labels takes blank₂ level₂ here₂ fuel (Nat.lt_of_succ_lt_succ enough)

/-- What stands in the braces of an object is read. -/
theorem gives_allEntries (labels : ∀ m ∈ ms, Label m.key m.label) (takes : ∀ m ∈ ms, Takes depth m.value m.text)
    (enough : ms.length < fuel) (blank : Gap gap) (level : c.depth = depth)
    (here : c.rest = Json.separated (ms.map Member.written) ++ (gap ++ '\x7d' :: rest)) :
    ∃ raws : Entries, Json.normalizeEntries raws = ms.map Member.entry ∧
      Gives (entries (fun key read => do colon; return (key, ← rawValue depth) :: read) fuel 0 []) c
        (raws.reverse ++ []) ('\x7d' :: rest) := by
  obtain ⟨fuel, rfl⟩ : ∃ n, fuel = n + 1 := ⟨fuel - 1, by omega⟩
  cases ms with
  | nil =>
    have closed := rest_afterGap blank rfl here
    exact ⟨[], rfl, afterGap c, entries_end (hasEntry_end (nextToken_of_rest closed)), closed⟩
  | cons m ms =>
    obtain ⟨label, labels⟩ := List.forall_mem_cons.1 labels
    obtain ⟨first, takes⟩ := List.forall_mem_cons.1 takes
    rw [List.map_cons, Json.separated, List.append_assoc] at here
    have next := nextToken_label label (here.trans (List.append_assoc _ _ _))
    exact gives_entries_cons (hasEntry_first next) label first level here (ends_separated blank rfl)
      fun c₂ raw gap₂ blank₂ level₂ here₂ =>
        gives_entries_after 0 [(m.key, raw)] labels takes (Nat.lt_of_succ_lt_succ enough) blank blank₂ level₂ here₂

end Entries

end Reader

/-! ## Values -/

namespace Reader

open Json (Begins Gap Label Member)

variable {c : Cursor} {v : Json} {ch : Char} {gap cs tail rest : List Char} {n depth : Nat}

theorem gives_word {word : List Char} (here : c.rest = ch :: (word ++ rest)) :
    Gives (do eat; ident word; return v) c v rest :=
  gives_bind (gives_eat here) fun _ _ here₁ => gives_bind (gives_ident here₁) fun _ _ there => gives_pure there

theorem gives_number {token : List Char} {x : Number} (numeral : Numeral token x) (ends : Ends rest)
    (next : (afterGap c).rest = token ++ rest) : Gives scalar c (.num x) rest := by
  obtain ⟨ch, tail, rfl, head⟩ := numeral.head
  refine gives_peekToken next ?_
  generalize same : some ch = token
  split
  case h_6 =>
    obtain rfl := Option.some.inj same
    rw [if_pos head]
    exact gives_bind (numeral.read ends next) fun _ _ there => gives_pure there
  -- no word and no text begins like a number
  all_goals cases same
  all_goals cases head

/-- A value without brackets is read behind blanks. -/
theorem takes_scalar (deep : depth ≠ 0) (plain : v.Plain) (token : isGap ch = false) (noList : ch ≠ '[')
    (noObject : ch ≠ '\x7b')
    (read : ∀ (c : Cursor) (rest : List Char), (afterGap c).rest = ch :: (tail ++ rest) → Ends rest →
      Gives scalar c v rest) :
    Takes depth v (ch :: tail) := by
  rintro c rest rfl here ends
  have next := rest_afterGap (List.forall_mem_nil _) token here
  have first := nextToken_of_rest next
  obtain ⟨c', read, there⟩ := read c rest next ends
  exact ⟨v, [], plain.normalize_eq, List.forall_mem_nil _, c',
    (rawValue_eq_scalar deep (first ▸ fun same => noList (Option.some.inj same))
      (first ▸ fun same => noObject (Option.some.inj same))).trans read, there⟩

theorem length_le_flatMap_comma (texts : List (List Char)) : texts.length ≤ (texts.flatMap (',' :: ·)).length := by
  induction texts with
  | nil => exact Nat.le_refl _
  | cons t texts ih =>
    rw [List.flatMap_cons, List.length_append, List.length_cons, List.length_cons]
    omega

/-- There are at most as many texts as characters, and one more. -/
theorem length_separated (texts : List (List Char)) : texts.length ≤ (Json.separated texts).length + 1 := by
  cases texts with
  | nil => exact Nat.zero_le _
  | cons t texts =>
    have := length_le_flatMap_comma texts
    rw [Json.separated, List.length_append, List.length_cons]
    omega

/-- A list is read when its items are. -/
theorem takes_list {es : List (Json × List Char)} (takes : ∀ e ∈ es, Takes depth e.1 e.2)
    (begins : ∀ e ∈ es, Begins e.2) (deep : depth ≠ 0) (blank : Gap gap) :
    Takes (depth + 1) (.arr (es.map (·.1)))
      ('[' :: (Json.separated (es.map (·.2)) ++ (gap ++ [']']))) := by
  intro c rest level here _
  simp only [List.cons_append, List.append_assoc, List.nil_append] at here
  have next := rest_afterGap (List.forall_mem_nil _) rfl here
  have level₁ : (afterGap c).depth = depth + 1 := (depth_afterGap c).trans level
  have enough : es.length < (afterGap c).rest.length := by
    have := length_separated (es.map (·.2))
    simp only [List.length_map] at this
    rw [next]
    simp only [List.length_cons, List.length_append]
    omega
  obtain ⟨raws, sames, body⟩ := gives_allItems (c := { (afterGap c).advance with depth := (afterGap c).depth - 1 })
    takes begins deep enough blank (by rw [level₁, Nat.add_sub_cancel])
    ((Cursor.rest_advance _).trans (congrArg List.tail next))
  refine ⟨.arr (raws.reverse ++ []).reverse, [], ?_, List.forall_mem_nil _, gives_peekToken next ?_⟩
  · rw [List.append_nil, List.reverse_reverse, Json.normalize, Json.normalizeItems_eq, sames]
  · refine gives_bind gives_remaining fun c₁ at_once _ => ?_
    cases at_once
    exact gives_bind (gives_enclosed (by omega) body fun c₂ here₂ =>
      gives_endList (rest_afterGap (List.forall_mem_nil _) rfl here₂)) fun _ _ there => gives_pure there

/-- An object is read when its members are, whatever their order. -/
theorem takes_object {ms : List Member} {entries : Entries} (labels : ∀ m ∈ ms, Label m.key m.label)
    (takes : ∀ m ∈ ms, Takes depth m.value m.text) (perm : (ms.map Member.entry).Perm entries)
    (ascending : entries.Pairwise fun a b => a.1 < b.1) (deep : depth ≠ 0) (blank : Gap gap) :
    Takes (depth + 1) (.obj entries)
      ('\x7b' :: (Json.separated (ms.map Member.written) ++ (gap ++ ['\x7d']))) := by
  intro c rest level here _
  simp only [List.cons_append, List.append_assoc, List.nil_append] at here
  have next := rest_afterGap (List.forall_mem_nil _) rfl here
  have level₁ : (afterGap c).depth = depth + 1 := (depth_afterGap c).trans level
  have enough : ms.length < (afterGap c).rest.length := by
    have := length_separated (ms.map Member.written)
    simp only [List.length_map] at this
    rw [next]
    simp only [List.length_cons, List.length_append]
    omega
  obtain ⟨raws, sames, body⟩ := gives_allEntries (c := { (afterGap c).advance with depth := (afterGap c).depth - 1 })
    labels takes enough blank (by rw [level₁, Nat.add_sub_cancel])
    ((Cursor.rest_advance _).trans (congrArg List.tail next))
  refine ⟨.obj (raws.reverse ++ []).reverse, [], ?_, List.forall_mem_nil _, gives_peekToken next ?_⟩
  · rw [List.append_nil, List.reverse_reverse, Json.normalize, sames, Entries.ofList_eq_of_perm ascending perm]
  · refine gives_bind gives_remaining fun c₁ at_once _ => ?_
    cases at_once
    exact gives_bind (gives_enclosed (by omega) body fun c₂ here₂ =>
      gives_endObject (rest_afterGap (List.forall_mem_nil _) rfl here₂)) fun _ _ there => gives_pure there

end Reader

namespace Json

open Reader

variable {v : Json} {cs : List Char} {n depth : Nat}

/-- However a value is written, it is read, unless it is nested too deep. -/
theorem Spelled.takes (h : Spelled v cs) (shallow : Shallow n v) (deep : n < depth) :
    Takes depth v cs := by
  have allowed : depth ≠ 0 := Nat.ne_zero_of_lt deep
  -- every bracket takes one from the nesting of the value and one from the nesting still allowed
  induction h generalizing n depth with
  | null => exact takes_scalar allowed trivial rfl (by decide) (by decide) fun c rest next _ =>
      gives_peekToken next (gives_word next)
  | yes => exact takes_scalar allowed trivial rfl (by decide) (by decide) fun c rest next _ =>
      gives_peekToken next (gives_word next)
  | no => exact takes_scalar allowed trivial rfl (by decide) (by decide) fun c rest next _ =>
      gives_peekToken next (gives_word next)
  | num numeral =>
    obtain ⟨ch, tail, rfl, head⟩ := numeral.head
    have other {ch' : Char} (same : ch = ch') (h : (ch' = '-' || ch'.isDigit) = false) : False := by
      rw [same, h] at head
      cases head
    refine takes_scalar allowed trivial (isGap_eq_false head) (fun same => other same rfl) (fun same => other same rfl)
      fun c rest next ends => gives_number numeral ends next
  | str escaped =>
    refine takes_scalar allowed trivial rfl (by decide) (by decide) fun c rest next _ => ?_
    rw [List.append_assoc] at next
    exact gives_peekToken next (gives_bind (gives_eat next) fun c₁ _ here₁ =>
      gives_bind (escaped.read here₁) fun _ _ there => gives_pure there)
  | arr spelled blank ih =>
    obtain ⟨depth, rfl⟩ := Nat.exists_eq_succ_of_ne_zero allowed
    cases shallow with
    | plain plain => cases plain
    | @arr n _ shallow =>
      have deep' : n < depth := Nat.lt_of_succ_lt_succ deep
      exact takes_list (fun e mem => ih e mem (shallow e.1 (List.mem_map_of_mem mem)) deep' (Nat.ne_zero_of_lt deep'))
        (fun e mem => (spelled e mem).begins) (Nat.ne_zero_of_lt deep') blank
  | obj labels spelled perm ascending blank ih =>
    obtain ⟨depth, rfl⟩ := Nat.exists_eq_succ_of_ne_zero allowed
    cases shallow with
    | plain plain => cases plain
    | @obj n _ shallow =>
      have deep' : n < depth := Nat.lt_of_succ_lt_succ deep
      exact takes_object labels (fun m mem => ih m mem (shallow m.entry (perm.subset (List.mem_map_of_mem mem))) deep'
        (Nat.ne_zero_of_lt deep')) perm ascending (Nat.ne_zero_of_lt deep') blank
  | @before _ gap _ blank _ ih =>
    intro c rest level here ends
    rw [List.append_assoc] at here
    obtain ⟨raw, gap', same, blank', c', read, there⟩ := ih shallow deep allowed
      (gap.foldl (fun c _ => c.advance) c) rest ((Cursor.depth_foldl_advance _ c).trans level)
      (by rw [Cursor.rest_foldl_advance, here, List.drop_left]) ends
    exact ⟨raw, gap', same, blank', c', (rawValue_foldl_advance allowed blank here).symm.trans read, there⟩
  | @after _ gap _ _ blank ih =>
    intro c rest level here ends
    rw [List.append_assoc] at here
    obtain ⟨raw, gap', same, blank', read⟩ :=
      ih shallow deep allowed c (gap ++ rest) level here (ends_append blank ends)
    rw [← List.append_assoc] at read
    exact ⟨raw, gap' ++ gap, same, List.forall_mem_append.2 ⟨blank', blank⟩, read⟩

/-- A text that spells a value, nested less deep than the limit, is read as that value. -/
theorem Spelled.read {text : String} (h : Spelled v text.toList) (shallow : Shallow (nestingLimit - 1) v) :
    Json.read text = .ok v := by
  obtain ⟨raw, gap, same, blank, c, read, here⟩ := h.takes shallow (Nat.lt_succ_self _)
    (Cursor.start text.toList) [] rfl (List.append_nil _).symm ends_nil
  refine run_eq_ok.2 ⟨c, afterGap c, value_eq_ok.2 ⟨raw, read, same⟩, ?_⟩
  have nothing : (afterGap c).rest = [] := by
    rw [List.append_nil] at here
    rw [afterGap, Cursor.rest_foldl_advance, here, List.takeWhile_eq_self_iff.2 blank, List.drop_length]
  unfold finish
  rw [peekToken_bind, nextToken, nothing]
  rfl

end Json

end AgentLoop
