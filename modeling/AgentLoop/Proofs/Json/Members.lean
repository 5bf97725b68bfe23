import AgentLoop.Proofs.Json.Fields
import AgentLoop.Proofs.Json.Nesting

/-!
# Records in a text

A record is read from a text without building the object first. Here the two ways are one:

- `Decoder.Agrees`: a decoder reads a text as it reads the value in that text (`agrees_scalar`, `Agrees.option`, …);
- `Reader.members`, `Reader.object`: the members of an object in the order in which they stand; those of other names
  than the given ones are passed over;
- `Decoder.record_read`: a record in a text that begins with a brace is what the fields read from its members.
-/

namespace AgentLoop

/-- Is a value neither a list nor an object? -/
def Json.Plain : Json → Prop
  | .arr _ | .obj _ => False
  | _ => True

theorem Json.Plain.normalize_eq {v : Json} (plain : v.Plain) : v.normalize = v := by
  cases v <;> first | rfl | cases plain

namespace Cursor

theorem rest_advance (c : Cursor) : c.advance.rest = c.rest.tail := by
  unfold advance
  split
  case h_1 none => rw [none, List.tail_nil]
  case h_2 ch rest more =>
    rw [more, List.tail_cons]
    split <;> rfl

theorem rest_foldl_advance (cs : List Char) (c : Cursor) :
    (cs.foldl (fun c _ => c.advance) c).rest = c.rest.drop cs.length := by
  induction cs generalizing c with
  | nil => rfl
  | cons _ cs ih => rw [List.foldl_cons, ih, rest_advance, List.drop_tail, List.length_cons]

end Cursor

namespace Reader

variable {α β γ : Type} {r : Reader α} {c c' : Cursor}

/-! ## The next token -/

/-- The character with which the next token begins. -/
def nextToken (c : Cursor) : Option Char := (afterGap c).rest.head?

theorem takeWhile_rest_afterGap (c : Cursor) : (afterGap c).rest.takeWhile isGap = [] := by
  rw [afterGap, Cursor.rest_foldl_advance]
  induction c.rest with
  | nil => rfl
  | cons ch rest ih =>
    by_cases gap : isGap ch
    · rw [List.takeWhile_cons_of_pos gap, List.length_cons, List.drop_succ_cons, ih]
    · rw [List.takeWhile_cons_of_neg gap, List.length_nil, List.drop_zero, List.takeWhile_cons_of_neg gap]

@[simp] theorem afterGap_afterGap (c : Cursor) : afterGap (afterGap c) = afterGap c := by
  rw [afterGap, takeWhile_rest_afterGap]
  rfl

@[simp] theorem nextToken_afterGap (c : Cursor) : nextToken (afterGap c) = nextToken c := by
  rw [nextToken, afterGap_afterGap, nextToken]

theorem peekToken_bind (f : Option Char → Reader β) (c : Cursor) :
    (peekToken >>= f) c = f (nextToken c) (afterGap c) := rfl

/-- A reading that looks at the next token may begin before the blanks or after them. -/
theorem peekToken_bind_afterGap (f : Option Char → Reader β) (c : Cursor) :
    (peekToken >>= f) (afterGap c) = (peekToken >>= f) c := by
  rw [peekToken_bind, peekToken_bind, nextToken_afterGap, afterGap_afterGap]

theorem scalar_afterGap (c : Cursor) : scalar (afterGap c) = scalar c := peekToken_bind_afterGap _ c

/-! ## Values -/

/-- A value that is neither a list nor an object is `null` only where the text has an `n`. -/
theorem scalar_eq_ok {v : Json} (h : scalar c = .ok v c') : v.Plain ∧ (v = .null → nextToken c = some 'n') := by
  have word {rest : List Char} {w : Json} (read : (do eat; ident rest; return w) (afterGap c) = .ok v c') : w = v := by
    obtain ⟨_, _, -, read⟩ := bind_eq_ok.1 read
    obtain ⟨_, _, -, read⟩ := bind_eq_ok.1 read
    cases read
    rfl
  unfold scalar at h
  rw [peekToken_bind] at h
  generalize nextToken c = next at h ⊢
  split at h
  · cases h
  · exact ⟨word h ▸ trivial, fun _ => rfl⟩
  · exact ⟨word h ▸ trivial, fun isNull => by cases (word h).trans isNull⟩
  · exact ⟨word h ▸ trivial, fun isNull => by cases (word h).trans isNull⟩
  · obtain ⟨_, _, -, h⟩ := bind_eq_ok.1 h
    obtain ⟨_, _, -, h⟩ := bind_eq_ok.1 h
    cases h
    exact ⟨trivial, fun isNull => by cases isNull⟩
  · split at h
    · obtain ⟨_, _, -, h⟩ := bind_eq_ok.1 h
      cases h
      exact ⟨trivial, fun isNull => by cases isNull⟩
    · cases h

theorem scalar_of_n (isNull : nextToken c = some 'n') :
    scalar c = (do eat; ident ['u', 'l', 'l']; return Json.null) (afterGap c) := by
  unfold scalar
  rw [peekToken_bind, isNull]
  rfl

theorem value_eq_ok {v : Json} : value c = .ok v c' ↔ ∃ v', rawValue c.depth c = .ok v' c' ∧ v'.normalize = v := by
  show (rawValue c.depth >>= fun v => pure v.normalize) c = _ ↔ _
  rw [bind_eq_ok]
  constructor
  · rintro ⟨v', c₁, read, ⟨⟩⟩
    exact ⟨v', read, rfl⟩
  · rintro ⟨v', read, rfl⟩
    exact ⟨v', c', read, rfl⟩

theorem rawValue_afterGap {depth : Nat} (deep : depth ≠ 0) : rawValue depth (afterGap c) = rawValue depth c := by
  obtain ⟨depth, rfl⟩ := Nat.exists_eq_succ_of_ne_zero deep
  exact peekToken_bind_afterGap _ c

/-- A value may be read before the blanks or after them. -/
theorem value_afterGap {v : Json} (deep : c.depth ≠ 0) : value (afterGap c) = .ok v c' ↔ value c = .ok v c' := by
  rw [value_eq_ok, value_eq_ok, depth_afterGap, rawValue_afterGap deep]

theorem rawValue_eq_scalar (deep : c.depth ≠ 0) (noList : nextToken c ≠ some '[')
    (noObject : nextToken c ≠ some '\x7b') : rawValue c.depth c = scalar c := by
  obtain ⟨depth, more⟩ := Nat.exists_eq_succ_of_ne_zero deep
  rw [more]
  unfold rawValue
  rw [peekToken_bind]
  generalize nextToken c = next at noList noObject
  split
  · exact absurd rfl noList
  · exact absurd rfl noObject
  · exact scalar_afterGap c

/-- What a value is where the text has no bracket. -/
theorem value_eq_scalar {v : Json} (deep : c.depth ≠ 0) (noList : nextToken c ≠ some '[')
    (noObject : nextToken c ≠ some '\x7b') : value c = .ok v c' ↔ scalar c = .ok v c' := by
  rw [value_eq_ok, rawValue_eq_scalar deep noList noObject]
  constructor
  · rintro ⟨v', read, rfl⟩
    rw [(scalar_eq_ok read).1.normalize_eq, read]
  · exact fun read => ⟨v, read, (scalar_eq_ok read).1.normalize_eq⟩

/-- Where the text has a bracket, a value is a list or an object. -/
theorem not_plain_of_value {v : Json} (bracket : nextToken c = some '[' ∨ nextToken c = some '\x7b')
    (read : value c = .ok v c') : ¬v.Plain := by
  obtain ⟨v', raw, rfl⟩ := value_eq_ok.1 read
  cases depth : c.depth with
  | zero =>
    rw [depth] at raw
    cases raw
  | succ depth' =>
    rw [depth] at raw
    unfold rawValue at raw
    rw [peekToken_bind] at raw
    rcases bracket with list | object
    · rw [list] at raw
      obtain ⟨_, _, -, raw⟩ := bind_eq_ok.1 raw
      obtain ⟨_, _, -, raw⟩ := bind_eq_ok.1 raw
      cases raw
      exact id
    · rw [object] at raw
      obtain ⟨_, _, -, raw⟩ := bind_eq_ok.1 raw
      obtain ⟨_, _, -, raw⟩ := bind_eq_ok.1 raw
      cases raw
      exact id

theorem nextToken_of_null (deep : c.depth ≠ 0) (read : value c = .ok .null c') : nextToken c = some 'n' := by
  have noBracket : ¬(nextToken c = some '[' ∨ nextToken c = some '\x7b') :=
    fun bracket => not_plain_of_value bracket read trivial
  rw [not_or] at noBracket
  exact (scalar_eq_ok ((value_eq_scalar deep noBracket.1 noBracket.2).1 read)).2 rfl

end Reader

/-! ## Decoders -/

namespace Decoder

variable {α β : Type} {d : Decoder α}

/-- A decoder reads a text as it reads the value in that text. -/
def Agrees (d : Decoder α) : Prop :=
  ∀ c c' a, c.depth ≠ 0 → (d.ofText c = .ok a c' ↔ ∃ v, Reader.value c = .ok v c' ∧ d.ofJson v = .ok a)

theorem agrees_json : json.Agrees := by
  intro c c' v _
  show Reader.value c = .ok v c' ↔ ∃ v', Reader.value c = .ok v' c' ∧ Except.ok v' = .ok v
  simp

theorem Agrees.map (agrees : d.Agrees) (f : α → β) : (d.map f).Agrees := by
  intro c c' b deep
  show (f <$> d.ofText) c = .ok b c' ↔ ∃ v, Reader.value c = .ok v c' ∧ (d.ofJson v).map f = .ok b
  rw [Reader.map_eq_ok]
  constructor
  · rintro ⟨a, read, rfl⟩
    obtain ⟨v, value, taken⟩ := (agrees c c' a deep).1 read
    exact ⟨v, value, by rw [taken]; rfl⟩
  · rintro ⟨v, value, taken⟩
    cases taken' : d.ofJson v with
    | error cause => rw [taken'] at taken; cases taken
    | ok a =>
      rw [taken'] at taken
      exact ⟨a, (agrees c c' a deep).2 ⟨v, value, taken'⟩, Except.ok.inj taken⟩

theorem not_refuse {expected : String} {a : α} {c c' : Cursor} : (refuse expected : Reader α) c ≠ .ok a c' := by
  intro h
  unfold refuse at h
  rw [Reader.peekToken_bind] at h
  generalize Reader.nextToken c = next at h
  split at h
  · cases h
  · cases h
  · obtain ⟨_, _, -, h⟩ := Reader.bind_eq_ok.1 h
    cases h

/-- A decoder of values that are neither lists nor objects. -/
theorem agrees_scalar {expected : String} {take : Json → Except Cause α} (plain : ∀ v a, take v = .ok a → v.Plain) :
    (scalar expected take).Agrees := by
  intro c c' a deep
  show (Reader.peekToken >>= _) c = .ok a c' ↔ ∃ v, Reader.value c = .ok v c' ∧ take v = .ok a
  have bracketed (bracket : Reader.nextToken c = some '[' ∨ Reader.nextToken c = some '\x7b') :
      (refuse expected : Reader α) (Reader.afterGap c) = .ok a c' ↔ ∃ v, Reader.value c = .ok v c' ∧ take v = .ok a :=
    ⟨fun h => absurd h not_refuse, fun ⟨v, read, taken⟩ =>
      absurd (plain v a taken) (Reader.not_plain_of_value bracket read)⟩
  rw [Reader.peekToken_bind]
  generalize next : Reader.nextToken c = token
  split
  · exact bracketed (.inl next)
  · exact bracketed (.inr next)
  · rename_i noList noObject
    rw [← next] at noList noObject
    simp only [Reader.bind_eq_ok, Reader.scalar_afterGap, Reader.value_eq_scalar deep noList noObject]
    constructor
    · rintro ⟨v, c₁, read, taken⟩
      cases taken' : take v with
      | error cause => rw [taken'] at taken; cases taken
      | ok b => rw [taken'] at taken; cases taken; exact ⟨v, read, taken'⟩
    · rintro ⟨v, read, taken⟩
      exact ⟨v, c', read, by rw [taken]; rfl⟩

theorem agrees_string : string.Agrees :=
  agrees_scalar fun v _ taken => by cases v <;> trivial

theorem ofJson_option_of_ne_null {v : Json} (notNull : v ≠ .null) : d.option.ofJson v = (d.ofJson v).map some := by
  cases v <;> first | rfl | exact absurd rfl notNull

theorem Agrees.option (agrees : d.Agrees) : d.option.Agrees := by
  intro c c' o deep
  show (Reader.peekToken >>= _) c = .ok o c' ↔ _
  rw [Reader.peekToken_bind]
  generalize next : Reader.nextToken c = token
  split
  · have noList : Reader.nextToken c ≠ some '[' := by rw [next]; decide
    have noObject : Reader.nextToken c ≠ some '\x7b' := by rw [next]; decide
    simp only [Reader.value_eq_scalar deep noList noObject, Reader.scalar_of_n next, Reader.bind_eq_ok]
    constructor
    · rintro ⟨_, c₁, eaten, _, _, word, ⟨⟩⟩
      exact ⟨.null, ⟨_, c₁, eaten, _, c', word, rfl⟩, rfl⟩
    · rintro ⟨_, ⟨_, c₁, eaten, _, _, word, ⟨⟩⟩, ⟨⟩⟩
      exact ⟨_, c₁, eaten, _, c', word, rfl⟩
  · rename_i other
    have some' : (d.map some).Agrees := agrees.map some
    have deep' : (Reader.afterGap c).depth ≠ 0 := by rwa [Reader.depth_afterGap]
    refine (some' (Reader.afterGap c) c' o deep').trans (exists_congr fun v => ?_)
    rw [Reader.value_afterGap deep]
    refine and_congr_right fun read => ?_
    rw [ofJson_option_of_ne_null fun isNull => other (next.symm.trans (Reader.nextToken_of_null deep (isNull ▸ read)))]
    rfl

end Decoder

/-! ## Objects -/

namespace Reader

variable {α β γ : Type} {r : Reader α} {f : α → Reader β} {g : α → Reader γ} {c c' : Cursor} {b : β} {P : γ → Prop}

/-- Reads a member after its key, and then the others; a member of another name than the given ones is passed over. -/
def member (names : List String) (key : String) (others : Reader Entries) : Reader Entries := do
  colon
  if key ∈ names then
    let v ← value
    return (key, v) :: (← others)
  else
    skip
    others

/-- The members of an object in the order in which they stand, at most `fuel` of them. -/
def members (names : List String) : (fuel index : Nat) → Reader Entries
  | 0, _ => return []
  | fuel + 1, index => do
    if ← hasEntry (index == 0) then
      eat
      let key ← string
      member names key (members names fuel (index + 1))
    else return []

/-- Reads the members of an object. -/
def object (names : List String) : Reader Entries := do
  match ← peekToken with
  | some '\x7b' =>
    let fuel ← remaining
    enclosed endObject (members names fuel 0)
  | _ => failPeek .expectedValue

/-- Readings that begin alike compare as their rests do. -/
theorem bind_eq_ok_iff (rests : ∀ a c₁, r c = .ok a c₁ → (f a c₁ = .ok b c' ↔ ∃ x, g a c₁ = .ok x c' ∧ P x)) :
    (r >>= f) c = .ok b c' ↔ ∃ x, (r >>= g) c = .ok x c' ∧ P x := by
  rw [bind_eq_ok]
  constructor
  · rintro ⟨a, c₁, read, rest⟩
    obtain ⟨x, rest', holds⟩ := (rests a c₁ read).1 rest
    exact ⟨x, bind_eq_ok.2 ⟨a, c₁, read, rest'⟩, holds⟩
  · rintro ⟨x, whole, holds⟩
    obtain ⟨a, c₁, read, rest'⟩ := bind_eq_ok.1 whole
    exact ⟨a, c₁, read, (rests a c₁ read).2 ⟨x, rest', holds⟩⟩

theorem member_eq_ok {names : List String} {key : String} {others : Reader Entries} {ms : Entries} :
    member names key others c = .ok ms c' ↔ ∃ c₁, colon c = .ok () c₁ ∧
      ((key ∉ names ∧ ∃ c₂, skip c₁ = .ok () c₂ ∧ others c₂ = .ok ms c') ∨
        (key ∈ names ∧ ∃ v c₂, value c₁ = .ok v c₂ ∧ ∃ ms', others c₂ = .ok ms' c' ∧ (key, v) :: ms' = ms)) := by
  unfold member
  by_cases known : key ∈ names
  · simp only [known, if_true, not_true_eq_false, false_and, false_or, true_and, bind_eq_ok]
    constructor
    · rintro ⟨_, c₁, colon, v, c₂, value, ms', _, others, ⟨⟩⟩
      exact ⟨c₁, colon, v, c₂, value, ms', others, rfl⟩
    · rintro ⟨c₁, colon, v, c₂, value, ms', others, rfl⟩
      exact ⟨_, c₁, colon, v, c₂, value, ms', c', others, rfl⟩
  · simp only [known, if_false, not_false_eq_true, true_and, false_and, or_false, bind_eq_ok]
    constructor
    · rintro ⟨_, c₁, colon, _, c₂, skipped, others⟩
      exact ⟨c₁, colon, c₂, skipped, others⟩
    · rintro ⟨c₁, colon, c₂, skipped, others⟩
      exact ⟨_, c₁, colon, _, c₂, skipped, others⟩

/-- A body in brackets is read one level deeper. -/
theorem enclosed_eq_ok {ending : Reader Unit} {a : α} :
    enclosed ending r c = .ok a c' ↔ 1 < c.depth ∧ ∃ c₁ c₂, r { c.advance with depth := c.depth - 1 } = .ok a c₁ ∧
      ending c₁ = .ok () c₂ ∧ { c₂ with depth := c.depth } = c' := by
  unfold enclosed
  by_cases shallow : c.depth ≤ 1
  · rw [if_pos shallow]
    constructor
    · intro h
      cases h
    · rintro ⟨deep, -⟩
      exact absurd deep (Nat.not_lt.2 shallow)
  · rw [if_neg shallow]
    simp only [Nat.lt_of_not_le shallow, true_and]
    cases r { c.advance with depth := c.depth - 1 } with
    | error f c₁ => cases ended : ending c₁ <;> simp [ended]
    | ok b c₁ => cases ended : ending c₁ <;> simp [and_assoc, ended]

/-- A whole text is read when nothing is left of it. -/
theorem run_eq_ok {a : α} {text : String} :
    r.run text = .ok a ↔ ∃ c₁ c₂, r (Cursor.start text.toList) = .ok a c₁ ∧ finish c₁ = .ok () c₂ := by
  have whole : r.run text = .ok a ↔
      ∃ c₂, (r >>= fun a => finish >>= fun _ => pure a) (Cursor.start text.toList) = .ok a c₂ := by
    unfold run
    cases (r >>= fun a => finish >>= fun _ => pure a) (Cursor.start text.toList) <;> simp
  simp only [whole, bind_eq_ok]
  constructor
  · rintro ⟨c₂, _, c₁, read, _, _, finished, ⟨⟩⟩
    exact ⟨c₁, c₂, read, finished⟩
  · rintro ⟨c₁, c₂, read, finished⟩
    exact ⟨c₂, a, c₁, read, _, c₂, finished, rfl⟩

end Reader

namespace Fields

variable {α β : Type} {fs : Fields α} {f : Fields (α → β)} {x : Fields α} {c c' : Cursor}

/-- All fields read a text as they read the value in it. -/
def Agree (fs : Fields α) : Prop := ∀ field ∈ fs.fields, field.read.Agrees

theorem agree_pure (a : α) : (pure a).Agree := by
  intro field mem
  cases mem

theorem Agree.seq (left : f.Agree) (right : x.Agree) : (f <*> x).Agree := by
  intro field mem
  rcases List.mem_append.1 mem with mem | mem
  · obtain ⟨field', mem', rfl⟩ := List.mem_map.1 mem
    exact (left field' mem').map _
  · obtain ⟨field', mem', rfl⟩ := List.mem_map.1 mem
    exact (right field' mem').map _

theorem Agree.map (agree : x.Agree) (g : α → β) : (g <$> x).Agree := (agree_pure g).seq agree

theorem agree_one {name : String} {d : Decoder α} {absent : Option α} {missing : Except Cause α} (agrees : d.Agrees) :
    (one name d absent missing).Agree := by
  intro field mem
  obtain rfl := List.mem_singleton.1 mem
  exact agrees.map _

/-- An entry of a text is one of another name, passed over, or it is taken with its value. -/
theorem entryReader_eq_ok (agree : fs.Agree) (deep : c.depth ≠ 0) {key : String} {s s' : fs.Slots} :
    fs.entryReader key s c = .ok s' c' ↔ ∃ c₁, Reader.colon c = .ok () c₁ ∧
      ((key ∉ fs.names ∧ Reader.skip c₁ = .ok () c' ∧ s = s') ∨
        (key ∈ fs.names ∧ ∃ v, Reader.value c₁ = .ok v c' ∧ Field.take fs.fields s key v = .ok s')) := by
  unfold entryReader Field.take
  cases found : fs.fields.find? (·.name == key) with
  | none =>
    have other : key ∉ fs.names := fun mem => by
      obtain ⟨field, mem, same⟩ := List.mem_map.1 mem
      exact List.find?_eq_none.1 found field mem (by simpa using same)
    show (Reader.colon >>= fun _ => Reader.skip >>= fun _ => Pure.pure s) c = .ok s' c' ↔ _
    simp only [other, not_false_eq_true, true_and, false_and, or_false, Reader.bind_eq_ok]
    constructor
    · rintro ⟨_, c₁, colon, _, _, skipped, ⟨⟩⟩
      exact ⟨c₁, colon, skipped, rfl⟩
    · rintro ⟨c₁, colon, skipped, rfl⟩
      exact ⟨_, c₁, colon, _, c', skipped, rfl⟩
  | some field =>
    have mem : field ∈ fs.fields := List.mem_of_find?_eq_some found
    have known : key ∈ fs.names := List.mem_map.2 ⟨field, mem, by simpa using List.find?_some found⟩
    simp only [known, not_true_eq_false, true_and, false_and, false_or]
    cases field.filled s with
    | true =>
      constructor
      · intro h
        cases h
      · rintro ⟨_, _, _, _, taken⟩
        cases taken
    | false =>
      show (Reader.colon >>= fun _ => field.read.ofText >>= fun u => Pure.pure (u s)) c = .ok s' c' ↔
        ∃ c₁, Reader.colon c = .ok () c₁ ∧ ∃ v, Reader.value c₁ = .ok v c' ∧
          ((field.read.ofJson v).map fun u => u s) = .ok s'
      simp only [Reader.bind_eq_ok]
      constructor
      · rintro ⟨_, c₁, colon, u, _, read, ⟨⟩⟩
        obtain ⟨v, value, taken⟩ := (agree field mem c₁ c' u (Reader.keeps_colon.deep colon deep)).1 read
        exact ⟨c₁, colon, v, value, by rw [taken]; rfl⟩
      · rintro ⟨c₁, colon, v, value, taken⟩
        cases taken' : field.read.ofJson v with
        | error cause =>
          rw [taken'] at taken
          cases taken
        | ok u =>
          rw [taken'] at taken
          cases taken
          have read := (agree field mem c₁ c' u (Reader.keeps_colon.deep colon deep)).2 ⟨v, value, taken'⟩
          exact ⟨_, c₁, colon, u, c', read, rfl⟩

/-- Entry by entry, the slots fill as the members come. -/
theorem entries_entryReader (agree : fs.Agree) (deep : c.depth ≠ 0) (fuel index : Nat) (s s' : fs.Slots) :
    Reader.entries fs.entryReader fuel index s c = .ok s' c' ↔
      ∃ ms, Reader.members fs.names fuel index c = .ok ms c' ∧ Field.collect fs.fields s ms = .ok s' := by
  have ended {s s' : fs.Slots} {c : Cursor} : (Pure.pure s : Reader fs.Slots) c = .ok s' c' ↔
      ∃ ms, (Pure.pure [] : Reader Entries) c = .ok ms c' ∧ Field.collect fs.fields s ms = .ok s' := by
    constructor
    · rintro ⟨⟩
      exact ⟨[], rfl, rfl⟩
    · rintro ⟨_, ⟨⟩, ⟨⟩⟩
      rfl
  induction fuel generalizing index s c with
  | zero => exact ended
  | succ fuel ih =>
    -- both loops look for an entry and read its key, and both end where there is none
    refine Reader.bind_eq_ok_iff fun more c₁ found => ?_
    cases more with
    | false => exact ended
    | true =>
      refine Reader.bind_eq_ok_iff fun _ c₂ eaten => Reader.bind_eq_ok_iff fun key c₃ named => ?_
      have deep₃ : c₃.depth ≠ 0 :=
        Reader.keeps_string.deep named (Reader.keeps_eat.deep eaten ((Reader.keeps_hasEntry _).deep found deep))
      simp only [Reader.bind_eq_ok, entryReader_eq_ok agree deep₃, Reader.member_eq_ok]
      constructor
      · rintro ⟨s₁, c₅, ⟨c₄, colon, entry⟩, rest⟩
        have deep₄ := Reader.keeps_colon.deep colon deep₃
        rcases entry with ⟨other, skipped, rfl⟩ | ⟨known, v, value, taken⟩
        · obtain ⟨ms, members, collected⟩ := (ih (Reader.keeps_skip.deep skipped deep₄) _ _).1 rest
          exact ⟨ms, ⟨c₄, colon, .inl ⟨other, c₅, skipped, members⟩⟩, collected⟩
        · obtain ⟨ms, members, collected⟩ := (ih (Reader.keeps_value.deep value deep₄) _ _).1 rest
          refine ⟨(key, v) :: ms, ⟨c₄, colon, .inr ⟨known, v, c₅, value, ms, members, rfl⟩⟩, ?_⟩
          rw [Field.collect_cons, taken]
          exact collected
      · rintro ⟨ms, ⟨c₄, colon, entry⟩, collected⟩
        have deep₄ := Reader.keeps_colon.deep colon deep₃
        rcases entry with ⟨other, c₅, skipped, members⟩ | ⟨known, v, c₅, value, ms, members, rfl⟩
        · exact ⟨s, c₅, ⟨c₄, colon, .inl ⟨other, skipped, rfl⟩⟩,
            (ih (Reader.keeps_skip.deep skipped deep₄) _ _).2 ⟨ms, members, collected⟩⟩
        · rw [Field.collect_cons] at collected
          cases taken : Field.take fs.fields s key v with
          | error cause =>
            rw [taken] at collected
            cases collected
          | ok s₁ =>
            rw [taken] at collected
            exact ⟨s₁, c₅, ⟨c₄, colon, .inr ⟨known, v, value, taken⟩⟩,
              (ih (Reader.keeps_value.deep value deep₄) _ _).2 ⟨ms, members, collected⟩⟩

theorem built_eq_ok {s : fs.Slots} {a : α} : fs.built s c = .ok a c' ↔ fs.build s = .ok a ∧ c = c' := by
  unfold built
  cases fs.build s with
  | error cause =>
    constructor
    · intro h
      cases h
    · rintro ⟨⟨⟩, -⟩
  | ok b =>
    constructor
    · rintro ⟨⟩
      exact ⟨rfl, rfl⟩
    · rintro ⟨⟨⟩, rfl⟩
      rfl

/-- What is read between the braces of a record. -/
theorem body_eq_ok (agree : fs.Agree) (deep : c.depth ≠ 0) {fuel : Nat} {a : α} :
    (Reader.entries fs.entryReader fuel 0 fs.empty >>= fs.built) c = .ok a c' ↔
      ∃ ms, Reader.members fs.names fuel 0 c = .ok ms c' ∧ fs.Reads ms a := by
  simp only [Reader.bind_eq_ok, entries_entryReader agree deep, built_eq_ok, reads_iff]
  constructor
  · rintro ⟨s, c₁, ⟨ms, members, collected⟩, built, rfl⟩
    exact ⟨ms, members, s, collected, built⟩
  · rintro ⟨ms, members, s, collected, built⟩
    exact ⟨s, c', ⟨ms, members, collected⟩, built, rfl⟩

/-- A record in braces is what the fields read from the members. -/
theorem reader_eq_ok (agree : fs.Agree) (brace : Reader.nextToken c = some '\x7b') {what : String} {a : α} :
    fs.reader what c = .ok a c' ↔ ∃ ms, Reader.object fs.names c = .ok ms c' ∧ fs.Reads ms a := by
  have typed : fs.reader what c = Reader.enclosed Reader.endObject
      (Reader.entries fs.entryReader (Reader.afterGap c).rest.length 0 fs.empty >>= fs.built) (Reader.afterGap c) := by
    unfold reader
    rw [Reader.peekToken_bind, brace]
    rfl
  have plain : Reader.object fs.names c = Reader.enclosed Reader.endObject
      (Reader.members fs.names (Reader.afterGap c).rest.length 0) (Reader.afterGap c) := by
    unfold Reader.object
    rw [Reader.peekToken_bind, brace]
    rfl
  rw [typed, plain]
  simp only [Reader.enclosed_eq_ok]
  constructor
  · rintro ⟨deep, c₁, c₂, body, ended, same⟩
    obtain ⟨ms, members, reads⟩ := (body_eq_ok agree (Nat.sub_ne_zero_of_lt deep)).1 body
    exact ⟨ms, ⟨deep, c₁, c₂, members, ended, same⟩, reads⟩
  · rintro ⟨ms, ⟨deep, c₁, c₂, members, ended, same⟩, reads⟩
    exact ⟨deep, c₁, c₂, (body_eq_ok agree (Nat.sub_ne_zero_of_lt deep)).2 ⟨ms, members, reads⟩, ended, same⟩

end Fields

namespace Decoder

/-- A record in a text that begins with a brace is what the fields read from the members of the object. -/
theorem record_read {α : Type} {fs : Fields α} (agree : fs.Agree) {name text : String} {a : α}
    (brace : text.toList.head? = some '\x7b') :
    (record name fs).read text = .ok a ↔ ∃ ms, (Reader.object fs.names).run text = .ok ms ∧ fs.Reads ms a := by
  have next : Reader.nextToken (Cursor.start text.toList) = some '\x7b' := by
    obtain ⟨rest, chars⟩ := List.head?_eq_some_iff.1 brace
    rw [chars]
    rfl
  show (fs.reader ("struct " ++ name)).run text = .ok a ↔ _
  simp only [Reader.run_eq_ok, Fields.reader_eq_ok agree next]
  constructor
  · rintro ⟨c₁, c₂, ⟨ms, object, reads⟩, finished⟩
    exact ⟨ms, ⟨c₁, c₂, object, finished⟩, reads⟩
  · rintro ⟨ms, ⟨c₁, c₂, object, finished⟩, reads⟩
    exact ⟨c₁, c₂, ⟨ms, object, reads⟩, finished⟩

end Decoder

end AgentLoop
