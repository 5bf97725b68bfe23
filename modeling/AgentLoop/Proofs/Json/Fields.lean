import AgentLoop.Json.Decoder

/-!
# Reading the fields of a record

- `Entries.under`: the values that entries hold under a name, in order;
- `Fields.Reads`: what fields read from entries. A field reads the one value under its name (`reads_one`), and fields
  with different names read independently of each other (`reads_both`), whatever the order of the entries;
- `Decoder.ofJson_ofList`, `Decoder.ofJson_ofOption`, …: reading what was written, for the plain shapes.
-/

namespace AgentLoop

/-- The values under a name. -/
def Entries.under (name : String) (entries : Entries) : List Json :=
  (entries.filter fun e => e.1 == name).map (·.2)

namespace Entries

variable {name key : String} {v : Json} {entries : Entries}

@[simp] theorem under_nil : under name [] = [] := rfl

@[simp] theorem under_cons :
    under name ((key, v) :: entries) = if key = name then v :: under name entries else under name entries := by
  by_cases h : key = name <;> simp [under, h]

@[simp] theorem under_append (entries entries' : Entries) :
    under name (entries ++ entries') = under name entries ++ under name entries' := by
  simp [under]

end Entries

namespace Field

variable {σ τ : Type} {left : List (Field σ)} {right : List (Field τ)}

/-- Reads one entry into the slots of fields. -/
def take (fields : List (Field σ)) (s : σ) (key : String) (v : Json) : Except Cause σ :=
  match fields.find? (·.name == key) with
  | none => .ok s
  | some f => if f.filled s then .error (.duplicateField f.name) else (f.read.ofJson v).map fun u => u s

/-- Fields among those of two records. -/
def joined (left : List (Field σ)) (right : List (Field τ)) : List (Field (σ × τ)) :=
  left.map (lift Prod.fst fun u s => (u s.1, s.2)) ++ right.map (lift Prod.snd fun u s => (s.1, u s.2))

theorem names_joined (left : List (Field σ)) (right : List (Field τ)) :
    (joined left right).map name = left.map name ++ right.map name := by
  rw [joined, List.map_append, List.map_map, List.map_map]
  rfl

/-- Entries of other names leave the slots alone. -/
theorem take_of_not_mem {fields : List (Field σ)} {s : σ} {key : String} {v : Json} (other : key ∉ fields.map name) :
    take fields s key v = .ok s := by
  have none : fields.find? (·.name == key) = none :=
    List.find?_eq_none.2 fun field mem same => other (List.mem_map.2 ⟨field, mem, by simpa using same⟩)
  rw [take, none]

/-- A name belongs to the fields on the left or to those on the right. -/
theorem take_joined (disjoint : ∀ n ∈ left.map name, n ∉ right.map name) (s : σ) (t : τ) (key : String) (v : Json) :
    take (joined left right) (s, t) key v =
      (take left s key v).bind fun s' => (take right t key v).map fun t' => (s', t') := by
  have found : (joined left right).find? (·.name == key) =
      ((left.find? (·.name == key)).map (lift Prod.fst fun u s => (u s.1, s.2))).or
        ((right.find? (·.name == key)).map (lift Prod.snd fun u s => (s.1, u s.2))) := by
    rw [joined, List.find?_append, List.find?_map, List.find?_map]
    rfl
  cases inLeft : left.find? (·.name == key) with
  | some field =>
    have mem : key ∈ left.map name :=
      List.mem_map.2 ⟨field, List.mem_of_find?_eq_some inLeft, by simpa using List.find?_some inLeft⟩
    rw [take_of_not_mem (disjoint key mem)]
    simp only [take, found, inLeft, Option.map_some, Option.some_or, lift, Decoder.map]
    cases field.filled s with
    | true => rfl
    | false => cases field.read.ofJson v <;> rfl
  | none =>
    simp only [take, found, inLeft, Option.map_none, Option.none_or]
    cases right.find? (·.name == key) with
    | none => rfl
    | some field =>
      simp only [Option.map_some, lift, Decoder.map]
      cases field.filled t with
      | true => rfl
      | false => cases field.read.ofJson v <;> rfl

/-- What fields collect from entries, beginning with some slots. -/
def collect (fields : List (Field σ)) (s : σ) (entries : Entries) : Except Cause σ :=
  entries.foldlM (fun s e => take fields s e.1 e.2) s

theorem collect_cons (fields : List (Field σ)) (s : σ) (key : String) (v : Json) (entries : Entries) :
    collect fields s ((key, v) :: entries) = (take fields s key v).bind fun s => collect fields s entries := rfl

theorem collect_joined (disjoint : ∀ n ∈ left.map name, n ∉ right.map name) (s : σ) (t : τ) (entries : Entries)
    (collected : σ × τ) :
    collect (joined left right) (s, t) entries = .ok collected ↔
      collect left s entries = .ok collected.1 ∧ collect right t entries = .ok collected.2 := by
  induction entries generalizing s t with
  | nil =>
    show (Except.ok (s, t) : Except Cause _) = .ok collected ↔
      Except.ok s = .ok collected.1 ∧ Except.ok t = .ok collected.2
    simp [Prod.ext_iff]
  | cons e rest ih =>
    obtain ⟨key, v⟩ := e
    rw [collect_cons, collect_cons, collect_cons, take_joined disjoint]
    cases take left s key v with
    | error cause => simp [Except.bind]
    | ok s₁ =>
      cases take right t key v with
      | error cause => simp [Except.bind, Except.map]
      | ok t₁ => exact ih s₁ t₁

/-- A field whose slot holds its value. -/
def single {α : Type} (name : String) (d : Decoder α) (absent : Option α) : Field (Option α) :=
  ⟨name, Option.isSome, d.map fun a _ => some a, absent.map fun a _ => some a⟩

section Single

variable {α : Type} {name key : String} {d : Decoder α} {absent : Option α} {a : α} {s : Option α} {v : Json}
  {entries : Entries}

theorem take_single_other (other : key ≠ name) : take [single name d absent] s key v = .ok s :=
  take_of_not_mem (by simpa [single] using other)

theorem take_single_filled : take [single name d absent] (some a) name v = .error (.duplicateField name) := by
  simp [take, single]

theorem take_single : take [single name d absent] none name v = (d.ofJson v).map some := by
  simp only [take, single, List.find?_cons, beq_self_eq_true, Option.isSome_none, Decoder.map]
  cases d.ofJson v <;> rfl

theorem collect_single_filled :
    collect [single name d absent] (some a) entries = .ok s ↔ entries.under name = [] ∧ some a = s := by
  induction entries with
  | nil => exact ⟨fun h => ⟨rfl, Except.ok.inj h⟩, fun h => congrArg _ h.2⟩
  | cons e rest ih =>
    obtain ⟨key, v⟩ := e
    rw [collect_cons, Entries.under_cons]
    by_cases same : key = name
    · rw [same, take_single_filled]
      simp [Except.bind]
    · rw [take_single_other same, if_neg same]
      exact ih

theorem collect_single :
    collect [single name d absent] none entries = .ok s ↔
      (entries.under name = [] ∧ none = s) ∨ ∃ v a, entries.under name = [v] ∧ d.ofJson v = .ok a ∧ some a = s := by
  induction entries with
  | nil =>
    show (Except.ok none : Except Cause (Option α)) = .ok s ↔ _
    simp
  | cons e rest ih =>
    obtain ⟨key, v⟩ := e
    rw [collect_cons, Entries.under_cons]
    by_cases same : key = name
    · rw [same, take_single, if_pos rfl]
      cases read : d.ofJson v with
      | error cause => simp [Except.map, Except.bind, read]
      | ok a =>
        refine collect_single_filled.trans ⟨fun ⟨nothing, h⟩ => .inr ⟨v, a, by rw [nothing], read, h⟩, ?_⟩
        rintro (⟨h, -⟩ | ⟨v', a', h, read', h'⟩)
        · cases h
        · obtain ⟨rfl, nothing⟩ := List.cons.inj h
          rw [read] at read'
          exact ⟨nothing, by rw [Except.ok.inj read', h']⟩
    · rw [take_single_other same, if_neg same]
      exact ih

end Single

end Field

namespace Fields

variable {α β : Type} {fs : Fields α} {f : Fields (α → β)} {x : Fields α} {entries : Entries}

/-- The names of the fields. -/
def names (fs : Fields α) : List String := fs.fields.map Field.name

/-- Fields read a record from entries. -/
def Reads (fs : Fields α) (entries : Entries) (a : α) : Prop := fs.ofEntries entries = .ok a

@[simp] theorem names_pure (a : α) : (pure a).names = [] := rfl

@[simp] theorem names_seq : (f <*> x).names = f.names ++ x.names :=
  Field.names_joined f.fields x.fields

@[simp] theorem names_map (g : α → β) : (g <$> x).names = x.names := names_seq (f := pure g)

@[simp] theorem names_required (name : String) (d : Decoder α) : (required name d).names = [name] := rfl

@[simp] theorem names_optional (name : String) (d : Decoder α) : (optional name d).names = [name] := rfl

@[simp] theorem names_withDefault (name : String) (d : Decoder α) (a : α) : (withDefault name d a).names = [name] := rfl

theorem takeEntry_eq (s : fs.Slots) (key : String) (v : Json) :
    fs.takeEntry s key v = Field.take fs.fields s key v := by
  unfold takeEntry Field.take
  cases fs.fields.find? (·.name == key) <;> rfl

theorem reads_iff {a : α} :
    fs.Reads entries a ↔ ∃ s, Field.collect fs.fields fs.empty entries = .ok s ∧ fs.build s = .ok a := by
  have same : fs.ofEntries entries = (Field.collect fs.fields fs.empty entries).bind fs.build := by
    simp only [ofEntries, takeEntry_eq]
    rfl
  rw [Reads, same]
  cases Field.collect fs.fields fs.empty entries <;> simp [Except.bind]

/-- Fields with different names read independently of each other. -/
theorem reads_both (disjoint : ∀ n ∈ f.names, n ∉ x.names) {b : β} :
    (f <*> x).Reads entries b ↔ ∃ g a, f.Reads entries g ∧ x.Reads entries a ∧ g a = b := by
  have builds (s : f.Slots) (t : x.Slots) :
      (both f x).build (s, t) = .ok b ↔ ∃ g a, f.build s = .ok g ∧ x.build t = .ok a ∧ g a = b := by
    show (f.build s).bind (fun g => (x.build t).bind fun a => .ok (g a)) = .ok b ↔ _
    cases f.build s <;> cases x.build t <;> simp [Except.bind]
  constructor
  · intro h
    obtain ⟨⟨s, t⟩, collected, built⟩ := reads_iff.1 h
    obtain ⟨left, right⟩ := (Field.collect_joined disjoint f.empty x.empty entries (s, t)).1 collected
    obtain ⟨g, a, hg, ha, same⟩ := (builds s t).1 built
    exact ⟨g, a, reads_iff.2 ⟨s, left, hg⟩, reads_iff.2 ⟨t, right, ha⟩, same⟩
  · rintro ⟨g, a, hf, hx, same⟩
    obtain ⟨s, left, hg⟩ := reads_iff.1 hf
    obtain ⟨t, right, ha⟩ := reads_iff.1 hx
    exact reads_iff.2 ⟨(s, t), (Field.collect_joined disjoint f.empty x.empty entries (s, t)).2 ⟨left, right⟩,
      (builds s t).2 ⟨g, a, hg, ha, same⟩⟩

theorem reads_pure {a b : α} : (pure a).Reads entries b ↔ a = b := by
  have collected : Field.collect (pure a).fields () entries = .ok () := by
    induction entries with
    | nil => rfl
    | cons e rest ih => exact ih
  rw [reads_iff]
  exact ⟨fun ⟨_, _, same⟩ => Except.ok.inj same, fun same => ⟨(), collected, congrArg _ same⟩⟩

theorem reads_map {g : α → β} {b : β} : (g <$> x).Reads entries b ↔ ∃ a, x.Reads entries a ∧ g a = b := by
  show (pure g <*> x).Reads entries b ↔ _
  rw [reads_both (by simp)]
  simp [reads_pure]

/-! ## One field -/

section One

variable {name : String} {d : Decoder α} {absent : Option α} {missing : Except Cause α} {a : α}

/-- A field reads the one value under its name. -/
theorem reads_one :
    (one name d absent missing).Reads entries a ↔
      (∃ v, entries.under name = [v] ∧ d.ofJson v = .ok a) ∨ (entries.under name = [] ∧ missing = .ok a) := by
  rw [reads_iff]
  constructor
  · rintro ⟨s, collected, built⟩
    rcases Field.collect_single.1 collected with ⟨nothing, rfl⟩ | ⟨v, b, one, read, rfl⟩
    · exact .inr ⟨nothing, built⟩
    · obtain rfl : b = a := Except.ok.inj built
      exact .inl ⟨v, one, read⟩
  · rintro (⟨v, one, read⟩ | ⟨nothing, default⟩)
    · exact ⟨some a, Field.collect_single.2 (.inr ⟨v, a, one, read, rfl⟩), rfl⟩
    · exact ⟨none, Field.collect_single.2 (.inl ⟨nothing, rfl⟩), default⟩

theorem reads_required :
    (required name d).Reads entries a ↔ ∃ v, entries.under name = [v] ∧ d.ofJson v = .ok a := by
  rw [required, reads_one]
  simp

theorem reads_optional {o : Option α} :
    (optional name d).Reads entries o ↔
      (∃ v, entries.under name = [v] ∧ d.option.ofJson v = .ok o) ∨ (entries.under name = [] ∧ o = none) := by
  rw [optional, reads_one]
  simp only [Except.ok.injEq, @eq_comm _ none]

theorem reads_withDefault {default : α} :
    (withDefault name d default).Reads entries a ↔
      (∃ v, entries.under name = [v] ∧ d.ofJson v = .ok a) ∨ (entries.under name = [] ∧ a = default) := by
  rw [withDefault, reads_one]
  simp only [Except.ok.injEq, @eq_comm _ default]

end One

end Fields

end AgentLoop
