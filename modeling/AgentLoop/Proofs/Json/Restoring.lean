import AgentLoop.Proofs.Json.Fields

/-!
# Reading what was written

- `Decoder.Restores`: a reading gives back a value from the form in which it was written;
- `restores_string`, `restores_list`, `restores_option`, …: the plain shapes. What may be missing must not be written
  `null`, and a map comes back because its names ascend (`Metadata.ofEntries_entries`);
- `Fields.Reads.required`, `Fields.Reads.seq`, …: a record comes back field by field;
- `ofJson_tagged`: an alternative whose name stands among its fields is read from the other entries.
-/

namespace AgentLoop

/-- Sets a key above all others. -/
theorem Entries.put_last {key : String} {v : Json} {entries : Entries} (above : ∀ e ∈ entries, e.1 < key) :
    Entries.put key v entries = entries ++ [(key, v)] := by
  induction entries with
  | nil => rfl
  | cons head rest ih =>
    have first : head.1 < key := above head List.mem_cons_self
    have notBelow : ¬key < head.1 := String.lt_asymm first
    have other : key ≠ head.1 := fun same => String.lt_irrefl _ (same ▸ first)
    rw [Entries.put, if_neg notBelow, if_neg other, ih fun e mem => above e (List.mem_cons_of_mem _ mem)]
    rfl

/-- Entries with ascending names are a map as they stand. -/
theorem Metadata.ofEntries_entries (m : Metadata) : Metadata.ofEntries m.entries = m := by
  have appends (entries : Entries) (acc : Metadata)
      (ascending : (acc.entries ++ entries).Pairwise fun a b => a.1 < b.1) :
      (entries.foldl (fun m e => m.insert e.1 e.2) acc).entries = acc.entries ++ entries := by
    induction entries generalizing acc with
    | nil => simp
    | cons e rest ih =>
      have last : (acc.insert e.1 e.2).entries = acc.entries ++ [e] :=
        Entries.put_last fun e' mem => (List.pairwise_append.1 ascending).2.2 e' mem e List.mem_cons_self
      rw [List.foldl_cons, ih _ (by simpa [last] using ascending), last]
      simp
  exact Metadata.ext (appends m.entries .empty m.ascending)

namespace Decoder

variable {α β : Type} {d : Decoder α} {write : α → Json}

/-- A reading gives a value back from the form in which it was written. -/
def Restores (d : Decoder α) (write : α → Json) (a : α) : Prop := d.ofJson (write a) = .ok a

theorem restores_json (v : Json) : json.Restores id v := rfl

theorem restores_string (s : String) : string.Restores .str s := rfl

theorem restores_bool (b : Bool) : bool.Restores .bool b := rfl

theorem ofJson_below {bound n : Nat} {expected : String} {convert : Nat → α} (small : n < bound) :
    (below bound expected convert).ofJson (.ofNat n) = .ok (convert n) := by
  have inside : 0 ≤ (n : Int) ∧ (n : Int) < bound := ⟨by omega, by exact_mod_cast small⟩
  exact (if_pos inside).trans (by rw [Int.toNat_natCast])

theorem restores_u32 (n : UInt32) : u32.Restores .ofU32 n :=
  (ofJson_below n.toNat_lt_size).trans (by rw [UInt32.ofNat_toNat])

theorem restores_u64 (n : UInt64) : u64.Restores .ofU64 n :=
  (ofJson_below n.toNat_lt_size).trans (by rw [UInt64.ofNat_toNat])

theorem restores_metadata (m : Metadata) : metadata.Restores Metadata.toJson m :=
  congrArg Except.ok m.ofEntries_entries

theorem restores_list {as : List α} (restored : ∀ a ∈ as, d.Restores write a) :
    d.list.Restores (Json.ofList write) as := by
  show (as.map write).mapM d.ofJson = .ok as
  induction as with
  | nil => rfl
  | cons a rest ih =>
    have first : d.ofJson (write a) = .ok a := restored a List.mem_cons_self
    rw [List.map_cons, List.mapM_cons, first, ih fun b mem => restored b (List.mem_cons_of_mem _ mem)]
    rfl

/-- A value that may be missing comes back if it is not written as what stands for nothing. -/
theorem restores_option {o : Option α} (written : ∀ a, write a ≠ .null) (restored : ∀ a ∈ o, d.Restores write a) :
    d.option.Restores (Json.ofOption write) o := by
  cases o with
  | none => rfl
  | some a =>
    have read : d.option.ofJson (write a) = (d.ofJson (write a)).map some := by
      cases h : write a with
      | null => exact absurd h (written a)
      | _ => rfl
    show d.option.ofJson (write a) = .ok (some a)
    rw [read, show d.ofJson (write a) = .ok a from restored a rfl]
    rfl

/-- A record comes back if its fields do. -/
theorem restores_record {name : String} {fs : Fields α} {entries : Entries} {a : α} (written : write a = .obj entries)
    (read : fs.Reads entries a) : (record name fs).Restores write a := by
  rw [Restores, written]
  exact read

end Decoder

namespace Fields.Reads

variable {α β : Type} {f : Fields (α → β)} {x : Fields α} {g : α → β} {a : α} {entries : Entries} {name : String}
  {d : Decoder α} {v : Json}

theorem map (g : α → β) (read : x.Reads entries a) : (g <$> x).Reads entries (g a) :=
  Fields.reads_map.2 ⟨a, read, rfl⟩

theorem seq (read : f.Reads entries g) (next : x.Reads entries a) (disjoint : ∀ n ∈ f.names, n ∉ x.names) :
    (f <*> x).Reads entries (g a) :=
  (Fields.reads_both disjoint).2 ⟨g, a, read, next, rfl⟩

theorem required (written : entries.under name = [v]) (restored : d.ofJson v = .ok a) :
    (Fields.required name d).Reads entries a :=
  Fields.reads_required.2 ⟨v, written, restored⟩

theorem optional {o : Option α} (written : entries.under name = [v]) (restored : d.option.ofJson v = .ok o) :
    (Fields.optional name d).Reads entries o :=
  Fields.reads_optional.2 (.inl ⟨v, written, restored⟩)

theorem withDefault {default : α} (written : entries.under name = [v]) (restored : d.ofJson v = .ok a) :
    (Fields.withDefault name d default).Reads entries a :=
  Fields.reads_withDefault.2 (.inl ⟨v, written, restored⟩)

theorem absent {default : α} (missing : entries.under name = []) :
    (Fields.withDefault name d default).Reads entries default :=
  Fields.reads_withDefault.2 (.inr ⟨missing, rfl⟩)

end Fields.Reads

/-! ## Names among the fields -/

namespace Decoder

variable {α : Type} {type tag name : String} {cases : List (TaggedCase α)} {entries : Entries}

/-- The entries beside the name. -/
def beside (tag : String) (entries : Entries) : Entries := entries.filter fun e => !(e.1 == tag)

/-- Entries without the name are put aside. -/
theorem foldlM_step_beside (unnamed : entries.under tag = []) (found : Option String) (rest : Entries) :
    entries.foldlM (tagged.step tag cases) (found, rest) = .ok (found, (beside tag entries).reverse ++ rest) := by
  induction entries generalizing rest with
  | nil => rfl
  | cons e more ih =>
    obtain ⟨key, v⟩ := e
    by_cases same : key = tag
    · simp [same] at unnamed
    · have aside : tagged.step tag cases (found, rest) (key, v) = .ok (found, (key, v) :: rest) := by
        simp [tagged.step, same]
      rw [List.foldlM_cons, aside]
      refine (ih (by simpa [same] using unnamed) ((key, v) :: rest)).trans ?_
      simp [beside, same]

/-- The one name among the entries is found, and the other entries are put aside. -/
theorem foldlM_step_named (named : entries.under tag = [.str name]) (known : name ∈ cases.map TaggedCase.name)
    (rest : Entries) :
    entries.foldlM (tagged.step tag cases) (none, rest) =
      .ok (some name, (beside tag entries).reverse ++ rest) := by
  induction entries generalizing rest with
  | nil => simp at named
  | cons e more ih =>
    obtain ⟨key, v⟩ := e
    by_cases same : key = tag
    · obtain ⟨rfl, unnamed⟩ : v = .str name ∧ Entries.under tag more = [] := by simpa [same] using named
      have found : tagged.step tag cases (none, rest) (key, .str name) = .ok (some name, rest) := by
        have listed : (cases.map TaggedCase.name).contains name = true := List.contains_iff_mem.2 known
        simp only [tagged.step, same, beq_self_eq_true, tagged.identifier, identifier, scalar, tagged.known, listed]
        rfl
      rw [List.foldlM_cons, found]
      refine (foldlM_step_beside unnamed (some name) rest).trans ?_
      simp [beside, same]
    · have aside : tagged.step tag cases (none, rest) (key, v) = .ok (none, (key, v) :: rest) := by
        simp [tagged.step, same]
      rw [List.foldlM_cons, aside]
      refine (ih (by simpa [same] using named) ((key, v) :: rest)).trans ?_
      simp [beside, same]

/-- An alternative is read from the entries beside its name. -/
theorem ofJson_tagged {case : TaggedCase α} (named : entries.under tag = [.str name])
    (found : cases.find? (·.name == name) = some case) :
    (tagged type tag cases).ofJson (.obj entries) = case.ofEntries (beside tag entries) := by
  have known : name ∈ cases.map TaggedCase.name :=
    List.mem_map.2 ⟨case, List.mem_of_find?_eq_some found, by simpa using List.find?_some found⟩
  have sorted := foldlM_step_named named known []
  simp only [tagged, sorted, Except.bind, bind, tagged.ofEntries, found, List.append_nil, List.reverse_reverse]

/-- An alternative comes back if its fields do. -/
theorem restores_tagged (name : String) {n title : String} {fs : Fields α} {write : α → Json} {a : α}
    (written : write a = .obj entries) (named : entries.under tag = [.str name])
    (found : cases.find? (·.name == name) = some (.record n title fs)) (read : fs.Reads (beside tag entries) a) :
    (tagged type tag cases).Restores write a := by
  rw [Restores, written, ofJson_tagged named found]
  exact read

end Decoder

end AgentLoop
