import AgentLoop.Json.Printer

/-!
# Annotations

- `Metadata`: values under names, one value a name, by ascending name;
- `insert`, `erase`: the operations, and what each does to `get?` (`get?_insert`, `get?_erase`).
-/

namespace AgentLoop

/-- Application-defined values under names, by ascending name. -/
structure Metadata where
  entries : Entries
  ascending : entries.Pairwise fun a b => a.1 < b.1

namespace Metadata

/-- The names of ascending entries after `Entries.put`. -/
theorem mem_put {key : String} {value : Json} {entries : Entries} {e : String × Json}
    (h : e ∈ Entries.put key value entries) : e = (key, value) ∨ e ∈ entries := by
  induction entries with
  | nil => simpa [Entries.put] using h
  | cons head rest ih =>
    simp only [Entries.put] at h
    split at h
    · simpa using h
    · split at h
      · rcases List.mem_cons.1 h with h | h
        · exact .inl h
        · exact .inr (List.mem_cons_of_mem _ h)
      · rcases List.mem_cons.1 h with h | h
        · exact .inr (h ▸ List.mem_cons_self)
        · rcases ih h with h | h
          · exact .inl h
          · exact .inr (List.mem_cons_of_mem _ h)

/-- Putting an entry keeps the names ascending. -/
theorem ascending_put {key : String} {value : Json} {entries : Entries}
    (h : entries.Pairwise fun a b => a.1 < b.1) :
    (Entries.put key value entries).Pairwise fun a b => a.1 < b.1 := by
  induction entries with
  | nil => simp [Entries.put]
  | cons head rest ih =>
    obtain ⟨hhead, hrest⟩ := List.pairwise_cons.1 h
    simp only [Entries.put]
    split
    · rename_i hlt
      refine List.pairwise_cons.2 ⟨?_, h⟩
      intro e he
      rcases List.mem_cons.1 he with rfl | he
      · exact hlt
      · exact String.lt_trans hlt (hhead e he)
    · rename_i hnlt
      split
      · rename_i heq
        exact List.pairwise_cons.2 ⟨fun e he => by simpa [heq] using hhead e he, hrest⟩
      · rename_i hne
        refine List.pairwise_cons.2 ⟨?_, ih hrest⟩
        intro e he
        rcases mem_put he with rfl | he
        · exact Decidable.byContradiction fun hn =>
            hne (String.le_antisymm (String.not_lt.1 hn) (String.not_lt.1 hnlt))
        · exact hhead e he

/-- No values. -/
def empty : Metadata := ⟨[], .nil⟩

instance : Inhabited Metadata := ⟨empty⟩

instance : BEq Metadata := ⟨fun a b => Json.beqEntries a.entries b.entries⟩

/-- Sets the value under a name. -/
def insert (m : Metadata) (key : String) (value : Json) : Metadata :=
  ⟨m.entries.put key value, ascending_put m.ascending⟩

/-- Removes a name. -/
def erase (m : Metadata) (key : String) : Metadata :=
  ⟨m.entries.drop key, m.ascending.filter _⟩

/-- The value under a name. -/
def get? (m : Metadata) (key : String) : Option Json := m.entries.get? key

/-- What entries hold after `Entries.put`. -/
theorem get?_put (entries : Entries) (key : String) (value : Json) (k : String) :
    (Entries.put key value entries).get? k = if key = k then some value else entries.get? k := by
  induction entries with
  | nil => by_cases h : key = k <;> simp [Entries.put, Entries.get?, h]
  | cons head rest ih =>
    simp only [Entries.put]
    split
    · by_cases h : key = k <;> simp [Entries.get?, h]
    · split
      · rename_i heq
        by_cases h : key = k <;> simp [Entries.get?, h, ← heq]
      · rename_i hne
        by_cases hk : head.1 = k
        · have h : key ≠ k := fun h => hne (h.trans hk.symm)
          simp [Entries.get?, hk, h]
        · simpa [Entries.get?, hk] using ih

/-- A name that was set has its value; the other ones keep theirs. -/
theorem get?_insert (m : Metadata) (key : String) (value : Json) (k : String) :
    (m.insert key value).get? k = if key = k then some value else m.get? k :=
  get?_put m.entries key value k

/-- A name that was removed has no value; the other ones keep theirs. -/
theorem get?_erase (m : Metadata) (key k : String) :
    (m.erase key).get? k = if key = k then none else m.get? k := by
  simp only [erase, get?, Entries.get?, Entries.drop, List.find?_filter]
  by_cases h : key = k
  · subst h
    simp
  · have same : (fun e : String × Json => decide ((e.1 != key) = true ∧ (e.1 == k) = true)) = fun e => e.1 == k := by
      funext e
      by_cases he : e.1 = k <;> simp [he, Ne.symm h]
    simp only [same, h, if_false]

/-- Is there a value under the name? -/
def contains (m : Metadata) (key : String) : Bool := (m.get? key).isSome

/-- Is nothing there? -/
def isEmpty (m : Metadata) : Bool := m.entries.isEmpty

/-- How many names there are. -/
def size (m : Metadata) : Nat := m.entries.length

/-- The values of entries in any order; the last one under a name wins. -/
def ofEntries (entries : Entries) : Metadata := entries.foldl (fun m e => m.insert e.1 e.2) empty

/-- An object with the same entries. -/
def toJson (m : Metadata) : Json := .obj m.entries

@[ext] theorem ext {a b : Metadata} (h : a.entries = b.entries) : a = b := by
  cases a; cases b; cases h; rfl

end Metadata

end AgentLoop
