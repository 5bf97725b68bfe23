import AgentLoop.Metadata

/-!
# Entries as a map

- `Entries.mem_of_mem_ofList`: a map has no other entries than those it was made of;
- `Entries.ofList_eq_of_perm`: the order of entries with distinct keys makes no difference to the map.
-/

namespace AgentLoop

namespace Entries

variable {key : String} {value : Json} {entries acc : Entries}

/-- An object as a map has no other entries than before. -/
theorem mem_of_mem_ofList {e : String × Json} (mem : e ∈ ofList entries) : e ∈ entries := by
  have kept (entries acc : Entries) (mem : e ∈ entries.foldl (fun acc e => put e.1 e.2 acc) acc) :
      e ∈ acc ∨ e ∈ entries := by
    induction entries generalizing acc with
    | nil => exact .inl mem
    | cons first rest ih =>
      rcases ih _ mem with mem | mem
      · rcases Metadata.mem_put mem with rfl | mem
        · exact .inr List.mem_cons_self
        · exact .inl mem
      · exact .inr (List.mem_cons_of_mem _ mem)
  exact (kept entries [] mem).resolve_left List.not_mem_nil

theorem perm_put (new : ∀ e ∈ entries, e.1 ≠ key) : (put key value entries).Perm ((key, value) :: entries) := by
  induction entries with
  | nil => exact .refl _
  | cons e rest ih =>
    obtain ⟨other, new⟩ := List.forall_mem_cons.1 new
    rw [put]
    split
    · exact .refl _
    · rw [if_neg other.symm]
      exact ((ih new).cons e).trans (.swap _ _ rest)

theorem ascending_foldl (h : acc.Pairwise fun a b => a.1 < b.1) :
    (entries.foldl (fun acc e => put e.1 e.2 acc) acc).Pairwise fun a b => a.1 < b.1 := by
  induction entries generalizing acc with
  | nil => exact h
  | cons e rest ih => exact ih (Metadata.ascending_put h)

theorem perm_foldl (acc : Entries) (distinct : (acc ++ entries).Pairwise fun a b => a.1 ≠ b.1) :
    (entries.foldl (fun acc e => put e.1 e.2 acc) acc).Perm (acc ++ entries) := by
  induction entries generalizing acc with
  | nil =>
    rw [List.append_nil]
    exact .refl _
  | cons e rest ih =>
    have new : ∀ e' ∈ acc, e'.1 ≠ e.1 := fun e' mem =>
      (List.pairwise_append.1 distinct).2.2 e' mem e List.mem_cons_self
    have moved : (put e.1 e.2 acc ++ rest).Perm (acc ++ e :: rest) :=
      ((perm_put new).append_right rest).trans List.perm_middle.symm
    exact (ih _ ((moved.pairwise_iff fun h => h.symm).2 distinct)).trans moved

/-- Entries with distinct keys in any order, as a map, are the entries in ascending order. -/
theorem ofList_eq_of_perm {entries' : Entries} (ascending : entries.Pairwise fun a b => a.1 < b.1)
    (perm : entries'.Perm entries) : ofList entries' = entries := by
  have apart {a b : String × Json} (h : a.1 < b.1) : a.1 ≠ b.1 := fun same => String.lt_irrefl b.1 (same ▸ h)
  have distinct : entries'.Pairwise fun a b => a.1 ≠ b.1 :=
    (perm.pairwise_iff fun h => h.symm).2 (ascending.imp apart)
  exact List.Perm.eq_of_pairwise (fun a b _ _ h h' => absurd h' (String.lt_asymm h)) (ascending_foldl .nil) ascending
    ((perm_foldl [] distinct).trans perm)

end Entries

end AgentLoop
