import Mathlib.Data.List.Sort

/-!
# Stable sorts

- `StableSort`: a list in the order of the keys of its elements, in which those of one key stand as they came;
- `StableSort.unique`: there is one such list, and what it is depends on the elements of each key alone. It is what
  `List.mergeSort` gives (`StableSort.eq_mergeSort`);
- `StableSort.insert`: an element is inserted in front of the first one with a larger key;
- `StableSort.filter`: a part of a sorted list is that part, sorted.
-/

namespace AgentLoop

variable {α κ : Type} [LinearOrder κ] {key : α → κ}

/-- A list in the order of keys, in which those of one key stand as they came. -/
structure StableSort (key : α → κ) (came sorted : List α) : Prop where
  ascending : sorted.Pairwise fun a b => key a ≤ key b
  ties : ∀ k, (sorted.filter fun a => key a = k) = came.filter fun a => key a = k

/-- An ascending list is given by its elements of each key. -/
theorem eq_of_ties {l l' : List α} (ascending : l.Pairwise fun a b => key a ≤ key b)
    (ascending' : l'.Pairwise fun a b => key a ≤ key b)
    (ties : ∀ k, (l.filter fun a => key a = k) = l'.filter fun a => key a = k) : l = l' := by
  induction l generalizing l' with
  | nil =>
    refine (List.eq_nil_iff_forall_not_mem.2 fun a mem => ?_).symm
    have kept : a ∈ l'.filter fun b => key b = key a := by simp [mem]
    rw [← ties] at kept
    cases kept
  | cons a rest ih =>
    cases l' with
    | nil =>
      have none := ties (key a)
      simp at none
    | cons b rest' =>
      -- each head is an element of the other list, so the keys of the heads are the same
      have mem : a ∈ b :: rest' := by
        have kept : a ∈ (a :: rest).filter fun c => key c = key a := by simp
        rw [ties] at kept
        exact List.mem_of_mem_filter kept
      have mem' : b ∈ a :: rest := by
        have kept : b ∈ (b :: rest').filter fun c => key c = key b := by simp
        rw [← ties] at kept
        exact List.mem_of_mem_filter kept
      have same : key a = key b := by
        apply le_antisymm
        · rcases List.mem_cons.1 mem' with rfl | later
          · exact le_rfl
          · exact List.rel_of_pairwise_cons ascending later
        · rcases List.mem_cons.1 mem with rfl | later
          · exact le_rfl
          · exact List.rel_of_pairwise_cons ascending' later
      obtain rfl : a = b := by
        have first := ties (key a)
        rw [List.filter_cons_of_pos (by simp), List.filter_cons_of_pos (by simp [same])] at first
        exact (List.cons.inj first).1
      rw [ih ascending.of_cons ascending'.of_cons fun k => ?_]
      have whole := ties k
      rw [List.filter_cons, List.filter_cons] at whole
      split at whole
      · exact (List.cons.inj whole).2
      · exact whole

namespace StableSort

variable {l l' sorted sorted' : List α}

theorem nil : StableSort key [] [] := ⟨.nil, fun _ => rfl⟩

/-- Lists that have the same elements of each key in the same order are the same when they are sorted. -/
theorem unique (h : StableSort key l sorted) (h' : StableSort key l' sorted')
    (ties : ∀ k, (l.filter fun a => key a = k) = l'.filter fun a => key a = k) : sorted = sorted' :=
  eq_of_ties h.ascending h'.ascending fun k => (h.ties k).trans ((ties k).trans (h'.ties k).symm)

theorem mergeSort (key : α → κ) (l : List α) : StableSort key l (l.mergeSort fun a b => key a ≤ key b) := by
  have transitive (a b c : α) (first : decide (key a ≤ key b) = true) (second : decide (key b ≤ key c) = true) :
      decide (key a ≤ key c) = true :=
    decide_eq_true ((of_decide_eq_true first).trans (of_decide_eq_true second))
  have total (a b : α) : (decide (key a ≤ key b) || decide (key b ≤ key a)) = true := by simp [le_total]
  refine ⟨(List.pairwise_mergeSort transitive total l).imp of_decide_eq_true, fun k => ?_⟩
  -- those of one key are in order, so the sort keeps their order, and it keeps their number
  have even : (l.filter fun a => key a = k).Pairwise fun a b => decide (key a ≤ key b) = true := by
    refine List.Pairwise.imp_of_mem ?_ (List.pairwise_of_forall fun _ _ => trivial)
    intro a b ha hb _
    have ka := of_decide_eq_true (List.mem_filter.1 ha).2
    have kb := of_decide_eq_true (List.mem_filter.1 hb).2
    exact decide_eq_true (ka.trans kb.symm).le
  have kept := (List.sublist_mergeSort transitive total even List.filter_sublist).filter fun a => key a = k
  simp only [List.filter_filter, Bool.and_self] at kept
  exact (kept.eq_of_length ((List.mergeSort_perm l _).filter _).length_eq.symm).symm

/-- The stable sort is what the library's stable sort gives. -/
theorem eq_mergeSort (h : StableSort key l sorted) : sorted = l.mergeSort fun a b => key a ≤ key b :=
  h.unique (mergeSort key l) fun _ => rfl

/-- A part of a sorted list is that part, sorted. -/
theorem filter (h : StableSort key l sorted) (p : α → Bool) : StableSort key (l.filter p) (sorted.filter p) where
  ascending := h.ascending.filter p
  ties k := by rw [List.filter_comm, h.ties, List.filter_comm]

/-- An element is inserted into a list in order as if it came last. -/
theorem insert_self (ascending : l.Pairwise fun a b => key a ≤ key b) (a : α) :
    StableSort key (l ++ [a]) (l.orderedInsert (fun a b => key a < key b) a) := by
  induction l with
  | nil => exact ⟨List.pairwise_singleton _ _, fun _ => rfl⟩
  | cons b rest ih =>
    have later := ih ascending.of_cons
    rw [List.orderedInsert_cons]
    split
    · rename_i before
      have lower : ∀ c ∈ b :: rest, key a < key c := by
        intro c mem
        rcases List.mem_cons.1 mem with rfl | behind
        · exact before
        · exact before.trans_le (List.rel_of_pairwise_cons ascending behind)
      refine ⟨List.pairwise_cons.2 ⟨fun c mem => (lower c mem).le, ascending⟩, fun k => ?_⟩
      rw [List.filter_append, List.filter_cons, List.filter_singleton]
      by_cases own : key a = k
      · have none : (b :: rest).filter (fun c => key c = k) = [] := by
          refine List.filter_eq_nil_iff.2 fun c mem same => ?_
          exact (lower c mem).ne (own.trans (of_decide_eq_true same).symm)
        simp [own, none]
      · simp [own]
    · rename_i behind
      refine ⟨List.pairwise_cons.2 ⟨fun c mem => ?_, later.ascending⟩, fun k => ?_⟩
      · rcases (List.mem_orderedInsert _).1 mem with rfl | old
        · exact not_lt.1 behind
        · exact List.rel_of_pairwise_cons ascending old
      · rw [List.cons_append, List.filter_cons, List.filter_cons, later.ties]

/-- One more element is inserted in front of the first one with a larger key. -/
theorem insert (h : StableSort key l sorted) (a : α) :
    StableSort key (l ++ [a]) (sorted.orderedInsert (fun a b => key a < key b) a) where
  ascending := (insert_self h.ascending a).ascending
  ties k := by rw [(insert_self h.ascending a).ties, List.filter_append, h.ties, List.filter_append]

end StableSort

end AgentLoop
