import Mathlib
import AgentLoop.Json.Basic

/-!
# Equality of values

Numbers are equal as doubles are: none equals one that is no number, and the two zeros are equal. So a value need not
equal itself. But equality is symmetric and transitive:

- for doubles and numbers;
- `Json.beq_symm`, `Json.beq_trans`: for values, by their structure.
-/

namespace AgentLoop

instance partialEquivBEq_float : PartialEquivBEq Float where
  symm {a b} h := by
    obtain ⟨ha, hb, same⟩ := Float.beq_iff_ne_nan_and_eq.1 h
    refine Float.beq_iff_ne_nan_and_eq.2 ⟨hb, ha, ?_⟩
    rcases same with same | ⟨zero, minus⟩ | ⟨minus, zero⟩
    · exact .inl same.symm
    · exact .inr (.inr ⟨minus, zero⟩)
    · exact .inr (.inl ⟨zero, minus⟩)
  trans {a b c} h h' := by
    obtain ⟨ha, -, same⟩ := Float.beq_iff_ne_nan_and_eq.1 h
    obtain ⟨-, hc, same'⟩ := Float.beq_iff_ne_nan_and_eq.1 h'
    refine Float.beq_iff_ne_nan_and_eq.2 ⟨ha, hc, ?_⟩
    rcases same with rfl | ⟨rfl, rfl⟩ | ⟨rfl, rfl⟩
    · exact same'
    · rcases same' with rfl | ⟨-, rfl⟩ | ⟨-, rfl⟩
      · exact .inr (.inl ⟨rfl, rfl⟩)
      · exact .inr (.inl ⟨rfl, rfl⟩)
      · exact .inl rfl
    · rcases same' with rfl | ⟨-, rfl⟩ | ⟨-, rfl⟩
      · exact .inr (.inr ⟨rfl, rfl⟩)
      · exact .inl rfl
      · exact .inr (.inr ⟨rfl, rfl⟩)

namespace Number

theorem beq_int (m n : Int) : (int m == int n) = (m == n) := rfl

theorem beq_float (x y : Float) : (float x == float y) = (x == y) := rfl

instance : PartialEquivBEq Number where
  symm {a b} h := by
    cases a <;> cases b
    case int.int =>
      rw [beq_int] at h ⊢
      exact BEq.symm h
    case float.float =>
      rw [beq_float] at h ⊢
      exact BEq.symm h
    all_goals cases h
  trans {a b c} h h' := by
    cases a <;> cases b <;> cases c
    case int.int.int =>
      rw [beq_int] at h h' ⊢
      exact BEq.trans h h'
    case float.float.float =>
      rw [beq_float] at h h' ⊢
      exact BEq.trans h h'
    all_goals first | cases h | cases h'

end Number

namespace Json

mutual
theorem beq_symm : ∀ {v w : Json}, beq v w = true → beq w v = true
  | .null, w, h => by
    cases w with
    | null => rfl
    | _ => cases h
  | .bool a, w, h => by
    cases w with
    | bool b => exact BEq.symm (show (a == b) = true from h)
    | _ => cases h
  | .num a, w, h => by
    cases w with
    | num b => exact BEq.symm (show (a == b) = true from h)
    | _ => cases h
  | .str a, w, h => by
    cases w with
    | str b => exact BEq.symm (show (a == b) = true from h)
    | _ => cases h
  | .arr as, w, h => by
    cases w with
    | arr bs => exact beqItems_symm h
    | _ => cases h
  | .obj as, w, h => by
    cases w with
    | obj bs => exact beqEntries_symm h
    | _ => cases h

theorem beqItems_symm : ∀ {as bs : List Json}, beqItems as bs = true → beqItems bs as = true
  | [], bs, h => by
    cases bs with
    | nil => rfl
    | cons => cases h
  | a :: as, bs, h => by
    cases bs with
    | nil => cases h
    | cons b bs =>
      obtain ⟨first, rest⟩ := Bool.and_eq_true_iff.1 h
      exact Bool.and_eq_true_iff.2 ⟨beq_symm first, beqItems_symm rest⟩

theorem beqEntries_symm : ∀ {as bs : List (String × Json)}, beqEntries as bs = true → beqEntries bs as = true
  | [], bs, h => by
    cases bs with
    | nil => rfl
    | cons => cases h
  | (k, a) :: as, bs, h => by
    cases bs with
    | nil => cases h
    | cons b bs =>
      obtain ⟨first, rest⟩ := Bool.and_eq_true_iff.1 h
      obtain ⟨key, value⟩ := Bool.and_eq_true_iff.1 first
      exact Bool.and_eq_true_iff.2
        ⟨Bool.and_eq_true_iff.2 ⟨BEq.symm key, beq_symm value⟩, beqEntries_symm rest⟩
end

mutual
theorem beq_trans : ∀ {v w u : Json}, beq v w = true → beq w u = true → beq v u = true
  | .null, w, u, h, h' => by
    cases w with
    | null => exact h'
    | _ => cases h
  | .bool a, w, u, h, h' => by
    cases w with
    | bool b =>
      cases u with
      | bool c => exact BEq.trans (show (a == b) = true from h) h'
      | _ => cases h'
    | _ => cases h
  | .num a, w, u, h, h' => by
    cases w with
    | num b =>
      cases u with
      | num c => exact BEq.trans (show (a == b) = true from h) h'
      | _ => cases h'
    | _ => cases h
  | .str a, w, u, h, h' => by
    cases w with
    | str b =>
      cases u with
      | str c => exact BEq.trans (show (a == b) = true from h) h'
      | _ => cases h'
    | _ => cases h
  | .arr as, w, u, h, h' => by
    cases w with
    | arr bs =>
      cases u with
      | arr cs => exact beqItems_trans h h'
      | _ => cases h'
    | _ => cases h
  | .obj as, w, u, h, h' => by
    cases w with
    | obj bs =>
      cases u with
      | obj cs => exact beqEntries_trans h h'
      | _ => cases h'
    | _ => cases h

theorem beqItems_trans :
    ∀ {as bs cs : List Json}, beqItems as bs = true → beqItems bs cs = true → beqItems as cs = true
  | [], bs, cs, h, h' => by
    cases bs with
    | nil => exact h'
    | cons => cases h
  | a :: as, bs, cs, h, h' => by
    cases bs with
    | nil => cases h
    | cons b bs =>
      cases cs with
      | nil => cases h'
      | cons c cs =>
        obtain ⟨first, rest⟩ := Bool.and_eq_true_iff.1 h
        obtain ⟨first', rest'⟩ := Bool.and_eq_true_iff.1 h'
        exact Bool.and_eq_true_iff.2 ⟨beq_trans first first', beqItems_trans rest rest'⟩

theorem beqEntries_trans : ∀ {as bs cs : List (String × Json)},
    beqEntries as bs = true → beqEntries bs cs = true → beqEntries as cs = true
  | [], bs, cs, h, h' => by
    cases bs with
    | nil => exact h'
    | cons => cases h
  | (k, a) :: as, bs, cs, h, h' => by
    cases bs with
    | nil => cases h
    | cons b bs =>
      cases cs with
      | nil => cases h'
      | cons c cs =>
        obtain ⟨first, rest⟩ := Bool.and_eq_true_iff.1 h
        obtain ⟨first', rest'⟩ := Bool.and_eq_true_iff.1 h'
        obtain ⟨key, value⟩ := Bool.and_eq_true_iff.1 first
        obtain ⟨key', value'⟩ := Bool.and_eq_true_iff.1 first'
        exact Bool.and_eq_true_iff.2
          ⟨Bool.and_eq_true_iff.2 ⟨BEq.trans key key', beq_trans value value'⟩, beqEntries_trans rest rest'⟩
end

instance : PartialEquivBEq Json where
  symm := beq_symm
  trans := beq_trans

end Json

end AgentLoop
