import AgentLoop.Json.Reader

/-!
# Readings keep the nesting

- `Reader.bind_eq_ok`: a composed reading succeeds when its parts do, one after the other;
- `Reader.Keeps`: a reading that succeeds leaves the nesting still allowed as it found it;
- `Reader.keeps_value`, `Reader.keeps_skip`: all readings of the grammar do, also those that go deeper meanwhile.
-/

namespace AgentLoop

namespace Cursor

@[simp] theorem depth_advance (c : Cursor) : c.advance.depth = c.depth := by
  unfold advance
  split
  · rfl
  · split <;> rfl

theorem depth_foldl_advance (cs : List Char) (c : Cursor) :
    (cs.foldl (fun c _ => c.advance) c).depth = c.depth := by
  induction cs generalizing c with
  | nil => rfl
  | cons _ _ ih => rw [List.foldl_cons, ih, depth_advance]

end Cursor

namespace Reader

variable {α β : Type} {r : Reader α} {f : α → Reader β} {c c' : Cursor} {b : β}

theorem bind_eq_ok : (r >>= f) c = .ok b c' ↔ ∃ a c₁, r c = .ok a c₁ ∧ f a c₁ = .ok b c' := by
  show EStateM.bind r f c = _ ↔ _
  unfold EStateM.bind
  cases r c <;> simp [and_assoc]

theorem map_eq_ok {g : α → β} : (g <$> r) c = .ok b c' ↔ ∃ a, r c = .ok a c' ∧ g a = b := by
  show EStateM.map g r c = _ ↔ _
  unfold EStateM.map
  cases r c <;> simp [and_comm, and_left_comm]

/-- A reading that succeeds leaves the nesting still allowed as it found it. -/
def Keeps (r : Reader α) : Prop := ∀ c a c', r c = .ok a c' → c'.depth = c.depth

theorem Keeps.deep {a : α} (keeps : Keeps r) (read : r c = .ok a c') (deep : c.depth ≠ 0) : c'.depth ≠ 0 := by
  rwa [keeps c a c' read]

/-! ## Composition -/

theorem keeps_pure (a : α) : Keeps (pure a : Reader α) := by
  rintro c _ _ ⟨⟩
  rfl

theorem keeps_bind (first : Keeps r) (rest : ∀ a, Keeps (f a)) : Keeps (r >>= f) := by
  intro c b c' h
  obtain ⟨a, c₁, read, then'⟩ := bind_eq_ok.1 h
  exact (rest a c₁ b c' then').trans (first c a c₁ read)

theorem keeps_fail (cause : Cause) : Keeps (fail cause : Reader α) := fun _ _ _ h => by cases h

theorem keeps_failPeek (cause : Cause) : Keeps (failPeek cause : Reader α) := fun _ _ _ h => by cases h

theorem keeps_throw (f : Fault) : Keeps (throw f : Reader α) := fun _ _ _ h => by cases h

theorem keeps_get : Keeps (get : Reader Cursor) := by
  rintro c _ _ ⟨⟩
  rfl

/-! ## Characters -/

theorem keeps_peek : Keeps peek := by
  rintro c _ _ ⟨⟩
  rfl

theorem keeps_eat : Keeps eat := by
  rintro c _ _ ⟨⟩
  exact c.depth_advance

theorem keeps_remaining : Keeps remaining := by
  rintro c _ _ ⟨⟩
  rfl

@[simp] theorem depth_afterGap (c : Cursor) : (afterGap c).depth = c.depth := Cursor.depth_foldl_advance _ c

theorem keeps_peekToken : Keeps peekToken := by
  rintro c _ _ ⟨⟩
  exact depth_afterGap c

theorem keeps_digits : Keeps digits := by
  rintro c _ _ ⟨⟩
  exact Cursor.depth_foldl_advance _ c

theorem keeps_ident (word : List Char) : Keeps (ident word) := by
  induction word with
  | nil => exact keeps_pure ()
  | cons expected more ih =>
    refine keeps_bind keeps_peek fun ch => ?_
    split
    · exact keeps_fail _
    · split
      · exact keeps_bind keeps_eat fun _ => ih
      · exact keeps_failPeek _

/-! ## Texts -/

theorem keeps_codeUnit : Keeps codeUnit := by
  intro c n c' h
  unfold codeUnit at h
  split at h
  · split at h
    · cases h
      simp
    · cases h
  · split at h <;> cases h

theorem keeps_pairMark (mark : Char) : Keeps (pairMark mark) := by
  refine keeps_bind keeps_peek fun ch => ?_
  split
  · exact keeps_fail _
  · split
    · exact keeps_eat
    · exact keeps_failPeek _

theorem keeps_unicodeEscape : Keeps unicodeEscape := by
  refine keeps_bind keeps_codeUnit fun n => ?_
  split
  · exact keeps_fail _
  · split
    · exact keeps_pure _
    · refine keeps_bind (keeps_pairMark _) fun _ => keeps_bind (keeps_pairMark _) fun _ =>
        keeps_bind keeps_codeUnit fun low => ?_
      split
      · exact keeps_fail _
      · exact keeps_pure _

theorem keeps_escape : Keeps escape := by
  refine keeps_bind keeps_peek fun ch => ?_
  split
  · exact keeps_fail _
  · exact keeps_bind keeps_eat fun _ => keeps_unicodeEscape
  · split
    · exact keeps_bind keeps_eat fun _ => keeps_pure _
    · exact keeps_failPeek _

theorem keeps_stringBody (fuel : Nat) (read : List Char) : Keeps (stringBody fuel read) := by
  induction fuel generalizing read with
  | zero => exact keeps_fail _
  | succ fuel ih =>
    refine keeps_bind keeps_peek fun ch => ?_
    split
    · exact keeps_fail _
    · exact keeps_bind keeps_eat fun _ => keeps_pure _
    · exact keeps_bind keeps_eat fun _ => keeps_bind keeps_escape fun _ => ih _
    · split
      · exact keeps_failPeek _
      · exact keeps_bind keeps_eat fun _ => ih _

theorem keeps_string : Keeps string := keeps_bind keeps_remaining fun _ => keeps_stringBody _ _

/-! ## Numbers -/

theorem keeps_ofParts (negative : Bool) (significand : Nat) (exponent : Int) :
    Keeps (ofParts negative significand exponent) := by
  unfold ofParts
  split
  · exact keeps_fail _
  · exact keeps_pure _

theorem keeps_exponentPart (negative : Bool) (significand : Nat) (start : Int) :
    Keeps (exponentPart negative significand start) := by
  refine keeps_bind keeps_eat fun _ => keeps_bind keeps_peek fun sign => ?_
  extract_lets rest
  have keeps_rest (below : Bool) : Keeps (rest below) := by
    refine keeps_bind keeps_peek fun ch => ?_
    split
    · exact keeps_fail _
    · split
      · refine keeps_bind keeps_get fun _ => keeps_bind keeps_digits fun ds => ?_
        split
        · split
          · exact keeps_throw _
          · exact keeps_pure _
        · exact keeps_ofParts _ _ _
      · exact keeps_failPeek _
  split
  · exact keeps_bind keeps_eat fun _ => keeps_rest false
  · exact keeps_bind keeps_eat fun _ => keeps_rest true
  · exact keeps_rest false

theorem keeps_fractionPart (negative : Bool) (significand : Nat) (start : Int) :
    Keeps (fractionPart negative significand start) := by
  refine keeps_bind keeps_eat fun _ => keeps_bind keeps_digits fun ds => ?_
  split
  · refine keeps_bind keeps_peek fun ch => ?_
    split
    · exact keeps_fail _
    · exact keeps_failPeek _
  · refine keeps_bind keeps_peek fun ch => ?_
    split
    · exact keeps_exponentPart _ _ _
    · exact keeps_exponentPart _ _ _
    · exact keeps_ofParts _ _ _

theorem keeps_numberTail (negative : Bool) (significand : Nat) : Keeps (numberTail negative significand) := by
  refine keeps_bind keeps_peek fun ch => ?_
  split
  · exact keeps_fractionPart _ _ _
  · exact keeps_exponentPart _ _ _
  · exact keeps_exponentPart _ _ _
  · exact keeps_pure _

theorem keeps_unsigned (negative : Bool) : Keeps (unsigned negative) := by
  refine keeps_bind keeps_peek fun ch => ?_
  split
  · exact keeps_fail _
  · refine keeps_bind keeps_eat fun _ => keeps_bind keeps_peek fun ch => ?_
    split
    · split
      · exact keeps_failPeek _
      · exact keeps_numberTail _ _
    · exact keeps_numberTail _ _
  · split
    · refine keeps_bind keeps_digits fun ds => ?_
      obtain ⟨significand, taken⟩ := gather 0 ds
      dsimp only
      split
      · exact keeps_numberTail _ _
      · refine keeps_bind keeps_peek fun ch => ?_
        split
        · exact keeps_fractionPart _ _ _
        · exact keeps_exponentPart _ _ _
        · exact keeps_exponentPart _ _ _
        · exact keeps_ofParts _ _ _
    · exact keeps_failPeek _

theorem keeps_number : Keeps number := by
  refine keeps_bind keeps_peek fun ch => ?_
  split
  · exact keeps_bind keeps_eat fun _ => keeps_unsigned _
  · exact keeps_unsigned _

/-! ## Lists and objects -/

theorem keeps_hasEntry (first : Bool) : Keeps (hasEntry first) := by
  refine keeps_bind keeps_peekToken fun ch => ?_
  split
  · exact keeps_failPeek _
  · exact keeps_pure _
  · split
    · split
      · exact keeps_pure _
      · exact keeps_failPeek _
    · split
      · refine keeps_bind keeps_eat fun _ => keeps_bind keeps_peekToken fun ch => ?_
        split
        · exact keeps_failPeek _
        · exact keeps_pure _
        · exact keeps_failPeek _
        · exact keeps_failPeek _
      · exact keeps_failPeek _

theorem keeps_colon : Keeps colon := by
  refine keeps_bind keeps_peekToken fun ch => ?_
  split
  · exact keeps_failPeek _
  · exact keeps_eat
  · exact keeps_failPeek _

/-- The body goes one level deeper and its end comes back, whatever they read. -/
theorem keeps_enclosed (ending : Reader Unit) (body : Reader α) : Keeps (enclosed ending body) := by
  intro c a c' h
  unfold enclosed at h
  split at h
  · cases h
  · split at h
    · split at h
      · cases h
        rfl
      · cases h
    · split at h <;> cases h

/-! ## Values -/

theorem keeps_scalar : Keeps scalar := by
  have word (rest : List Char) (v : Json) : Keeps (do eat; ident rest; return v) :=
    keeps_bind keeps_eat fun _ => keeps_bind (keeps_ident rest) fun _ => keeps_pure v
  refine keeps_bind keeps_peekToken fun ch => ?_
  split
  · exact keeps_failPeek _
  · exact word _ _
  · exact word _ _
  · exact word _ _
  · exact keeps_bind keeps_eat fun _ => keeps_bind keeps_string fun _ => keeps_pure _
  · split
    · exact keeps_bind keeps_number fun _ => keeps_pure _
    · exact keeps_failPeek _

theorem keeps_rawValue (depth : Nat) : Keeps (rawValue depth) := by
  cases depth with
  | zero => exact keeps_failPeek _
  | succ depth =>
    refine keeps_bind keeps_peekToken fun ch => ?_
    split
    · exact keeps_bind keeps_remaining fun _ => keeps_bind (keeps_enclosed _ _) fun _ => keeps_pure _
    · exact keeps_bind keeps_remaining fun _ => keeps_bind (keeps_enclosed _ _) fun _ => keeps_pure _
    · exact keeps_scalar

theorem keeps_value : Keeps value :=
  keeps_bind (keeps_bind keeps_get fun c => keeps_rawValue c.depth) fun _ => keeps_pure _

/-! ## Passing over a value -/

theorem keeps_skipString (fuel : Nat) : Keeps (skipString fuel) := by
  induction fuel with
  | zero => exact keeps_fail _
  | succ fuel ih =>
    refine keeps_bind keeps_peek fun ch => ?_
    split
    · exact keeps_fail _
    · exact keeps_eat
    · refine keeps_bind keeps_eat fun _ => keeps_bind keeps_peek fun ch => ?_
      split
      · exact keeps_fail _
      · exact keeps_bind keeps_eat fun _ => keeps_bind keeps_codeUnit fun _ => ih
      · split
        · exact keeps_bind keeps_eat fun _ => ih
        · exact keeps_failPeek _
    · split
      · exact keeps_fail _
      · exact keeps_bind keeps_eat fun _ => ih

theorem keeps_skipExponent : Keeps skipExponent := by
  refine keeps_bind keeps_eat fun _ => keeps_bind keeps_peek fun sign => ?_
  extract_lets afterSign
  have keeps_afterSign (u : Unit) : Keeps (afterSign u) := by
    refine keeps_bind keeps_peek fun ch => ?_
    split
    · exact keeps_fail _
    · split
      · exact keeps_bind keeps_digits fun _ => keeps_pure _
      · exact keeps_failPeek _
  split
  · exact keeps_bind keeps_eat keeps_afterSign
  · exact keeps_bind keeps_eat keeps_afterSign
  · exact keeps_afterSign ()

theorem keeps_skipUnsigned : Keeps skipUnsigned := by
  refine keeps_bind keeps_peek fun ch => ?_
  extract_lets afterPlaces afterWhole
  have keeps_afterPlaces (u : Unit) : Keeps (afterPlaces u) := by
    refine keeps_bind keeps_peek fun ch => ?_
    split
    · exact keeps_skipExponent
    · exact keeps_skipExponent
    · exact keeps_pure _
  have keeps_afterWhole (u : Unit) : Keeps (afterWhole u) := by
    refine keeps_bind keeps_peek fun ch => ?_
    split
    · refine keeps_bind keeps_eat fun _ => keeps_bind keeps_digits fun places => ?_
      split
      · exact keeps_bind (keeps_failPeek _) keeps_afterPlaces
      · exact keeps_afterPlaces ()
    · exact keeps_skipExponent
    · exact keeps_skipExponent
    · exact keeps_pure _
  split
  · exact keeps_bind (keeps_fail _) keeps_afterWhole
  · refine keeps_bind keeps_eat fun _ => keeps_bind keeps_peek fun ch => ?_
    split
    · split
      · exact keeps_bind (keeps_failPeek _) keeps_afterWhole
      · exact keeps_afterWhole ()
    · exact keeps_afterWhole ()
  · split
    · exact keeps_bind keeps_digits fun _ => keeps_afterWhole ()
    · exact keeps_bind (keeps_failPeek _) keeps_afterWhole

section Collections

variable {item : Reader Unit}

theorem keeps_skipItems (kept : Keeps item) (fuel : Nat) (first : Bool) : Keeps (skipItems item fuel first) := by
  induction fuel generalizing first with
  | zero => exact keeps_pure ()
  | succ fuel ih =>
    refine keeps_bind keeps_peekToken fun ch => ?_
    split
    · exact keeps_failPeek _
    · exact keeps_eat
    · split
      · exact keeps_bind kept fun _ => ih false
      · split
        · exact keeps_bind keeps_eat fun _ => keeps_bind kept fun _ => ih false
        · exact keeps_failPeek _

theorem keeps_skipEntry (kept : Keeps item) : Keeps (skipEntry item) := by
  refine keeps_bind keeps_peekToken fun ch => ?_
  split
  · exact keeps_failPeek _
  · exact keeps_bind keeps_eat fun _ => keeps_bind keeps_remaining fun _ =>
      keeps_bind (keeps_skipString _) fun _ => keeps_bind keeps_colon fun _ => kept
  · exact keeps_failPeek _

theorem keeps_skipEntries (kept : Keeps item) (fuel : Nat) (first : Bool) : Keeps (skipEntries item fuel first) := by
  induction fuel generalizing first with
  | zero => exact keeps_pure ()
  | succ fuel ih =>
    refine keeps_bind keeps_peekToken fun ch => ?_
    split
    · exact keeps_failPeek _
    · exact keeps_eat
    · split
      · exact keeps_bind (keeps_skipEntry kept) fun _ => ih false
      · split
        · exact keeps_bind keeps_eat fun _ => keeps_bind (keeps_skipEntry kept) fun _ => ih false
        · exact keeps_failPeek _

end Collections

theorem keeps_skipValue (depth : Nat) : Keeps (skipValue depth) := by
  induction depth with
  | zero => exact keeps_failPeek _
  | succ depth ih =>
    refine keeps_bind keeps_peekToken fun ch => ?_
    split
    · exact keeps_failPeek _
    · exact keeps_bind keeps_eat fun _ => keeps_ident _
    · exact keeps_bind keeps_eat fun _ => keeps_ident _
    · exact keeps_bind keeps_eat fun _ => keeps_ident _
    · exact keeps_bind keeps_eat fun _ => keeps_bind keeps_remaining fun _ => keeps_skipString _
    · exact keeps_bind keeps_eat fun _ => keeps_bind keeps_remaining fun _ => keeps_skipItems ih _ true
    · exact keeps_bind keeps_eat fun _ => keeps_bind keeps_remaining fun _ => keeps_skipEntries ih _ true
    · exact keeps_bind keeps_eat fun _ => keeps_skipUnsigned
    · split
      · exact keeps_skipUnsigned
      · exact keeps_failPeek _

theorem keeps_skip : Keeps skip := keeps_bind keeps_remaining fun _ => keeps_skipValue _

end Reader

end AgentLoop
