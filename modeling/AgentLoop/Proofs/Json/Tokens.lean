import AgentLoop.Proofs.Json.Members

/-!
# Numbers and texts in front of other text

- `Reader.Ends`: what may stand behind a value;
- `Reader.Extends`: what a reading makes of a whole text, it makes of that text anywhere and in front of such a rest.
  It composes (`extends_bind`), and the readings of a number have it (`extends_number`);
- `Reader.Numeral`: the texts that are read as a number, hence also in front of a rest (`Numeral.read`);
- `Reader.Escaped`: the ways to write a text in quotes; each of them is read (`Escaped.read`).
-/

namespace AgentLoop

namespace Reader

variable {α β : Type} {r : Reader α} {f : α → Reader β} {c : Cursor}

/-- May a character stand behind a value? -/
def isEnd (ch : Char) : Bool := isGap ch || ch = ',' || ch = ']' || ch = '\x7d'

/-- May a text stand behind a value? -/
def Ends (rest : List Char) : Prop := ∀ ch, rest.head? = some ch → isEnd ch = true

theorem isEnd_iff {ch : Char} :
    isEnd ch = true ↔ ch = ' ' ∨ ch = '\n' ∨ ch = '\t' ∨ ch = '\r' ∨ ch = ',' ∨ ch = ']' ∨ ch = '\x7d' := by
  simp [isEnd, isGap, or_assoc]

theorem isDigit_of_isEnd {ch : Char} (h : isEnd ch = true) : ch.isDigit = false := by
  rcases isEnd_iff.1 h with rfl | rfl | rfl | rfl | rfl | rfl | rfl <;> rfl

/-! ## What is read from a text -/

/-- From a cursor, a reading succeeds with a value and comes to this rest. -/
def Gives (r : Reader α) (c : Cursor) (a : α) (rest : List Char) : Prop := ∃ c', r c = .ok a c' ∧ c'.rest = rest

variable {a : α} {b : β} {rest : List Char}

theorem gives_pure (here : c.rest = rest) : Gives (pure a : Reader α) c a rest := ⟨c, rfl, here⟩

theorem gives_eat {ch : Char} (here : c.rest = ch :: rest) : Gives eat c () rest :=
  ⟨c.advance, rfl, by rw [Cursor.rest_advance, here, List.tail_cons]⟩

theorem gives_remaining : Gives remaining c c.rest.length c.rest := ⟨c, rfl, rfl⟩

theorem gives_bind {rest₁ : List Char} (first : Gives r c a rest₁)
    (then' : ∀ c₁, r c = .ok a c₁ → c₁.rest = rest₁ → Gives (f a) c₁ b rest) : Gives (r >>= f) c b rest := by
  obtain ⟨c₁, read, here⟩ := first
  obtain ⟨c', read', there⟩ := then' c₁ read here
  exact ⟨c', bind_eq_ok.2 ⟨a, c₁, read, read'⟩, there⟩

theorem gives_peek {f : Option Char → Reader β} {ch : Char} {tail : List Char} (here : c.rest = ch :: tail)
    (h : Gives (f (some ch)) c b rest) : Gives (peek >>= f) c b rest := by
  obtain ⟨c', read, there⟩ := h
  refine ⟨c', bind_eq_ok.2 ⟨some ch, c, ?_, read⟩, there⟩
  rw [peek, here, List.head?_cons]

/-- What is read from a cursor, with success, is read in the same way from any cursor with a rest behind the text. -/
def Extends (r : Reader α) (c : Cursor) : Prop :=
  ∀ a c', r c = .ok a c' → ∀ rest, Ends rest → ∀ d : Cursor, d.rest = c.rest ++ rest → Gives r d a (c'.rest ++ rest)

theorem extends_pure (a : α) : Extends (pure a : Reader α) c := by
  rintro _ _ ⟨⟩ rest _ d same
  exact ⟨d, rfl, same⟩

theorem extends_fail (cause : Cause) : Extends (fail cause : Reader α) c := fun _ _ h => by cases h

theorem extends_failPeek (cause : Cause) : Extends (failPeek cause : Reader α) c := fun _ _ h => by cases h

theorem extends_throw (f : Fault) : Extends (throw f : Reader α) c := fun _ _ h => by cases h

theorem extends_bind (first : Extends r c) (rest : ∀ a c', r c = .ok a c' → Extends (f a) c') :
    Extends (r >>= f) c := by
  intro b c' h more ends d same
  obtain ⟨a, c₁, read, then'⟩ := bind_eq_ok.1 h
  exact gives_bind (first a c₁ read more ends d same) fun d₁ _ same₁ => rest a c₁ read b c' then' more ends d₁ same₁

/-- A character is read if there is one. -/
theorem extends_eat (there : c.rest ≠ []) : Extends eat c := by
  rintro _ _ ⟨⟩ rest _ d same
  obtain ⟨ch, more, text⟩ := List.exists_cons_of_ne_nil there
  refine ⟨d.advance, rfl, ?_⟩
  rw [Cursor.rest_advance, Cursor.rest_advance, same, text, List.cons_append, List.tail_cons, List.tail_cons]

/-- A look at the next character. At the end of the text alone there is none, but in front of a rest there is one that
may stand behind a value: that must make no difference to a reading that succeeds. -/
theorem extends_peek {f : Option Char → Reader β}
    (alike : ∀ ch, isEnd ch = true → (∃ b c', f none c = .ok b c') → f (some ch) = f none)
    (atEnd : Extends (f none) c) (more : ∀ ch, c.rest ≠ [] → Extends (f (some ch)) c) : Extends (peek >>= f) c := by
  intro b c' h rest ends d same
  change f c.rest.head? c = .ok b c' at h
  show Gives (f d.rest.head?) d b (c'.rest ++ rest)
  cases text : c.rest with
  | nil =>
    rw [text, List.head?_nil] at h
    have read := atEnd b c' h rest ends d same
    rw [text, List.nil_append] at same
    cases next : rest.head? with
    | none =>
      rw [same, next]
      exact read
    | some ch =>
      rw [same, next, alike ch (ends ch next) ⟨b, c', h⟩]
      exact read
  | cons ch tail =>
    rw [text] at h
    have head : d.rest.head? = some ch := by rw [same, text, List.cons_append, List.head?_cons]
    rw [head]
    exact more ch (text ▸ List.cons_ne_nil ch tail) b c' h rest ends d same

/-- A reading that looks at its cursor to say where it fails. -/
theorem extends_get {f : Cursor → Reader β}
    (alike : ∀ b b' c₁ a c', f b c₁ = .ok a c' → f b' c₁ = .ok a c') (h : ∀ b, Extends (f b) c) :
    Extends (get >>= f) c := by
  intro a c' read rest ends d same
  exact h d a c' (alike c d c a c' read) rest ends d same

theorem extends_digits : Extends digits c := by
  rintro _ _ ⟨⟩ rest ends d same
  have none : rest.takeWhile Char.isDigit = [] := by
    cases rest with
    | nil => rfl
    | cons ch tail => exact List.takeWhile_cons_of_neg (Bool.eq_false_iff.1 (isDigit_of_isEnd (ends ch rfl)))
  have taken : d.rest.takeWhile Char.isDigit = c.rest.takeWhile Char.isDigit := by
    rw [same, List.takeWhile_append, none, List.append_nil]
    split
    · rename_i all
      exact ((List.takeWhile_sublist _).eq_of_length all).symm
    · rfl
  have bound : (c.rest.takeWhile Char.isDigit).length ≤ c.rest.length := (List.takeWhile_sublist _).length_le
  refine ⟨(c.rest.takeWhile Char.isDigit).foldl (fun c _ => c.advance) d, ?_, ?_⟩
  · unfold digits
    rw [taken]
  · rw [Cursor.rest_foldl_advance, Cursor.rest_foldl_advance, same, List.drop_append_of_le_length bound]

/-! ## Numbers -/

theorem extends_ofParts (negative : Bool) (significand : Nat) (exponent : Int) :
    Extends (ofParts negative significand exponent) c := by
  unfold ofParts
  split
  · exact extends_fail _
  · exact extends_pure _

/-- No character at all, where one is needed. -/
theorem not_fail {cause : Cause} {P : Prop} (h : ∃ (a : α) (c' : Cursor), (fail cause : Reader α) c = .ok a c') :
    P := by
  obtain ⟨_, _, ⟨⟩⟩ := h

theorem extends_exponentPart (negative : Bool) (significand : Nat) (start : Int) (there : c.rest ≠ []) :
    Extends (exponentPart negative significand start) c := by
  refine extends_bind (extends_eat there) fun _ c₁ _ => ?_
  extract_lets rest
  have extends_rest (below : Bool) {d : Cursor} : Extends (rest below) d := by
    refine extends_peek (fun ch _ read => not_fail read) (extends_fail _) fun ch nonempty => ?_
    dsimp only
    split
    · refine extends_get (fun b b' c₁ a c' read => ?_) fun b => extends_bind extends_digits fun ds _ _ => ?_
      · obtain ⟨ds, c₂, digits, read⟩ := bind_eq_ok.1 read
        refine bind_eq_ok.2 ⟨ds, c₂, digits, ?_⟩
        cases overflow : overflowAt 0 0 ds with
        | none =>
          rw [overflow] at read
          exact read
        | some n =>
          rw [overflow] at read
          dsimp only at read ⊢
          split at read
          · cases read
          · rename_i fits
            rw [if_neg fits]
            exact read
      · split
        · split
          · exact extends_throw _
          · exact extends_pure _
        · exact extends_ofParts _ _ _
    · exact extends_failPeek _
  refine extends_peek (fun ch ends _ => ?_) (extends_rest false) fun ch nonempty => ?_
  · rcases isEnd_iff.1 ends with rfl | rfl | rfl | rfl | rfl | rfl | rfl <;> rfl
  · split
    · exact extends_bind (extends_eat nonempty) fun _ _ _ => extends_rest false
    · exact extends_bind (extends_eat nonempty) fun _ _ _ => extends_rest true
    · exact extends_rest false

theorem extends_fractionPart (negative : Bool) (significand : Nat) (start : Int) (there : c.rest ≠ []) :
    Extends (fractionPart negative significand start) c := by
  refine extends_bind (extends_eat there) fun _ c₁ _ => extends_bind extends_digits fun ds c₂ _ => ?_
  split
  · exact extends_peek (fun _ _ read => not_fail read) (extends_fail _) fun _ _ => extends_failPeek _
  · refine extends_peek (fun ch ends _ => ?_) (extends_ofParts _ _ _) fun ch nonempty => ?_
    · rcases isEnd_iff.1 ends with rfl | rfl | rfl | rfl | rfl | rfl | rfl <;> rfl
    · split
      · exact extends_exponentPart _ _ _ nonempty
      · exact extends_exponentPart _ _ _ nonempty
      · exact extends_ofParts _ _ _

theorem extends_numberTail (negative : Bool) (significand : Nat) : Extends (numberTail negative significand) c := by
  refine extends_peek (fun ch ends _ => ?_) (extends_pure _) fun ch nonempty => ?_
  · rcases isEnd_iff.1 ends with rfl | rfl | rfl | rfl | rfl | rfl | rfl <;> rfl
  · split
    · exact extends_fractionPart _ _ _ nonempty
    · exact extends_exponentPart _ _ _ nonempty
    · exact extends_exponentPart _ _ _ nonempty
    · exact extends_pure _

theorem extends_unsigned (negative : Bool) : Extends (unsigned negative) c := by
  refine extends_peek (fun _ _ read => not_fail read) (extends_fail _) fun ch nonempty => ?_
  split
  · exact extends_fail _
  · refine extends_bind (extends_eat nonempty) fun _ c₁ _ =>
      extends_peek (fun ch ends _ => ?_) (extends_numberTail _ _) fun ch nonempty => ?_
    · dsimp only
      rw [if_neg (Bool.eq_false_iff.1 (isDigit_of_isEnd ends))]
    · dsimp only
      split
      · exact extends_failPeek _
      · exact extends_numberTail _ _
  · split
    · refine extends_bind extends_digits fun ds c₁ _ => ?_
      obtain ⟨significand, taken⟩ := gather 0 ds
      dsimp only
      split
      · exact extends_numberTail _ _
      · refine extends_peek (fun ch ends _ => ?_) (extends_ofParts _ _ _) fun ch nonempty => ?_
        · rcases isEnd_iff.1 ends with rfl | rfl | rfl | rfl | rfl | rfl | rfl <;> rfl
        · split
          · exact extends_fractionPart _ _ _ nonempty
          · exact extends_exponentPart _ _ _ nonempty
          · exact extends_exponentPart _ _ _ nonempty
          · exact extends_ofParts _ _ _
    · exact extends_failPeek _

theorem extends_number : Extends number c := by
  refine extends_peek (fun ch ends _ => ?_) (extends_unsigned _) fun ch nonempty => ?_
  · rcases isEnd_iff.1 ends with rfl | rfl | rfl | rfl | rfl | rfl | rfl <;> rfl
  · split
    · exact extends_bind (extends_eat nonempty) fun _ _ _ => extends_unsigned _
    · exact extends_unsigned _

/-- A text that is read as a number, all of it. -/
def Numeral (token : List Char) (x : Number) : Prop := Gives number (Cursor.start token) x []

variable {token cs : List Char} {x : Number}

/-- In front of a rest it is read as the same number. -/
theorem Numeral.read (h : Numeral token x) (ends : Ends rest) (here : c.rest = token ++ rest) :
    Gives number c x rest := by
  obtain ⟨c₁, read, none⟩ := h
  obtain ⟨c', read', same⟩ := extends_number x c₁ read rest ends c here
  exact ⟨c', read', by rw [same, none, List.nil_append]⟩

/-- A number begins with its sign or a digit. -/
theorem Numeral.head (h : Numeral token x) : ∃ ch tail, token = ch :: tail ∧ (ch = '-' || ch.isDigit) = true := by
  obtain ⟨c', read, -⟩ := h
  cases token with
  | nil => cases read
  | cons ch tail =>
    refine ⟨ch, tail, rfl, ?_⟩
    obtain ⟨_, _, ⟨⟩, read⟩ := bind_eq_ok.1 read
    generalize first : (Cursor.start (ch :: tail)).rest.head? = next at read
    split at read
    · rw [Option.some.inj first]
      rfl
    · obtain ⟨_, _, ⟨⟩, read⟩ := bind_eq_ok.1 read
      generalize first : (Cursor.start (ch :: tail)).rest.head? = next at read
      split at read
      · cases read
      · rw [Option.some.inj first]
        rfl
      · rw [Option.some.inj first]
        split at read
        · rename_i digit
          rw [digit, Bool.or_true]
        · cases read

/-! ## Texts -/

/-- Four hexadecimal digits spell a code unit. -/
inductive CodeUnit : List Char → Nat → Prop
  | digits {h₁ h₂ h₃ h₄ : Char} {a b d e : Nat} : hexValue h₁ = some a → hexValue h₂ = some b → hexValue h₃ = some d →
      hexValue h₄ = some e → CodeUnit [h₁, h₂, h₃, h₄] (((a * 16 + b) * 16 + d) * 16 + e)

/-- The ways to write the characters of a text between quotes. -/
inductive Escaped : List Char → List Char → Prop
  | done : Escaped [] []
  | plain {ch : Char} {cs s : List Char} : ch ≠ '"' → ch ≠ '\\' → 32 ≤ ch.toNat → Escaped cs s →
      Escaped (ch :: cs) (ch :: s)
  | letter {letter ch : Char} {cs s : List Char} : escapeLetter letter = some ch → Escaped cs s →
      Escaped ('\\' :: letter :: cs) (ch :: s)
  | unit {unit cs s : List Char} {n : Nat} : CodeUnit unit n → n < 0xD800 ∨ 0xDFFF < n → Escaped cs s →
      Escaped ('\\' :: 'u' :: (unit ++ cs)) (Char.ofNat n :: s)
  | pair {high low cs s : List Char} {n m : Nat} : CodeUnit high n → 0xD800 ≤ n → n ≤ 0xDBFF → CodeUnit low m →
      0xDC00 ≤ m → m ≤ 0xDFFF → Escaped cs s →
      Escaped ('\\' :: 'u' :: (high ++ '\\' :: 'u' :: (low ++ cs)))
        (Char.ofNat ((n - 0xD800) * 0x400 + (m - 0xDC00) + 0x10000) :: s)

variable {s : List Char} {n : Nat}

theorem CodeUnit.read {unit : List Char} (h : CodeUnit unit n) (here : c.rest = unit ++ rest) :
    Gives codeUnit c n rest := by
  obtain ⟨first, second, third, fourth⟩ := h
  refine ⟨c.advance.advance.advance.advance, ?_, ?_⟩
  · unfold codeUnit
    rw [here]
    simp only [List.cons_append, first, second, third, fourth]
  · simp only [Cursor.rest_advance, here, List.cons_append, List.nil_append, List.tail_cons]

theorem gives_pairMark {mark : Char} (here : c.rest = mark :: rest) : Gives (pairMark mark) c () rest := by
  refine gives_peek here ?_
  dsimp only
  rw [if_pos rfl]
  exact gives_eat here

/-- A code unit that stands for itself. -/
theorem gives_unicodeEscape_unit {unit : List Char} (h : CodeUnit unit n) (alone : n < 0xD800 ∨ 0xDFFF < n)
    (here : c.rest = unit ++ rest) : Gives unicodeEscape c (Char.ofNat n) rest := by
  refine gives_bind (h.read here) fun c₁ _ there => ?_
  rw [if_neg (by omega), if_pos (by omega)]
  exact gives_pure there

/-- Two code units that stand for one character. -/
theorem gives_unicodeEscape_pair {high low : List Char} {m : Nat} (h : CodeUnit high n) (atLeast : 0xD800 ≤ n)
    (atMost : n ≤ 0xDBFF) (h' : CodeUnit low m) (atLeast' : 0xDC00 ≤ m) (atMost' : m ≤ 0xDFFF)
    (here : c.rest = high ++ '\\' :: 'u' :: (low ++ rest)) :
    Gives unicodeEscape c (Char.ofNat ((n - 0xD800) * 0x400 + (m - 0xDC00) + 0x10000)) rest := by
  refine gives_bind (h.read here) fun c₁ _ here₁ => ?_
  rw [if_neg (by omega), if_neg (by omega)]
  refine gives_bind (gives_pairMark here₁) fun c₂ _ here₂ => gives_bind (gives_pairMark here₂) fun c₃ _ here₃ =>
    gives_bind (h'.read here₃) fun c₄ _ there => ?_
  rw [if_neg (by omega)]
  exact gives_pure there

theorem gives_escape_letter {letter ch : Char} (h : escapeLetter letter = some ch) (here : c.rest = letter :: rest) :
    Gives escape c ch rest := by
  refine gives_peek here ?_
  generalize same : some letter = next
  split
  · cases same
  · obtain rfl := Option.some.inj same
    cases h
  · obtain rfl := Option.some.inj same
    rw [h]
    exact gives_bind (gives_eat here) fun _ _ there => gives_pure there

theorem gives_escape_unicode {ch : Char} {tail : List Char} (here : c.rest = 'u' :: tail)
    (h : ∀ c₁ : Cursor, c₁.rest = tail → Gives unicodeEscape c₁ ch rest) : Gives escape c ch rest :=
  gives_peek here (gives_bind (gives_eat here) fun c₁ _ there => h c₁ there)

section Body

variable {fuel : Nat} {read tail rest₁ : List Char} {ch : Char} {t : String}

theorem gives_stringBody_plain (here : c.rest = ch :: tail) (noQuote : ch ≠ '"') (noBackslash : ch ≠ '\\')
    (printable : 32 ≤ ch.toNat)
    (others : ∀ c₁ : Cursor, c₁.rest = tail → Gives (stringBody fuel (ch :: read)) c₁ t rest) :
    Gives (stringBody (fuel + 1) read) c t rest := by
  refine gives_peek here ?_
  generalize same : some ch = next
  split
  · cases same
  · exact absurd (Option.some.inj same) noQuote
  · exact absurd (Option.some.inj same) noBackslash
  · obtain rfl := Option.some.inj same
    rw [if_neg (Nat.not_lt.2 printable)]
    exact gives_bind (gives_eat here) fun c₁ _ there => others c₁ there

theorem gives_stringBody_escape (here : c.rest = '\\' :: tail)
    (escaped : ∀ c₁ : Cursor, c₁.rest = tail → Gives escape c₁ ch rest₁)
    (others : ∀ c₁ : Cursor, c₁.rest = rest₁ → Gives (stringBody fuel (ch :: read)) c₁ t rest) :
    Gives (stringBody (fuel + 1) read) c t rest :=
  gives_peek here (gives_bind (gives_eat here) fun c₁ _ here₁ =>
    gives_bind (escaped c₁ here₁) fun c₂ _ here₂ => others c₂ here₂)

end Body

/-- What is written between quotes is read up to the closing one. -/
theorem Escaped.body (h : Escaped cs s) {fuel : Nat} (enough : cs.length < fuel) (read : List Char)
    (here : c.rest = cs ++ '"' :: rest) : Gives (stringBody fuel read) c (String.ofList (read.reverse ++ s)) rest := by
  have next (ch : Char) (read s : List Char) : read.reverse ++ ch :: s = (ch :: read).reverse ++ s := by simp
  induction h generalizing c fuel read with
  | done =>
    cases fuel with
    | zero => cases enough
    | succ fuel =>
      rw [List.append_nil]
      exact gives_peek here (gives_bind (gives_eat here) fun _ _ there => gives_pure there)
  | plain noQuote noBackslash printable _ ih =>
    cases fuel with
    | zero => cases enough
    | succ fuel =>
      rw [next]
      exact gives_stringBody_plain here noQuote noBackslash printable fun c₁ there =>
        ih (Nat.lt_of_succ_lt_succ enough) _ there
  | letter h _ ih =>
    cases fuel with
    | zero => cases enough
    | succ fuel =>
      rw [next]
      refine gives_stringBody_escape here (fun c₁ there => gives_escape_letter h there) fun c₁ there => ih ?_ _ there
      simp only [List.length_cons] at enough
      omega
  | unit h alone _ ih =>
    cases fuel with
    | zero => cases enough
    | succ fuel =>
      rw [next]
      refine gives_stringBody_escape here (fun c₁ there => gives_escape_unicode there fun c₂ there =>
        gives_unicodeEscape_unit h alone (there.trans (List.append_assoc _ _ _))) fun c₁ there => ih ?_ _ there
      simp only [List.length_cons, List.length_append] at enough
      omega
  | pair h atLeast atMost h' atLeast' atMost' _ ih =>
    cases fuel with
    | zero => cases enough
    | succ fuel =>
      rw [next]
      refine gives_stringBody_escape here (fun c₁ there => gives_escape_unicode there fun c₂ there =>
        gives_unicodeEscape_pair h atLeast atMost h' atLeast' atMost' (there.trans ?_)) fun c₁ there => ih ?_ _ there
      · simp
      · simp only [List.length_cons, List.length_append] at enough
        omega

/-- A text after its opening quote is read. -/
theorem Escaped.read (h : Escaped cs s) (here : c.rest = cs ++ '"' :: rest) :
    Gives string c (String.ofList s) rest := by
  refine gives_bind gives_remaining fun c₁ _ same => h.body ?_ [] (same.trans here)
  rw [here]
  simp only [List.length_append]
  omega

end Reader

end AgentLoop
