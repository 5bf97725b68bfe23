import AgentLoop.Proofs.Driver.Decisions

/-!
# Chatter around a decision

What a model writes around its object does not count:

- `jsonSpan_chatter`: neither a text without an opening brace in front of an object nor one without a closing brace
  behind it changes what is cut out of a reply;
- `jsonSpan_eq_none_iff`: nothing is cut out of a reply only if none of its opening braces is followed by a closing one,
  and for nothing else a reply is rejected as one without an object (`Decision.ofReply_eq_noObject_iff`);
- `Decision.chatter_ignored`: hence with such texts around it an object gives the same decision or the same rejection,
  down to the place of a fault.
-/

namespace AgentLoop

/-! ## What is cut out -/

/-- An opening brace is followed by a closing one, with anything in between. -/
def ClosesBrace (raw : String) : Prop :=
  ∃ before middle after, raw.toList = before ++ '\x7b' :: (middle ++ '\x7d' :: after)

/-- A text that begins with an opening brace and ends with a closing one. -/
structure Braced (object : String) : Prop where
  opens : object.toList.head? = some '\x7b'
  closes : object.toList.getLast? = some '\x7d'

section Span

variable {before object after raw : String}

theorem Braced.toList_eq (h : Braced object) : ∃ middle, object.toList = '\x7b' :: (middle ++ ['\x7d']) := by
  obtain ⟨rest, begins⟩ := List.head?_eq_some_iff.1 h.opens
  have ends : (('\x7b' : Char) :: rest).getLast? = some '\x7d' := begins ▸ h.closes
  cases rest with
  | nil => simp at ends
  | cons c cs =>
    rw [List.getLast?_cons_cons] at ends
    obtain ⟨middle, same⟩ := List.getLast?_eq_some_iff.1 ends
    exact ⟨middle, by rw [begins, same]⟩

/-- Between such texts the object is what is cut out. -/
theorem Braced.spans (h : Braced object) (noOpening : '\x7b' ∉ before.toList) (noClosing : '\x7d' ∉ after.toList) :
    Spans (before ++ object ++ after) object := by
  obtain ⟨middle, same⟩ := h.toList_eq
  exact ⟨before.toList, middle, after.toList, by simp [same], noOpening, noClosing, same⟩

theorem jsonSpan_chatter (h : Braced object) (noOpening : '\x7b' ∉ before.toList)
    (noClosing : '\x7d' ∉ after.toList) : jsonSpan (before ++ object ++ after) = jsonSpan object := by
  have alone : Spans object object := by
    obtain ⟨middle, same⟩ := h.toList_eq
    exact ⟨[], middle, [], by simp [same], by simp, by simp, same⟩
  rw [jsonSpan_eq_some.2 (h.spans noOpening noClosing), jsonSpan_eq_some.2 alone]

/-- Of several opening braces the first one counts, of several closing braces the last one. -/
theorem exists_spans_iff : (∃ span, Spans raw span) ↔ ClosesBrace raw := by
  constructor
  · rintro ⟨span, before, middle, after, chars, -⟩
    exact ⟨before, middle, after, chars⟩
  · rintro ⟨before, middle, after, chars⟩
    have opening : '\x7b' ∈ before ++ ['\x7b'] := by simp
    have closing : '\x7d' ∈ after.reverse ++ ['\x7d'] := by simp
    obtain ⟨front, middle₁, split, first⟩ := List.eq_append_cons_of_mem opening
    obtain ⟨back, middle₂, split', last⟩ := List.eq_append_cons_of_mem closing
    have closes : '\x7d' :: after = middle₂.reverse ++ '\x7d' :: back.reverse := by
      have mirrored := congrArg List.reverse split'
      simpa using mirrored
    refine ⟨String.ofList ('\x7b' :: ((middle₁ ++ middle ++ middle₂.reverse) ++ ['\x7d'])), front,
      middle₁ ++ middle ++ middle₂.reverse, back.reverse, ?_, first, by simpa using last, String.toList_ofList⟩
    calc raw.toList = (before ++ ['\x7b']) ++ (middle ++ '\x7d' :: after) := by rw [chars]; simp
      _ = (front ++ '\x7b' :: middle₁) ++ (middle ++ (middle₂.reverse ++ '\x7d' :: back.reverse)) := by
        rw [split, closes]
      _ = _ := by simp

theorem jsonSpan_eq_none_iff : jsonSpan raw = none ↔ ¬ClosesBrace raw := by
  rw [← exists_spans_iff, not_exists, Option.eq_none_iff_forall_ne_some]
  exact forall_congr' fun span => not_congr jsonSpan_eq_some

end Span

/-! ## What is rejected -/

/-- A text does not begin like another one. -/
theorem append_ne_of_not_prefix {opening rest text : String} (h : ¬opening.toList <+: text.toList) :
    opening ++ rest ≠ text := by
  rintro rfl
  exact h (by simp)

/-- What is wrong with an object is worded in other ways. -/
theorem WrittenDecision.decide_ne_noObject (w : WrittenDecision) (known : List String) :
    w.decide known ≠ .error "the reply contains no JSON object" := by
  have other {opening rest : String} (h : ¬opening.toList <+: "the reply contains no JSON object".toList) :
      (.error (opening ++ rest) : Except String Decision) ≠ .error "the reply contains no JSON object" :=
    fun same => append_ne_of_not_prefix h (Except.error.inj same)
  unfold WrittenDecision.decide
  split
  · split
    · exact fun same => absurd (Except.error.inj same) (by decide)
    · split
      · nofun
      · rw [String.append_assoc, String.append_assoc]
        exact other (by decide +kernel)
  · split
    · exact fun same => absurd (Except.error.inj same) (by decide)
    · nofun
  · rw [String.append_assoc]
    exact other (by decide +kernel)

namespace Decision

/-- A reply is rejected as one without an object if and only if nothing can be cut out of it. -/
theorem ofReply_eq_noObject_iff {raw : String} {known : List String} :
    ofReply raw known = .error "the reply contains no JSON object" ↔ ¬ClosesBrace raw := by
  rw [← jsonSpan_eq_none_iff]
  unfold ofReply
  cases jsonSpan raw with
  | none => simp
  | some span =>
    refine iff_of_false ?_ (by simp)
    dsimp only
    cases WrittenDecision.decoder.read span with
    | error fault => exact fun same => append_ne_of_not_prefix (by decide +kernel) (Except.error.inj same)
    | ok written => exact written.decide_ne_noObject known

/-- An object that stands behind a text without an opening brace and in front of one without a closing brace gives the
decision that it gives alone, or is rejected with the same message. And a reply is rejected as one without an object
if and only if none of its opening braces is followed by a closing one. -/
theorem chatter_ignored {σ : Type} (tools : ToolRegistry σ) :
    (∀ before object after : String, '\x7b' ∉ before.toList → Braced object → '\x7d' ∉ after.toList →
      ofReply (before ++ object ++ after) tools.names = ofReply object tools.names) ∧
      ∀ raw : String, ofReply raw tools.names = .error "the reply contains no JSON object" ↔ ¬ClosesBrace raw := by
  refine ⟨fun before object after noOpening braced noClosing => ?_, fun raw => ofReply_eq_noObject_iff⟩
  unfold ofReply
  rw [jsonSpan_chatter braced noOpening noClosing]

/-- An object with a fault in its second line. -/
def unquoted : String := "\x7b\"type\": \"final\",\n \"answer\": oui\x7d"

/-- It stands between texts that hold other braces and characters of several bytes: the place of the fault is counted
from the beginning of the object all the same. -/
theorem chatter_ignored_unquoted :
    '\x7b' ∉ "Voilà\x7d : ".toList ∧ Braced unquoted ∧ '\x7d' ∉ " \x7b…".toList ∧
      ofReply ("Voilà\x7d : " ++ unquoted ++ " \x7b…") (ToolRegistry.empty : ToolRegistry Unit).names =
        .error "the reply is not a valid decision: expected value at line 2 column 12" ∧
      ofReply ("Voilà\x7d : " ++ " \x7b…") (ToolRegistry.empty : ToolRegistry Unit).names =
        .error "the reply contains no JSON object" := by
  have noOpening : '\x7b' ∉ "Voilà\x7d : ".toList := by decide +kernel
  have noClosing : '\x7d' ∉ " \x7b…".toList := by decide +kernel
  have braced : Braced unquoted := ⟨by decide +kernel, by decide +kernel⟩
  have unclosed : ¬ClosesBrace ("Voilà\x7d : " ++ " \x7b…") := jsonSpan_eq_none_iff.1 (by decide +kernel)
  obtain ⟨ignored, rejected⟩ := chatter_ignored (ToolRegistry.empty : ToolRegistry Unit)
  have fault : ofReply unquoted (ToolRegistry.empty : ToolRegistry Unit).names =
      .error "the reply is not a valid decision: expected value at line 2 column 12" := by rfl
  refine ⟨noOpening, braced, noClosing, ?_, (rejected _).2 unclosed⟩
  rw [ignored _ _ _ noOpening braced noClosing, fault]

end Decision

end AgentLoop
