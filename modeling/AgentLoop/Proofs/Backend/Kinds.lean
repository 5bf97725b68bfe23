import AgentLoop.Pipeline.Policy

/-!
# The kind of a backend's failure

- `BackendError.cause`, `BackendError.exhausted`: a failure without the reports of attempts around it, and with some
  more of them. The kind of a failure is that of its cause (`AgentError.kind_cause`);
- `BeginsWord`, `InsideWord`: where in a text a piece stands, by what is directly in front of it;
- `AgentError.kind_exhausted`: the failures that count as too many requests are those that say so and those whose code
  holds `rate` inside a longer word. The other codes are failures of the model, which the default policy does not retry.
-/

namespace AgentLoop

/-! ## Where a piece stands -/

/-- A piece stands in a text behind such a character, or behind none. -/
def StandsAfter (front : Option Char → Bool) (piece text : List Char) : Prop :=
  ∃ before after, before ++ piece ++ after = text ∧ front before.getLast? = true

/-- A piece stands in a text, and not directly after a letter. -/
def BeginsWord (letter : Char → Bool) : List Char → List Char → Prop := StandsAfter fun c => !c.any letter

/-- A piece stands in a text directly after a letter. -/
def InsideWord (letter : Char → Bool) : List Char → List Char → Prop := StandsAfter fun c => c.any letter

section Words

variable {front : Option Char → Bool} {letter : Char → Bool} {piece text : List Char}

theorem StandsAfter.infix (h : StandsAfter front piece text) : piece <:+: text := by
  obtain ⟨before, after, same, -⟩ := h
  exact ⟨before, after, same⟩

/-- The places of a text are searched one after the other. -/
theorem standsAfter_iff : StandsAfter front piece text ↔
    ∃ n ∈ List.range (text.length + 1), piece <+: text.drop n ∧ front (text.take n).getLast? = true := by
  constructor
  · rintro ⟨before, after, rfl, starts⟩
    refine ⟨before.length, List.mem_range.2 (by simp only [List.length_append]; omega), ⟨after, by simp⟩, ?_⟩
    rwa [List.append_assoc, List.take_left]
  · rintro ⟨n, -, ⟨after, same⟩, starts⟩
    exact ⟨text.take n, after, by rw [List.append_assoc, same, List.take_append_drop], starts⟩

instance : Decidable (StandsAfter front piece text) := decidable_of_iff' _ standsAfter_iff

instance : Decidable (BeginsWord letter piece text) := inferInstanceAs (Decidable (StandsAfter _ _ _))

instance : Decidable (InsideWord letter piece text) := inferInstanceAs (Decidable (StandsAfter _ _ _))

variable (letter) in
/-- Each place of a piece is of one of the two sorts. -/
theorem infix_iff_word : piece <:+: text ↔ BeginsWord letter piece text ∨ InsideWord letter piece text := by
  constructor
  · rintro ⟨before, after, same⟩
    cases last : before.getLast?.any letter with
    | false => exact .inl ⟨before, after, same, congrArg not last⟩
    | true => exact .inr ⟨before, after, same, last⟩
  · rintro (begins | inside)
    · exact begins.infix
    · exact inside.infix

end Words

namespace BackendError

/-! ## The reports around a failure -/

/-- What failed, without the reports of repeated attempts. -/
def cause : BackendError → BackendError
  | retryExhausted _ last => last.cause
  | e => e

/-- A failure with reports of repeated attempts around it, the outermost one first. -/
def exhausted (attempts : List UInt32) (e : BackendError) : BackendError := attempts.foldr retryExhausted e

@[simp] theorem cause_retryExhausted (n : UInt32) (last : BackendError) : (retryExhausted n last).cause = last.cause :=
  rfl

@[simp] theorem cause_exhausted (attempts : List UInt32) (e : BackendError) :
    (e.exhausted attempts).cause = e.cause := by
  induction attempts with
  | nil => rfl
  | cons n ns ih => exact ih

/-- A cause is no report. -/
theorem cause_ne_retryExhausted (e : BackendError) (n : UInt32) (last : BackendError) :
    e.cause ≠ retryExhausted n last := by
  induction e with
  | retryExhausted _ _ ih => exact ih
  | _ => nofun

theorem isRateLimited_cause (e : BackendError) : e.cause.isRateLimited = e.isRateLimited := by
  induction e with
  | retryExhausted _ _ ih => exact ih
  | _ => rfl

theorem isTimeout_cause (e : BackendError) : e.cause.isTimeout = e.isTimeout := by
  induction e with
  | retryExhausted _ _ ih => exact ih
  | _ => rfl

/-! ## Too many requests -/

/-- A code without regard to the case of its letters. -/
def foldedCode (code : String) : List Char := code.toList.map Char.toLower

/-- The failure says that there were too many requests: by its status, or by a code with these words or with a word that
begins with `rate`. -/
def AsksForFewer (letter : Char → Bool) : BackendError → Prop
  | http status _ _ => status = some 429
  | provider code _ _ =>
    "too_many_requests".toList <:+: foldedCode code ∨ BeginsWord letter "rate".toList (foldedCode code)
  | _ => False

/-- The code of the failure holds `rate` inside a longer word. -/
def HidesRate (letter : Char → Bool) : BackendError → Prop
  | provider code _ _ => InsideWord letter "rate".toList (foldedCode code)
  | _ => False

theorem isRateLimited_iff (letter : Char → Bool) (e : BackendError) :
    e.isRateLimited = true ↔ e.cause.AsksForFewer letter ∨ e.cause.HidesRate letter := by
  rw [← isRateLimited_cause]
  cases same : e.cause with
  | provider code text retryable =>
    have folded : (String.ofList (code.toList.map Char.toLower)).toList = foldedCode code := String.toList_ofList
    simp only [isRateLimited, holds, Bool.or_eq_true, hasInfix_iff, folded, AsksForFewer, HidesRate]
    rw [infix_iff_word letter, or_comm, or_assoc]
  | http status text retryable => simp [isRateLimited, AsksForFewer, HidesRate]
  | retryExhausted n last => exact absurd same (e.cause_ne_retryExhausted n last)
  | _ => simp [isRateLimited, AsksForFewer, HidesRate]

end BackendError

namespace AgentError

open BackendError

theorem kind_cause (e : BackendError) : kind (.inference e.cause) = kind (.inference e) := by
  simp only [kind, isRateLimited_cause, isTimeout_cause]

theorem kind_eq_rateLimit_iff (letter : Char → Bool) (e : BackendError) :
    kind (.inference e) = .rateLimit ↔ e.cause.AsksForFewer letter ∨ e.cause.HidesRate letter := by
  rw [← isRateLimited_iff]
  cases limited : e.isRateLimited with
  | true => simp [kind, limited]
  | false => cases late : e.isTimeout <;> simp [kind, limited, late]

/-- A failure under the backend's own code is one of the model, unless it counts as one of too many requests. -/
theorem kind_eq_model_iff (letter : Char → Bool) {e : BackendError} {code text : String} {retryable : Bool}
    (h : e.cause = .provider code text retryable) :
    kind (.inference e) = .model ↔ ¬e.cause.AsksForFewer letter ∧ ¬e.cause.HidesRate letter := by
  rw [← not_or, ← isRateLimited_iff]
  have inTime : e.isTimeout = false := by rw [← isTimeout_cause, h]; rfl
  cases limited : e.isRateLimited <;> simp [kind, limited, inTime]

/-- The reports of repeated attempts around a failure do not change its kind. It is one of too many requests if and only
if its cause says so, or if its code holds `rate` inside a longer word. A failure with another code is one of the model,
and by the default policy the run ends. -/
theorem kind_exhausted (letter : Char → Bool) (attempts : List UInt32) (e : BackendError) :
    kind (.inference (e.exhausted attempts)) = kind (.inference e) ∧ kind (.inference e) = kind (.inference e.cause) ∧
      (kind (.inference e) = .rateLimit ↔ e.cause.AsksForFewer letter ∨ e.cause.HidesRate letter) ∧
      ∀ code text retryable, e.cause = .provider code text retryable →
        ¬e.cause.AsksForFewer letter → ¬e.cause.HidesRate letter →
        kind (.inference e) = .model ∧
          ∀ failures, ({} : ErrorPolicy).shouldContinue (kind (.inference e)) failures = false := by
  refine ⟨?_, (kind_cause e).symm, kind_eq_rateLimit_iff letter e, ?_⟩
  · rw [← kind_cause, cause_exhausted, kind_cause]
  · intro code text retryable coded notAsked notHidden
    have model : kind (.inference e) = .model := (kind_eq_model_iff letter coded).2 ⟨notAsked, notHidden⟩
    exact ⟨model, fun failures => by rw [model]; rfl⟩

/-- A backend that is overloaded. -/
def overloaded : BackendError := provider "OVERLOADED" "try later" true

/-- After five times two attempts it is a failure of the model. -/
theorem kind_exhausted_overloaded :
    overloaded.cause = .provider "OVERLOADED" "try later" true ∧ ¬overloaded.cause.AsksForFewer Char.isAlpha ∧
      ¬overloaded.cause.HidesRate Char.isAlpha ∧ kind (.inference (overloaded.exhausted [5, 2])) = .model := by
  have notAsked : ¬overloaded.cause.AsksForFewer Char.isAlpha := by
    rintro (said | begins)
    · exact absurd said (by decide +kernel)
    · exact absurd begins (by decide +kernel)
  have notHidden : ¬overloaded.cause.HidesRate Char.isAlpha := fun hidden =>
    absurd hidden.infix (by decide +kernel)
  obtain ⟨same, -, -, model⟩ := kind_exhausted Char.isAlpha [5, 2] overloaded
  exact ⟨rfl, notAsked, notHidden, same.trans (model _ _ _ rfl notAsked notHidden).1⟩

/-- A permanent failure, whose code holds `rate` inside `generate`. -/
def generateFailed : BackendError := provider "generate_failed" "no candidate" false

/-- It is taken for one of too many requests, and the default policy lets the run go on. -/
theorem generateFailed_is_rateLimit :
    ¬generateFailed.AsksForFewer Char.isAlpha ∧ kind (.inference generateFailed) = .rateLimit ∧
      ({} : ErrorPolicy).shouldContinue (kind (.inference generateFailed)) 1 = true := by
  have notAsked : ¬generateFailed.AsksForFewer Char.isAlpha := by
    rintro (said | begins)
    · exact absurd said (by decide +kernel)
    · exact absurd begins (by decide +kernel)
  have hidden : generateFailed.HidesRate Char.isAlpha :=
    show InsideWord Char.isAlpha _ _ by decide +kernel
  have limited : kind (.inference generateFailed) = .rateLimit :=
    (kind_eq_rateLimit_iff Char.isAlpha _).2 (.inr hidden)
  exact ⟨notAsked, limited, by rw [limited]; decide⟩

end AgentError

end AgentLoop
