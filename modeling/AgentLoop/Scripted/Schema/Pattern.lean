/-!
# Patterns of text

- `Pattern`: a sequence of character sets, each with a repetition, tied to the ends of a text or not;
- `Pattern.ofText?`: reads a pattern such as `^[a-z]+$`; groups, alternatives and counted repetitions are not part of
  the form;
- `Pattern.occursIn`: does a text match?
-/

namespace AgentLoop

/-- The characters that a place admits. -/
structure CharSet where
  ranges : List (Char × Char)
  /-- All others are admitted instead. -/
  negated : Bool := false

/-- Does a set hold a character? -/
def CharSet.holds (s : CharSet) (c : Char) : Bool := s.ranges.any (fun r => r.1 ≤ c && c ≤ r.2) != s.negated

/-- How often a set is repeated. -/
inductive Repetition where
  | once
  | optional
  | any
  | atLeastOnce

/-- A pattern of text. -/
structure Pattern where
  /-- A match begins where the text begins. -/
  fromStart : Bool
  /-- A match ends where the text ends. -/
  toEnd : Bool
  places : List (CharSet × Repetition)

namespace Pattern

/-- Any number of characters of a set, then the rest of a match. -/
def matchMany (set : CharSet) (rest : List Char → Bool) : List Char → Bool
  | [] => rest []
  | c :: cs => rest (c :: cs) || (set.holds c && matchMany set rest cs)

/-- One character of a set, then the rest of a match. -/
def matchOne (set : CharSet) (rest : List Char → Bool) : List Char → Bool
  | [] => false
  | c :: cs => set.holds c && rest cs

/-- Is there a match at the beginning of the characters? -/
def matchHere (toEnd : Bool) : List (CharSet × Repetition) → List Char → Bool
  | [], cs => !toEnd || cs.isEmpty
  | (set, .once) :: places, cs => matchOne set (matchHere toEnd places) cs
  | (set, .optional) :: places, cs => matchHere toEnd places cs || matchOne set (matchHere toEnd places) cs
  | (set, .any) :: places, cs => matchMany set (matchHere toEnd places) cs
  | (set, .atLeastOnce) :: places, cs => matchOne set (matchMany set (matchHere toEnd places)) cs

/-- Is there a match beginning at some character? -/
def matchAnywhere (toEnd : Bool) (places : List (CharSet × Repetition)) : List Char → Bool
  | [] => matchHere toEnd places []
  | c :: cs => matchHere toEnd places (c :: cs) || matchAnywhere toEnd places cs

/-- Does a text match? -/
def occursIn (p : Pattern) (text : String) : Bool :=
  if p.fromStart then matchHere p.toEnd p.places text.toList else matchAnywhere p.toEnd p.places text.toList

/-- The ranges of a set up to its closing bracket. -/
def setRanges : List Char → Option (List (Char × Char) × List Char)
  | [] => none
  | ']' :: rest => some ([], rest)
  | a :: '-' :: b :: rest =>
    if b = ']' then some ([(a, a), ('-', '-')], rest)
    else (setRanges rest).map fun (ranges, rest) => ((a, b) :: ranges, rest)
  | a :: rest => (setRanges rest).map fun (ranges, rest) => ((a, a) :: ranges, rest)

/-- A set at the beginning of a pattern. -/
def set : List Char → Option (CharSet × List Char)
  | '[' :: '^' :: rest => (setRanges rest).map fun (ranges, rest) => (⟨ranges, true⟩, rest)
  | '[' :: rest => (setRanges rest).map fun (ranges, rest) => (⟨ranges, false⟩, rest)
  | '.' :: rest => some (⟨[('\n', '\n')], true⟩, rest)
  | '\\' :: c :: rest => if c.isAlphanum then none else some (⟨[(c, c)], false⟩, rest)
  | c :: rest => if "\\()|{}*+?^$]".toList.contains c then none else some (⟨[(c, c)], false⟩, rest)
  | [] => none

/-- A repetition at the beginning of what follows a set. -/
def repetition : List Char → Repetition × List Char
  | '*' :: rest => (.any, rest)
  | '+' :: rest => (.atLeastOnce, rest)
  | '?' :: rest => (.optional, rest)
  | rest => (.once, rest)

/-- The places of a pattern and whether it is tied to the end. -/
def ofChars? : (fuel : Nat) → List Char → Option (List (CharSet × Repetition) × Bool)
  | _, [] => some ([], false)
  | _, ['$'] => some ([], true)
  | 0, _ => none
  | fuel + 1, cs => do
    let (s, rest) ← set cs
    let (r, rest) := repetition rest
    let (places, toEnd) ← ofChars? fuel rest
    return ((s, r) :: places, toEnd)

/-- Reads a pattern. -/
def ofText? (source : String) : Option Pattern := do
  let cs := source.toList
  let fromStart := cs.head? == some '^'
  let (places, toEnd) ← ofChars? cs.length (if fromStart then cs.tail else cs)
  return ⟨fromStart, toEnd, places⟩

end Pattern

end AgentLoop
