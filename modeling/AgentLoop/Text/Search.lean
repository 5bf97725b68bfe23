/-!
# Texts inside texts

- `hasInfix`, `holds`: does a text hold another one, and where the answer is yes (`hasInfix_iff`).
-/

namespace AgentLoop

/-- Does the second list hold the first one as a piece? -/
def hasInfix (needle : List Char) : List Char → Bool
  | [] => needle.isEmpty
  | c :: cs => needle.isPrefixOf (c :: cs) || hasInfix needle cs

/-- Does a text hold another one? -/
def holds (text needle : String) : Bool := hasInfix needle.toList text.toList

/-- `hasInfix` finds exactly the pieces of a list. -/
theorem hasInfix_iff {needle cs : List Char} : hasInfix needle cs = true ↔ needle <:+: cs := by
  induction cs with
  | nil => simp [hasInfix, List.isEmpty_iff]
  | cons c cs ih => simp [hasInfix, ih, List.infix_cons_iff]

end AgentLoop
