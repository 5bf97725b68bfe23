/-!
# Blank characters

- `isBlank`: the characters with the property White_Space;
- `trimBlanks`: a text without the blanks at its ends.
-/

namespace AgentLoop

/-- The characters with the property White_Space. -/
def isBlank (c : Char) : Bool :=
  let n := c.toNat
  (9 ≤ n && n ≤ 13) || n == 0x20 || n == 0x85 || n == 0xA0 || n == 0x1680 || (0x2000 ≤ n && n ≤ 0x200A) ||
    n == 0x2028 || n == 0x2029 || n == 0x202F || n == 0x205F || n == 0x3000

/-- The characters of a text without the blanks at its beginning. -/
def dropBlanks (cs : List Char) : List Char := cs.dropWhile isBlank

/-- A text without the blanks at its ends. -/
def trimBlanks (s : String) : String :=
  String.ofList (dropBlanks (dropBlanks s.toList).reverse).reverse

end AgentLoop
