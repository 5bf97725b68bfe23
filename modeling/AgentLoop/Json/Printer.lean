import AgentLoop.Json.Basic
import AgentLoop.Decimal.Shortest

/-!
# The text of JSON values

- `Json.render`: the compact text of a value: no blanks, entries in the order in which they stand;
- `Json.doubles`: the layout of doubles;
- `Json.quote`: a text in quotes with the escapes that JSON asks for.
-/

namespace AgentLoop

namespace Json

/-- Doubles are written with all places from `0.00001` up to below `10^16`, and with `.0` if whole. -/
def doubles : DoubleFormat := ⟨-4, 16, ".0", .even⟩

/-- A hexadecimal digit, in lower case. -/
def hexDigit (n : Nat) : Char := (Nat.toDigits 16 n).getLastD '0'

/-- A character inside quotes. -/
def escape (c : Char) : List Char :=
  if c = '"' then ['\\', '"']
  else if c = '\\' then ['\\', '\\']
  else if c = '\n' then ['\\', 'n']
  else if c = '\r' then ['\\', 'r']
  else if c = '\t' then ['\\', 't']
  else if c = '\x08' then ['\\', 'b']
  else if c = '\x0c' then ['\\', 'f']
  else if c.toNat < 32 then ['\\', 'u', '0', '0', hexDigit (c.toNat / 16), hexDigit (c.toNat % 16)]
  else [c]

/-- A text in quotes. -/
def quote (s : String) : String := String.ofList ('"' :: s.toList.flatMap escape ++ ['"'])

end Json

/-- The text of a number; a double that is no number prints as `null`. -/
def Number.render : Number → String
  | .int n => toString n
  | .float x => if x.isFinite then Json.doubles.write x else "null"

namespace Json

mutual
/-- The compact text of a value. -/
def render : Json → String
  | null => "null"
  | bool b => if b then "true" else "false"
  | num n => n.render
  | str s => quote s
  | arr items => "[" ++ ",".intercalate (renderItems items) ++ "]"
  | obj entries => "\x7b" ++ ",".intercalate (renderEntries entries) ++ "\x7d"
/-- The texts of the items. -/
def renderItems : List Json → List String
  | [] => []
  | v :: rest => render v :: renderItems rest
/-- The texts of the entries. -/
def renderEntries : List (String × Json) → List String
  | [] => []
  | (k, v) :: rest => (quote k ++ ":" ++ render v) :: renderEntries rest
end

/-- A text as it is, any other value as compact text. -/
def plainText : Json → String
  | str s => s
  | v => v.render

end Json

end AgentLoop
