import AgentLoop.Text.Hidden

/-!
# Quoted text in diagnostics

- `quoted`: a text in double quotes; quotes and backslashes are escaped, `\n`, `\r`, `\t` and `\0` have short escapes,
  hidden characters are written with their code in braces.
-/

namespace AgentLoop

/-- A character inside quotes. -/
def quotedChar (c : Char) : List Char :=
  if c = '"' then ['\\', '"']
  else if c = '\\' then ['\\', '\\']
  else if c = '\n' then ['\\', 'n']
  else if c = '\r' then ['\\', 'r']
  else if c = '\t' then ['\\', 't']
  else if c.toNat = 0 then ['\\', '0']
  else if isHidden c then ['\\', 'u', '\x7b'] ++ Nat.toDigits 16 c.toNat ++ ['\x7d']
  else [c]

/-- A text in double quotes. -/
def quoted (s : String) : String := String.ofList ('"' :: s.toList.flatMap quotedChar ++ ['"'])

end AgentLoop
