import AgentLoop.Json.Printer
import AgentLoop.Text.Quoted

/-!
# Why a reading fails

- `Cause`: what is wrong, as a fault of the grammar or of the shape that was asked for, with its wording;
- `Place`: a line and a count of bytes within it;
- `Fault`: a cause and, in a text, the place.
-/

namespace AgentLoop

/-- A place in a text: its line, from 1, and the bytes of that line before it. -/
structure Place where
  line : Nat
  column : Nat
  deriving DecidableEq, Repr

/-- What is wrong with a text or a value. -/
inductive Cause where
  | eofValue
  | eofString
  | eofList
  | eofObject
  | expectedValue
  | expectedIdent
  | expectedColon
  | expectedListEnd
  | expectedObjectEnd
  | keyNotString
  | trailingComma
  | trailingCharacters
  | invalidNumber
  | numberOutOfRange
  | invalidEscape
  | unexpectedEndOfHexEscape
  | loneSurrogate
  | controlCharacter
  | recursionLimit
  /-- A required field is not there. -/
  | missingField (name : String)
  /-- A field is there twice. -/
  | duplicateField (name : String)
  /-- No case has that name. -/
  | unknownVariant (name : String) (known : List String)
  /-- A value of another kind was asked for. -/
  | invalidType (found expected : String)
  /-- The value is of the right kind and cannot be taken. -/
  | invalidValue (found expected : String)
  /-- A list has the wrong number of items. -/
  | invalidLength (found : Nat) (expected : String)
  /-- A text does not spell the value that was asked for. -/
  | unreadable (message : String)
  deriving DecidableEq, Repr

/-- The kinds of fault. -/
inductive FaultKind where
  | eof
  | grammar
  | shape
  deriving DecidableEq, Repr

/-- The name of a kind of fault. -/
def FaultKind.name : FaultKind → String
  | eof => "eof"
  | grammar => "syntax"
  | shape => "data"

namespace Cause

/-- Names in backticks as a choice: `a`, `a` or `b`, one of `a`, `b`, `c`. -/
def choice (names : List String) : String :=
  let marked := names.map fun n => "\x60" ++ n ++ "\x60"
  match marked with
  | [] => "there are no variants"
  | [a] => "expected " ++ a
  | [a, b] => "expected " ++ a ++ " or " ++ b
  | _ => "expected one of " ++ ", ".intercalate marked

/-- The wording of a cause. -/
def message : Cause → String
  | eofValue => "EOF while parsing a value"
  | eofString => "EOF while parsing a string"
  | eofList => "EOF while parsing a list"
  | eofObject => "EOF while parsing an object"
  | expectedValue => "expected value"
  | expectedIdent => "expected ident"
  | expectedColon => "expected \x60:\x60"
  | expectedListEnd => "expected \x60,\x60 or \x60]\x60"
  | expectedObjectEnd => "expected \x60,\x60 or \x60\x7d\x60"
  | keyNotString => "key must be a string"
  | trailingComma => "trailing comma"
  | trailingCharacters => "trailing characters"
  | invalidNumber => "invalid number"
  | numberOutOfRange => "number out of range"
  | invalidEscape => "invalid escape"
  | unexpectedEndOfHexEscape => "unexpected end of hex escape"
  | loneSurrogate => "lone leading surrogate in hex escape"
  | controlCharacter => "control character (\\u0000-\\u001F) found while parsing a string"
  | recursionLimit => "recursion limit exceeded"
  | missingField name => "missing field \x60" ++ name ++ "\x60"
  | duplicateField name => "duplicate field \x60" ++ name ++ "\x60"
  | unknownVariant name known => "unknown variant \x60" ++ name ++ "\x60, " ++ choice known
  | invalidType found expected => "invalid type: " ++ found ++ ", expected " ++ expected
  | invalidValue found expected => "invalid value: " ++ found ++ ", expected " ++ expected
  | invalidLength found expected => "invalid length " ++ toString found ++ ", expected " ++ expected
  | unreadable message => message

/-- The kind of a cause. -/
def kind : Cause → FaultKind
  | eofValue | eofString | eofList | eofObject => .eof
  | missingField _ | duplicateField _ | unknownVariant _ _ | invalidType _ _ | invalidValue _ _ | invalidLength _ _
  | unreadable _ => .shape
  | _ => .grammar

end Cause

/-- A failed reading: the cause and, if it arose in a text, the place. -/
structure Fault where
  cause : Cause
  place : Option Place
  deriving DecidableEq, Repr

namespace Fault

/-- A fault at the given place, unless it has one. -/
def settledAt (place : Place) (f : Fault) : Fault :=
  match f.place with
  | some _ => f
  | none => ⟨f.cause, some place⟩

/-- The wording of a fault, with its place. -/
def message (f : Fault) : String :=
  match f.place with
  | none => f.cause.message
  | some p => f.cause.message ++ " at line " ++ toString p.line ++ " column " ++ toString p.column

end Fault

/-- A value as fault messages name it. -/
def Json.kindText : Json → String
  | null => "null"
  | bool b => "boolean \x60" ++ (if b then "true" else "false") ++ "\x60"
  | num (.int n) => "integer \x60" ++ toString n ++ "\x60"
  | num (.float x) => "floating point \x60" ++ (Number.float x).render ++ "\x60"
  | str s => "string " ++ quoted s
  | arr _ => "sequence"
  | obj _ => "map"

/-- The value is not of the kind that was asked for. -/
def Cause.mismatch (found : Json) (expected : String) : Cause := .invalidType found.kindText expected

end AgentLoop
