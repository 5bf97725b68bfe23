import AgentLoop.Time.Basic
import AgentLoop.Text.Blank
import AgentLoop.Json.Decoder

/-!
# RFC 3339

- `Instant.render`: a moment with `Z` and the fewest of 0, 3, 6 or 9 decimal places that are exact;
- `Instant.parse`: the reading, which also takes blanks before the parts, a blank or a small `t` between date and time,
  other offsets, and `UTC`;
- `TimeFault`: why a text is refused.
-/

namespace AgentLoop

/-- Why a text is no date and time. -/
inductive TimeFault where
  | outOfRange
  /-- The offset leads to a year that no date can have. -/
  | impossible
  | invalid
  | tooShort
  | tooLong
  deriving DecidableEq, Repr

/-- The wording of a refusal. -/
def TimeFault.message : TimeFault → String
  | outOfRange => "input is out of range"
  | impossible => "no possible date and time matching input"
  | invalid => "input contains invalid characters"
  | tooShort => "premature end of input"
  | tooLong => "trailing input"

namespace Instant

/-! ## Writing -/

/-- A number with at least so many digits. -/
def padded (width n : Nat) : String :=
  let text := toString n
  String.ofList (List.replicate (width - text.length) '0') ++ text

/-- A year: four digits from 0 to 9999, beyond that with its sign. -/
def renderYear (year : Int) : String :=
  if 0 ≤ year ∧ year ≤ 9999 then padded 4 year.toNat
  else (if year < 0 then "-" else "+") ++ padded 4 year.natAbs

/-- The decimal places of a second. -/
def renderFraction (nanos : Nat) : String :=
  if nanos = 0 then ""
  else if nanos % 1000000 = 0 then "." ++ padded 3 (nanos / 1000000)
  else if nanos % 1000 = 0 then "." ++ padded 6 (nanos / 1000)
  else "." ++ padded 9 nanos

/-- A moment in UTC. -/
def render (a : Instant) : String :=
  let date := Date.ofDays (a.seconds / 86400)
  let s := a.secondOfDay.toNat
  let shown := s % 60 + a.nanos / second
  renderYear date.year ++ "-" ++ padded 2 date.month ++ "-" ++ padded 2 date.day ++ "T" ++ padded 2 (s / 3600) ++ ":" ++
    padded 2 (s / 60 % 60) ++ ":" ++ padded 2 shown ++ renderFraction (a.nanos % second) ++ "Z"

/-! ## Reading -/

/-- A reading of a part of a text: the part and the rest. -/
abbrev Part (α : Type) := List Char → Except TimeFault (α × List Char)

/-- Reads at most `width` digits, at least one. -/
def number (width : Nat) : Part Nat := fun cs =>
  match cs with
  | [] => .error .tooShort
  | c :: _ =>
    if c.isDigit then
      let ds := (cs.take width).takeWhile Char.isDigit
      .ok (ds.foldl (fun n d => n * 10 + (d.toNat - 48)) 0, cs.drop ds.length)
    else .error .invalid

/-- Reads a number within bounds after blanks. -/
def bounded (low high : Nat) : Part Nat := fun cs => do
  let (n, rest) ← number 2 (dropBlanks cs)
  if low ≤ n ∧ n ≤ high then return (n, rest) else throw .outOfRange

/-- Reads a year of 32 bits after blanks: at most four digits, or a sign and any number of digits. -/
def year : Part Int := fun cs => do
  let cs := dropBlanks cs
  let (y, rest) ← match cs with
    | '-' :: rest => do let (n, rest) ← number rest.length rest; pure (-(n : Int), rest)
    | '+' :: rest => do let (n, rest) ← number rest.length rest; pure ((n : Int), rest)
    | _ => do let (n, rest) ← number 4 cs; pure ((n : Int), rest)
  if -2147483648 ≤ y ∧ y ≤ 2147483647 then return (y, rest) else throw .outOfRange

/-- Reads a separator after blanks. -/
def separator (c : Char) : Part Unit := fun cs =>
  match dropBlanks cs with
  | [] => .error .tooShort
  | d :: rest => if d = c then .ok ((), rest) else .error .invalid

/-- Reads the decimal places of a second, if there are any; places after the ninth are dropped. -/
def fraction : Part Nat := fun cs =>
  match cs with
  | '.' :: rest => do
    let (n, after) ← number 9 rest
    let read := rest.length - after.length
    return (n * Nat.pow 10 (9 - read), after.dropWhile Char.isDigit)
  | _ => .ok (0, cs)

/-- Reads the two digits that come next. -/
def twoDigits (highest : Char) : Part Nat := fun cs =>
  match cs with
  | a :: b :: rest =>
    if a.isDigit ∧ b.isDigit then
      if a ≤ highest then .ok ((a.toNat - 48) * 10 + (b.toNat - 48), rest) else .error .outOfRange
    else .error .invalid
  | _ => if (String.ofList cs).utf8ByteSize < 2 then .error .tooShort else .error .invalid

/-- Reads an offset from UTC in seconds. -/
def offset : Part Int := fun cs =>
  match cs with
  | 'Z' :: rest | 'z' :: rest => .ok (0, rest)
  | [] => .error .tooShort
  | sign :: rest =>
    if sign = '+' ∨ sign = '-' ∨ sign = '\u2212' then do
      let (hours, rest) ← twoDigits '9' rest
      let (minutes, rest) ← twoDigits '5' (rest.dropWhile fun c => c = ':' || isBlank c)
      let seconds : Int := hours * 3600 + minutes * 60
      return (if sign = '+' then seconds else -seconds, rest)
    else .error .invalid

/-- Reads `UTC` or an offset. -/
def zone : Part Int := fun cs =>
  if (cs.take 3).map Char.toUpper = ['U', 'T', 'C'] then .ok (0, cs.drop 3) else offset cs

/-- Reads a date and time. -/
def parse (text : String) : Except TimeFault Instant := do
  let (y, cs) ← year text.toList
  let ((), cs) ← separator '-' cs
  let (month, cs) ← bounded 1 12 cs
  let ((), cs) ← separator '-' cs
  let (day, cs) ← bounded 1 31 cs
  let cs ← match cs with
    | 't' :: rest | 'T' :: rest | ' ' :: rest => pure rest
    | [] => throw .tooShort
    | _ => throw .invalid
  let (hour, cs) ← bounded 0 23 cs
  let ((), cs) ← separator ':' cs
  let (minute, cs) ← bounded 0 59 cs
  let ((), cs) ← separator ':' cs
  let (sec, cs) ← bounded 0 60 cs
  let (nanos, cs) ← fraction cs
  let (off, cs) ← zone (dropBlanks cs)
  if dropBlanks cs ≠ [] then throw .tooLong
  let date : Date := ⟨y, month, day⟩
  if date.isValid = false ∨ date.isInRange = false ∨ 86400 ≤ off.natAbs then throw .outOfRange
  let leap := if sec = 60 then 1 else 0
  let seconds := date.toDays * 86400 + (hour * 3600 + minute * 60 + (sec - leap) : Nat) - off
  if (Date.ofDays (seconds / 86400)).isInRange then return ⟨seconds, nanos + leap * second⟩ else throw .impossible

/-- A moment as a JSON text. -/
def toJson (a : Instant) : Json := .str a.render

/-- A moment in JSON. -/
def decoder : Decoder Instant :=
  Decoder.spelled "an RFC 3339 formatted date and time string" fun s =>
    match parse s with
    | .ok a => .ok a
    | .error f => .error f.message

end Instant

end AgentLoop
