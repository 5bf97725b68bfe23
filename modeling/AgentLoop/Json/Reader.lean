import AgentLoop.Json.Fault

/-!
# Reading JSON text

- `Cursor`: the unread rest of a text, with its place and the nesting still allowed;
- `Reader`: readings that consume a text from a cursor; a failed reading keeps the cursor where it stopped;
- `Reader.string`, `Reader.number`, `Reader.value`: the grammar;
- `Reader.items`, `Reader.entries`: lists and objects with a given reading for each item or entry;
- `Reader.skip`: passing over a value without looking at what its texts and numbers stand for.
-/

namespace AgentLoop

/-- How deep values may be nested. -/
def nestingLimit : Nat := 128

/-- A text being read. -/
structure Cursor where
  rest : List Char
  line : Nat
  column : Nat
  /-- The nesting still allowed, counting the value around this place. -/
  depth : Nat

namespace Cursor

/-- The beginning of a text. -/
def start (text : List Char) : Cursor := ⟨text, 1, 0, nestingLimit⟩

/-- The place up to which the text is read. -/
def place (c : Cursor) : Place := ⟨c.line, c.column⟩

/-- The place one byte further on; at the end of the text the place itself. -/
def peekPlace (c : Cursor) : Place :=
  match c.rest with
  | [] => c.place
  | ch :: _ => if ch = '\n' then ⟨c.line + 1, 0⟩ else ⟨c.line, c.column + 1⟩

/-- The cursor after one character. -/
def advance (c : Cursor) : Cursor :=
  match c.rest with
  | [] => c
  | ch :: rest =>
    if ch = '\n' then { c with rest := rest, line := c.line + 1, column := 0 }
    else { c with rest := rest, column := c.column + ch.utf8Size }

/-- The place so many bytes further on. -/
def placeAfterBytes (c : Cursor) (bytes : Nat) : Place :=
  go bytes c.line c.column c.rest
where
  go (bytes line column : Nat) : List Char → Place
    | [] => ⟨line, column⟩
    | ch :: rest =>
      if bytes = 0 then ⟨line, column⟩
      else if ch = '\n' then go (bytes - 1) (line + 1) 0 rest
      else if ch.utf8Size ≤ bytes then go (bytes - ch.utf8Size) line (column + ch.utf8Size) rest
      else ⟨line, column + bytes⟩

end Cursor

/-- A reading of a text. -/
abbrev Reader := EStateM Fault Cursor

namespace Reader

variable {α β : Type}

/-! ## Characters -/

/-- Fails at the place up to which the text is read. -/
def fail (cause : Cause) : Reader α := fun c => .error ⟨cause, some c.place⟩ c

/-- Fails one byte further on. -/
def failPeek (cause : Cause) : Reader α := fun c => .error ⟨cause, some c.peekPlace⟩ c

/-- Fails at a place that is not known yet. -/
def failUnplaced (cause : Cause) : Reader α := fun c => .error ⟨cause, none⟩ c

/-- The next character, unread. -/
def peek : Reader (Option Char) := fun c => .ok c.rest.head? c

/-- Reads one character. -/
def eat : Reader Unit := fun c => .ok () c.advance

/-- Reads and gives the next character. -/
def next : Reader (Option Char) := do
  let ch ← peek
  eat
  return ch

/-- The number of characters not read yet. -/
def remaining : Reader Nat := fun c => .ok c.rest.length c

/-- The blanks between tokens. -/
def isGap (c : Char) : Bool := c = ' ' || c = '\n' || c = '\t' || c = '\r'

/-- The cursor after the blanks before the next token. -/
def afterGap (c : Cursor) : Cursor := (c.rest.takeWhile isGap).foldl (fun c _ => c.advance) c

/-- Reads blanks and gives the character after them, unread. -/
def peekToken : Reader (Option Char) := fun c =>
  let c := afterGap c
  .ok c.rest.head? c

/-- Reads the digits that come next. -/
def digits : Reader (List Nat) := fun c =>
  let ds := c.rest.takeWhile Char.isDigit
  .ok (ds.map fun d => d.toNat - 48) (ds.foldl (fun c _ => c.advance) c)

/-- Reads the given characters, the rest of a word. -/
def ident : List Char → Reader Unit
  | [] => return ()
  | expected :: more => do
    match ← peek with
    | none => fail .eofValue
    | some ch => if ch = expected then do eat; ident more else failPeek .expectedIdent

/-! ## Texts -/

/-- The value of a hexadecimal digit. -/
def hexValue (c : Char) : Option Nat :=
  if '0' ≤ c ∧ c ≤ '9' then some (c.toNat - '0'.toNat)
  else if 'a' ≤ c ∧ c ≤ 'f' then some (c.toNat - 'a'.toNat + 10)
  else if 'A' ≤ c ∧ c ≤ 'F' then some (c.toNat - 'A'.toNat + 10)
  else none

/-- Reads the four digits of a code unit. -/
def codeUnit : Reader Nat := fun c =>
  match c.rest with
  | h1 :: h2 :: h3 :: h4 :: _ =>
    match hexValue h1, hexValue h2, hexValue h3, hexValue h4 with
    | some a, some b, some d, some e =>
      .ok (((a * 16 + b) * 16 + d) * 16 + e) c.advance.advance.advance.advance
    | _, _, _, _ => .error ⟨.invalidEscape, some (c.placeAfterBytes 4)⟩ c
  | rest =>
    if 4 ≤ (String.ofList rest).utf8ByteSize then .error ⟨.invalidEscape, some (c.placeAfterBytes 4)⟩ c
    else .error ⟨.eofString, some (c.placeAfterBytes 4)⟩ c

/-- Reads the character that has to come next inside a pair of code units. -/
def pairMark (mark : Char) : Reader Unit := do
  match ← peek with
  | none => fail .eofString
  | some ch => if ch = mark then eat else failPeek .unexpectedEndOfHexEscape

/-- Reads the code units of one character. -/
def unicodeEscape : Reader Char := do
  let n ← codeUnit
  if 0xDC00 ≤ n ∧ n ≤ 0xDFFF then fail .loneSurrogate
  else if n < 0xD800 ∨ 0xDBFF < n then return Char.ofNat n
  else
    pairMark '\\'
    pairMark 'u'
    let low ← codeUnit
    if low < 0xDC00 ∨ 0xDFFF < low then fail .loneSurrogate
    else return Char.ofNat ((n - 0xD800) * 0x400 + (low - 0xDC00) + 0x10000)

/-- The character that a letter after a backslash stands for. -/
def escapeLetter (c : Char) : Option Char :=
  match c with
  | '"' => some '"'
  | '\\' => some '\\'
  | '/' => some '/'
  | 'b' => some '\x08'
  | 'f' => some '\x0c'
  | 'n' => some '\n'
  | 'r' => some '\r'
  | 't' => some '\t'
  | _ => none

/-- Reads what comes after a backslash. -/
def escape : Reader Char := do
  match ← peek with
  | none => fail .eofString
  | some 'u' => do eat; unicodeEscape
  | some c =>
    match escapeLetter c with
    | some e => do eat; return e
    | none => failPeek .invalidEscape

/-- Reads a text up to its closing quote, in at most `fuel` characters; `read` is what came before, reversed. -/
def stringBody : (fuel : Nat) → (read : List Char) → Reader String
  | 0, _ => fail .eofString
  | fuel + 1, read => do
    match ← peek with
    | none => fail .eofString
    | some '"' => do eat; return String.ofList read.reverse
    | some '\\' => do
      eat
      let c ← escape
      stringBody fuel (c :: read)
    | some c =>
      if c.toNat < 32 then failPeek .controlCharacter
      else do eat; stringBody fuel (c :: read)

/-- Reads a text after its opening quote. -/
def string : Reader String := do stringBody ((← remaining) + 1) []

/-! ## Numbers -/

/-- A power of ten as the nearest double. -/
def tenTo (n : Nat) : Float := Float.ofScientific 1 false n

/-- `significand · 10 ^ exponent` by one product or quotient of doubles, the exponent brought into the range of powers
of ten first; `none` when it is too large. Four rounds bring every significand to zero. -/
def scaled : (rounds : Nat) → Float → Int → Option Float
  | 0, f, _ => some f
  | rounds + 1, f, exponent =>
    if exponent.natAbs ≤ 308 then
      if 0 ≤ exponent then
        let f := f * tenTo exponent.natAbs
        if f.isInf then none else some f
      else some (f / tenTo exponent.natAbs)
    else if f == 0 then some f
    else if 0 ≤ exponent then none
    else scaled rounds (f / tenTo 308) (exponent + 308)

/-- The double of a sign, a significand and an exponent of ten. -/
def ofParts (negative : Bool) (significand : Nat) (exponent : Int) : Reader Number :=
  match scaled 4 (UInt64.ofNat significand).toFloat exponent with
  | none => fail .numberOutOfRange
  | some f => return .float (if negative then -f else f)

/-- Takes digits into a significand of 64 bits for as long as they fit; gives it with the number of digits taken. -/
def gather (significand : Nat) : List Nat → Nat × Nat
  | [] => (significand, 0)
  | d :: ds =>
    let wider := significand * 10 + d
    if wider < UInt64.size then
      let (s, n) := gather wider ds
      (s, n + 1)
    else (significand, 0)

/-- How many digits of an exponent are read until it exceeds 31 bits. -/
def overflowAt (value count : Nat) : List Nat → Option Nat
  | [] => none
  | d :: ds => if Nat.pow 2 31 ≤ value * 10 + d then some (count + 1) else overflowAt (value * 10 + d) (count + 1) ds

/-- Reads an exponent from its letter on. -/
def exponentPart (negative : Bool) (significand : Nat) (start : Int) : Reader Number := do
  eat
  let below ← do
    match ← peek with
    | some '+' => do eat; pure false
    | some '-' => do eat; pure true
    | _ => pure false
  match ← peek with
  | none => fail .eofValue
  | some c =>
    if c.isDigit then
      let before ← get
      let ds ← digits
      match overflowAt 0 0 ds with
      | some n =>
        if significand ≠ 0 ∧ below = false then
          throw ⟨.numberOutOfRange, some (before.placeAfterBytes n)⟩
        else return .float (if negative then -0.0 else 0.0)
      | none =>
        let e : Int := (ds.foldl (fun n d => n * 10 + d) 0 : Nat)
        ofParts negative significand (if below then start - e else start + e)
    else failPeek .invalidNumber

/-- Reads decimal places from their point on. -/
def fractionPart (negative : Bool) (significand : Nat) (start : Int) : Reader Number := do
  eat
  let ds ← digits
  if ds.isEmpty then
    match ← peek with
    | none => fail .eofValue
    | some _ => failPeek .invalidNumber
  else
    let (significand, taken) := gather significand ds
    match ← peek with
    | some 'e' | some 'E' => exponentPart negative significand (start - taken)
    | _ => ofParts negative significand (start - taken)

/-- The whole number of a sign and a significand; a negative one that is too small, and `-0`, as a double. -/
def wholeNumber (negative : Bool) (significand : Nat) : Number :=
  if negative = false then .int significand
  else if significand = 0 ∨ Nat.pow 2 63 < significand then .float (-(UInt64.ofNat significand).toFloat)
  else .int (-significand)

/-- Reads what comes after the digits before the point. -/
def numberTail (negative : Bool) (significand : Nat) : Reader Number := do
  match ← peek with
  | some '.' => fractionPart negative significand 0
  | some 'e' | some 'E' => exponentPart negative significand 0
  | _ => return wholeNumber negative significand

/-- Reads a number after its sign. -/
def unsigned (negative : Bool) : Reader Number := do
  match ← peek with
  | none => fail .eofValue
  | some '0' => do
    eat
    match ← peek with
    | some c => if c.isDigit then failPeek .invalidNumber else numberTail negative 0
    | none => numberTail negative 0
  | some c =>
    if c.isDigit then
      let ds ← digits
      let (significand, taken) := gather 0 ds
      if taken = ds.length then numberTail negative significand
      else
        let exponent : Int := ds.length - taken
        match ← peek with
        | some '.' => fractionPart negative significand exponent
        | some 'e' | some 'E' => exponentPart negative significand exponent
        | _ => ofParts negative significand exponent
    else failPeek .invalidNumber

/-- Reads a number. -/
def number : Reader Number := do
  match ← peek with
  | some '-' => do eat; unsigned true
  | _ => unsigned false

/-! ## Lists and objects -/

/-- In a list: is there another item? -/
def hasItem (first : Bool) : Reader Bool := do
  match ← peekToken with
  | none => failPeek .eofList
  | some ']' => return false
  | some c =>
    if first then return true
    else if c = ',' then
      eat
      match ← peekToken with
      | none => failPeek .eofValue
      | some ']' => failPeek .trailingComma
      | some _ => return true
    else failPeek .expectedListEnd

/-- In an object: is there another entry? -/
def hasEntry (first : Bool) : Reader Bool := do
  match ← peekToken with
  | none => failPeek .eofObject
  | some '\x7d' => return false
  | some c =>
    if first then
      if c = '"' then return true else failPeek .keyNotString
    else if c = ',' then
      eat
      match ← peekToken with
      | none => failPeek .eofValue
      | some '"' => return true
      | some '\x7d' => failPeek .trailingComma
      | some _ => failPeek .keyNotString
    else failPeek .expectedObjectEnd

/-- Reads the colon after a key. -/
def colon : Reader Unit := do
  match ← peekToken with
  | none => failPeek .eofObject
  | some ':' => eat
  | some _ => failPeek .expectedColon

/-- Reads the end of a list. -/
def endList : Reader Unit := do
  match ← peekToken with
  | none => failPeek .eofList
  | some ']' => eat
  | some ',' => do
    eat
    match ← peekToken with
    | some ']' => failPeek .trailingComma
    | _ => failPeek .trailingCharacters
  | some _ => failPeek .trailingCharacters

/-- Reads the end of an object. -/
def endObject : Reader Unit := do
  match ← peekToken with
  | none => failPeek .eofObject
  | some '\x7d' => eat
  | some ',' => failPeek .trailingComma
  | some _ => failPeek .trailingCharacters

/-- Gives a fault without a place the place up to which the text is read. -/
def settled (body : Reader α) : Reader α := fun c =>
  match body c with
  | .ok a c => .ok a c
  | .error f c => .error (f.settledAt c.place) c

/-- Reads a list or an object from its opening bracket on. The end is read even when the body fails: a fault without a
place is settled after it, and the body's fault comes before one of the end. -/
def enclosed (ending : Reader Unit) (body : Reader α) : Reader α := fun c =>
  if c.depth ≤ 1 then failPeek .recursionLimit c
  else
    match body { c.advance with depth := c.depth - 1 } with
    | .ok a c' =>
      match ending c' with
      | .ok _ c'' => .ok a { c'' with depth := c.depth }
      | .error f c'' => .error f c''
    | .error f c' =>
      match ending c' with
      | .ok _ c'' => .error (f.settledAt c''.place) c''
      | .error _ c'' => .error (f.settledAt c''.place) c''

/-- Reads items one after the other, at most `fuel` of them, threading a value through. -/
def items (step : Nat → β → Reader β) : (fuel index : Nat) → β → Reader β
  | 0, _, b => return b
  | fuel + 1, index, b => do
    if ← hasItem (index == 0) then
      let b ← step index b
      items step fuel (index + 1) b
    else return b

/-- Reads entries one after the other, at most `fuel` of them, threading a value through; the step reads the colon and
the value. -/
def entries (step : String → β → Reader β) : (fuel index : Nat) → β → Reader β
  | 0, _, b => return b
  | fuel + 1, index, b => do
    if ← hasEntry (index == 0) then
      eat
      let key ← string
      let b ← step key b
      entries step fuel (index + 1) b
    else return b

/-! ## Values -/

/-- Reads a value that is neither a list nor an object. -/
def scalar : Reader Json := do
  match ← peekToken with
  | none => failPeek .eofValue
  | some 'n' => do eat; ident ['u', 'l', 'l']; return .null
  | some 't' => do eat; ident ['r', 'u', 'e']; return .bool true
  | some 'f' => do eat; ident ['a', 'l', 's', 'e']; return .bool false
  | some '"' => do eat; return .str (← string)
  | some c => if c = '-' || c.isDigit then return .num (← number) else failPeek .expectedValue

/-- Reads a value nested at most `depth` deep; entries are kept as they come. -/
def rawValue : (depth : Nat) → Reader Json
  | 0 => failPeek .recursionLimit
  | depth + 1 => do
    match ← peekToken with
    | some '[' =>
      let fuel ← remaining
      let read ← enclosed endList (items (fun _ read => do return (← rawValue depth) :: read) fuel 0 [])
      return .arr read.reverse
    | some '\x7b' =>
      let fuel ← remaining
      let read ← enclosed endObject
        (entries (fun key read => do colon; return (key, ← rawValue depth) :: read) fuel 0 [])
      return .obj read.reverse
    | _ => scalar

/-- Reads a value; entries are kept as they come. -/
def raw : Reader Json := do rawValue (← get).depth

/-- Reads a value. -/
def value : Reader Json := do return (← raw).normalize

/-! ## Passing over a value -/

/-- Passes over a text after its opening quote, in at most `fuel` characters. -/
def skipString : (fuel : Nat) → Reader Unit
  | 0 => fail .eofString
  | fuel + 1 => do
    match ← peek with
    | none => fail .eofString
    | some '"' => eat
    | some '\\' => do
      eat
      match ← peek with
      | none => fail .eofString
      | some 'u' => do eat; let _ ← codeUnit; skipString fuel
      | some c => if (escapeLetter c).isSome then do eat; skipString fuel else failPeek .invalidEscape
    | some c => if c.toNat < 32 then fail .controlCharacter else do eat; skipString fuel

/-- Passes over an exponent from its letter on. -/
def skipExponent : Reader Unit := do
  eat
  match ← peek with
  | some '+' | some '-' => eat
  | _ => pure ()
  match ← peek with
  | none => fail .invalidNumber
  | some c => if c.isDigit then do let _ ← digits else failPeek .invalidNumber

/-- Passes over a number after its sign. -/
def skipUnsigned : Reader Unit := do
  match ← peek with
  | none => fail .invalidNumber
  | some '0' => do
    eat
    match ← peek with
    | some c => if c.isDigit then failPeek .invalidNumber
    | none => pure ()
  | some c => if c.isDigit then do let _ ← digits else failPeek .invalidNumber
  match ← peek with
  | some '.' => do
    eat
    if (← digits).isEmpty then failPeek .invalidNumber
    match ← peek with
    | some 'e' | some 'E' => skipExponent
    | _ => pure ()
  | some 'e' | some 'E' => skipExponent
  | _ => pure ()

/-- Passes over the items of a list after its opening bracket. -/
def skipItems (item : Reader Unit) : (fuel : Nat) → (first : Bool) → Reader Unit
  | 0, _ => return ()
  | fuel + 1, first => do
    match ← peekToken with
    | none => failPeek .eofList
    | some ']' => eat
    | some c =>
      if first then do item; skipItems item fuel false
      else if c = ',' then do eat; item; skipItems item fuel false
      else failPeek .expectedListEnd

/-- Passes over a key, its colon and its value. -/
def skipEntry (item : Reader Unit) : Reader Unit := do
  match ← peekToken with
  | none => failPeek .eofObject
  | some '"' => do
    eat
    skipString ((← remaining) + 1)
    colon
    item
  | some _ => failPeek .keyNotString

/-- Passes over the entries of an object after its opening bracket. -/
def skipEntries (item : Reader Unit) : (fuel : Nat) → (first : Bool) → Reader Unit
  | 0, _ => return ()
  | fuel + 1, first => do
    match ← peekToken with
    | none => failPeek .eofObject
    | some '\x7d' => eat
    | some c =>
      if first then do skipEntry item; skipEntries item fuel false
      else if c = ',' then do eat; skipEntry item; skipEntries item fuel false
      else failPeek .expectedObjectEnd

/-- Passes over a value nested at most `depth` deep. -/
def skipValue : (depth : Nat) → Reader Unit
  | 0 => failPeek .expectedValue
  | depth + 1 => do
    match ← peekToken with
    | none => failPeek .eofValue
    | some 'n' => do eat; ident ['u', 'l', 'l']
    | some 't' => do eat; ident ['r', 'u', 'e']
    | some 'f' => do eat; ident ['a', 'l', 's', 'e']
    | some '"' => do eat; skipString ((← remaining) + 1)
    | some '[' => do eat; skipItems (skipValue depth) (← remaining) true
    | some '\x7b' => do eat; skipEntries (skipValue depth) (← remaining) true
    | some '-' => do eat; skipUnsigned
    | some c => if c.isDigit then skipUnsigned else failPeek .expectedValue

/-- Passes over a value, however deep. -/
def skip : Reader Unit := do skipValue ((← remaining) + 1)

/-- Reads the end of the text. -/
def finish : Reader Unit := do
  match ← peekToken with
  | none => return ()
  | some _ => failPeek .trailingCharacters

/-- Reads a whole text. -/
def run (reader : Reader α) (text : String) : Except Fault α :=
  match (do let a ← reader; finish; return a : Reader α) (Cursor.start text.toList) with
  | .ok a _ => .ok a
  | .error f _ => .error f

end Reader

/-- The value of a text. -/
def Json.read (text : String) : Except Fault Json := Reader.value.run text

end AgentLoop
