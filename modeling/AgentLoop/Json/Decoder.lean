import AgentLoop.Json.Reader
import AgentLoop.Metadata

/-!
# Reading domain values from JSON

- `Decoder`: how a value of a type is read from a JSON value, and from JSON text without building that value first;
- `Decoder.string`, `Decoder.u64`, `Decoder.list`, …: the plain shapes;
- `Fields` and `Decoder.record`: records, given as an object or as the list of their fields in order;
- `Case` and `Decoder.choice`: alternatives, the name alone or an object with the name as its only key;
- `TaggedCase` and `Decoder.tagged`: alternatives whose name stands under a key among the fields.

From a value the entries of an object are visited in the order in which they stand, and the first refusal wins; fields
that are missing are reported afterwards, in the order of the record.
-/

namespace AgentLoop

/-- How values of a type are read. -/
structure Decoder (α : Type) where
  /-- Reads a value. -/
  ofJson : Json → Except Cause α
  /-- Reads a text. -/
  ofText : Reader α

namespace Decoder

variable {α β : Type}

/-- Reads and then converts. -/
def map (f : α → β) (d : Decoder α) : Decoder β where
  ofJson v := (d.ofJson v).map f
  ofText := do return f (← d.ofText)

instance : Functor Decoder := ⟨map, fun b => map fun _ => b⟩

/-- Reads a whole text. -/
def read (d : Decoder α) (text : String) : Except Fault α := d.ofText.run text

/-! ## Plain shapes -/

/-- Refuses what comes next in a text, a value of another kind than was asked for. A list or an object is not read. -/
def refuse (expected : String) : Reader α := do
  match ← Reader.peekToken with
  | some '[' => Reader.fail (.mismatch (.arr []) expected)
  | some '\x7b' => Reader.fail (.mismatch (.obj []) expected)
  | _ =>
    let v ← Reader.scalar
    Reader.fail (.mismatch v expected)

/-- Reads a value that is neither a list nor an object. -/
def scalar (expected : String) (take : Json → Except Cause α) : Decoder α where
  ofJson := take
  ofText := do
    match ← Reader.peekToken with
    | some '[' | some '\x7b' => refuse expected
    | _ =>
      let v ← Reader.scalar
      match take v with
      | .ok a => return a
      | .error cause => Reader.fail cause

/-- Any value. -/
def json : Decoder Json := ⟨.ok, Reader.value⟩

/-- A text. -/
def string : Decoder String :=
  scalar "a string" fun
    | .str s => .ok s
    | v => .error (.mismatch v "a string")

/-- A truth value. -/
def bool : Decoder Bool :=
  scalar "a boolean" fun
    | .bool b => .ok b
    | v => .error (.mismatch v "a boolean")

/-- Nothing, written `null`. -/
def unit : Decoder Unit :=
  scalar "unit" fun
    | .null => .ok ()
    | v => .error (.mismatch v "unit")

/-- A whole number below a bound. -/
def below (bound : Nat) (expected : String) (convert : Nat → α) : Decoder α :=
  scalar expected fun v =>
    match v with
    | .num (.int n) =>
      if 0 ≤ n ∧ n < bound then .ok (convert n.toNat) else .error (.invalidValue v.kindText expected)
    | _ => .error (.mismatch v expected)

/-- A count of 32 bits. -/
def u32 : Decoder UInt32 := below UInt32.size "u32" UInt32.ofNat

/-- A count of 64 bits. -/
def u64 : Decoder UInt64 := below UInt64.size "u64" UInt64.ofNat

/-- A number as a float of 32 bits. -/
def f32 : Decoder Float32 :=
  scalar "f32" fun
    | .num (.int n) => .ok (if 0 ≤ n then (UInt64.ofInt n).toFloat32 else (Int64.ofInt n).toFloat32)
    | .num (.float x) => .ok x.toFloat32
    | v => .error (.mismatch v "f32")

/-- A text that spells a value. -/
def spelled (expected : String) (parse : String → Except String α) : Decoder α :=
  scalar expected fun
    | .str s =>
      match parse s with
      | .ok a => .ok a
      | .error message => .error (.unreadable message)
    | v => .error (.mismatch v expected)

/-- A value that may be `null`. -/
def option (d : Decoder α) : Decoder (Option α) where
  ofJson
    | .null => .ok none
    | v => (d.ofJson v).map some
  ofText := do
    match ← Reader.peekToken with
    | some 'n' => do Reader.eat; Reader.ident ['u', 'l', 'l']; return none
    | _ => return some (← d.ofText)

/-- A list. -/
def list (d : Decoder α) : Decoder (List α) where
  ofJson
    | .arr items => items.mapM d.ofJson
    | v => .error (.mismatch v "a sequence")
  ofText := do
    match ← Reader.peekToken with
    | some '[' =>
      let fuel ← Reader.remaining
      let read ← Reader.enclosed Reader.endList (Reader.items (fun _ read => do return (← d.ofText) :: read) fuel 0 [])
      return read.reverse
    | _ => refuse "a sequence"

/-- Values under names. -/
def metadata : Decoder Metadata where
  ofJson
    | .obj entries => .ok (Metadata.ofEntries entries)
    | v => .error (.mismatch v "a map")
  ofText := do
    match ← Reader.peekToken with
    | some '\x7b' =>
      let fuel ← Reader.remaining
      Reader.enclosed Reader.endObject
        (Reader.entries (fun key m => do Reader.colon; return m.insert key (← Reader.value)) fuel 0 Metadata.empty)
    | _ => refuse "a map"

end Decoder

/-! ## Records -/

/-- A field of a record whose fields are collected in slots. -/
structure Field (σ : Type) where
  name : String
  /-- Has the field been read already? -/
  filled : σ → Bool
  /-- Reads the field into its slot. -/
  read : Decoder (σ → σ)
  /-- What stands for the field where a list of fields ends before it. -/
  absent : Option (σ → σ)

/-- The fields of a record, in order. -/
structure Fields (α : Type) where
  /-- What is collected while the record is read. -/
  Slots : Type
  /-- Nothing is read yet. -/
  empty : Slots
  fields : List (Field Slots)
  /-- The record, or the first field that is missing. -/
  build : Slots → Except Cause α

namespace Field

variable {σ τ : Type}

/-- A field among more slots. -/
def lift (get : τ → σ) (update : (σ → σ) → τ → τ) (f : Field σ) : Field τ where
  name := f.name
  filled t := f.filled (get t)
  read := f.read.map update
  absent := f.absent.map update

end Field

namespace Fields

variable {α β : Type}

/-- A record without fields. -/
def pure (a : α) : Fields α := ⟨Unit, (), [], fun _ => .ok a⟩

/-- The fields of both, in order. -/
def both (f : Fields (α → β)) (x : Fields α) : Fields β where
  Slots := f.Slots × x.Slots
  empty := (f.empty, x.empty)
  fields := f.fields.map (Field.lift Prod.fst fun u s => (u s.1, s.2)) ++
    x.fields.map (Field.lift Prod.snd fun u s => (s.1, u s.2))
  build s := do
    let g ← f.build s.1
    let a ← x.build s.2
    return g a

instance : Pure Fields := ⟨pure⟩

instance : Seq Fields := ⟨fun f x => both f (x ())⟩

instance : Functor Fields := ⟨fun f x => both (pure f) x, fun b x => both (pure fun _ => b) x⟩

/-- One field. -/
def one (name : String) (d : Decoder α) (absent : Option α) (missing : Except Cause α) : Fields α where
  Slots := Option α
  empty := none
  fields := [⟨name, Option.isSome, d.map fun a _ => some a, absent.map fun a _ => some a⟩]
  build
    | some a => .ok a
    | none => missing

/-- A field that has to be there. -/
def required (name : String) (d : Decoder α) : Fields α := one name d none (.error (.missingField name))

/-- A field that may be `null` or missing; a list of fields has to hold it. -/
def optional (name : String) (d : Decoder α) : Fields (Option α) := one name d.option none (.ok none)

/-- A field that is read as a given value when it is missing. -/
def withDefault (name : String) (d : Decoder α) (default : α) : Fields α := one name d (some default) (.ok default)

variable (fs : Fields α)

/-- How many fields there are, in words. -/
def elements : String := if fs.fields.length = 1 then "1 element" else toString fs.fields.length ++ " elements"

/-- Reads one entry of an object. -/
def takeEntry (s : fs.Slots) (key : String) (v : Json) : Except Cause fs.Slots :=
  match fs.fields.find? (·.name == key) with
  | none => .ok s
  | some f =>
    if f.filled s then .error (.duplicateField f.name)
    else (f.read.ofJson v).map fun u => u s

/-- Reads the entries of an object in the order in which they stand. -/
def ofEntries (entries : Entries) : Except Cause α := do
  let s ← entries.foldlM (fun s e => fs.takeEntry s e.1 e.2) fs.empty
  fs.build s

/-- Reads the fields from items in order; gives how many items were read. -/
def takeItems (what : String) : (index : Nat) → fs.Slots → List (Field fs.Slots) → List Json →
    Except Cause (fs.Slots × Nat)
  | index, s, [], _ => .ok (s, index)
  | index, s, f :: more, [] =>
    match f.absent with
    | some u => takeItems what index (u s) more []
    | none => .error (.invalidLength index (what ++ " with " ++ fs.elements))
  | index, s, f :: more, v :: rest =>
    match f.read.ofJson v with
    | .ok u => takeItems what (index + 1) (u s) more rest
    | .error cause => .error cause

/-- Reads the list of the fields; `tooMany` words the refusal of a list with further items, from the number read. -/
def ofItems (what : String) (tooMany : Nat → String) (items : List Json) : Except Cause α := do
  let (s, read) ← fs.takeItems what 0 fs.empty fs.fields items
  if read < items.length then throw (.invalidLength items.length (tooMany read))
  fs.build s

/-- Reads one entry of an object in a text, after its key. -/
def entryReader (key : String) (s : fs.Slots) : Reader fs.Slots :=
  match fs.fields.find? (·.name == key) with
  | none => do Reader.colon; Reader.skip; return s
  | some f =>
    if f.filled s then Reader.failUnplaced (.duplicateField f.name)
    else do
      Reader.colon
      let u ← f.read.ofText
      return u s

/-- Reads the fields from the items of a list in a text. -/
def itemsReader (what : String) : (index : Nat) → fs.Slots → List (Field fs.Slots) → Reader fs.Slots
  | _, s, [] => return s
  | index, s, f :: more => do
    if ← Reader.hasItem (index == 0) then
      let u ← f.read.ofText
      itemsReader what (index + 1) (u s) more
    else
      match f.absent with
      | some u => absentReader what index (u s) more
      | none => Reader.failUnplaced (.invalidLength index (what ++ " with " ++ fs.elements))
where
  /-- The list has ended. -/
  absentReader (what : String) (index : Nat) : fs.Slots → List (Field fs.Slots) → Reader fs.Slots
    | s, [] => return s
    | s, f :: more =>
      match f.absent with
      | some u => absentReader what index (u s) more
      | none => Reader.failUnplaced (.invalidLength index (what ++ " with " ++ fs.elements))

/-- The record in a reading of a text. -/
def built (s : fs.Slots) : Reader α :=
  match fs.build s with
  | .ok a => return a
  | .error cause => Reader.failUnplaced cause

/-- Reads a record in a text; `what` names it in refusals. -/
def reader (what : String) : Reader α := do
  match ← Reader.peekToken with
  | some '[' =>
    Reader.enclosed Reader.endList do
      let s ← fs.itemsReader what 0 fs.empty fs.fields
      fs.built s
  | some '\x7b' =>
    let fuel ← Reader.remaining
    Reader.enclosed Reader.endObject do
      let s ← Reader.entries fs.entryReader fuel 0 fs.empty
      fs.built s
  | _ => Decoder.refuse what

end Fields

/-- A record. -/
def Decoder.record {α : Type} (name : String) (fs : Fields α) : Decoder α where
  ofJson
    | .arr items => fs.ofItems ("struct " ++ name) (fun _ => "fewer elements in array") items
    | .obj entries => fs.ofEntries entries
    | v => .error (.mismatch v ("struct " ++ name))
  ofText := fs.reader ("struct " ++ name)

/-! ## Alternatives -/

/-- An alternative. -/
inductive Case (α : Type) : Type 1 where
  /-- The name alone. -/
  | unit (name : String) (value : α)
  /-- The name with a value. -/
  | payload (name : String) (d : Decoder α)
  /-- The name with fields. -/
  | record (name : String) (fs : Fields α)

namespace Case

variable {α : Type}

/-- The name of an alternative. -/
def name : Case α → String
  | unit n _ | payload n _ | record n _ => n

/-- Finds an alternative by name. -/
def find (cases : List (Case α)) (name : String) : Except Cause (Case α) :=
  match cases.find? (·.name == name) with
  | some c => .ok c
  | none => .error (.unknownVariant name (cases.map Case.name))

/-- The alternative given by its name alone. -/
def bare : Case α → Except Cause α
  | unit _ a => .ok a
  | payload _ _ => .error (.invalidType "unit variant" "newtype variant")
  | record _ _ => .error (.invalidType "unit variant" "struct variant")

/-- The alternative given with a value. -/
def ofJson : Case α → Json → Except Cause α
  | unit _ a, v => (Decoder.unit.ofJson v).map fun _ => a
  | payload _ d, v => d.ofJson v
  | record _ fs, .obj entries => fs.ofEntries entries
  | record _ _, v => .error (.mismatch v "struct variant")

/-- The alternative given with a value, in a text. -/
def reader (type : String) : Case α → Reader α
  | unit _ a => do Decoder.unit.ofText; return a
  | payload _ d => d.ofText
  | record n fs => fs.reader ("struct variant " ++ type ++ "::" ++ n)

end Case

/-- The name of one of several alternatives. -/
def Decoder.identifier (known : List String) : Decoder String :=
  Decoder.scalar "variant identifier" fun
    | .str s => if known.contains s then .ok s else .error (.unknownVariant s known)
    | v => .error (.mismatch v "variant identifier")

/-- One of several alternatives. -/
def Decoder.choice {α : Type} (type : String) (cases : List (Case α)) : Decoder α where
  ofJson
    | .str name =>
      match Case.find cases name with
      | .ok case => case.bare
      | .error cause => .error cause
    | .obj [(name, v)] =>
      match Case.find cases name with
      | .ok case => case.ofJson v
      | .error cause => .error cause
    | .obj _ => .error (.invalidValue "map" "map with a single key")
    | v => .error (.mismatch v "string or map")
  ofText := fun c =>
    let body : Reader α := fun c =>
      match c.rest.head? with
      | none => Reader.failPeek .eofValue c
      | some '"' => named c
      | some '\x7b' => keyed c
      | some _ => Reader.failPeek .expectedValue c
    body (Reader.afterGap c)
where
  /-- The name alone. -/
  named : Reader α := do
    Reader.eat
    let name ← Reader.string
    match Case.find cases name with
    | .error cause => Reader.fail cause
    | .ok case =>
      match case.bare with
      | .ok a => return a
      | .error cause => Reader.failUnplaced cause
  /-- An object with the name as its only key. -/
  keyed : Reader α := fun c =>
    if c.depth ≤ 1 then Reader.failPeek .recursionLimit c
    else
      let inside : Reader α := do
        match ← Reader.peekToken with
        | some '"' =>
          Reader.eat
          let name ← Reader.string
          match Case.find cases name with
          | .error cause => Reader.fail cause
          | .ok case =>
            Reader.colon
            let a ← case.reader type
            match ← Reader.peekToken with
            | some '\x7d' => do Reader.eat; return a
            | some _ => Reader.fail .expectedValue
            | none => Reader.fail .eofObject
        | _ => Decoder.refuse "variant identifier"
      match inside { c.advance with depth := c.depth - 1 } with
      | .ok a c' => .ok a { c' with depth := c.depth }
      | .error f c' => .error f c'

/-- A choice whose name may also come with an empty object, which then stands for nothing. -/
def Decoder.allowingEmpty {α : Type} (d : Decoder α) : Decoder α where
  ofJson
    | .obj [(name, .obj [])] => d.ofJson (.obj [(name, .null)])
    | v => d.ofJson v
  ofText := d.ofText

/-- An alternative whose name stands among its fields. -/
inductive TaggedCase (α : Type) : Type 1 where
  /-- No fields. -/
  | unit (name : String) (value : α)
  /-- Fields, and the title of the alternative in refusals. -/
  | record (name title : String) (fs : Fields α)

namespace TaggedCase

variable {α : Type}

/-- The name of an alternative. -/
def name : TaggedCase α → String
  | unit n _ | record n _ _ => n

/-- How many items a list may hold beside the name. -/
def tooMany (read : Nat) : String :=
  if read = 1 then "1 element in sequence" else toString read ++ " elements in sequence"

/-- The alternative with the entries beside its name. -/
def ofEntries (entries : Entries) : TaggedCase α → Except Cause α
  | unit _ a => .ok a
  | record _ _ fs => fs.ofEntries entries

/-- The alternative with the items after its name. -/
def ofItems (type : String) (items : List Json) : TaggedCase α → Except Cause α
  | unit _ a => if items.isEmpty then .ok a else .error (.invalidLength items.length (tooMany 0))
  | record _ title fs => fs.ofItems ("struct variant " ++ type ++ "::" ++ title) tooMany items

end TaggedCase

/-- One of several alternatives, its name under the key `tag` or first in a list. The fields are looked at after the
whole of it was read. -/
def Decoder.tagged {α : Type} (type tag : String) (cases : List (TaggedCase α)) : Decoder α where
  ofJson
    | .obj entries => do
      let (found, rest) ← entries.foldlM step (none, [])
      match found with
      | none => throw (.missingField tag)
      | some name => ofEntries name rest.reverse
    | .arr [] => .error (.missingField tag)
    | .arr (v :: items) => do ofItems (← identifier.ofJson v) items
    | v => .error (.mismatch v expected)
  ofText := do
    match ← Reader.peekToken with
    | some '\x7b' =>
      let fuel ← Reader.remaining
      let (name, rest) ← Reader.enclosed Reader.endObject do
        let (found, rest) ← Reader.entries entry fuel 0 (none, [])
        match found with
        | none => Reader.failUnplaced (.missingField tag)
        | some name => return (name, rest)
      unplaced (ofEntries name rest.reverse)
    | some '[' =>
      let fuel ← Reader.remaining
      let (name, rest) ← Reader.enclosed Reader.endList do
        let (found, rest) ← Reader.items item fuel 0 (none, [])
        match found with
        | none => Reader.failUnplaced (.missingField tag)
        | some name => return (name, rest)
      unplaced (ofItems name rest.reverse)
    | _ => Decoder.refuse expected
where
  /-- What is asked for. -/
  expected : String := "internally tagged enum " ++ type
  /-- The names of the alternatives. -/
  known : List String := cases.map TaggedCase.name
  /-- The name of the alternative. -/
  identifier : Decoder String := Decoder.identifier known
  /-- The alternative of a name, with the entries beside it. -/
  ofEntries (name : String) (rest : Entries) : Except Cause α :=
    match cases.find? (·.name == name) with
    | some case => case.ofEntries rest
    | none => .error (.unknownVariant name known)
  /-- The alternative of a name, with the items after it. -/
  ofItems (name : String) (rest : List Json) : Except Cause α :=
    match cases.find? (·.name == name) with
    | some case => case.ofItems type rest
    | none => .error (.unknownVariant name known)
  /-- Sorts an entry into the name or the rest. -/
  step (acc : Option String × Entries) (e : String × Json) : Except Cause (Option String × Entries) :=
    if e.1 == tag then
      match acc.1 with
      | some _ => .error (.duplicateField tag)
      | none => (identifier.ofJson e.2).map fun name => (some name, acc.2)
    else .ok (acc.1, e :: acc.2)
  /-- Reads an entry of the text. -/
  entry (key : String) (acc : Option String × Entries) : Reader (Option String × Entries) :=
    if key == tag then
      match acc.1 with
      | some _ => Reader.failUnplaced (.duplicateField tag)
      | none => do Reader.colon; return (some (← identifier.ofText), acc.2)
    else do Reader.colon; return (acc.1, (key, ← Reader.raw) :: acc.2)
  /-- Reads an item of the text. -/
  item (index : Nat) (acc : Option String × List Json) : Reader (Option String × List Json) :=
    if index == 0 then do return (some (← identifier.ofText), acc.2)
    else do return (acc.1, (← Reader.raw) :: acc.2)
  /-- A refusal without a place. -/
  unplaced (r : Except Cause α) : Reader α :=
    match r with
    | .ok a => return a
    | .error cause => Reader.failUnplaced cause

end AgentLoop
