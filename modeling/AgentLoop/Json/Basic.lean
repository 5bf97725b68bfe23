/-!
# JSON values

- `Number`: a whole number or a double; the two never equal each other;
- `Json`: the values, with equality;
- `Entries`: the entries of an object, kept by ascending key (`Entries.put`, `Entries.drop`, `Entries.get?`);
- `Json.normalize`: objects as maps, the last of several entries under one key wins.
-/

namespace AgentLoop

/-- A number: whole numbers from `-2^63` to `2^64 - 1` are `int`, all others doubles. -/
inductive Number where
  | int (n : Int)
  | float (x : Float)
  deriving Inhabited

namespace Number

/-- Equality of numbers: never between a whole number and a double. -/
def beq : Number → Number → Bool
  | int a, int b => a == b
  | float a, float b => a == b
  | _, _ => false

instance : BEq Number := ⟨beq⟩

/-- The double next to a number. -/
def toFloat : Number → Float
  | int n => Float.ofInt n
  | float x => x

end Number

/-- A JSON value. -/
inductive Json where
  | null
  | bool (b : Bool)
  | num (n : Number)
  | str (s : String)
  | arr (items : List Json)
  | obj (entries : List (String × Json))
  deriving Inhabited

/-- The entries of an object. -/
abbrev Entries := List (String × Json)

namespace Entries

/-- Sets the value under a key; the keys of ascending entries stay ascending. -/
def put (key : String) (value : Json) : Entries → Entries
  | [] => [(key, value)]
  | (k, v) :: rest =>
    if key < k then (key, value) :: (k, v) :: rest
    else if key = k then (key, value) :: rest
    else (k, v) :: put key value rest

/-- Removes a key. -/
def drop (key : String) (entries : Entries) : Entries :=
  entries.filter fun e => e.1 != key

/-- The value under a key. -/
def get? (key : String) (entries : Entries) : Option Json :=
  (entries.find? fun e => e.1 == key).map (·.2)

/-- Entries in any order as a map: ascending keys, the last value under a key. -/
def ofList (entries : Entries) : Entries :=
  entries.foldl (fun acc e => put e.1 e.2 acc) []

end Entries

namespace Json

mutual
/-- Equality of values; objects are compared entry by entry. -/
def beq : Json → Json → Bool
  | null, null => true
  | bool a, bool b => a == b
  | num a, num b => a == b
  | str a, str b => a == b
  | arr a, arr b => beqItems a b
  | obj a, obj b => beqEntries a b
  | _, _ => false
/-- Equality of lists of values. -/
def beqItems : List Json → List Json → Bool
  | [], [] => true
  | a :: as, b :: bs => beq a b && beqItems as bs
  | _, _ => false
/-- Equality of lists of entries. -/
def beqEntries : List (String × Json) → List (String × Json) → Bool
  | [], [] => true
  | (k, a) :: as, (l, b) :: bs => k == l && beq a b && beqEntries as bs
  | _, _ => false
end

instance : BEq Json := ⟨beq⟩

mutual
/-- The value with every object's entries as a map. -/
def normalize : Json → Json
  | arr items => arr (normalizeItems items)
  | obj entries => obj (Entries.ofList (normalizeEntries entries))
  | v => v
/-- `normalize` on each item. -/
def normalizeItems : List Json → List Json
  | [] => []
  | v :: rest => normalize v :: normalizeItems rest
/-- `normalize` on each entry's value. -/
def normalizeEntries : List (String × Json) → List (String × Json)
  | [] => []
  | (k, v) :: rest => (k, normalize v) :: normalizeEntries rest
end

/-- A whole number. -/
def ofNat (n : Nat) : Json := num (.int n)

/-- A whole number. -/
def ofInt (n : Int) : Json := num (.int n)

/-- A count of 64 bits. -/
def ofU64 (n : UInt64) : Json := ofNat n.toNat

/-- A count of 32 bits. -/
def ofU32 (n : UInt32) : Json := ofNat n.toNat

/-- A float of 32 bits, as the double of the same value; `null` if it is not finite. -/
def ofF32 (x : Float32) : Json := if x.isFinite then num (.float x.toFloat) else null

/-- The value, or `null`. -/
def ofOption {α : Type} (f : α → Json) : Option α → Json
  | none => null
  | some a => f a

/-- A list of values. -/
def ofList {α : Type} (f : α → Json) (xs : List α) : Json := arr (xs.map f)

/-- An object with the given entries, in any order. -/
def ofEntries (entries : Entries) : Json := obj (Entries.ofList entries)

/-- The value of an object's key. -/
def get? (key : String) : Json → Option Json
  | obj entries => Entries.get? key entries
  | _ => none

/-- The text of a text value. -/
def text? : Json → Option String
  | str s => some s
  | _ => none

/-- The value of a whole number from `0` to `2^64 - 1`. -/
def count? : Json → Option UInt64
  | num (.int n) => if 0 ≤ n ∧ n < UInt64.size then some (UInt64.ofNat n.toNat) else none
  | _ => none

/-- A number as a double. -/
def float? : Json → Option Float
  | num n => some n.toFloat
  | _ => none

/-- Is it `null`? -/
def isNull : Json → Bool
  | null => true
  | _ => false

end Json

end AgentLoop
