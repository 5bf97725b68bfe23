import AgentLoop.Json.Exact
import AgentLoop.Json.Printer
import AgentLoop.Scripted.Schema.Pattern

/-!
# Schemas

- `Schema`: what a JSON value has to be; keywords are schemas, and an object of keywords is their conjunction;
- `Violation`: a way in which a value fails, with its wording;
- `Schema.violations`: every violation, in the order of the keywords.
-/

namespace AgentLoop

/-- The kinds of values that a schema names. -/
inductive Kind where
  | array
  | boolean
  | integer
  | null
  | number
  | object
  | string
  deriving DecidableEq, Repr

namespace Kind

/-- Every kind, by name. -/
def all : List Kind := [array, boolean, integer, null, number, object, string]

/-- The name of a kind. -/
def name : Kind → String
  | array => "array"
  | boolean => "boolean"
  | integer => "integer"
  | null => "null"
  | number => "number"
  | object => "object"
  | string => "string"

/-- Is a value of the kind? -/
def admits : Kind → Json → Bool
  | array, .arr _ => true
  | boolean, .bool _ => true
  | integer, .num n => n.isWhole
  | null, .null => true
  | number, .num _ => true
  | object, .obj _ => true
  | string, .str _ => true
  | _, _ => false

/-- The kinds that a value shows as it is written: a number with a point or an exponent shows no integer, even if it is
whole. -/
def shownBy : Json → List Kind
  | .arr _ => [array]
  | .bool _ => [boolean]
  | .num (.int _) => [integer, number]
  | .num (.float _) => [number]
  | .null => [null]
  | .obj _ => [object]
  | .str _ => [string]

/-- Is a value of one of the kinds? One kind alone goes by what the value is, several go by what it shows. -/
def anyAdmits : List Kind → Json → Bool
  | [k], v => k.admits v
  | ks, v => ks.any fun k => (shownBy v).contains k

end Kind

/-- The ways to bound a number. -/
inductive Bound where
  | minimum
  | maximum
  | exclusiveMinimum
  | exclusiveMaximum
  deriving DecidableEq, Repr

namespace Bound

/-- Is a number within a bound? -/
def admits : Bound → (limit n : Number) → Bool
  | minimum, limit, n => n.cmp limit != .lt
  | maximum, limit, n => n.cmp limit != .gt
  | exclusiveMinimum, limit, n => n.cmp limit == .gt
  | exclusiveMaximum, limit, n => n.cmp limit == .lt

/-- What is said of a number beyond a bound. -/
def phrase : Bound → String
  | minimum => "is less than the minimum of"
  | maximum => "is greater than the maximum of"
  | exclusiveMinimum => "is less than or equal to the minimum of"
  | exclusiveMaximum => "is greater than or equal to the maximum of"

end Bound

/-- The extents of values. -/
inductive Extent where
  | characters
  | items
  | properties
  deriving DecidableEq, Repr

namespace Extent

/-- The extent of a value, if it has that one. -/
def measure : Extent → Json → Option Nat
  | characters, .str s => some s.length
  | items, .arr xs => some xs.length
  | properties, .obj entries => some entries.length
  | _, _ => none

/-- What is said of a value with less than `n`. -/
def tooSmall : Extent → Nat → String
  | characters, n => "is shorter than " ++ counted n "character" "characters"
  | items, n => "has less than " ++ counted n "item" "items"
  | properties, n => "has less than " ++ counted n "property" "properties"
where
  /-- A number and its noun. -/
  counted (n : Nat) (one many : String) : String := toString n ++ " " ++ (if n = 1 then one else many)

/-- What is said of a value with more than `n`. -/
def tooLarge : Extent → Nat → String
  | characters, n => "is longer than " ++ tooSmall.counted n "character" "characters"
  | items, n => "has more than " ++ tooSmall.counted n "item" "items"
  | properties, n => "has more than " ++ tooSmall.counted n "property" "properties"

end Extent

/-- What a value has to be. -/
inductive Schema where
  /-- Anything. -/
  | any
  /-- Nothing will do. -/
  | never
  | all (parts : List Schema)
  | kinds (ks : List Kind)
  | options (values : List Json)
  | exactly (value : Json)
  | bound (b : Bound) (limit : Number)
  | multipleOf (step : Float)
  | atLeast (e : Extent) (n : Nat)
  | atMost (e : Extent) (n : Nat)
  | pattern (source : String) (p : Pattern)
  /-- Every item of a list. -/
  | items (s : Schema)
  | uniqueItems
  | required (names : List String)
  /-- The values under these names. -/
  | properties (named : List (String × Schema))
  /-- The values under these names, and all others. -/
  | additional (named : Option (List (String × Schema))) (others : Schema)
  | anyOf (ss : List Schema)
  | oneOf (ss : List Schema)
  /-- Not the schema that was written as `source`. -/
  | negation (source : Json) (s : Schema)
  deriving Inhabited

/-- A way in which a value fails. -/
inductive Violation where
  | wrongKind (v : Json) (ks : List Kind)
  | notListed (v : Json) (options : List Json)
  | different (expected : Json)
  | outOfBound (v : Json) (b : Bound) (limit : Number)
  | noMultiple (v : Json) (step : Float)
  | tooSmall (v : Json) (e : Extent) (n : Nat)
  | tooLarge (v : Json) (e : Extent) (n : Nat)
  | noMatch (v : Json) (source : String)
  | repeatedItems (v : Json)
  | missing (name : String)
  | unexpected (names : List String)
  | refused (v : Json)
  /-- No alternative of the keyword holds. -/
  | noAlternative (v : Json) (keyword : String)
  | severalAlternatives (v : Json)
  | forbidden (v : Json) (schema : Json)

namespace Violation

/-- Steps of multiples are written with all their places. -/
def steps : DoubleFormat := ⟨-400, 400, "", .up⟩

/-- The wording of a violation. -/
def message : Violation → String
  | wrongKind v ks =>
    let names := ks.map fun k => Json.quote k.name
    v.render ++ (if ks.length = 1 then " is not of type " else " is not of types ") ++ ", ".intercalate names
  | notListed v options => v.render ++ " is not one of " ++ (Json.arr options).render
  | different expected => expected.render ++ " was expected"
  | outOfBound v b limit => v.render ++ " " ++ b.phrase ++ " " ++ limit.render
  | noMultiple v step => v.render ++ " is not a multiple of " ++ steps.write step
  | tooSmall v e n => v.render ++ " " ++ e.tooSmall n
  | tooLarge v e n => v.render ++ " " ++ e.tooLarge n
  | noMatch v source => v.render ++ " does not match " ++ "\"" ++ source ++ "\""
  | repeatedItems v => v.render ++ " has non-unique elements"
  | missing name => Json.quote name ++ " is a required property"
  | unexpected names =>
    let marked := ", ".intercalate (names.map fun n => "'" ++ n ++ "'")
    "Additional properties are not allowed (" ++ marked ++
      (if names.length = 1 then " was unexpected)" else " were unexpected)")
  | refused v => "False schema does not allow " ++ v.render
  | noAlternative v keyword =>
    v.render ++ " is not valid under any of the schemas listed in the '" ++ keyword ++ "' keyword"
  | severalAlternatives v =>
    v.render ++ " is valid under more than one of the schemas listed in the 'oneOf' keyword"
  | forbidden v schema => schema.render ++ " is not allowed for " ++ v.render

end Violation

namespace Schema

/-- A violation unless a condition holds. -/
def ensure (ok : Bool) (violation : Violation) : List Violation := if ok then [] else [violation]

/-- Does a value equal an expected one? Numbers may differ by less than `2^-52`. -/
def isExpected : (expected v : Json) → Bool
  | .num a, .num b => (a.toFloat - b.toFloat).abs < 2.220446049250313e-16
  | expected, v => expected.alike v

mutual
/-- Every violation of a schema by a value. -/
def violations : Schema → Json → List Violation
  | any, _ => []
  | never, v => [.refused v]
  | all parts, v => violationsOfAll parts v
  | kinds ks, v => ensure (Kind.anyAdmits ks v) (.wrongKind v ks)
  | options values, v => ensure (values.any fun o => o.alike v) (.notListed v values)
  | exactly value, v => ensure (isExpected value v) (.different value)
  | bound b limit, v =>
    match v with
    | .num n => ensure (b.admits limit n) (.outOfBound v b limit)
    | _ => []
  | multipleOf step, v =>
    match v with
    | .num n => ensure (n.isMultipleOf step) (.noMultiple v step)
    | _ => []
  | atLeast e n, v => ensure ((e.measure v).all fun m => n ≤ m) (.tooSmall v e n)
  | atMost e n, v => ensure ((e.measure v).all fun m => m ≤ n) (.tooLarge v e n)
  | pattern source p, v =>
    match v with
    | .str s => ensure (p.occursIn s) (.noMatch v source)
    | _ => []
  | items s, v =>
    match v with
    | .arr xs => xs.flatMap fun x => violations s x
    | _ => []
  | uniqueItems, v =>
    match v with
    | .arr xs => ensure (Json.allDistinct xs) (.repeatedItems v)
    | _ => []
  | required names, v =>
    match v with
    | .obj entries => (names.filter fun n => (Entries.get? n entries).isNone).map .missing
    | _ => []
  | properties named, v =>
    match v with
    | .obj entries => violationsOfNamed named entries
    | _ => []
  | additional none never, v =>
    match v with
    | .obj ((_, x) :: _) => [.refused x]
    | _ => []
  | additional none others, v =>
    match v with
    | .obj entries => entries.flatMap fun e => violations others e.2
    | _ => []
  | additional (some named) never, v =>
    match v with
    | .obj entries =>
      let known := entries.flatMap fun e => (violationsUnder e.1 named e.2).getD []
      match (entries.filter fun e => named.all (·.1 != e.1)).map (·.1) with
      | [] => known
      | names => known ++ [.unexpected names]
    | _ => []
  | additional (some named) others, v =>
    match v with
    | .obj entries => entries.flatMap fun e => (violationsUnder e.1 named e.2).getD (violations others e.2)
    | _ => []
  | anyOf ss, v => ensure (0 < admitting ss v) (.noAlternative v "anyOf")
  | oneOf ss, v =>
    match admitting ss v with
    | 0 => [.noAlternative v "oneOf"]
    | 1 => []
    | _ => [.severalAlternatives v]
  | negation source s, v => ensure (!(violations s v).isEmpty) (.forbidden v source)
/-- The violations of each schema, in order. -/
def violationsOfAll : List Schema → Json → List Violation
  | [], _ => []
  | s :: rest, v => violations s v ++ violationsOfAll rest v
/-- How many schemas admit a value. -/
def admitting : List Schema → Json → Nat
  | [], _ => 0
  | s :: rest, v => (if (violations s v).isEmpty then 1 else 0) + admitting rest v
/-- The violations by the values under names. -/
def violationsOfNamed : List (String × Schema) → List (String × Json) → List Violation
  | [], _ => []
  | (name, s) :: rest, entries =>
    (match Entries.get? name entries with
      | some v => violations s v
      | none => []) ++ violationsOfNamed rest entries
/-- The violations by a value of the schema under a name, if there is one. -/
def violationsUnder : String → List (String × Schema) → Json → Option (List Violation)
  | _, [], _ => none
  | key, (name, s) :: rest, v => if name = key then some (violations s v) else violationsUnder key rest v
end

end Schema

end AgentLoop
