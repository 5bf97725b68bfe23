import AgentLoop.Scripted.Schema.Basic
import AgentLoop.Tool.Validation

/-!
# Schemas in JSON

- `Schema.faults`: what is wrong with a JSON value as a schema: first in its parts that are schemas themselves, then in
  its other keywords;
- `Schema.ofJson`: the schema that a value without faults spells; keywords in ascending order, unknown ones left out;
- `Schema.library`: a small library made of these. It stands in for a complete one while an agent is rehearsed: keywords
  and patterns that it does not know are no constraint to it.
-/

namespace AgentLoop

namespace Schema

/-! ## Faults -/

/-- The keywords whose value is a schema. -/
def isSchema (key : String) : Bool := ["additionalProperties", "items", "not"].contains key

/-- The keywords whose value is a list of schemas. -/
def isList (key : String) : Bool := ["allOf", "anyOf", "oneOf"].contains key

/-- The keywords whose value is an object of schemas. -/
def isNamed (key : String) : Bool := key == "properties"

/-- What the value of a keyword has to be, its parts that are schemas left aside. -/
def shape (key : String) : Schema :=
  if ["exclusiveMaximum", "exclusiveMinimum", "maximum", "minimum"].contains key then kinds [.number]
  else if ["maxItems", "maxLength", "maxProperties", "minItems", "minLength", "minProperties"].contains key then
    all [.bound .minimum (.int 0), .kinds [.integer]]
  else if key == "enum" then kinds [.array]
  else if key == "multipleOf" then all [.bound .exclusiveMinimum (.int 0), .kinds [.number]]
  else if key == "pattern" then kinds [.string]
  else if key == "required" then all [.items (.kinds [.string]), .kinds [.array], .uniqueItems]
  else if key == "type" then
    let name := options (Kind.all.map fun k => .str k.name)
    anyOf [name, all [.items name, .atLeast .items 1, .kinds [.array], .uniqueItems]]
  else if key == "uniqueItems" then kinds [.boolean]
  else any

/-- A list of at least one schema. -/
def listFaults (v : Json) : List Violation :=
  (all [.atLeast .items 1, .kinds [.array]]).violations v

mutual
/-- What is wrong with a value as a schema. -/
def faults : Json → List Violation
  | .bool _ => []
  | .obj entries => faultsOfParts entries ++ entries.flatMap fun e => (shape e.1).violations e.2
  | v => [.wrongKind v [.boolean, .object]]
/-- What is wrong with the schemas among the keywords. -/
def faultsOfParts : List (String × Json) → List Violation
  | [] => []
  | (key, v) :: rest =>
    (if isSchema key then faults v
      else if isList key then
        match v with
        | .arr vs => faultsOfItems vs ++ listFaults v
        | _ => listFaults v
      else if isNamed key then
        match v with
        | .obj entries => faultsOfValues entries
        | _ => (kinds [.object]).violations v
      else []) ++ faultsOfParts rest
/-- What is wrong with each item as a schema. -/
def faultsOfItems : List Json → List Violation
  | [] => []
  | v :: rest => faults v ++ faultsOfItems rest
/-- What is wrong with each entry's value as a schema. -/
def faultsOfValues : List (String × Json) → List Violation
  | [] => []
  | (_, v) :: rest => faults v ++ faultsOfValues rest
end

/-! ## Reading -/

/-- The kinds that `type` names. -/
def kindsNamed : Json → List Kind
  | .str s => Kind.all.filter fun k => k.name == s
  | .arr vs => Kind.all.filter fun k => vs.any fun v => v.text? == some k.name
  | _ => []

/-- A count, of 64 bits at most. -/
def count : Json → Nat
  | .num n => min (n.exact.1 / n.exact.2).toNat (UInt64.size - 1)
  | _ => 0

/-- A keyword whose value holds no schema. -/
def keyword? (key : String) (v : Json) : Option Schema :=
  match key, v with
  | "type", v => some (.kinds (kindsNamed v))
  | "enum", .arr values => some (.options values)
  | "const", v => some (.exactly v)
  | "minimum", .num n => some (.bound .minimum n)
  | "maximum", .num n => some (.bound .maximum n)
  | "exclusiveMinimum", .num n => some (.bound .exclusiveMinimum n)
  | "exclusiveMaximum", .num n => some (.bound .exclusiveMaximum n)
  | "multipleOf", .num n => some (.multipleOf n.toFloat)
  | "minLength", v => some (.atLeast .characters (count v))
  | "maxLength", v => some (.atMost .characters (count v))
  | "minItems", v => some (.atLeast .items (count v))
  | "maxItems", v => some (.atMost .items (count v))
  | "minProperties", v => some (.atLeast .properties (count v))
  | "maxProperties", v => some (.atMost .properties (count v))
  | "pattern", .str source => (Pattern.ofText? source).map (.pattern source)
  | "uniqueItems", .bool true => some .uniqueItems
  | "required", .arr names => some (.required (names.filterMap Json.text?))
  | _, _ => none

/-- The names that `properties` lists. -/
def named : List Schema → Option (List (String × Schema))
  | [] => none
  | properties ns :: _ => some ns
  | _ :: rest => named rest

/-- Is it the rule for the names that `properties` does not list, and not one that admits everything? -/
def limitsOthers : Schema → Bool
  | additional _ any => false
  | additional _ _ => true
  | _ => false

/-- Keywords in their final form: a rule for other names takes the place of `properties`. -/
def joined (parts : List Schema) : Schema :=
  if parts.any limitsOthers then
    all (parts.filterMap fun
      | properties _ => none
      | additional _ others => some (additional (named parts) others)
      | s => some s)
  else all parts

mutual
/-- The schema that a value spells. -/
def ofJson : Json → Schema
  | .bool false => never
  | .obj entries => joined (ofEntries entries)
  | _ => any
/-- The keywords of an object. -/
def ofEntries : List (String × Json) → List Schema
  | [] => []
  | (key, v) :: rest =>
    let more := ofEntries rest
    match key with
    | "additionalProperties" => additional none (ofJson v) :: more
    | "items" => items (ofJson v) :: more
    | "not" => negation v (ofJson v) :: more
    | "allOf" => all (ofItems v) :: more
    | "anyOf" => anyOf (ofItems v) :: more
    | "oneOf" => oneOf (ofItems v) :: more
    | "properties" => properties (ofNamed v) :: more
    | _ => (keyword? key v).toList ++ more
/-- The schemas of a list. -/
def ofItems : Json → List Schema
  | .arr vs => ofList vs
  | _ => []
/-- The schema of each item. -/
def ofList : List Json → List Schema
  | [] => []
  | v :: rest => ofJson v :: ofList rest
/-- The schemas of an object, with their names. -/
def ofNamed : Json → List (String × Schema)
  | .obj entries => ofValues entries
  | _ => []
/-- The schema of each entry's value. -/
def ofValues : List (String × Json) → List (String × Schema)
  | [] => []
  | (key, v) :: rest => (key, ofJson v) :: ofValues rest
end

/-- A small schema library for rehearsals. -/
def library : SchemaLibrary where
  compile schema :=
    match faults schema with
    | f :: _ => .error f.message
    | [] => .ok fun v => ((ofJson schema).violations v).map Violation.message

end Schema

end AgentLoop
