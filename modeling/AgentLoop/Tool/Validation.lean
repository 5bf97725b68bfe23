import AgentLoop.Json.Basic

/-!
# Checking arguments

- `SchemaLibrary`: a library that checks JSON values against JSON schemas. Which schemas it understands, and what it
  finds in a value, is its own affair;
- `SchemaLibrary.validate`: the verdict on a value, with everything that the library found in it.
-/

namespace AgentLoop

/-- A library that checks JSON values against JSON schemas. -/
structure SchemaLibrary where
  /-- Reads a schema: gives what finds the violations of a value, or says what is wrong with the schema. -/
  compile : Json → Except String (Json → List String)

namespace SchemaLibrary

/-- The library that understands every schema and finds nothing in any value. -/
def lenient : SchemaLibrary := ⟨fun _ => .ok fun _ => []⟩

/-- Checks a value against a schema. -/
def validate (library : SchemaLibrary) (schema v : Json) : Except String Unit :=
  match library.compile schema with
  | .error fault => .error ("invalid JSON schema: " ++ fault)
  | .ok violations =>
    match violations v with
    | [] => .ok ()
    | found => .error ("; ".intercalate found)

end SchemaLibrary

end AgentLoop
