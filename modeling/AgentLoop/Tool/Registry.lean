import AgentLoop.Tool.Basic

/-!
# Tools by name

- `ToolRegistry`: tools in the order of their registration, one a name, with an index of their places;
- `register`: a tool of a known name takes the place of the earlier one;
- `get?`: the tool whose place the index has for a name; it is the one tool of that name (`get?_eq_some_iff`);
- `only`, `without`: the registry of some names, for which the tools are registered anew.
-/

namespace AgentLoop

/-- Tools in the order of their registration. -/
structure ToolRegistry (σ : Type) where
  tools : List (Tool σ) := []
  /-- The place of each name among the tools. -/
  index : List (String × Nat) := []
  indexed : ∀ name place, index.lookup name = some place ↔ (tools.map Tool.name)[place]? = some name := by simp

namespace ToolRegistry

variable {σ : Type}

/-- No tools. -/
def empty : ToolRegistry σ := {}

/-! ## Registration -/

section Register

variable (r : ToolRegistry σ) {t : Tool σ} {place : Nat}

/-- A tool that takes the place of the tool of its name leaves the names as they are. -/
theorem names_set (known : r.index.lookup t.name = some place) :
    (r.tools.set place t).map Tool.name = r.tools.map Tool.name := by
  have stands := (r.indexed t.name place).1 known
  apply List.ext_getElem?
  intro i
  rw [List.map_set, List.getElem?_set]
  split
  · rename_i same
    subst same
    rw [stands]
    exact if_pos (List.getElem?_eq_some_iff.1 stands).1
  · rfl

theorem indexed_set (known : r.index.lookup t.name = some place) (name : String) (i : Nat) :
    r.index.lookup name = some i ↔ ((r.tools.set place t).map Tool.name)[i]? = some name := by
  rw [r.names_set known]
  exact r.indexed name i

/-- A name that is not in the index is not the name of a tool. -/
theorem ne_of_lookup_eq_none (new : r.index.lookup t.name = none) (i : Nat) :
    (r.tools.map Tool.name)[i]? ≠ some t.name := by
  intro stands
  rw [(r.indexed t.name i).2 stands] at new
  cases new

theorem indexed_concat (new : r.index.lookup t.name = none) (name : String) (i : Nat) :
    ((t.name, r.tools.length) :: r.index).lookup name = some i ↔
      ((r.tools ++ [t]).map Tool.name)[i]? = some name := by
  rw [List.map_append, List.lookup_cons, List.getElem?_append, List.length_map]
  by_cases own : name = t.name
  · subst own
    rw [beq_self_eq_true]
    constructor
    · rintro ⟨⟩
      simp
    · intro stands
      split at stands
      · exact absurd stands (r.ne_of_lookup_eq_none new i)
      · rename_i behind
        have last : i - r.tools.length < 1 := (List.getElem?_eq_some_iff.1 stands).1
        have here : i = r.tools.length := by omega
        simp [here]
  · rw [beq_false_of_ne own]
    refine (r.indexed name i).trans ?_
    split
    · rfl
    · rename_i behind
      constructor
      · intro stands
        have inside := (List.getElem?_eq_some_iff.1 stands).1
        rw [List.length_map] at inside
        exact absurd inside behind
      · intro stands
        have mem := List.mem_of_getElem? stands
        exact absurd (List.mem_singleton.1 mem) own

end Register

/-- The registry with one more tool, which takes the place of the tool of its name if there is one. -/
def register (r : ToolRegistry σ) (t : Tool σ) : ToolRegistry σ :=
  match known : r.index.lookup t.name with
  | some place => { tools := r.tools.set place t, index := r.index, indexed := r.indexed_set known }
  | none =>
    { tools := r.tools ++ [t], index := (t.name, r.tools.length) :: r.index, indexed := r.indexed_concat known }

/-- A registry of tools, registered in order. -/
def ofList (tools : List (Tool σ)) : ToolRegistry σ := tools.foldl register empty

/-! ## Looking up -/

/-- The tool of a name. -/
def get? (r : ToolRegistry σ) (name : String) : Option (Tool σ) :=
  (r.index.lookup name).bind fun place => r.tools[place]?

/-- Is there a tool of that name? -/
def contains (r : ToolRegistry σ) (name : String) : Bool := (r.index.lookup name).isSome

/-- The definitions, in order. -/
def definitions (r : ToolRegistry σ) : List ToolDefinition := r.tools.map (·.definition)

/-- The names, in order. -/
def names (r : ToolRegistry σ) : List String := r.tools.map Tool.name

/-- How many tools there are. -/
def size (r : ToolRegistry σ) : Nat := r.tools.length

/-- Are there no tools? -/
def isEmpty (r : ToolRegistry σ) : Bool := r.tools.isEmpty

/-- Looking a name up gives the one tool that has it. -/
theorem get?_eq_some_iff (r : ToolRegistry σ) {name : String} {t : Tool σ} :
    r.get? name = some t ↔ t ∈ r.tools ∧ t.name = name := by
  unfold get?
  constructor
  · intro found
    obtain ⟨place, stands, there⟩ := Option.bind_eq_some_iff.1 found
    have named := (r.indexed name place).1 stands
    rw [List.getElem?_map, there] at named
    exact ⟨List.mem_of_getElem? there, Option.some.inj named⟩
  · rintro ⟨mem, rfl⟩
    obtain ⟨place, there⟩ := List.getElem?_of_mem mem
    have stands := (r.indexed t.name place).2 (by rw [List.getElem?_map, there]; rfl)
    rw [stands]
    exact there

/-- What is found is one of the tools. -/
theorem mem_of_get? {r : ToolRegistry σ} {name : String} {t : Tool σ} (found : r.get? name = some t) : t ∈ r.tools :=
  (r.get?_eq_some_iff.1 found).1

/-! ## Selections -/

/-- The tools whose names pass a test, registered anew. -/
def filter (r : ToolRegistry σ) (keep : String → Bool) : ToolRegistry σ :=
  r.tools.foldl (fun kept t => if keep t.name then kept.register t else kept) empty

/-- The tools without those of the given names. -/
def without (r : ToolRegistry σ) (names : List String) : ToolRegistry σ := r.filter fun n => !names.contains n

/-- The tools of the given names. -/
def only (r : ToolRegistry σ) (names : List String) : ToolRegistry σ := r.filter names.contains

end ToolRegistry

end AgentLoop
