import Mathlib.Data.List.Induction
import Mathlib.Data.List.Nodup
import AgentLoop.Tool.Registry

/-!
# What a registry holds

- `ToolRegistry.lookup_index`: the index has the place of each name, and nothing else;
- `ToolRegistry.names_register`, `ToolRegistry.get?_register`: what a registration does;
- `ToolRegistry.tools_filter`, `ToolRegistry.get?_filter`: what a selection keeps;
- `RegistryAct`, `RegistryAct.standing`: what may be done to a registry, and the registrations that no later selection
  undoes;
- `ToolRegistry.holds_standing`: after any acts, a registry holds the names of these registrations, in the order of the
  first one of each, and for each name the tool of the last one.
-/

namespace AgentLoop

variable {σ : Type}

namespace ToolRegistry

variable (r : ToolRegistry σ)

/-! ## The index -/

theorem lookup_eq_some_iff (name : String) (place : Nat) :
    r.index.lookup name = some place ↔ r.names[place]? = some name := r.indexed name place

/-- No name stands at two places, since the index has one place for it. -/
theorem nodup_names : r.names.Nodup := by
  rw [List.nodup_iff_getElem?_ne_getElem?]
  intro i j before inside same
  have there : r.names[j]? = some r.names[j] := List.getElem?_eq_getElem inside
  have first := (r.lookup_eq_some_iff _ i).2 (same.trans there)
  have second := (r.lookup_eq_some_iff _ j).2 there
  rw [first] at second
  exact absurd (Option.some.inj second) (Nat.ne_of_lt before)

theorem lookup_index (name : String) : r.index.lookup name = r.names.idxOf? name := by
  apply Option.ext
  intro place
  rw [r.lookup_eq_some_iff, List.idxOf?_eq_some_iff]
  constructor
  · intro stands
    obtain ⟨inside, own⟩ := List.getElem?_eq_some_iff.1 stands
    refine ⟨inside, own, fun i before other => ?_⟩
    have distinct := List.nodup_iff_getElem?_ne_getElem?.1 r.nodup_names i place before inside
    rw [List.getElem?_eq_getElem (Nat.lt_trans before inside), other, stands] at distinct
    exact distinct rfl
  · rintro ⟨inside, own, -⟩
    exact List.getElem?_eq_some_iff.2 ⟨inside, own⟩

theorem lookup_eq_none_iff (name : String) : r.index.lookup name = none ↔ name ∉ r.names := by
  rw [r.lookup_index]
  simp

/-- A name that is looked up and found is one of the names. -/
theorem isSome_get? (name : String) : (r.get? name).isSome = true ↔ name ∈ r.names := by
  rw [Option.isSome_iff_exists, names, List.mem_map]
  exact exists_congr fun t => r.get?_eq_some_iff

theorem contains_eq (name : String) : r.contains name = (r.get? name).isSome := by
  rw [Bool.eq_iff_iff, r.isSome_get?, contains, ← Option.ne_none_iff_isSome, ne_eq, r.lookup_eq_none_iff]
  exact Decidable.not_not

/-- The names in order give the tools in order. -/
theorem tools_eq : r.tools.map some = r.names.map r.get? := by
  rw [names, List.map_map]
  exact List.map_congr_left fun t mem => (r.get?_eq_some_iff.2 ⟨mem, rfl⟩).symm

theorem definitions_eq :
    r.definitions.map some = r.names.map fun name => (r.get? name).map (·.definition) := by
  have same := congrArg (List.map (Option.map fun t : Tool σ => t.definition)) r.tools_eq
  rw [List.map_map, List.map_map] at same
  rw [definitions, List.map_map]
  exact same

/-! ## Registrations -/

/-- A tool of a known name leaves the names as they are, any other one comes last. -/
theorem names_register (t : Tool σ) :
    (r.register t).names = if t.name ∈ r.names then r.names else r.names ++ [t.name] := by
  unfold register
  split
  · rename_i place known
    have stands := (r.lookup_eq_some_iff _ _).1 known
    rw [if_pos (List.mem_of_getElem? stands)]
    exact r.names_set known
  · rename_i new
    rw [if_neg ((r.lookup_eq_none_iff _).1 new)]
    exact List.map_append

theorem tools_register_of_new {t : Tool σ} (new : t.name ∉ r.names) : (r.register t).tools = r.tools ++ [t] := by
  unfold register
  split
  · rename_i place known
    exact absurd (List.mem_of_getElem? ((r.lookup_eq_some_iff _ _).1 known)) new
  · rfl

/-- The tool that is registered is the one of its name from then on; the others are as before. -/
theorem get?_register (t : Tool σ) (name : String) :
    (r.register t).get? name = if t.name = name then some t else r.get? name := by
  unfold register get?
  split
  · rename_i place known
    by_cases own : t.name = name
    · subst own
      have inside : place < r.tools.length := by
        have := (List.getElem?_eq_some_iff.1 ((r.indexed _ _).1 known)).1
        rwa [List.length_map] at this
      simp [known, inside]
    · rw [if_neg own]
      refine Option.bind_congr fun i stands => List.getElem?_set_ne ?_
      rintro rfl
      have first := (r.lookup_eq_some_iff _ _).1 known
      rw [(r.lookup_eq_some_iff _ _).1 stands] at first
      exact own (Option.some.inj first).symm
  · by_cases own : t.name = name
    · subst own
      simp
    · rw [if_neg own, List.lookup_cons, beq_false_of_ne (Ne.symm own)]
      refine Option.bind_congr fun i stands => List.getElem?_append_left ?_
      have inside := (List.getElem?_eq_some_iff.1 ((r.indexed _ _).1 stands)).1
      rwa [List.length_map] at inside

/-! ## Selections -/

/-- Tools of new and distinct names, registered in order if their names pass a test, come after the others. -/
theorem tools_foldl_register (keep : String → Bool) (tools : List (Tool σ)) (kept : ToolRegistry σ)
    (distinct : (kept.names ++ tools.map Tool.name).Nodup) :
    (tools.foldl (fun kept t => if keep t.name then kept.register t else kept) kept).tools =
      kept.tools ++ tools.filter fun t => keep t.name := by
  induction tools generalizing kept with
  | nil => exact (List.append_nil _).symm
  | cons t rest ih =>
    rw [List.foldl_cons, List.filter_cons]
    split
    · have new : t.name ∉ kept.names := fun known =>
        List.disjoint_of_nodup_append distinct known List.mem_cons_self
      have later : ((kept.register t).names ++ rest.map Tool.name).Nodup := by
        rw [kept.names_register, if_neg new, List.append_assoc]
        exact distinct
      rw [ih _ later, kept.tools_register_of_new new, List.append_assoc]
      rfl
    · exact ih _ (distinct.sublist (List.Sublist.append_left (List.sublist_cons_self _ _) _))

/-- A selection keeps the tools whose names pass the test, in their order. -/
theorem tools_filter (keep : String → Bool) : (r.filter keep).tools = r.tools.filter fun t => keep t.name :=
  tools_foldl_register keep r.tools empty r.nodup_names

theorem names_filter (keep : String → Bool) : (r.filter keep).names = r.names.filter keep := by
  rw [names, r.tools_filter, names, List.filter_map]
  rfl

theorem get?_filter (keep : String → Bool) (name : String) :
    (r.filter keep).get? name = if keep name then r.get? name else none := by
  apply Option.ext
  intro t
  rw [(r.filter keep).get?_eq_some_iff, r.tools_filter, List.mem_filter]
  split
  · rename_i kept
    rw [r.get?_eq_some_iff]
    constructor
    · exact fun ⟨⟨mem, _⟩, own⟩ => ⟨mem, own⟩
    · rintro ⟨mem, rfl⟩
      exact ⟨⟨mem, kept⟩, rfl⟩
  · rename_i dropped
    constructor
    · rintro ⟨⟨-, kept⟩, rfl⟩
      exact absurd kept dropped
    · rintro ⟨⟩

end ToolRegistry

/-! ## Histories -/

/-- What may be done to a registry. -/
inductive RegistryAct (σ : Type)
  | register (t : Tool σ)
  | only (names : List String)
  | without (names : List String)

namespace RegistryAct

/-- Does an act leave the tool of a name in the registry? -/
def keeps : RegistryAct σ → String → Bool
  | register _, _ => true
  | only names, name => names.contains name
  | without names, name => !names.contains name

/-- The tool that is registered. -/
def registered : RegistryAct σ → List (Tool σ)
  | register t => [t]
  | only _ => []
  | without _ => []

/-- The registry after an act. -/
def apply (r : ToolRegistry σ) : RegistryAct σ → ToolRegistry σ
  | register t => r.register t
  | only names => r.only names
  | without names => r.without names

/-- The registrations whose names every later selection keeps, in order. -/
def standing : List (RegistryAct σ) → List (Tool σ)
  | [] => []
  | act :: later => (act.registered.filter fun t => later.all fun next => next.keeps t.name) ++ standing later

/-- An act that is not a registration is a selection. -/
theorem registers_or_selects (act : RegistryAct σ) :
    (∃ t, act = register t) ∨ (act.registered = [] ∧ ∀ r, act.apply r = r.filter act.keeps) := by
  cases act with
  | register t => exact .inl ⟨t, rfl⟩
  | only names => exact .inr ⟨rfl, fun _ => rfl⟩
  | without names => exact .inr ⟨rfl, fun _ => rfl⟩

/-- One more act undoes registrations, or adds one. -/
theorem standing_concat (acts : List (RegistryAct σ)) (act : RegistryAct σ) :
    standing (acts ++ [act]) = (standing acts).filter (fun t => act.keeps t.name) ++ act.registered := by
  induction acts with
  | nil => simp [standing]
  | cons first rest ih => simp [standing, ih, List.filter_filter, Bool.and_comm]

/-- A registration undoes none. -/
theorem standing_register (acts : List (RegistryAct σ)) (t : Tool σ) :
    standing (acts ++ [register t]) = standing acts ++ [t] := by
  rw [standing_concat]
  exact congrArg (· ++ [t]) (List.filter_true _)

end RegistryAct

/-! ## The first of each name -/

section EraseDups

variable {α : Type} [BEq α] [LawfulBEq α]

theorem eraseDups_concat (l : List α) (a : α) :
    (l ++ [a]).eraseDups = if a ∈ l then l.eraseDups else l.eraseDups ++ [a] := by
  rw [List.eraseDups_append]
  split
  · rename_i old
    simp [List.removeAll, old]
  · rename_i new
    simp [List.removeAll, new, List.eraseDups_cons]

/-- The first ones of those that pass a test are the first ones that do. -/
theorem eraseDups_filter (p : α → Bool) (l : List α) : (l.filter p).eraseDups = l.eraseDups.filter p := by
  induction l using List.reverseRecOn with
  | nil => rfl
  | append_singleton l a ih =>
    rw [List.filter_append, eraseDups_concat, List.filter_singleton]
    cases passes : p a with
    | true =>
      rw [cond_true, eraseDups_concat, ih]
      simp only [List.mem_filter, passes, and_true]
      split
      · rfl
      · simp [passes]
    | false =>
      rw [cond_false, List.append_nil, ih]
      split
      · rfl
      · simp [passes]

end EraseDups

namespace ToolRegistry

/-- The registry after acts, from no tools on. -/
def after (acts : List (RegistryAct σ)) : ToolRegistry σ := acts.foldl RegistryAct.apply empty

theorem after_concat (acts : List (RegistryAct σ)) (act : RegistryAct σ) :
    after (acts ++ [act]) = act.apply (after acts) := List.foldl_concat _ _ _ _

theorem find?_filter_name (keep : String → Bool) (tools : List (Tool σ)) (name : String) :
    (tools.filter fun t => keep t.name).find? (fun t => t.name == name) =
      if keep name then tools.find? fun t => t.name == name else none := by
  have tested (t : Tool σ) : decide (keep t.name = true ∧ (t.name == name) = true) = (keep name && t.name == name) := by
    by_cases own : t.name = name
    · simp [own]
    · simp [beq_false_of_ne own]
  rw [List.find?_filter]
  simp only [tested]
  split
  · rename_i kept
    simp only [kept, Bool.true_and]
  · rename_i dropped
    simp [dropped]

/-- What a registry holds after registrations, and what is found in it. -/
structure Holds (r : ToolRegistry σ) (registrations : List (Tool σ)) : Prop where
  names : r.names = (registrations.map Tool.name).eraseDups
  distinct : r.names.Nodup
  /-- The index has the places of the names among the tools, and no other entry. -/
  index : ∀ name, r.index.lookup name = (r.tools.map Tool.name).idxOf? name
  get : ∀ name, r.get? name = registrations.reverse.find? fun t => t.name == name
  contains : ∀ name, r.contains name = (r.get? name).isSome
  listed : ∀ name, name ∈ r.names ↔ (r.get? name).isSome = true
  tools : r.tools.map some = r.names.map r.get?
  definitions : r.definitions.map some = r.names.map fun name => (r.get? name).map (·.definition)
  size : r.size = r.names.length ∧ r.isEmpty = r.names.isEmpty

section Acts

variable (acts : List (RegistryAct σ))

/-- The names are those of the standing registrations, in the order of the first one of each. -/
theorem names_after : (after acts).names = ((RegistryAct.standing acts).map Tool.name).eraseDups := by
  induction acts using List.reverseRecOn with
  | nil => rfl
  | append_singleton acts act ih =>
    rw [after_concat]
    obtain ⟨t, rfl⟩ | ⟨none, selects⟩ := act.registers_or_selects
    · rw [RegistryAct.standing_register, List.map_append]
      refine ((after acts).names_register t).trans (Eq.trans ?_ (eraseDups_concat _ _).symm)
      simp only [ih, List.mem_eraseDups]
    · rw [RegistryAct.standing_concat, none, List.append_nil, selects, names_filter, ih, ← eraseDups_filter,
        List.filter_map]
      rfl

/-- The tool of a name is that of the last standing registration of the name. -/
theorem get?_after (name : String) :
    (after acts).get? name = (RegistryAct.standing acts).reverse.find? fun t => t.name == name := by
  induction acts using List.reverseRecOn with
  | nil => rfl
  | append_singleton acts act ih =>
    rw [after_concat]
    obtain ⟨t, rfl⟩ | ⟨none, selects⟩ := act.registers_or_selects
    · rw [RegistryAct.standing_register, List.reverse_concat, List.find?_cons]
      refine ((after acts).get?_register t name).trans ?_
      rw [ih]
      by_cases own : t.name = name
      · simp [own]
      · simp [own, beq_false_of_ne own]
    · rw [RegistryAct.standing_concat, none, List.append_nil, selects, get?_filter, ih, ← List.filter_reverse,
        find?_filter_name]

/-- A selection of a registry: its tools whose names pass a test, in their order, and nothing else is found in it. -/
structure Selects (r : ToolRegistry σ) (keep : String → Bool) (kept : ToolRegistry σ) : Prop where
  tools : kept.tools = r.tools.filter fun t => keep t.name
  get : ∀ name, kept.get? name = if keep name then r.get? name else none

theorem selects_filter (r : ToolRegistry σ) (keep : String → Bool) : r.Selects keep (r.filter keep) :=
  ⟨r.tools_filter keep, r.get?_filter keep⟩

/-- After any acts, a registry holds the names of the registrations that no later selection undoes, in the order of the
first one of each; the index has their places, what is found for a name is the tool of its last registration, and
everything else that may be asked agrees with that. A selection keeps the tools of the names that it is asked for. -/
theorem holds_standing :
    (after acts).Holds (RegistryAct.standing acts) ∧
      (∀ asked, (after acts).Selects (fun name => asked.contains name) ((after acts).only asked)) ∧
      ∀ asked, (after acts).Selects (fun name => !asked.contains name) ((after acts).without asked) where
  left :=
    { names := names_after acts
      distinct := (after acts).nodup_names
      index := (after acts).lookup_index
      get := get?_after acts
      contains := (after acts).contains_eq
      listed := fun name => ((after acts).isSome_get? name).symm
      tools := (after acts).tools_eq
      definitions := (after acts).definitions_eq
      size := ⟨(List.length_map _).symm, List.isEmpty_map.symm⟩ }
  right := ⟨fun _ => (after acts).selects_filter _, fun _ => (after acts).selects_filter _⟩

end Acts

end ToolRegistry

end AgentLoop
