import AgentLoop.Hook.Stack
import AgentLoop.Proofs.Sorting

/-!
# The order of hooks

- `HookStack.ofList`: the stack of hooks that were added one after another;
- `HookStack.stableSort_ofList`: it has them by falling priority, those of one priority as they were added;
- `HookStack.firing`, `HookStack.dispatch_eq_thread`: a dispatch takes a context through the hooks for the trigger;
- `HookStack.dispatch_by_priority`: hence what it does to a context is given by the hooks for the trigger, in that
  order, whichever other hooks there are.
-/

namespace AgentLoop

namespace HookStack

variable {σ : Type}

/-! ## Hooks one after another -/

/-- The stack of hooks that were added in order. -/
def ofList (added : List (RankedHook σ)) : HookStack σ :=
  added.foldl (fun s e => s.insert e.hook e.priority) empty

/-- Where a hook stands among the others: a hook of a higher priority stands in front. -/
def rank (e : RankedHook σ) : Int := -e.priority

theorem place_eq_orderedInsert (e : RankedHook σ) (entries : List (RankedHook σ)) :
    place e entries = entries.orderedInsert (fun a b => rank a < rank b) e := by
  have lower (head : RankedHook σ) : rank e < rank head ↔ head.priority < e.priority := by
    unfold rank
    omega
  induction entries with
  | nil => rfl
  | cons head rest ih =>
    rw [place, List.orderedInsert_cons, ih]
    simp only [lower]

/-- Hooks that are added to a sorted stack are sorted in. -/
theorem stableSort_foldl (added before : List (RankedHook σ)) {s : HookStack σ}
    (sorted : StableSort rank before s.entries) :
    StableSort rank (before ++ added) (added.foldl (fun s e => s.insert e.hook e.priority) s).entries := by
  induction added generalizing before s with
  | nil =>
    rw [List.append_nil]
    exact sorted
  | cons e rest ih =>
    have placed : StableSort rank (before ++ [e]) (s.insert e.hook e.priority).entries := by
      rw [insert, place_eq_orderedInsert]
      exact sorted.insert e
    have later := ih _ placed
    rw [List.append_assoc] at later
    exact later

theorem stableSort_ofList (added : List (RankedHook σ)) : StableSort rank added (ofList added).entries :=
  stableSort_foldl added [] .nil

/-- Hooks that are left out leave the others in their order. -/
theorem entries_ofList_filter (added : List (RankedHook σ)) (keep : RankedHook σ → Bool) :
    (ofList (added.filter keep)).entries = (ofList added).entries.filter keep :=
  (stableSort_ofList _).unique ((stableSort_ofList added).filter keep) fun _ => rfl

/-! ## Dispatches -/

/-- The hooks that fire on a trigger, in their order. -/
def firing (s : HookStack σ) (t : HookTrigger) : List (RankedHook σ) :=
  s.entries.filter fun e => e.hook.triggers.contains t

/-- Threads a context through hooks: each of them gets what the one in front of it has returned, and sees the
trigger. -/
def thread (t : HookTrigger) (hooks : List (RankedHook σ)) (ctx : HookContext) : Act σ HookContext :=
  hooks.foldlM (fun ctx e => e.hook.handle { ctx with trigger := t }) ctx

/-- A dispatch calls the hooks for the trigger, each of them once. -/
theorem dispatch_eq_thread (s : HookStack σ) (t : HookTrigger) (ctx : HookContext) :
    s.dispatch t ctx = thread t (s.firing t) ctx := by
  obtain ⟨entries⟩ := s
  induction entries generalizing ctx with
  | nil => rfl
  | cons e rest ih =>
    have first : (⟨e :: rest⟩ : HookStack σ).dispatch t ctx =
        fire t ctx e >>= (⟨rest⟩ : HookStack σ).dispatch t := by
      unfold dispatch
      rw [List.foldlM_cons]
    have fires : (⟨e :: rest⟩ : HookStack σ).firing t =
        if e.hook.triggers.contains t then e :: (⟨rest⟩ : HookStack σ).firing t else (⟨rest⟩ : HookStack σ).firing t :=
      List.filter_cons
    rw [first, funext ih, fires, fire]
    split
    · rw [thread, List.foldlM_cons]
      rfl
    · rfl

/-- The hooks for a trigger are the same if others are left out. -/
theorem firing_ofList_filter (added : List (RankedHook σ)) (t : HookTrigger) (keep : RankedHook σ → Bool) :
    (ofList (added.filter fun e => e.hook.triggers.contains t || keep e)).firing t = (ofList added).firing t := by
  rw [firing, entries_ofList_filter, List.filter_filter, firing]
  refine List.filter_congr fun e _ => ?_
  cases e.hook.triggers.contains t with
  | true => rfl
  | false => rfl

/-- Hooks stand by falling priority, those of one priority as they were added. A dispatch threads the context through
the hooks for its trigger, in that order; any other ones may be left out. -/
theorem dispatch_by_priority (added : List (RankedHook σ)) :
    StableSort (fun e => -e.priority) added (ofList added).entries ∧
      (∀ t ctx, (ofList added).dispatch t ctx = thread t ((ofList added).firing t) ctx) ∧
      ∀ t (keep : RankedHook σ → Bool) ctx,
        (ofList (added.filter fun e => e.hook.triggers.contains t || keep e)).dispatch t ctx =
          (ofList added).dispatch t ctx := by
  refine ⟨stableSort_ofList added, (ofList added).dispatch_eq_thread, fun t keep ctx => ?_⟩
  rw [dispatch_eq_thread, firing_ofList_filter, dispatch_eq_thread]

end HookStack

end AgentLoop
