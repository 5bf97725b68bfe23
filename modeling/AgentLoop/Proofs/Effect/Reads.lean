import Mathlib.Data.List.Forall2
import AgentLoop.Effect.Program

/-!
# What a program makes of the clock

- `Program.Reaches`: with suitable readings of the clock, a program comes to a value that is as asked for, whatever else
  it meets. Which readings are suitable may depend on that; so it composes (`Reaches.bind`, `reaches_mapM`);
- `Reaches.exists_clock`: there is a clock with which the program comes to such a value.
-/

namespace AgentLoop

namespace Program

variable {σ μ α β : Type}

/-- Wherever a program is executed, there are readings of the clock with which it comes to a value as asked for. Other
readings than these do not matter. -/
def Reaches (x : Program σ μ α) (post : α → Prop) : Prop :=
  ∀ (frame : Frame) (w : World σ), ∃ (readings : List Instant) (a : α) (after : World σ), post a ∧
    after.ticks = w.ticks + readings.length ∧
    ∀ clock : Nat → Instant, (∀ i t, readings[i]? = some t → clock (w.ticks + i) = t) →
      (x.exec { frame with clock } w).value = a ∧ (x.exec { frame with clock } w).world = after

namespace Reaches

variable {x : Program σ μ α} {f : α → Program σ μ β} {post post' : α → Prop} {next : β → Prop} {a : α}

theorem done (h : post a) : (done a : Program σ μ α).Reaches post :=
  fun _ w => ⟨[], a, w, h, rfl, fun _ _ => ⟨rfl, rfl⟩⟩

theorem note (m : μ) : (note m : Program σ μ Unit).Reaches (· = ()) :=
  fun _ w => ⟨[], (), w, rfl, rfl, fun _ _ => ⟨rfl, rfl⟩⟩

theorem readClock (t : Instant) : (readClock : Program σ μ Instant).Reaches (· = t) := by
  refine fun _ w => ⟨[t], t, { w with ticks := w.ticks + 1 }, rfl, rfl, fun clock reads => ⟨?_, rfl⟩⟩
  exact reads 0 t rfl

theorem perform {act : Act σ α} (h : ∀ slot own, post (act slot own).value) :
    (perform act : Program σ μ α).Reaches post :=
  fun frame w =>
    ⟨[], _, ((Program.perform act : Program σ μ α).exec frame w).world, h frame.slot w.own, rfl, fun _ _ => ⟨rfl, rfl⟩⟩

theorem mono (h : x.Reaches post) (imp : ∀ a, post a → post' a) : x.Reaches post' := by
  intro frame w
  obtain ⟨readings, a, after, holds, rest⟩ := h frame w
  exact ⟨readings, a, after, imp a holds, rest⟩

/-- The one program reads the clock first, and then the other one does. -/
theorem bind (hx : x.Reaches post) (hf : ∀ a, post a → (f a).Reaches next) : (x.bind f).Reaches next := by
  intro frame w
  obtain ⟨readings, a, between, holds, ticks, comes⟩ := hx frame w
  obtain ⟨readings', b, after, holds', ticks', comes'⟩ := hf a holds frame between
  have ticks'' : after.ticks = w.ticks + (readings ++ readings').length := by
    rw [ticks', ticks, List.length_append, Nat.add_assoc]
  refine ⟨readings ++ readings', b, after, holds', ticks'', fun clock reads => ?_⟩
  have first : ∀ i t, readings[i]? = some t → clock (w.ticks + i) = t := by
    intro i t ht
    have bound : i < readings.length := (List.getElem?_eq_some_iff.1 ht).1
    exact reads i t (by rw [List.getElem?_append_left bound, ht])
  have second : ∀ i t, readings'[i]? = some t → clock (between.ticks + i) = t := by
    intro i t ht
    rw [ticks, Nat.add_assoc]
    refine reads (readings.length + i) t ?_
    rw [List.getElem?_append_right (Nat.le_add_right _ _), Nat.add_sub_cancel_left, ht]
  obtain ⟨value, world⟩ := comes clock first
  rw [exec_bind, value, world]
  exact comes' clock second

/-- A program that comes to a single value, and what follows that. -/
theorem bind_eq (hx : x.Reaches (· = a)) (hf : (f a).Reaches next) : (x.bind f).Reaches next :=
  hx.bind fun _ same => same ▸ hf

/-- With readings at hand, there is a clock that gives them. -/
theorem exists_clock (h : x.Reaches post) (frame : Frame) (w : World σ) :
    ∃ clock, post (x.exec { frame with clock } w).value := by
  obtain ⟨readings, a, after, holds, -, comes⟩ := h frame w
  obtain ⟨value, -⟩ := comes (fun n => readings.getD (n - w.ticks) default) fun i t ht => by simp [ht]
  exact ⟨_, value ▸ holds⟩

end Reaches

/-- A program for each element of a list. -/
theorem reaches_mapM {f : α → Program σ μ β} {as : List α} {bs : List β}
    (h : List.Forall₂ (fun a b => (f a).Reaches (· = b)) as bs) : (as.mapM f).Reaches (· = bs) := by
  induction h with
  | nil => exact .done rfl
  | @cons a b as bs ha _ ih =>
    rw [List.mapM_cons]
    exact ha.bind_eq (ih.bind_eq (.done rfl))

end Program

end AgentLoop
