import Mathlib.Data.List.Induction
import AgentLoop.Proofs.Driver.Reassembly
import AgentLoop.Proofs.Sorting

/-!
# Streams in any order

- `Assembly.Gathers`: what is put together from pieces, kind by kind: the texts joined, the completed calls sorted by
  their index, the usages summed and the last reason (`Assembly.gathers`);
- `StreamEvent.SamePieces`: streams with the same pieces of each kind, however these are interleaved;
- `Inference.collect_interleaved`: of such streams the same response is put together, and of a stream with a failure
  the first one is the answer.
-/

namespace AgentLoop

/-! ## Kinds of pieces -/

namespace StreamEvent

/-- The completed call that a piece brings, with its index. -/
def completed? : StreamEvent → Option (UInt32 × ToolCall)
  | toolCallComplete index call => some (index, call)
  | _ => none

/-- The usage that a piece reports. -/
def usage? : StreamEvent → Option Usage
  | usage u => some u
  | _ => none

/-- Why the stream ends, as a piece says. -/
def reason? : StreamEvent → Option StopReason
  | done reason => some reason
  | _ => none

/-- Streams with the same texts in order, the same usages in any order, the same last reason, and for each index the
same completed calls in order. -/
structure SamePieces (pieces pieces' : List StreamEvent) : Prop where
  texts : pieces.filterMap text? = pieces'.filterMap text?
  usages : (pieces.filterMap usage?).Perm (pieces'.filterMap usage?)
  reason : (pieces.filterMap reason?).getLast? = (pieces'.filterMap reason?).getLast?
  calls : ∀ index : UInt32, ((pieces.filterMap completed?).filter fun c => c.1 = index) =
    (pieces'.filterMap completed?).filter fun c => c.1 = index

/-- The response that pieces make: the text comes first, unless it is empty, then the completed calls by their index,
those of one index as they came. -/
def response (model : String) (pieces : List StreamEvent) : ChatResponse where
  content :=
    (if String.join (pieces.filterMap text?) = "" then [] else [.text (String.join (pieces.filterMap text?))]) ++
      ((pieces.filterMap completed?).mergeSort fun c d => c.1 ≤ d.1).map fun c => .toolCall c.2
  usage := .sum (pieces.filterMap usage?)
  stopReason := (pieces.filterMap reason?).getLast?.getD .endTurn
  model := model

end StreamEvent

/-- A sum does not depend on the order of the usages. -/
theorem Usage.sum_perm {us vs : List Usage} (h : us.Perm vs) : Usage.sum us = Usage.sum vs := by
  induction h with
  | nil => rfl
  | cons u _ ih => rw [Usage.sum_cons, Usage.sum_cons, ih]
  | swap u v rest => rw [Usage.sum_cons, Usage.sum_cons, Usage.sum_cons, Usage.sum_cons, ← Usage.add_assoc,
      Usage.add_comm v u, Usage.add_assoc]
  | trans _ _ first second => exact first.trans second

namespace Assembly

open StreamEvent

/-- What is put together from pieces, kind by kind. -/
structure Gathers (pieces : List StreamEvent) (a : Assembly) : Prop where
  text : a.text = String.join (pieces.filterMap text?)
  calls : StableSort (fun c => c.1.toNat) (pieces.filterMap completed?) a.calls
  usage : a.usage = .sum (pieces.filterMap usage?)
  stopReason : a.stopReason = (pieces.filterMap reason?).getLast?.getD .endTurn

theorem placeCall_eq_orderedInsert (index : UInt32) (call : ToolCall) (calls : List (UInt32 × ToolCall)) :
    placeCall index call calls = calls.orderedInsert (fun c d => c.1.toNat < d.1.toNat) (index, call) := by
  induction calls with
  | nil => rfl
  | cons head rest ih =>
    rw [placeCall, List.orderedInsert_cons, ih]
    simp only [UInt32.lt_iff_toNat_lt]

/-- A piece of a kind comes after the others of its kind. -/
theorem filterMap_concat {β : Type} (kind : StreamEvent → Option β) (pieces : List StreamEvent) (piece : StreamEvent) :
    (pieces ++ [piece]).filterMap kind = pieces.filterMap kind ++ (kind piece).toList := by
  rw [List.filterMap_append, List.filterMap_cons, List.filterMap_nil]
  cases kind piece <;> rfl

/-- One more piece. -/
theorem Gathers.add {pieces : List StreamEvent} {a : Assembly} (h : Gathers pieces a) (piece : StreamEvent) :
    Gathers (pieces ++ [piece]) (a.add piece) where
  text := by
    have added : (a.add piece).text = a.text ++ String.join piece.text?.toList := by
      cases piece <;> simp [Assembly.add, text?]
    rw [added, h.text, filterMap_concat, String.join_append]
  calls := by
    rw [filterMap_concat]
    cases piece with
    | toolCallComplete index call =>
      have placed : (a.add (.toolCallComplete index call)).calls = placeCall index call a.calls := rfl
      rw [placed, placeCall_eq_orderedInsert]
      exact h.calls.insert (index, call)
    | _ =>
      refine Eq.mp (congrArg (fun came => StableSort _ came _) (List.append_nil _).symm) ?_
      exact h.calls
  usage := by
    have added : (a.add piece).usage = a.usage + .sum piece.usage?.toList := by
      cases piece <;> simp [Assembly.add, usage?, Usage.sum_singleton, Usage.add_zero]
    rw [added, h.usage, filterMap_concat, Usage.sum_append]
  stopReason := by
    have added : (a.add piece).stopReason = piece.reason?.getD a.stopReason := by
      cases piece <;> rfl
    rw [added, h.stopReason, filterMap_concat, List.getLast?_append]
    cases piece.reason? <;> simp

/-- What is put together from any pieces. -/
theorem gathers (pieces : List StreamEvent) : Gathers pieces (pieces.foldl Assembly.add {}) := by
  induction pieces using List.reverseRecOn with
  | nil => exact ⟨rfl, .nil, rfl, rfl⟩
  | append_singleton pieces piece ih =>
    rw [List.foldl_concat]
    exact ih.add piece

/-- The response that is put together is the one that the pieces make. -/
theorem response_gathers {pieces : List StreamEvent} {a : Assembly} (h : Gathers pieces a) (model : String) :
    a.response model = StreamEvent.response model pieces := by
  rw [Assembly.response, StreamEvent.response, h.text, h.usage, h.stopReason, h.calls.eq_mergeSort]
  rfl

end Assembly

/-- Calls that are the same for each index are so for each number. -/
theorem StreamEvent.filter_toNat {calls calls' : List (UInt32 × ToolCall)}
    (same : ∀ index : UInt32, (calls.filter fun c => c.1 = index) = calls'.filter fun c => c.1 = index) (k : Nat) :
    (calls.filter fun c => c.1.toNat = k) = calls'.filter fun c => c.1.toNat = k := by
  by_cases room : k < UInt32.size
  · have index (c : UInt32 × ToolCall) : c.1.toNat = k ↔ c.1 = UInt32.ofNat k := by
      rw [← UInt32.toNat_inj, UInt32.toNat_ofNat_of_lt' room]
    simp only [index]
    exact same _
  · have none (calls : List (UInt32 × ToolCall)) : (calls.filter fun c => c.1.toNat = k) = [] := by
      refine List.filter_eq_nil_iff.2 fun c _ here => room ?_
      rw [← of_decide_eq_true here]
      exact c.1.toNat_lt
    rw [none, none]

/-- Streams with the same pieces make the same response. -/
theorem StreamEvent.SamePieces.response {pieces pieces' : List StreamEvent} (same : SamePieces pieces pieces')
    (model : String) : response model pieces = response model pieces' := by
  have sorted := (StableSort.mergeSort (fun c : UInt32 × ToolCall => c.1.toNat) (pieces.filterMap completed?)).unique
    (.mergeSort (fun c => c.1.toNat) (pieces'.filterMap completed?)) (filter_toNat same.calls)
  have sorted : ((pieces.filterMap completed?).mergeSort fun c d => c.1 ≤ d.1) =
      (pieces'.filterMap completed?).mergeSort fun c d => c.1 ≤ d.1 := sorted
  rw [StreamEvent.response, StreamEvent.response, same.texts, sorted, Usage.sum_perm same.usages, same.reason]

namespace Inference

open StreamEvent Program

variable {σ : Type} {i : Inference σ} {params : ChatParams} {frame : Frame} {w : World σ}

/-- The first failure of a stream is what remains of it. -/
theorem value_drain_error (before : List StreamEvent) (e : BackendError)
    (later : List (Except BackendError StreamEvent)) (a : Assembly) (frame : Frame) (w : World σ) :
    ((drain (before.map .ok ++ .error e :: later) a).exec frame w).value = .error e := by
  induction before generalizing a w with
  | nil => rfl
  | cons piece rest ih =>
    rw [List.map_cons, List.cons_append, drain, bind_eq, exec_bind]
    exact ih _ _

/-- The answer is what remains of the stream, as a response. -/
theorem value_collect {pieces : List (Except BackendError StreamEvent)}
    (streamed : (i.backend.stream params frame.slot w.own).value = .ok pieces) :
    ∃ w₁ : World σ, ((i.collect params).exec frame w).value =
      ((drain pieces {}).exec frame w₁).value.map fun a => a.response i.backend.info.model := by
  refine ⟨((perform (i.backend.stream params)).exec frame w : Outcome σ StepMark _).world, ?_⟩
  rw [collect, bind_eq, exec_bind]
  simp only [exec_perform, streamed, bind_eq, exec_bind, pure_eq, exec_done]

/-- Of a stream without a failure the response is put together that its pieces make. -/
theorem value_collect_ok {pieces : List StreamEvent}
    (streamed : (i.backend.stream params frame.slot w.own).value = .ok (pieces.map .ok)) :
    ((i.collect params).exec frame w).value = .ok (response i.backend.info.model pieces) := by
  obtain ⟨w₁, collected⟩ := value_collect streamed
  rw [collected, exec_drain]
  exact congrArg Except.ok (Assembly.response_gathers (Assembly.gathers pieces) _)

/-- Of a stream without a failure the response is put together that its pieces make, and it is the same one if pieces
of the same kinds come in another order, by whichever backend of the same model they are sent. Of a stream with a
failure the first one is the answer. -/
theorem collect_interleaved {stream : List (Except BackendError StreamEvent)}
    (streamed : (i.backend.stream params frame.slot w.own).value = .ok stream) :
    (∀ pieces : List StreamEvent, stream = pieces.map .ok →
      ((i.collect params).exec frame w).value = .ok (response i.backend.info.model pieces) ∧
        ∀ (i' : Inference σ) params' frame' w' pieces', i'.backend.info.model = i.backend.info.model →
          (i'.backend.stream params' frame'.slot w'.own).value = .ok (pieces'.map .ok) → SamePieces pieces pieces' →
          ((i'.collect params').exec frame' w').value = ((i.collect params).exec frame w).value) ∧
      ∀ (before : List StreamEvent) e later, stream = before.map .ok ++ .error e :: later →
        ((i.collect params).exec frame w).value = .error e := by
  constructor
  · rintro pieces rfl
    refine ⟨value_collect_ok streamed, fun i' params' frame' w' pieces' model streamed' same => ?_⟩
    rw [value_collect_ok streamed, value_collect_ok streamed', model, same.response]
  · rintro before e later rfl
    obtain ⟨w₁, collected⟩ := value_collect streamed
    rw [collected, value_drain_error]
    rfl

/-- Two calls and a text between them, the later call first. -/
def mixed : List StreamEvent :=
  [.toolCallComplete 1 ⟨"b", "echo", .null⟩, .textDelta "Let", .toolCallComplete 0 ⟨"a", "echo", .null⟩,
    .textDelta " me see.", .done .toolUse]

/-- The same pieces, the text first. -/
def grouped : List StreamEvent :=
  [.textDelta "Let", .textDelta " me see.", .done .toolUse, .toolCallComplete 0 ⟨"a", "echo", .null⟩,
    .toolCallComplete 1 ⟨"b", "echo", .null⟩]

theorem samePieces_grouped : SamePieces mixed grouped where
  texts := rfl
  usages := .nil
  reason := rfl
  calls index := by
    by_cases first : 0 = index
    · subst first
      rfl
    · by_cases second : 1 = index
      · subst second
        rfl
      · simp [mixed, grouped, List.filterMap_cons, completed?, first, second]

/-- A backend that streams the pieces that are its own state. -/
def recited : Inference (List StreamEvent) where
  backend :=
    { info := Backend.scriptedInfo "mock" "model"
      generate := fun _ => pure (.error (.invalidRequest "streams only"))
      stream := fun _ => do return .ok ((← Act.get).map .ok) }
  mode := .streaming

theorem collect_interleaved_grouped :
    let frame : Frame := ⟨fun _ => ⟨0, 0⟩, fun _ => 0, {}⟩
    ((recited.collect .empty).exec frame { own := mixed }).value = .ok (response "model" mixed) ∧
      ((recited.collect .empty).exec frame { own := grouped }).value =
        ((recited.collect .empty).exec frame { own := mixed }).value := by
  intro frame
  have streamed (pieces : List StreamEvent) :
      (recited.backend.stream .empty frame.slot pieces).value = .ok (pieces.map .ok) := rfl
  obtain ⟨whole, -⟩ := @collect_interleaved _ recited .empty frame { own := mixed } _ (streamed mixed)
  obtain ⟨answer, again⟩ := whole mixed rfl
  exact ⟨answer, again recited .empty frame { own := grouped } grouped rfl (streamed grouped) samePieces_grouped⟩

end Inference

end AgentLoop
