import AgentLoop.Backend.Script
import AgentLoop.Driver.Inference
import AgentLoop.Proofs.Effect.Agreement
import AgentLoop.Proofs.Usage

/-!
# Responses in pieces

- `Assembly.Holds`: what is put together from the pieces of blocks: their text and their calls, in order
  (`Assembly.holds_blocks`);
- `ChatResponse.SameReply`: two responses with the same text, calls and accounting. A response agrees in that way with
  what is put together from its pieces (`ChatResponse.sameReply_reassembled`);
- `Script.Suits`: a script whose responses name the model and have calls few enough to be numbered;
- `Inference.agree_call`: with such a script, both ways of waiting for a response agree, pieces of text aside.
-/

namespace AgentLoop

/-! ## Joined texts -/

/-- The text of blocks, which is empty if there is none. -/
def textOf (blocks : List ContentBlock) : String := (joinedText blocks).getD ""

theorem textOf_eq (blocks : List ContentBlock) : textOf blocks = String.join (blocks.filterMap ContentBlock.text?) := by
  unfold textOf joinedText
  cases blocks.filterMap ContentBlock.text? with
  | nil => rfl
  | cons s rest => rfl

theorem textOf_cons_text (s : String) (blocks : List ContentBlock) :
    textOf (.text s :: blocks) = s ++ textOf blocks := by
  simp [textOf_eq, ContentBlock.text?, String.join_cons]

theorem textOf_cons_other {b : ContentBlock} (h : b.text? = none) (blocks : List ContentBlock) :
    textOf (b :: blocks) = textOf blocks := by
  simp [textOf_eq, h]

/-! ## Pieces put together -/

namespace Assembly

/-- What was added to an assembly: a text and some calls. -/
structure Extends (a b : Assembly) (text : String) (calls : List ToolCall) : Prop where
  text : b.text = a.text ++ text
  calls : b.calls.map (·.2) = a.calls.map (·.2) ++ calls
  usage : b.usage = a.usage
  stopReason : b.stopReason = a.stopReason

/-- A call with the largest index so far comes last. -/
theorem placeCall_last {index : UInt32} (call : ToolCall) {calls : List (UInt32 × ToolCall)}
    (below : ∀ c ∈ calls, c.1 < index) : placeCall index call calls = calls ++ [(index, call)] := by
  induction calls with
  | nil => rfl
  | cons head rest ih =>
    have first : ¬index < head.1 := UInt32.lt_asymm (below head List.mem_cons_self)
    rw [placeCall, if_neg first, ih fun c hc => below c (List.mem_cons_of_mem _ hc), List.cons_append]

/-- The pieces of blocks bring their text and their calls, as long as there are indices enough. -/
theorem extends_blocks (blocks : List ContentBlock) {index : UInt32} {a : Assembly}
    (room : index.toNat + (announcedCalls blocks).length < UInt32.size) (below : ∀ c ∈ a.calls, c.1 < index) :
    a.Extends ((ChatResponse.blockEvents index blocks).foldl add a) (textOf blocks) (announcedCalls blocks) := by
  induction blocks generalizing index a with
  | nil => exact ⟨by simp [ChatResponse.blockEvents, textOf_eq], by simp [ChatResponse.blockEvents, announcedCalls],
      rfl, rfl⟩
  | cons block rest ih =>
    cases block with
    | text s =>
      have extended := ih (a := a.add (.textDelta s)) room below
      refine ⟨?_, extended.calls, extended.usage, extended.stopReason⟩
      rw [textOf_cons_text, ← String.append_assoc]
      exact extended.text
    | toolResult result =>
      have extended := ih (a := a) room below
      rw [textOf_cons_other rfl]
      exact extended
    | toolCall call =>
      have room : index.toNat + ((announcedCalls rest).length + 1) < UInt32.size := room
      have next : (index + 1).toNat = index.toNat + 1 := by
        rw [UInt32.toNat_add]
        exact Nat.mod_eq_of_lt (by simp only [UInt32.size] at room; simp; omega)
      -- the call has a larger index than those so far, so it is put behind them
      have placed : (a.add (.toolCallComplete index call)).calls = a.calls ++ [(index, call)] :=
        placeCall_last call below
      have enough : (index + 1).toNat + (announcedCalls rest).length < UInt32.size := by omega
      have lower : ∀ c ∈ (a.add (.toolCallComplete index call)).calls, c.1 < index + 1 := by
        intro c hc
        rw [placed] at hc
        rw [UInt32.lt_iff_toNat_lt, next]
        rcases List.mem_append.1 hc with old | new
        · have := UInt32.lt_iff_toNat_lt.1 (below c old)
          omega
        · rw [List.mem_singleton.1 new]
          exact Nat.lt_succ_self _
      have extended := ih enough lower
      refine ⟨?_, ?_, extended.usage, extended.stopReason⟩
      · rw [textOf_cons_other rfl]
        exact extended.text
      · have calls := extended.calls
        rw [placed, List.map_append, List.append_assoc] at calls
        exact calls

end Assembly

/-! ## Responses -/

namespace ChatResponse

/-- Two responses with the same text, the same calls and the same accounting. -/
structure SameReply (r r' : ChatResponse) : Prop where
  text : r.text?.getD "" = r'.text?.getD ""
  calls : r.toolCalls = r'.toolCalls
  usage : r.usage = r'.usage
  stopReason : r.stopReason = r'.stopReason
  model : r.model = r'.model

theorem SameReply.info {r r' : ChatResponse} (h : r.SameReply r') :
    InferenceInfo.ofResponse r = InferenceInfo.ofResponse r' := by
  rw [InferenceInfo.ofResponse, InferenceInfo.ofResponse, h.usage, h.stopReason, h.model]

/-- The text and the calls of a response that is put together. -/
theorem text_response (a : Assembly) (model : String) : ((a.response model).text?).getD "" = a.text := by
  have calls (cs : List (UInt32 × ToolCall)) : textOf (cs.map fun c => .toolCall c.2) = "" := by
    induction cs with
    | nil => rfl
    | cons c rest ih => rw [List.map_cons, textOf_cons_other rfl, ih]
  show textOf (a.response model).content = a.text
  unfold Assembly.response
  dsimp only
  split
  · rename_i empty
    rw [List.nil_append, calls, empty]
  · rw [List.singleton_append, textOf_cons_text, calls, String.append_empty]

theorem toolCalls_response (a : Assembly) (model : String) : (a.response model).toolCalls = a.calls.map (·.2) := by
  have calls (cs : List (UInt32 × ToolCall)) : announcedCalls (cs.map fun c => .toolCall c.2) = cs.map (·.2) := by
    induction cs with
    | nil => rfl
    | cons c rest ih => exact congrArg (c.2 :: ·) ih
  unfold toolCalls Assembly.response
  dsimp only
  split
  · exact calls a.calls
  · exact calls a.calls

/-- What is put together from the pieces of a response is the same reply. -/
theorem sameReply_reassembled (r : ChatResponse) (room : r.toolCalls.length < UInt32.size) :
    r.SameReply ((r.events.foldl Assembly.add {}).response r.model) := by
  have extended : Assembly.Extends {} ((blockEvents 0 r.content).foldl Assembly.add {}) (textOf r.content)
      (announcedCalls r.content) :=
    Assembly.extends_blocks r.content (by rw [UInt32.toNat_zero, Nat.zero_add]; exact room) (by simp)
  have whole : r.events.foldl Assembly.add {} =
      (((blockEvents 0 r.content).foldl Assembly.add {}).add (.usage r.usage)).add (.done r.stopReason) := by
    rw [events, List.foldl_append]
    rfl
  rw [whole]
  refine ⟨?_, ?_, ?_, rfl, rfl⟩
  · rw [text_response]
    exact (extended.text.trans String.empty_append).symm
  · rw [toolCalls_response]
    exact extended.calls.symm
  · show r.usage = ((blockEvents 0 r.content).foldl Assembly.add {}).usage + r.usage
    rw [extended.usage]
    exact (Usage.zero_add r.usage).symm

end ChatResponse

/-! ## Waiting for a response -/

/-- The text that a piece brings. -/
def StreamEvent.text? : StreamEvent → Option String
  | textDelta text => some text
  | _ => none

/-- Does a mark report a piece of text? -/
def StepMark.isPartial : StepMark → Bool
  | event (.partialResponse _) => true
  | _ => false

/-- A reply that is a failure, or a response of the model whose calls can be numbered. -/
def Reply.Suits (model : String) : Reply → Prop
  | .response r => r.model = model ∧ r.toolCalls.length < UInt32.size
  | .failure _ => True

/-- Every reply that waits suits the model. -/
def Script.Suits (model : String) (s : Script) : Prop := ∀ reply ∈ s.queue, reply.Suits model

/-- The script that is a part of the own state suits the model. -/
def Lens.Suits {σ : Type} (script : Lens σ Script) (model : String) (own : σ) : Prop := (script.get own).Suits model

/-- If a script suits the model, so do the next reply and what remains. -/
theorem Script.Suits.next {model : String} {s : Script} (h : s.Suits model) (params : ChatParams) :
    (s.next params).1.Suits model ∧ (s.next params).2.Suits model := by
  obtain ⟨queue, received⟩ := s
  cases queue with
  | nil => exact ⟨trivial, fun reply hr => by cases hr⟩
  | cons first rest =>
    exact ⟨h first List.mem_cons_self, fun reply hr => h reply (List.mem_cons_of_mem _ hr)⟩

namespace Inference

open Program (exec_bind)

variable {σ : Type}

/-- The same reply, or the same failure. -/
def SameAnswer : Except BackendError ChatResponse → Except BackendError ChatResponse → Prop
  | .ok r, .ok r' => r.SameReply r'
  | .error e, .error e' => e = e'
  | _, _ => False

/-- The pieces of a stream are put together, and the texts among them are reported. -/
theorem exec_drain (pieces : List StreamEvent) (a : Assembly) (frame : Frame) (w : World σ) :
    (drain (pieces.map .ok) a).exec frame w =
      ⟨.ok (pieces.foldl Assembly.add a), w,
        (pieces.filterMap StreamEvent.text?).map fun t => .event (.partialResponse t)⟩ := by
  induction pieces generalizing a with
  | nil => rfl
  | cons piece rest ih =>
    have reported : (reportText piece).exec frame w =
        ⟨(), w, piece.text?.toList.map fun t => .event (.partialResponse t)⟩ := by cases piece <;> rfl
    rw [List.map_cons, drain, Program.bind_eq, exec_bind, reported, ih, List.foldl_cons, List.filterMap_cons]
    cases piece <;> rfl

/-- Both ways of waiting for a response of a scripted backend agree. -/
theorem agree_wait (info : BackendInfo) (script : Lens σ Script)
    (lawful : ∀ s own, script.get (script.set s own) = s) (params : ChatParams) :
    ((⟨.scripted info script, .blocking⟩ : Inference σ).wait params).Agree (script.Suits info.model)
      StepMark.isPartial SameAnswer
      ((⟨.scripted info script, .streaming⟩ : Inference σ).wait params) := by
  intro frame w suits
  -- in both modes the request takes the next reply off the script
  obtain ⟨suitable, rest⟩ := Script.Suits.next suits params
  have kept : script.Suits info.model (script.set ((script.get w.own).next params).2 w.own) := by
    rw [Lens.Suits, lawful]
    exact rest
  have blocking : ((⟨.scripted info script, .blocking⟩ : Inference σ).wait params).exec frame w =
      ⟨((script.get w.own).next params).1.complete,
        { w with own := script.set ((script.get w.own).next params).2 w.own }, []⟩ := by
    simp [wait, Backend.scripted, Act.modifyGet, bind, Act.bind, pure, Act.pure]
  have streamed : (Program.perform ((Backend.scripted info script).stream params) : Program σ StepMark _).exec frame w =
      ⟨((script.get w.own).next params).1.streamed,
        { w with own := script.set ((script.get w.own).next params).2 w.own }, []⟩ := by
    simp [Backend.scripted, Act.modifyGet, bind, Act.bind, pure, Act.pure]
  generalize ((script.get w.own).next params).1 = reply at suitable blocking streamed
  generalize ((script.get w.own).next params).2 = remaining at kept blocking streamed
  rw [blocking]
  cases reply with
  | failure e =>
    have streaming : ((⟨.scripted info script, .streaming⟩ : Inference σ).wait params).exec frame w =
        ⟨.error e, { w with own := script.set remaining w.own }, []⟩ := by
      simp only [wait, collect, Program.bind_eq, exec_bind, streamed, Reply.streamed]
      rfl
    rw [streaming]
    exact ⟨rfl, rfl, kept, rfl⟩
  | response r =>
    obtain ⟨model, room⟩ := suitable
    have streaming : ((⟨.scripted info script, .streaming⟩ : Inference σ).wait params).exec frame w =
        ⟨.ok ((r.events.foldl Assembly.add {}).response info.model), { w with own := script.set remaining w.own },
          (r.events.filterMap StreamEvent.text?).map fun t => .event (.partialResponse t)⟩ := by
      simp only [wait, collect, Program.bind_eq, exec_bind, streamed, Reply.streamed, exec_drain]
      simp [Backend.scripted, Except.map]
    rw [streaming]
    refine ⟨?_, rfl, kept, ?_⟩
    · rw [← model]
      exact r.sameReply_reassembled room
    · symm
      refine List.filter_eq_nil_iff.2 fun m hm => ?_
      obtain ⟨t, -, rfl⟩ := List.mem_map.1 hm
      simp [StepMark.isPartial]

/-- Both ways of sending a request agree. -/
theorem agree_call (info : BackendInfo) (script : Lens σ Script)
    (lawful : ∀ s own, script.get (script.set s own) = s) (params : ChatParams) :
    ((⟨.scripted info script, .blocking⟩ : Inference σ).call params).Agree (script.Suits info.model)
      StepMark.isPartial SameAnswer
      ((⟨.scripted info script, .streaming⟩ : Inference σ).call params) := by
  have noted (m : StepMark) : (Program.note m : Program σ StepMark Unit).Agree (script.Suits info.model)
      StepMark.isPartial Eq (Program.note m) :=
    (Program.Keeps.note m).agree _
  apply (noted _).bind_same
  intro _
  apply (noted _).bind_same
  intro _
  apply (agree_wait info script lawful params).bind
  intro a a' same
  cases a with
  | error e =>
    cases a' with
    | error e' => exact .done same
    | ok r' => cases same
  | ok r =>
    cases a' with
    | error e' => cases same
    | ok r' =>
      have same : r.SameReply r' := same
      dsimp only
      rw [same.model, same.usage, same.stopReason, same.calls]
      apply (noted _).bind_same
      intro _
      exact .done same

/-- So does what follows, if it agrees for the same failures and for responses that are the same reply. -/
theorem agree_call_bind {α : Type} {R : α → α → Prop} (info : BackendInfo) (script : Lens σ Script)
    (lawful : ∀ s own, script.get (script.set s own) = s) (params : ChatParams)
    {f g : Except BackendError ChatResponse → Program σ StepMark α}
    (error : ∀ e, (f (.error e)).Agree (script.Suits info.model) StepMark.isPartial R
      (g (.error e)))
    (reply : ∀ r r' : ChatResponse, r.SameReply r' →
      (f (.ok r)).Agree (script.Suits info.model) StepMark.isPartial R (g (.ok r'))) :
    (((⟨.scripted info script, .blocking⟩ : Inference σ).call params).bind f).Agree (script.Suits info.model)
      StepMark.isPartial R
      (((⟨.scripted info script, .streaming⟩ : Inference σ).call params).bind g) := by
  apply (agree_call info script lawful params).bind
  intro a a' same
  cases a with
  | error e =>
    cases a' with
    | error e' =>
      obtain rfl : e = e' := same
      exact error e
    | ok r' => cases same
  | ok r =>
    cases a' with
    | error e' => cases same
    | ok r' => exact reply r r' same

end Inference

end AgentLoop
