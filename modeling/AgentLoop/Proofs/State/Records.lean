import AgentLoop.Proofs.Json.Restoring
import AgentLoop.State.Basic

/-!
# States and steps survive their records

- `restores`: for each type, that reading gives back a value from the form in which it was written;
- `Instant.Survives`: a moment comes back from its text; `ExecutionState.times` are the moments that a state holds;
- `ExecutionState.records_restored`: a state comes back from its record, and so does a step, if the moments do.
-/

namespace AgentLoop

open Decoder Fields

/-! ## Names -/

theorem ChatRole.restores (r : ChatRole) : decoder.Restores toJson r := by cases r <;> rfl

theorem ErrorKind.restores (k : ErrorKind) : decoder.Restores toJson k := by cases k <;> rfl

theorem StepType.restores (t : StepType) : decoder.Restores toJson t := by cases t <;> rfl

theorem ExecutionStatus.restores (s : ExecutionStatus) : decoder.Restores toJson s := by cases s <;> rfl

theorem StopReason.restores (r : StopReason) : decoder.Restores toJson r := by cases r <;> rfl

/-! ## Messages -/

theorem ToolCall.restores (c : ToolCall) : decoder.Restores toJson c :=
  restores_record rfl
    ((Reads.required (by simp) (restores_string c.id)).map ToolCall.mk
      |>.seq (.required (by simp) (restores_string c.name)) (by simp)
      |>.seq (.required (by simp) (restores_json c.arguments)) (by simp))

theorem ToolResult.restores (r : ToolResult) : decoder.Restores toJson r :=
  restores_record rfl
    ((Reads.required (by simp) (restores_string r.toolCallId)).map ToolResult.mk
      |>.seq (.required (by simp) (restores_string r.content)) (by simp)
      |>.seq (.required (by simp) (restores_bool r.isError)) (by simp))

theorem ContentBlock.restores (b : ContentBlock) : decoder.Restores toJson b := by
  cases b with
  | text s => rfl
  | toolCall c => exact congrArg (Except.map ContentBlock.toolCall) c.restores
  | toolResult r => exact congrArg (Except.map ContentBlock.toolResult) r.restores

/-- Annotations that are left out are read as none. -/
theorem ChatMessage.restores (m : ChatMessage) : decoder.Restores toJson m := by
  obtain ⟨role, content, metadata⟩ := m
  have blocks : (list ContentBlock.decoder).Restores (Json.ofList ContentBlock.toJson) content :=
    restores_list fun b _ => b.restores
  by_cases bare : metadata.isEmpty = true
  · obtain rfl : metadata = .empty := Metadata.ext (List.isEmpty_iff.1 bare)
    exact restores_record rfl
      ((Reads.required (by simp [bare]) role.restores).map ChatMessage.mk
        |>.seq (.required (by simp [bare]) blocks) (by simp)
        |>.seq (.absent (by simp [bare])) (by simp))
  · exact restores_record rfl
      ((Reads.required (by simp [bare]) role.restores).map ChatMessage.mk
        |>.seq (.required (by simp [bare]) blocks) (by simp)
        |>.seq (.withDefault (by simp [bare]) (restores_metadata metadata)) (by simp))

theorem restores_messages (ms : List ChatMessage) :
    (list ChatMessage.decoder).Restores (Json.ofList ChatMessage.toJson) ms :=
  restores_list fun m _ => m.restores

/-! ## Accounting and failures -/

/-- The entry of a count, left out if the count is unreported. -/
def Usage.countEntry (name : String) (count : Option UInt64) : Entries :=
  (count.map fun n => (name, Json.ofU64 n)).toList

@[simp] theorem Usage.under_countEntry (key name : String) (count : Option UInt64) :
    (countEntry key count).under name = if key = name then (count.map Json.ofU64).toList else [] := by
  cases count <;> simp [countEntry]

/-- A count that is left out is read as unreported. -/
theorem Usage.reads_count {entries : Entries} {name : String} {count : Option UInt64}
    (written : entries.under name = (count.map Json.ofU64).toList) :
    (Fields.withDefault name (.option .u64) none).Reads entries count := by
  have restored : (option u64).Restores (Json.ofOption Json.ofU64) count :=
    restores_option (fun _ h => by cases h) fun n _ => restores_u64 n
  cases count with
  | none => exact .absent written
  | some n => exact .withDefault written restored

theorem Usage.restores (u : Usage) : decoder.Restores toJson u := by
  obtain ⟨input, output, reasoning, read, written⟩ := u
  have entries : toJson ⟨input, output, reasoning, read, written⟩ =
      .obj (countEntry "cache_read_tokens" read ++ countEntry "cache_write_tokens" written ++
        [("input_tokens", .ofU64 input), ("output_tokens", .ofU64 output)] ++
        countEntry "reasoning_tokens" reasoning) := by
    cases reasoning <;> cases read <;> cases written <;> rfl
  exact restores_record entries
    ((Reads.required (by simp) (restores_u64 input)).map Usage.mk
      |>.seq (.required (by simp) (restores_u64 output)) (by simp)
      |>.seq (reads_count (by simp)) (by simp)
      |>.seq (reads_count (by simp)) (by simp)
      |>.seq (reads_count (by simp)) (by simp))

theorem InferenceInfo.restores (i : InferenceInfo) : decoder.Restores toJson i :=
  restores_record rfl
    ((Reads.required (by simp) i.usage.restores).map InferenceInfo.mk
      |>.seq (.required (by simp) i.stopReason.restores) (by simp)
      |>.seq (.required (by simp) (restores_string i.model)) (by simp))

theorem StepFailure.restores (f : StepFailure) : decoder.Restores toJson f :=
  restores_record rfl
    ((Reads.required (by simp) f.kind.restores).map StepFailure.mk
      |>.seq (.required (by simp) (restores_string f.message)) (by simp))

/-! ## Moments -/

/-- A moment comes back from its text. -/
def Instant.Survives (a : Instant) : Prop := parse a.render = .ok a

theorem Instant.Survives.restores {a : Instant} (survives : a.Survives) :
    Instant.decoder.Restores Instant.toJson a := by
  have read : parse a.render = .ok a := survives
  rw [Restores, toJson, decoder, spelled, scalar]
  simp only [read]

/-- The moments of a tool execution. -/
def ToolExecution.times (e : ToolExecution) : List Instant := [e.startedAt, e.completedAt]

/-- The moments of a step and of its tool executions. -/
def Step.times (s : Step) : List Instant := [s.startedAt, s.completedAt] ++ s.toolExecutions.flatMap ToolExecution.times

/-- The moments of a state: those of its steps and the beginning of the run. -/
def ExecutionState.times (s : ExecutionState) : List Instant :=
  s.stats.startedAt.toList ++ s.currentStep.toList.flatMap Step.times ++ s.steps.flatMap Step.times

/-! ## Steps -/

/-- An outcome is told by its name, so a value or a text of any kind comes back. -/
theorem ToolOutcome.restores (o : ToolOutcome) : decoder.Restores toJson o := by
  cases o with
  | success v =>
    exact restores_tagged "success" rfl (by simp) rfl
      ((Reads.required (by simp [beside]) (restores_json v)).map success)
  | failure e =>
    exact restores_tagged "failure" rfl (by simp) rfl
      ((Reads.required (by simp [beside]) (restores_string e)).map failure)

theorem ToolExecution.restores (e : ToolExecution) (times : ∀ t ∈ e.times, t.Survives) :
    decoder.Restores toJson e :=
  restores_record rfl
    ((Reads.required (by simp) e.toolCall.restores).map ToolExecution.mk
      |>.seq (.required (by simp) e.result.restores) (by simp)
      |>.seq (.required (by simp) (times e.startedAt (by simp [ToolExecution.times])).restores) (by simp)
      |>.seq (.required (by simp) (times e.completedAt (by simp [ToolExecution.times])).restores) (by simp))

theorem Step.restores (s : Step) (times : ∀ t ∈ s.times, t.Survives) : decoder.Restores toRecord s := by
  have executions : (list ToolExecution.decoder).Restores (Json.ofList ToolExecution.toJson) s.toolExecutions :=
    restores_list fun e mem => e.restores fun t inside =>
      times t (List.mem_append_right _ (List.mem_flatMap.2 ⟨e, mem, inside⟩))
  have inference : (option InferenceInfo.decoder).Restores (Json.ofOption InferenceInfo.toJson) s.inference :=
    restores_option (fun _ h => by cases h) fun i _ => i.restores
  have thought : (option string).Restores (Json.ofOption .str) s.thought :=
    restores_option (fun _ h => by cases h) fun t _ => restores_string t
  have failure : (option StepFailure.decoder).Restores (Json.ofOption StepFailure.toJson) s.failure :=
    restores_option (fun _ h => by cases h) fun f _ => f.restores
  exact restores_record rfl
    ((Reads.required (by simp) s.stepType.restores).map Step.mk
      |>.seq (.required (by simp) (restores_messages s.inputMessages)) (by simp)
      |>.seq (.required (by simp) (restores_messages s.outputMessages)) (by simp)
      |>.seq (.required (by simp) executions) (by simp)
      |>.seq (.optional (by simp) inference) (by simp)
      |>.seq (.optional (by simp) thought) (by simp)
      |>.seq (.optional (by simp) failure) (by simp)
      |>.seq (.required (by simp) (times s.startedAt (by simp [Step.times])).restores) (by simp)
      |>.seq (.required (by simp) (times s.completedAt (by simp [Step.times])).restores) (by simp))

/-! ## States -/

/-- The kind of an error is read where its name may also come with an empty object. -/
theorem ErrorKind.restores_allowingEmpty (k : ErrorKind) : decoder.allowingEmpty.Restores toJson k := k.restores

theorem TerminationReason.restores (r : TerminationReason) : decoder.Restores toJson r := by
  cases r with
  | finalResponse | hookRequested | cancelled => rfl
  | criterion name detail =>
    exact restores_tagged "criterion" rfl (by simp) rfl
      ((Reads.required (by simp [beside]) (restores_string name)).map criterion
        |>.seq (.required (by simp [beside]) (restores_string detail)) (by simp))
  | error kind message =>
    exact restores_tagged "error" rfl (by simp) rfl
      ((Reads.required (by simp [beside]) kind.restores_allowingEmpty).map error
        |>.seq (.required (by simp [beside]) (restores_string message)) (by simp))

theorem ExecutionBuffer.restores (b : ExecutionBuffer) : decoder.Restores toJson b :=
  restores_record rfl ((Reads.required (by simp) (restores_messages b.messages)).map ExecutionBuffer.mk)

theorem RunStats.restores (s : RunStats) (times : ∀ t ∈ s.startedAt, t.Survives) : decoder.Restores toJson s := by
  have started : (option Instant.decoder).Restores (Json.ofOption Instant.toJson) s.startedAt :=
    restores_option (fun _ h => by cases h) fun t mem => (times t mem).restores
  have last : (option ErrorKind.decoder).Restores (Json.ofOption ErrorKind.toJson) s.lastFailure :=
    restores_option (fun _ h => by cases h) fun k _ => k.restores
  exact restores_record rfl
    ((Reads.optional (by simp) started).map RunStats.mk
      |>.seq (.required (by simp) (restores_u32 s.stepCounter)) (by simp)
      |>.seq (.required (by simp) (restores_u32 s.consecutiveFailures)) (by simp)
      |>.seq (.required (by simp) (restores_u32 s.totalFailures)) (by simp)
      |>.seq (.withDefault (by simp) last) (by simp))

theorem ExecutionState.restores (s : ExecutionState) (times : ∀ t ∈ s.times, t.Survives) :
    decoder.Restores toRecord s := by
  have steps : (list Step.decoder).Restores (Json.ofList Step.toRecord) s.steps :=
    restores_list fun step mem => step.restores fun t inside =>
      times t (List.mem_append_right _ (List.mem_flatMap.2 ⟨step, mem, inside⟩))
  have current : (option Step.decoder).Restores (Json.ofOption Step.toRecord) s.currentStep :=
    restores_option (fun _ h => by cases h) fun step mem => step.restores fun t inside =>
      times t (List.mem_append_left _
        (List.mem_append_right _ (List.mem_flatMap.2 ⟨step, Option.mem_toList.2 mem, inside⟩)))
  have stats : RunStats.decoder.Restores RunStats.toJson s.stats :=
    s.stats.restores fun t mem =>
      times t (List.mem_append_left _ (List.mem_append_left _ (Option.mem_toList.2 mem)))
  have termination :
      (option TerminationReason.decoder).Restores (Json.ofOption TerminationReason.toJson) s.termination :=
    restores_option (fun r h => by cases r <;> cases h) fun r _ => r.restores
  exact restores_record rfl
    ((Reads.required (by simp) (restores_messages s.messages)).map ExecutionState.mk
      |>.seq (.required (by simp) steps) (by simp)
      |>.seq (.optional (by simp) current) (by simp)
      |>.seq (.withDefault (by simp) (restores_metadata s.metadata)) (by simp)
      |>.seq (.withDefault (by simp) s.buffer.restores) (by simp)
      |>.seq (.required (by simp) s.status.restores) (by simp)
      |>.seq (.withDefault (by simp) stats) (by simp)
      |>.seq (.optional (by simp) termination) (by simp))

/-- A state comes back from its record with every field, whatever it holds, if the moments come back from their texts;
and so does a step. -/
theorem ExecutionState.records_restored :
    (∀ s : ExecutionState, (∀ t ∈ s.times, t.Survives) → ofRecord s.toRecord = .ok s) ∧
      ∀ step : Step, (∀ t ∈ step.times, t.Survives) → Step.ofRecord step.toRecord = .ok step :=
  ⟨ExecutionState.restores, Step.restores⟩

/-- A step that called a tool which returned nothing and one that failed. -/
def Step.called : Step where
  stepType := .toolExecution
  inputMessages := [.user "question"]
  outputMessages :=
    [.toolAnnouncement (some "both") ⟨"1", "look", .null⟩, .toolResult "1" "null", .toolResultFull ⟨"2", "lost", true⟩]
  toolExecutions :=
    [.success ⟨"1", "look", .null⟩ .null ⟨0, 0⟩ ⟨1, 500000000⟩,
      .failure ⟨"2", "find", .obj [("status", .str "success")]⟩ "lost" ⟨1, 500000000⟩ ⟨1700000000, 123456789⟩]
  inference := some ⟨⟨7, 5, some 3, none, some 0⟩, .other "tool_use", "m"⟩
  thought := some ""
  failure := none
  startedAt := ⟨0, 0⟩
  completedAt := ⟨1700000000, 123456789⟩

/-- A run that failed after that step, with annotations of which one holds nothing. -/
def ExecutionState.stopped : ExecutionState where
  messages := [.system "rules", (ChatMessage.user "question").withMetadata "kind" .null]
  steps := [.called]
  currentStep := some .called
  metadata := .ofEntries [("reason", .arr [.bool true, .null]), ("empty", .obj [])]
  buffer := ⟨[.toolResult "1" "null"]⟩
  status := .failed
  stats := ⟨some ⟨-1, 1000000⟩, 2, 1, 1, some .rateLimit⟩
  termination := some (.error .rateLimit "inference failed")

/-- That state and its step come back. -/
theorem ExecutionState.records_restored_stopped :
    (∀ t ∈ stopped.times, t.Survives) ∧ ofRecord stopped.toRecord = .ok stopped ∧
      Step.ofRecord Step.called.toRecord = .ok .called := by
  have inStep : ∀ t ∈ Step.called.times, t.Survives := by
    simp only [Step.times, Step.called, ToolExecution.times, ToolExecution.success, ToolExecution.failure,
      List.flatMap_cons, List.flatMap_nil, List.cons_append, List.nil_append, List.forall_mem_cons]
    exact ⟨rfl, rfl, rfl, rfl, rfl, rfl, by simp⟩
  have started : Instant.Survives ⟨-1, 1000000⟩ := rfl
  have inState : ∀ t ∈ stopped.times, t.Survives := by
    intro t mem
    simp only [times, stopped, Option.toList_some, List.flatMap_cons, List.flatMap_nil, List.append_nil,
      List.mem_append, List.mem_singleton] at mem
    rcases mem with (rfl | mem) | mem
    · exact started
    · exact inStep t mem
    · exact inStep t mem
  exact ⟨inState, records_restored.1 stopped inState, records_restored.2 .called inStep⟩

end AgentLoop
