import AgentLoop.Json.Decoder

/-!
# Token accounting

- `Usage`: the tokens of a request and its response;
- sums of counts stop at the largest count (`cappedAdd`, `toNat_cappedAdd`), and so do sums of usages (`Usage.add`,
  `Usage.sum`).
-/

namespace AgentLoop

/-- The sum of two counts, the largest count if it is larger. -/
def cappedAdd (a b : UInt64) : UInt64 := UInt64.ofNat (min (a.toNat + b.toNat) (UInt64.size - 1))

/-- What a capped sum is as a number. -/
theorem toNat_cappedAdd (a b : UInt64) : (cappedAdd a b).toNat = min (a.toNat + b.toNat) (UInt64.size - 1) := by
  unfold cappedAdd
  rw [UInt64.toNat_ofNat']
  exact Nat.mod_eq_of_lt (by simp only [UInt64.size]; omega)

/-- One more than a count of 32 bits, the largest count if there is no larger one. -/
def cappedSucc (a : UInt32) : UInt32 := UInt32.ofNat (min (a.toNat + 1) (UInt32.size - 1))

/-- What a capped successor is as a number. -/
theorem toNat_cappedSucc (a : UInt32) : (cappedSucc a).toNat = min (a.toNat + 1) (UInt32.size - 1) := by
  unfold cappedSucc
  rw [UInt32.toNat_ofNat']
  exact Nat.mod_eq_of_lt (by simp only [UInt32.size]; omega)

/-- The tokens of one request and its response. -/
structure Usage where
  inputTokens : UInt64
  outputTokens : UInt64
  /-- Reasoning tokens, if reported. -/
  reasoningTokens : Option UInt64 := none
  /-- Tokens served from a prompt cache, if reported. -/
  cacheReadTokens : Option UInt64 := none
  /-- Tokens written to a prompt cache, if reported. -/
  cacheWriteTokens : Option UInt64 := none
  deriving DecidableEq, Repr

namespace Usage

/-- No tokens. -/
def zero : Usage := ⟨0, 0, none, none, none⟩

instance : Inhabited Usage := ⟨zero⟩

/-- Input and output tokens together. -/
def total (u : Usage) : UInt64 := cappedAdd u.inputTokens u.outputTokens

/-- The sum of two counts that may be unreported. -/
def addOptional : Option UInt64 → Option UInt64 → Option UInt64
  | some a, some b => some (cappedAdd a b)
  | some a, none => some a
  | none, b => b

/-- The sum of two usages. -/
def add (a b : Usage) : Usage where
  inputTokens := cappedAdd a.inputTokens b.inputTokens
  outputTokens := cappedAdd a.outputTokens b.outputTokens
  reasoningTokens := addOptional a.reasoningTokens b.reasoningTokens
  cacheReadTokens := addOptional a.cacheReadTokens b.cacheReadTokens
  cacheWriteTokens := addOptional a.cacheWriteTokens b.cacheWriteTokens

instance : Add Usage := ⟨add⟩

/-- The sum of usages, from the left. -/
def sum (us : List Usage) : Usage := us.foldl add zero

/-- A usage in JSON; unreported counts are left out. -/
def toJson (u : Usage) : Json :=
  let entry (key : String) : Option UInt64 → Entries
    | none => []
    | some n => [(key, .ofU64 n)]
  .obj (entry "cache_read_tokens" u.cacheReadTokens ++ entry "cache_write_tokens" u.cacheWriteTokens ++
    [("input_tokens", .ofU64 u.inputTokens), ("output_tokens", .ofU64 u.outputTokens)] ++
    entry "reasoning_tokens" u.reasoningTokens)

/-- The fields of a usage. -/
def fields : Fields Usage :=
  Usage.mk <$> .required "input_tokens" .u64 <*> .required "output_tokens" .u64 <*>
    .withDefault "reasoning_tokens" (.option .u64) none <*> .withDefault "cache_read_tokens" (.option .u64) none <*>
    .withDefault "cache_write_tokens" (.option .u64) none

/-- A usage in JSON. -/
def decoder : Decoder Usage := .record "Usage" fields

end Usage

end AgentLoop
