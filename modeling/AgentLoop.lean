import AgentLoop.Agent.Builder
import AgentLoop.Agent.Config
import AgentLoop.Agent.Diagnostic
import AgentLoop.Agent.Session
import AgentLoop.Backend.Basic
import AgentLoop.Backend.Error
import AgentLoop.Backend.Request
import AgentLoop.Backend.Sample
import AgentLoop.Backend.Script
import AgentLoop.Backend.Stream
import AgentLoop.Chat.Message
import AgentLoop.Chat.Response
import AgentLoop.Decimal.Shortest
import AgentLoop.Document
import AgentLoop.Driver.Basic
import AgentLoop.Driver.Decision
import AgentLoop.Driver.Echo
import AgentLoop.Driver.Inference
import AgentLoop.Driver.ReAct
import AgentLoop.Driver.ToolCalling
import AgentLoop.Effect.Act
import AgentLoop.Effect.Program
import AgentLoop.Effect.Slot
import AgentLoop.Error
import AgentLoop.Event
import AgentLoop.Hook.Basic
import AgentLoop.Hook.Guard
import AgentLoop.Hook.ReadyMade
import AgentLoop.Hook.Stack
import AgentLoop.Journal
import AgentLoop.Json.Basic
import AgentLoop.Json.Decoder
import AgentLoop.Json.Exact
import AgentLoop.Json.Fault
import AgentLoop.Json.Printer
import AgentLoop.Json.Reader
import AgentLoop.Metadata
import AgentLoop.Pipeline.Basic
import AgentLoop.Pipeline.Criterion
import AgentLoop.Pipeline.Phases
import AgentLoop.Pipeline.Policy
import AgentLoop.Pipeline.Run
import AgentLoop.Proofs.Effect.Ensures
import AgentLoop.Proofs.Run.Conversation
import AgentLoop.Proofs.Run.Invariant
import AgentLoop.Proofs.Run.Iteration
import AgentLoop.Proofs.Run.StepCount
import AgentLoop.Scripted.Actions
import AgentLoop.Scripted.Bench
import AgentLoop.Scripted.Edits
import AgentLoop.Scripted.Schema.Basic
import AgentLoop.Scripted.Schema.Pattern
import AgentLoop.Scripted.Schema.Reading
import AgentLoop.Scripted.Tools
import AgentLoop.State.Basic
import AgentLoop.State.Step
import AgentLoop.State.Summary
import AgentLoop.State.ToolExecution
import AgentLoop.Text.Blank
import AgentLoop.Text.Hidden
import AgentLoop.Text.Quoted
import AgentLoop.Text.Search
import AgentLoop.Time.Basic
import AgentLoop.Time.Rfc3339
import AgentLoop.Tool.Basic
import AgentLoop.Tool.Executor
import AgentLoop.Tool.Registry
import AgentLoop.Tool.Turns
import AgentLoop.Tool.Validation
import AgentLoop.Usage
import AgentLoop.Proofs.Tool.Finishing
import AgentLoop.Proofs.Tool.Interleaving
import AgentLoop.Proofs.Tool.Execution
import AgentLoop.Proofs.Effect.Reads
import AgentLoop.Proofs.Tool.Functional
import AgentLoop.Proofs.Tool.Modes
import AgentLoop.Proofs.Effect.Agreement
import AgentLoop.Proofs.Run.Errors
import AgentLoop.Proofs.Run.Retries
import AgentLoop.Proofs.Tool.Veto
import AgentLoop.Proofs.Driver.Reassembly
import AgentLoop.Proofs.Driver.Streaming
import AgentLoop.Proofs.Run.Streaming
import AgentLoop.Proofs.Effect.Traces
import AgentLoop.Proofs.Run.Traces
import AgentLoop.Proofs.Run.Marks
import AgentLoop.Proofs.Run.Limit
import AgentLoop.Proofs.Run.Calls
import AgentLoop.Proofs.Run.FinalAnswer
import AgentLoop.Proofs.Run.ToolErrors
import AgentLoop.Proofs.Run.Recording
import AgentLoop.Proofs.Driver.Requests
import AgentLoop.Proofs.Run.Requests
import AgentLoop.Proofs.Usage
import AgentLoop.Proofs.Driver.Accounting
import AgentLoop.Proofs.Run.Inputs
import AgentLoop.Proofs.Run.Spending
import AgentLoop.Proofs.Run.Attribution
import AgentLoop.Proofs.Run.EndRequests
import AgentLoop.Proofs.Run.Parts
import AgentLoop.Proofs.Run.PhaseOrder
import AgentLoop.Proofs.Run.FailureHistory
import AgentLoop.Proofs.Run.Dispatches
import AgentLoop.Proofs.Run.Brackets
import AgentLoop.Proofs.Effect.Clock
import AgentLoop.Proofs.Driver.Steps
import AgentLoop.Proofs.Run.Checks
import AgentLoop.Proofs.Run.FailureCounts
import AgentLoop.Proofs.Run.Endings
import AgentLoop.Proofs.Run.Updates
import AgentLoop.Proofs.Run.Evolution
import AgentLoop.Proofs.Run.History
import AgentLoop.Proofs.Run.RunSteps
import AgentLoop.Proofs.State.Records
import AgentLoop.Proofs.Agent.Cancellation
import AgentLoop.Proofs.Agent.Operations
import AgentLoop.Proofs.Driver.Replies
import AgentLoop.Proofs.Sorting
import AgentLoop.Proofs.Hook.Priority
import AgentLoop.Proofs.Tool.Registrations
import AgentLoop.Proofs.Driver.Collecting
import AgentLoop.Proofs.Driver.Announcements
import AgentLoop.Proofs.Run.Announcements
import AgentLoop.Proofs.State.Budget
import AgentLoop.Proofs.Hook.Guard
import AgentLoop.Proofs.Tool.Guarding
import AgentLoop.Proofs.Tool.Reviewing
import AgentLoop.Proofs.Json.Entries
import AgentLoop.Proofs.Json.Equality
import AgentLoop.Proofs.Json.Tokens
import AgentLoop.Proofs.Json.Shallow
import AgentLoop.Proofs.Json.Spelling
import AgentLoop.Proofs.Driver.Echoes
import AgentLoop.Proofs.Driver.Chatter
import AgentLoop.Proofs.Backend.Kinds
import AgentLoop.Proofs.Run.ErrorPresence
import AgentLoop.Proofs.Effect.Panics
import AgentLoop.Proofs.Run.Panics
import AgentLoop.Proofs.Run.Chronicle
import AgentLoop.Proofs.Run.StepCounter
