import Autoformat.Association
import Autoformat.Bot.Basic
import Autoformat.Bot.Evaluate
import Autoformat.Bot.Execute
import Autoformat.Bot.Git
import Autoformat.CommandLine.Arguments
import Autoformat.CommandLine.Basic
import Autoformat.CommandLine.Console
import Autoformat.CommandLine.Failure
import Autoformat.CommandLine.Parameter
import Autoformat.Comment
import Autoformat.Config.Basic
import Autoformat.Config.Environment
import Autoformat.Config.Validate
import Autoformat.Decimal.Binary64
import Autoformat.Decimal.Digits
import Autoformat.Decimal.Shortest
import Autoformat.Domain.Basic
import Autoformat.Domain.Patterns
import Autoformat.Error
import Autoformat.Json.Decoder
import Autoformat.Json.Document
import Autoformat.Json.Error
import Autoformat.Json.Numeral
import Autoformat.Json.Reader
import Autoformat.Json.Record
import Autoformat.Json.Value
import Autoformat.Json.Word
import Autoformat.Log
import Autoformat.Log.Filter
import Autoformat.Main
import Autoformat.Outcome
import Autoformat.Phase
import Autoformat.Platform.Basic
import Autoformat.Platform.Http
import Autoformat.Platform.Memory
import Autoformat.Platform.Rest
import Autoformat.Program
import Autoformat.PullRequest
import Autoformat.Rehearsal.Answer
import Autoformat.Rehearsal.Console
import Autoformat.Rehearsal.Shell.Arithmetic
import Autoformat.Rehearsal.Shell.Builtins
import Autoformat.Rehearsal.Shell.Conditions
import Autoformat.Rehearsal.Shell.Control
import Autoformat.Rehearsal.Shell.Evaluate
import Autoformat.Rehearsal.Shell.Expand
import Autoformat.Rehearsal.Shell.Format
import Autoformat.Rehearsal.Shell.Grammar
import Autoformat.Rehearsal.Shell.Jobs
import Autoformat.Rehearsal.Shell.Machine
import Autoformat.Rehearsal.Shell.Options
import Autoformat.Rehearsal.Shell.Pattern
import Autoformat.Rehearsal.Shell.Programs
import Autoformat.Rehearsal.Shell.Redirect
import Autoformat.Rehearsal.Shell.Regex
import Autoformat.Rehearsal.Shell.Reply
import Autoformat.Rehearsal.Shell.Source
import Autoformat.Rehearsal.Shell.Start
import Autoformat.Rehearsal.Shell.Syntax
import Autoformat.Rehearsal.Shell.Utilities
import Autoformat.Rehearsal.Shell.Utilities.Columns
import Autoformat.Rehearsal.Shell.Utilities.Compare
import Autoformat.Rehearsal.Shell.Utilities.Files
import Autoformat.Rehearsal.Shell.Utilities.Find
import Autoformat.Rehearsal.Shell.Utilities.Grep
import Autoformat.Rehearsal.Shell.Utilities.Listing
import Autoformat.Rehearsal.Shell.Utilities.Numbers
import Autoformat.Rehearsal.Shell.Utilities.Printing
import Autoformat.Rehearsal.Shell.Utilities.Running
import Autoformat.Rehearsal.Shell.Utilities.Sed.Edit
import Autoformat.Rehearsal.Shell.Utilities.Sed.Script
import Autoformat.Rehearsal.Shell.Utilities.Sorting
import Autoformat.Rehearsal.Shell.Utilities.Texts
import Autoformat.Rehearsal.Shell.Variables
import Autoformat.Rehearsal.Shell.Words
import Autoformat.Rehearsal.Tree
import Autoformat.Rehearsal.Url.Address
import Autoformat.Rehearsal.Url.Composite
import Autoformat.Rehearsal.Url.Composition
import Autoformat.Rehearsal.Url.Direction
import Autoformat.Rehearsal.Url.Folds
import Autoformat.Rehearsal.Url.Host
import Autoformat.Rehearsal.Url.Joining
import Autoformat.Rehearsal.Url.Label
import Autoformat.Rehearsal.Url.Mark
import Autoformat.Rehearsal.Url.Punycode
import Autoformat.Rehearsal.Url.Table
import Autoformat.Rehearsal.World
import Autoformat.Run.Basic
import Autoformat.Run.Result
import Autoformat.Run.Steps
import Autoformat.Run.Summary
import Autoformat.Stage.Basic
import Autoformat.Stage.Plan
import Autoformat.Status
import Autoformat.StepOutput
import Autoformat.Text.Blank
import Autoformat.Text.Printable
import Autoformat.Text.Quoted
import Autoformat.Text.Search
import Autoformat.Text.Utf8
import Autoformat.Trigger
import Autoformat.Proofs.Encoding
import Autoformat.Proofs.Exchanges
import Autoformat.Proofs.Program
import Autoformat.Proofs.Actions
import Autoformat.Proofs.Git
import Autoformat.Proofs.Outcome
import Autoformat.Proofs.Slots
import Autoformat.Proofs.Steps
import Autoformat.Proofs.Stages
import Autoformat.Proofs.Course
import Autoformat.Proofs.History
import Autoformat.Proofs.CallProtocol
import Autoformat.Proofs.Completion
import Autoformat.Proofs.PushSafety
import Autoformat.Proofs.FailFast
import Autoformat.Proofs.EarlyStop
import Autoformat.Proofs.Recorded
import Autoformat.Proofs.Agreement
import Autoformat.Proofs.Collisions
import Autoformat.Proofs.Interruption
import Autoformat.Proofs.Cancellation
import Autoformat.Proofs.Fields
import Autoformat.Proofs.Trust
import Autoformat.Proofs.Rewording
import Autoformat.Proofs.Strangers
import Autoformat.Proofs.Spelling
import Autoformat.Proofs.Printing
import Autoformat.Proofs.Objects
import Autoformat.Proofs.Pagination
import Autoformat.Proofs.OutcomeText
import Autoformat.Proofs.SplitFlow
import Autoformat.Proofs.Events
import Autoformat.Proofs.Lifecycle
import Autoformat.Proofs.WriteOnce
import Autoformat.Proofs.RoundTrip
import Autoformat.Proofs.Served
import Autoformat.Proofs.Interchange
import Autoformat.Proofs.Search
import Autoformat.Proofs.Decision
import Autoformat.Proofs.Gating
import Autoformat.Proofs.Carrying
import Autoformat.Proofs.Commands
import Autoformat.Proofs.FinalStatus
import Autoformat.Proofs.Answers
import Autoformat.Proofs.ExitStatus
import Autoformat.Proofs.Posts
import Autoformat.Proofs.Validation
import Autoformat.Proofs.Report
import Autoformat.Proofs.FileParts
import Autoformat.Proofs.Layering
import Autoformat.Proofs.Shapes
import Autoformat.Proofs.Payload
import Autoformat.Proofs.FirstFailure
import Autoformat.Proofs.StepOutputs
import Autoformat.Proofs.RecordValues
import Autoformat.Proofs.Classification
import Autoformat.Proofs.StepOutputs
