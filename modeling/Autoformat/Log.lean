import Autoformat.Status

/-!
# The log

`Log.Event` lists what the bot reports on its way, each event with a level and named fields. A
`Log.Entry` is an event in the span of a run, if it belongs to one.
-/

namespace Autoformat.Log

/-- How much an event matters. -/
inductive Level where
  | info
  | warn
  deriving DecidableEq, Repr

/-- The name of a level. -/
def Level.name : Level → String
  | .info => "INFO"
  | .warn => "WARN"

/-- What the bot reports. -/
inductive Event where
  /-- A comment has been evaluated. -/
  | triggerEvaluated (comment : Comment) (e : Evaluation)
  /-- The author of a comment is not trusted. -/
  | untrustedCommenter (login : String) (association : Association)
  | phaseChanged (current next : Phase)
  | runStarted (pr : PullRequest)
  /-- The changed files have been classified. -/
  | diffRouted (pullNumber : UInt64) (changedFiles : Nat) (flags : DomainFlags)
  /-- A step has ended, or has been skipped. -/
  | stepFinished (slot : String) (e : OutcomeEntry)
  | stageStarted (slot : String)
  | pushed (sha headRef : String)
  | nothingToPush
  | stoppedEarly (e : BotError)
  | runCancelled
  | statusReported (repository sha : String) (state : CommitState) (jobs : Nat)
  | nothingToReport (sha : String)
  /-- The final status of a rejected run could not be set. -/
  | rejectionNotReported (e : BotError)
  /-- A comment cannot start a run; nothing is done. -/
  | commentIgnored (field reason : String)
  deriving DecidableEq, Repr

namespace Event

/-- Failures are warnings, and so is what an untrusted commenter tries. -/
def level : Event → Level
  | .untrustedCommenter .. | .stoppedEarly _ | .runCancelled | .rejectionNotReported _ => .warn
  | .stepFinished _ e => if e.result.isFailure then .warn else .info
  | _ => .info

/-- An event with a name, and its other fields. -/
def named (name : String) (fields : List (String × Json)) : List (String × Json) :=
  ("event", .string name) :: fields

/-- An event with a message, and its other fields. -/
def saying (message : String) (fields : List (String × Json)) : List (String × Json) :=
  ("message", .string message) :: fields

/-- The fields of an event. Only a failure says whether it is tolerated. -/
def fields : Event → List (String × Json)
  | .triggerEvaluated c e => named "trigger.evaluated" [
      ("repository", .string c.repository),
      ("issue_number", .word c.issueNumber),
      ("association", .string e.association.name),
      ("authorized", .bool e.authorized),
      ("should_run", .bool e.shouldRun)]
  | .untrustedCommenter login association =>
    saying "untrusted commenter attempted to trigger autoformat" [
      ("commenter", .string login),
      ("association", .string association.name)]
  | .phaseChanged current next => named "phase.changed" [
      ("from", .string current.name),
      ("to", .string next.name)]
  | .runStarted pr => saying "autoformat run started" [
      ("pull_number", .word pr.number),
      ("head_ref", .string pr.headRef),
      ("head_sha", .string pr.headSha)]
  | .diffRouted pullNumber changedFiles flags => named "diff.routed" ([
      ("pull_number", .word pullNumber),
      ("changed_files", .nat changedFiles)] ++
      Domain.all.map fun d => (d.name, .bool (flags.get d)))
  | .stepFinished slot e => named "step.finished" ([
      ("step", .string slot),
      ("result", .string e.result.name)] ++
      if e.result.isFailure then [("tolerated", .bool e.tolerated)] else [])
  | .stageStarted slot => saying "executing stage" [("stage", .string slot)]
  | .pushed sha headRef => saying "pushed formatting commit" [
      ("sha", .string sha),
      ("head_ref", .string headRef)]
  | .nothingToPush => saying "formatters made no changes, nothing to push" []
  | .stoppedEarly e => saying "autoformat run stopped early" [("error", .string e.message)]
  | .runCancelled => saying "autoformat run cancelled" []
  | .statusReported repository sha state jobs => named "status.reported" [
      ("repository", .string repository),
      ("head_sha", .string sha),
      ("state", .string state.name),
      ("jobs", .nat jobs)]
  | .nothingToReport sha =>
    saying "no trigger matched, leaving status untouched" [("head_sha", .string sha)]
  | .rejectionNotReported e =>
    saying "failed to report rejected run" [("error", .string e.message)]
  | .commentIgnored field reason => saying "Ignoring comment" [(field, .string reason)]

end Event

/-- The run to which events belong. -/
structure Span where
  runId : String
  pullNumber : UInt64
  deriving DecidableEq, Repr

/-- A span as JSON. -/
def Span.encode (s : Span) : Json := .object [
  ("name", .string "autoformat.run"),
  ("run_id", .string s.runId),
  ("pull_number", .word s.pullNumber)]

/-- An event in its span. -/
structure Entry where
  event : Event
  span : Option Span
  deriving DecidableEq, Repr

/-- An entry as JSON. -/
def Entry.encode (e : Entry) : Json := .object [
  ("level", .string e.event.level.name),
  ("fields", .object e.event.fields),
  ("span", Json.optional Span.encode e.span)]

/-- An entry as a line of text. -/
def Entry.line (e : Entry) : String :=
  let fields := e.event.fields.map fun (key, value) => key ++ "=" ++ value.compact
  " ".intercalate (e.event.level.name :: fields)

end Autoformat.Log
