import Autoformat.Config.Basic
import Autoformat.Text.Quoted
import Autoformat.Text.Utf8

/-!
# Stages

A `Stage` is one formatter of a run, with the flag of its domain and the time it may take. A
`StageResult` is how its command ended, and a `StageError` is why there is no such end.
-/

namespace Autoformat

/-- One formatter of a run. -/
structure Stage where
  /-- The name of the step within its domain. -/
  name : String
  domain : Domain
  /-- The program and its arguments. -/
  command : List String
  /-- Where the command runs, below the root of the checkout. -/
  workingDir : Option String
  /-- The time limit in seconds; zero sets none. -/
  timeout : UInt64
  allowFailure : Bool
  /-- The flag of the domain is up. -/
  enabled : Bool
  deriving DecidableEq, Repr

namespace Stage

/-- The stage of a formatter. -/
def ofFormatter (d : Domain) (f : Formatter) (timeout : UInt64) : Stage :=
  ⟨f.name, d, f.command, f.workingDir, timeout, f.allowFailure, true⟩

/-- A stage of its own, whose failure counts. -/
def custom (d : Domain) (name : String) (command : List String) (timeout : UInt64) : Stage :=
  ⟨name, d, command, none, timeout, false, true⟩

/-- The name of a step of a domain in the outcome of a run. -/
def slotOf (d : Domain) (name : String) : String := d.name ++ "/" ++ name

/-- The name of the stage in the outcome of a run. -/
def slot (s : Stage) : String := slotOf s.domain s.name

/-- The stage, whose failure does not count. -/
def tolerated (s : Stage) : Stage := { s with allowFailure := true }

/-- The stage, which is not to run. -/
def disabled (s : Stage) : Stage := { s with enabled := false }

instance : Json.Wire Stage where
  encode s := .object [
    ("name", .string s.name),
    ("domain", Json.encode s.domain),
    ("command", Json.encode s.command),
    ("working_dir", Json.encode s.workingDir),
    ("timeout_secs", .word s.timeout),
    ("allow_failure", .bool s.allowFailure),
    ("enabled", .bool s.enabled)]
  decode := Json.Fields.record "StageConfig" <|
    Stage.mk <$> .required "name" <*> .required "domain" <*> .required "command" <*>
      .field "working_dir" (Json.Doc.asOptional Json.Doc.asPath) (some none) none <*>
      .required "timeout_secs" <*> .required "allow_failure" <*> .required "enabled"

end Stage

/-- How the command of a stage ended. -/
structure StageResult where
  slot : String
  /-- The exit code, or `-1` without one. -/
  exitCode : Int
  stdout : String
  stderr : String
  /-- The command ended with an exit code of zero. -/
  success : Bool
  /-- A failure does not count. -/
  tolerated : Bool
  deriving DecidableEq, Repr

/-- An exit code that tells of success. -/
def passes (success : Bool) (exitCode : Int) : Bool := success && exitCode == 0

namespace StageResult

/-- The stage passed. -/
def passed (r : StageResult) : Bool := passes r.success r.exitCode

/-- The members of a result as JSON. -/
def members (r : StageResult) : List (String × Json) := [
  ("stage_name", .string r.slot),
  ("exit_code", .number r.exitCode),
  ("stdout", .string r.stdout),
  ("stderr", .string r.stderr),
  ("success", .bool r.success),
  ("tolerated", .bool r.tolerated)]

end StageResult

/-- Why a stage does not run to its end. -/
inductive StageFailure where
  | emptyCommand
  | notStarted (program : String) (e : FileError)
  | timedOut (seconds : UInt64)
  /-- The system does not tell how the command ended, or does not hand over what it wrote. -/
  | lost (e : FileError)
  deriving DecidableEq, Repr

/-- A stage that does not run to its end. -/
structure StageError where
  slot : String
  failure : StageFailure
  deriving DecidableEq, Repr

/-- The wording of a stage error. -/
def StageError.message (e : StageError) : String :=
  match e.failure with
  | .emptyCommand => s!"Stage {e.slot} has empty command"
  | .notStarted program reason =>
    s!"Stage {e.slot} failed to start {Text.quoted program}: {reason.message}"
  | .timedOut seconds => s!"Stage {e.slot} timed out after {seconds} seconds"
  | .lost reason => reason.message

/-- The result that stands for a stage that did not run to its end. -/
def StageResult.errored (s : Stage) (e : StageError) : StageResult :=
  ⟨s.slot, -1, "", e.message, false, s.allowFailure⟩

end Autoformat
