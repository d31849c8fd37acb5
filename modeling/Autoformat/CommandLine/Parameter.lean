import Autoformat.Trigger

/-!
# Commands and their parameters

A command line names one of four commands. It sets parameters before the command, which every command
has, and after it, where the command may have more. A `Parameter` is a flag, which is set by its name, or
takes a value after its name; the value of a `Field` may also come from a variable of the environment.
-/

namespace Autoformat.CommandLine

/-- What can be carried out. -/
inductive Command where
  /-- Decide about a comment. -/
  | evaluate
  /-- Classify the changed files of a pull request. -/
  | route
  /-- Carry out a run for a comment. -/
  | run
  /-- Set the final status of a run. -/
  | report
  deriving DecidableEq, Repr

/-- The name of a command. -/
def Command.name : Command → String
  | .evaluate => "evaluate"
  | .route => "route"
  | .run => "run"
  | .report => "report"

instance : Named Command := ⟨[.evaluate, .route, .run, .report], Command.name⟩

/-- A parameter without a value. -/
inductive Flag where
  | verbose
  | json
  | noPush
  | noMerge
  deriving DecidableEq, Repr

/-- The name of a flag. -/
def Flag.name : Flag → String
  | .verbose => "verbose"
  | .json => "json"
  | .noPush => "no-push"
  | .noMerge => "no-merge"

/-- A parameter whose value is a text. -/
inductive Field where
  | config
  | token
  | repository
  | apiUrl
  | serverUrl
  | runId
  | output
  | event
  | workdir
  | remote
  | sha
  | outcome
  deriving DecidableEq, Repr

namespace Field

/-- The name of a field. -/
def name : Field → String
  | .config => "config"
  | .token => "token"
  | .repository => "repository"
  | .apiUrl => "api-url"
  | .serverUrl => "server-url"
  | .runId => "run-id"
  | .output => "output"
  | .event => "event"
  | .workdir => "workdir"
  | .remote => "remote"
  | .sha => "sha"
  | .outcome => "outcome"

/-- The variable that sets a field when the command line does not. -/
def variableName : Field → Option String
  | .config => some "AUTOFORMAT_CONFIG"
  | .token => some "GITHUB_TOKEN"
  | .repository => some "GITHUB_REPOSITORY"
  | .apiUrl => some "GITHUB_API_URL"
  | .serverUrl => some "GITHUB_SERVER_URL"
  | .runId => some "GITHUB_RUN_ID"
  | .output => some "GITHUB_OUTPUT"
  | .event => some "GITHUB_EVENT_PATH"
  | _ => none

/-- The field names a file or directory; its value is not empty. -/
def isPath : Field → Bool
  | .config | .output | .event | .workdir | .outcome => true
  | _ => false

/-- The field may have this value. -/
def accepts (f : Field) (value : String) : Bool := !f.isPath || value ≠ ""

end Field

/-- What can be set on a command line. -/
inductive Parameter where
  | flag (f : Flag)
  | field (f : Field)
  /-- The number of a pull request. -/
  | pull
  /-- The verdict of a run. -/
  | verdict
  deriving DecidableEq, Repr

/-- The name of a parameter. -/
def Parameter.name : Parameter → String
  | .flag f => f.name
  | .field f => f.name
  | .pull => "pull"
  | .verdict => "verdict"

/-- The fields that every command has. -/
def sharedFields : List Field :=
  [.config, .token, .repository, .apiUrl, .serverUrl, .runId, .output]

/-- The parameters that every command has. -/
def shared : List Parameter := [.flag .verbose, .flag .json] ++ sharedFields.map .field

/-- The parameters that belong to one command. -/
def Command.own : Command → List Parameter
  | .evaluate => [.field .event]
  | .route => [.pull]
  | .run => [.field .event, .field .workdir, .field .remote, .flag .noPush, .flag .noMerge]
  | .report => [.field .sha, .verdict, .field .outcome]

/-- The names of verdicts on a command line. -/
def verdictNames : List (String × Verdict) :=
  [("rejected", .rejected), ("not-triggered", .notTriggered), ("triggered", .triggered)]

end Autoformat.CommandLine
