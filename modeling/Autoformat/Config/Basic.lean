import Autoformat.Domain.Patterns
import Autoformat.Trigger

/-!
# The configuration of the bot

A `Config` has a section for each part of the bot, and every section and field has a value of its own
when the configuration file leaves it out.
-/

namespace Autoformat

/-- A formatter: one command. -/
structure Formatter where
  /-- The name of the step, unique within its domain. -/
  name : String
  /-- The program and its arguments. -/
  command : List String
  /-- Where the command runs, below the root of the checkout. -/
  workingDir : Option String := none
  /-- A failure of the command does not fail the run. -/
  allowFailure : Bool := false
  deriving DecidableEq, Repr

instance : Json.Wire Formatter where
  encode f := .object [
    ("name", .string f.name),
    ("command", Json.encode f.command),
    ("working_dir", Json.encode f.workingDir),
    ("allow_failure", .bool f.allowFailure)]
  decode := Json.Fields.record "FormatterCommand" <|
    Formatter.mk <$> .required "name" <*> .required "command" <*> .defaulted "working_dir" none <*>
      .defaulted "allow_failure" false

/-- The formatters of each domain, in the order in which they run. -/
structure Formatters where
  protocols : List Formatter := [⟨"generate-protos", ["./dev/generate-protos.sh"], none, false⟩]
  generalSource : List Formatter :=
    [⟨"format", ["ruff", "format", "."], none, false⟩,
      ⟨"lint-fix", ["ruff", "check", "--fix", "."], none, false⟩]
  webSource : List Formatter :=
    [⟨"install", ["yarn", "install", "--frozen-lockfile"], some "mlflow/server/js", false⟩,
      ⟨"lint-fix", ["yarn", "lint:fix"], some "mlflow/server/js", true⟩,
      ⟨"extract-i18n", ["yarn", "i18n"], some "mlflow/server/js", false⟩]
  statSource : List Formatter :=
    [⟨"docs", ["Rscript", "-e", "roxygen2::roxygenise()"], some "mlflow/R/mlflow", false⟩]
  deriving DecidableEq, Repr

namespace Formatters

/-- The formatters of a domain. -/
def get (f : Formatters) : Domain → List Formatter
  | .protocols => f.protocols
  | .generalSource => f.generalSource
  | .webSource => f.webSource
  | .statSource => f.statSource

instance : Json.Wire Formatters where
  encode f := .object (Domain.all.map fun d => (d.name, Json.encode (f.get d)))
  decode :=
    let d : Formatters := {}
    Json.Fields.record "FormatterConfig" <|
      Formatters.mk <$> .defaulted "protocols" d.protocols <*>
        .defaulted "general_source" d.generalSource <*> .defaulted "web_source" d.webSource <*>
        .defaulted "stat_source" d.statSource

end Formatters

/-- How a run shows itself on the pull request. -/
structure StatusConfig where
  /-- The name of the status. -/
  context : String := "autoformat"
  /-- The reaction to a comment that starts a run. -/
  reaction : Reaction := .rocket
  deriving DecidableEq, Repr

instance : Json.Wire StatusConfig where
  encode s := .object [("context", .string s.context), ("reaction", Json.encode s.reaction)]
  decode :=
    let d : StatusConfig := {}
    Json.Fields.record "StatusConfig" <|
      StatusConfig.mk <$> .defaulted "context" d.context <*> .defaulted "reaction" d.reaction

/-- Who commits the formatted files, and with which message. -/
structure CommitConfig where
  authorName : String := "mlflow-automation"
  authorEmail : String := "mlflow-automation@users.noreply.github.com"
  message : String := "Autoformat"
  signoff : Bool := true
  deriving DecidableEq, Repr

instance : Json.Wire CommitConfig where
  encode c := .object [
    ("author_name", .string c.authorName),
    ("author_email", .string c.authorEmail),
    ("message", .string c.message),
    ("signoff", .bool c.signoff)]
  decode :=
    let d : CommitConfig := {}
    Json.Fields.record "CommitConfig" <|
      CommitConfig.mk <$> .defaulted "author_name" d.authorName <*>
        .defaulted "author_email" d.authorEmail <*> .defaulted "message" d.message <*>
        .defaulted "signoff" d.signoff

/-- The configuration. -/
structure Config where
  trigger : TriggerPolicy := {}
  domains : DomainPatterns := {}
  status : StatusConfig := {}
  formatters : Formatters := {}
  commit : CommitConfig := {}
  /-- How long a step may take, in seconds; zero sets no limit. -/
  stepTimeout : UInt64 := 1800
  deriving DecidableEq, Repr

instance : Json.Wire Config where
  encode c := .object [
    ("trigger", Json.encode c.trigger),
    ("domains", Json.encode c.domains),
    ("status", Json.encode c.status),
    ("formatters", Json.encode c.formatters),
    ("commit", Json.encode c.commit),
    ("step_timeout_secs", .word c.stepTimeout)]
  decode :=
    let d : Config := {}
    Json.Fields.record "AutoformatConfig" <|
      Config.mk <$> .defaulted "trigger" d.trigger <*> .defaulted "domains" d.domains <*>
        .defaulted "status" d.status <*> .defaulted "formatters" d.formatters <*>
        .defaulted "commit" d.commit <*> .defaulted "step_timeout_secs" d.stepTimeout

end Autoformat
