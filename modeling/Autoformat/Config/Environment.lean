import Autoformat.Config.Validate
import Autoformat.Text.Blank

/-!
# Configuration from the environment

Four variables take precedence over the configuration file. `Config.load` puts the file and the variables
together and validates the result.
-/

namespace Autoformat

/-- The variables of an environment. -/
abbrev Environment := String → Option String

namespace Config

/-- The variables that take precedence over the configuration file. -/
def variableNames : List String :=
  ["AUTOFORMAT_MENTION", "AUTOFORMAT_COMMAND", "AUTOFORMAT_STATUS_CONTEXT",
    "AUTOFORMAT_STEP_TIMEOUT"]

/-- A number of seconds: a whole number of 64 bits, between blanks. -/
def parseSeconds (text : String) : Option UInt64 := Decimal.word? (Text.trimChars text.toList)

/-- The configuration with the phrases and the status of the environment. -/
def withPhrases (c : Config) (env : Environment) : Config :=
  { c with
    trigger.mention := (env "AUTOFORMAT_MENTION").getD c.trigger.mention
    trigger.command := (env "AUTOFORMAT_COMMAND").getD c.trigger.command
    status.context := (env "AUTOFORMAT_STATUS_CONTEXT").getD c.status.context }

/-- The configuration with all that the environment sets, and what is wrong with the timeout, if
anything. -/
def override (c : Config) (env : Environment) : Config × Except BotError Unit :=
  let c := c.withPhrases env
  match env "AUTOFORMAT_STEP_TIMEOUT" with
  | none => (c, .ok ())
  | some text =>
    match parseSeconds text with
    | some seconds => ({ c with stepTimeout := seconds }, .ok ())
    | none => (c, .error (.config (.badTimeout text)))

/-- Reads the text of a configuration file. -/
def ofText (text : String) : Except BotError Config :=
  (Json.parse Config text).mapError .serialization

/-- The configuration of a file, if there is one, and of the environment. -/
def load (file : Option (Except FileError String)) (env : Environment) : Except BotError Config := do
  let base ←
    match file with
    | none => .ok {}
    | some (.error e) => .error (.file e)
    | some (.ok text) => ofText text
  let (c, result) := base.override env
  result
  c.validate
  pure c

end Config

end Autoformat
