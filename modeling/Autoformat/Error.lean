import Autoformat.Association
import Autoformat.Domain.Basic
import Autoformat.Outcome
import Autoformat.Phase
import Autoformat.Platform.Basic

/-!
# Why the bot stops

`BotError` lists the reasons for which a run, or a part of it, comes to nothing, each with what its
message needs. The wording is in `BotError.message`.
-/

namespace Autoformat

/-- Why a file cannot be used. -/
inductive FileError where
  /-- The bytes are not UTF-8. -/
  | invalidText
  /-- A name holds the character that ends names. -/
  | nulInName
  /-- The system refuses, with its reason and the number of it. -/
  | refused (reason : String) (code : Nat)
  deriving DecidableEq, Repr

namespace FileError

/-- There is no such file. -/
def notFound : FileError := .refused "No such file or directory" 2

/-- The file may not be used in this way. -/
def permissionDenied : FileError := .refused "Permission denied" 13

/-- A part of the path that should be a directory is none. -/
def notADirectory : FileError := .refused "Not a directory" 20

/-- The path names a directory. -/
def isADirectory : FileError := .refused "Is a directory" 21

/-- A name in the path, or the path, is too long. -/
def nameTooLong : FileError := .refused "File name too long" 36

/-- There is no room for what is written. -/
def noSpace : FileError := .refused "No space left on device" 28

/-- The wording of a file error. -/
def message : FileError → String
  | .invalidText => "stream did not contain valid UTF-8"
  | .nulInName => "nul byte found in provided data"
  | .refused reason code => s!"{reason} (os error {code})"

end FileError

/-- Why a comment cannot start a run. -/
inductive Inapplicable where
  /-- The comment stands on a plain issue. -/
  | plainIssue (number : UInt64) (repository : String)
  /-- The comment is not new. -/
  | notCreated (comment : UInt64) (action : String)
  deriving DecidableEq, Repr

/-- The wording of the reason. -/
def Inapplicable.message : Inapplicable → String
  | .plainIssue number repository =>
    s!"#{number} in {repository} is an issue, not a pull request"
  | .notCreated comment action =>
    s!"comment {comment} was {action}, only new comments trigger runs"

/-- What is wrong with a configuration. -/
inductive ConfigFault where
  /-- The mention or the command is empty. -/
  | emptyPhrase
  | noTrustedRole
  | emptyContext
  | emptyPattern (field : String)
  | emptyCommand (domain : Domain) (step : String)
  | duplicateStep (domain : Domain) (step : String)
  /-- The timeout of the environment is no number. -/
  | badTimeout (text : String)
  deriving DecidableEq, Repr

/-- The wording of a fault. -/
def ConfigFault.message : ConfigFault → String
  | .emptyPhrase => "trigger mention and command must not be empty"
  | .noTrustedRole => "at least one trusted role is required"
  | .emptyContext => "status context must not be empty"
  | .emptyPattern field => s!"domain pattern {field} must not be empty"
  | .emptyCommand domain step => s!"{domain.name}/{step} has an empty command"
  | .duplicateStep domain step => s!"duplicate step name {domain.name}/{step}"
  | .badTimeout text =>
    s!"AUTOFORMAT_STEP_TIMEOUT must be a number of seconds, got {Text.quoted text}"

/-- Why a git command comes to nothing. -/
inductive GitFault where
  /-- The program does not start. -/
  | notStarted (e : FileError)
  /-- The program fails; what it wrote on standard error follows. -/
  | failed (args : List String) (complaint : String)
  /-- The head commit has no name. -/
  | emptyHead
  deriving DecidableEq, Repr

/-- The wording of a git fault. -/
def GitFault.message : GitFault → String
  | .notStarted e => s!"failed to run git: {e.message}"
  | .failed args complaint => "git " ++ " ".intercalate args ++ " failed: " ++ complaint
  | .emptyHead => "git rev-parse HEAD returned empty output"

/-- Why the bot stops. -/
inductive BotError where
  /-- The comment cannot start a run at all. -/
  | notApplicable (reason : Inapplicable)
  /-- The commenter is not trusted. -/
  | unauthorized (login : String) (association : Association)
  | invalidEvent (e : Json.DecodeError)
  | invalidTransition (current requested : Phase)
  | slotTaken (e : SlotTaken)
  | config (fault : ConfigFault)
  | git (fault : GitFault)
  | platform (e : PlatformError)
  | serialization (e : Json.DecodeError)
  | file (e : FileError)
  deriving DecidableEq, Repr

namespace BotError

/-- The wording of an error. -/
def message : BotError → String
  | .notApplicable reason => s!"event not applicable: {reason.message}"
  | .unauthorized login association =>
    s!"{login} ({association.name}) is not allowed to trigger autoformat"
  | .invalidEvent e => s!"invalid webhook payload: {e.message}"
  | .invalidTransition current requested =>
    s!"invalid run phase transition: {current.name} -> {requested.name}"
  | .slotTaken e => e.message
  | .config fault => s!"invalid configuration: {fault.message}"
  | .git fault => s!"git error: {fault.message}"
  | .platform e => e.message
  | .serialization e => s!"serialization error: {e.message}"
  | .file e => s!"io error: {e.message}"

/-- The error means that there is nothing to do. -/
def isNotApplicable : BotError → Bool
  | .notApplicable _ => true
  | _ => false

end BotError

/-- Goes from a phase to one that may follow it. -/
def Phase.transition (current requested : Phase) : Except BotError Phase :=
  if requested.Follows current then .ok requested
  else .error (.invalidTransition current requested)

end Autoformat
