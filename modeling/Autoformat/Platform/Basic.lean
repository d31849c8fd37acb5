import Autoformat.Json.Record
import Autoformat.Json.Word
import Autoformat.PullRequest

/-!
# The hosting platform

The bot needs four calls of the platform that hosts the repository: read where a pull request stands,
list the files it changes, react to a comment, and set the status of a commit. `Platform.Call` lists
them, `Platform.Call.Result` says what each returns, and any of them may fail with a `PlatformError`.
-/

namespace Autoformat

/-- A reaction to a comment. -/
inductive Reaction where
  | rocket
  | eyes
  | plusOne
  deriving DecidableEq, Repr

namespace Reaction

/-- The name of a reaction. -/
def name : Reaction → String
  | .rocket => "rocket"
  | .eyes => "eyes"
  | .plusOne => "+1"

instance : Named Reaction := ⟨[.rocket, .eyes, .plusOne], name⟩

instance : Json.Wire Reaction := Named.wire none

end Reaction

/-- The state of a commit. -/
inductive CommitState where
  | pending
  | success
  | failure
  deriving DecidableEq, Repr

namespace CommitState

/-- The name of a state. -/
def name : CommitState → String
  | .pending => "pending"
  | .success => "success"
  | .failure => "failure"

instance : Named CommitState := ⟨[.pending, .success, .failure], name⟩

instance : Json.Wire CommitState := Named.wire none

end CommitState

/-- A status that is set on a commit. -/
structure StatusUpdate where
  state : CommitState
  /-- The name under which the status is shown. -/
  context : String
  description : String
  /-- A link to the run. -/
  targetUrl : Option String
  deriving DecidableEq, Repr

namespace StatusUpdate

/-- A link that is absent is left out. -/
def members (u : StatusUpdate) : List (String × Json) :=
  [("state", Json.encode u.state), ("context", .string u.context),
    ("description", .string u.description)] ++
  match u.targetUrl with
  | none => []
  | some url => [("target_url", .string url)]

instance : Json.Wire StatusUpdate where
  encode u := .object u.members
  decode := Json.Fields.record "StatusUpdate" <|
    StatusUpdate.mk <$> .required "state" <*> .required "context" <*> .required "description" <*>
      .nullable "target_url"

end StatusUpdate

/-- What can go wrong with a platform. -/
inductive PlatformError where
  /-- The platform refuses the call. -/
  | status (operation : String) (code : Nat) (body : String)
  /-- The platform cannot be reached. -/
  | transport (operation : String) (reason : String)
  /-- The answer cannot be read. -/
  | undecodable (operation : String) (reason : String)
  | pullRequestNotFound (repository : String) (number : UInt64)
  /-- The platform cannot be used at all. -/
  | misconfigured (reason : String)
  deriving DecidableEq, Repr

/-- The wording of a platform error. -/
def PlatformError.message : PlatformError → String
  | .status operation code body => s!"{operation} failed with HTTP {code}: {body}"
  | .transport operation reason => s!"{operation} failed: {reason}"
  | .undecodable operation reason => s!"malformed response for {operation}: {reason}"
  | .pullRequestNotFound repository number =>
    s!"pull request not found: {repository}#{number}"
  | .misconfigured reason => s!"platform client misconfigured: {reason}"

namespace Platform

/-- A call of the platform. -/
inductive Call where
  | addReaction (repository : String) (comment : UInt64) (reaction : Reaction)
  | setStatus (repository : String) (sha : String) (status : StatusUpdate)
  | getPullRequest (repository : String) (number : UInt64)
  | listFiles (repository : String) (number : UInt64)
  deriving DecidableEq, Repr

/-- What a call returns when it does not fail. -/
def Call.Result : Call → Type
  | .addReaction .. => Unit
  | .setStatus .. => Unit
  | .getPullRequest .. => PullRequest
  | .listFiles .. => ChangedFiles

end Platform

end Autoformat
