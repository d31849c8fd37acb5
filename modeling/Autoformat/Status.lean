import Autoformat.Trigger

/-!
# The final status

`FinalStatus.aggregate` decides what is shown on the head commit once a run is over: a failure for a
rejected commenter, nothing where no run was asked for, and otherwise success unless some job blocks. The
description names the blocking jobs and stays within the length that the platform accepts.
-/

namespace Autoformat

/-- What every status of the bot carries: its name and a link to the run. -/
structure StatusSettings where
  context : String
  targetUrl : Option String := none
  deriving DecidableEq, Repr

namespace StatusSettings

instance : Json.Wire StatusSettings where
  encode s := .object [("context", .string s.context), ("target_url", Json.encode s.targetUrl)]
  decode := Json.Fields.record "StatusSettings" <|
    StatusSettings.mk <$> .required "context" <*> .nullable "target_url"

/-- A status with a state and a description. -/
def update (s : StatusSettings) (state : CommitState) (description : String) : StatusUpdate :=
  ⟨state, s.context, description, s.targetUrl⟩

/-- The status of a commit whose run has begun. -/
def pending (s : StatusSettings) : StatusUpdate := s.update .pending "Running autoformat"

end StatusSettings

/-- The link to a run. -/
def runUrl (server repository runId : String) : String :=
  Text.dropTrailing '/' server ++ "/" ++ repository ++ "/actions/runs/" ++ runId

/-- A state and its description. -/
structure FinalStatus where
  state : CommitState
  description : String
  deriving DecidableEq, Repr

namespace FinalStatus

instance : Json.Wire FinalStatus where
  encode s := .object [("state", Json.encode s.state), ("description", .string s.description)]
  decode := Json.Fields.record "FinalStatus" <|
    FinalStatus.mk <$> .required "state" <*> .required "description"

/-- The longest description that the platform accepts. -/
def descriptionLimit : Nat := 140

/-- A description that may be too long. -/
def shorten (description : String) : String :=
  Text.shorten descriptionLimit (descriptionLimit - 3) description

/-- The status of a run whose commenter is not trusted. -/
def rejected : FinalStatus := ⟨.failure, "Autoformat rejected: commenter is not a maintainer"⟩

/-- The status of a run that no job blocks. -/
def succeeded : FinalStatus := ⟨.success, "Autoformat succeeded"⟩

/-- The status of a run that some jobs block. -/
def failed (jobs : List String) : FinalStatus :=
  ⟨.failure, shorten ("Autoformat failed: " ++ ", ".intercalate jobs)⟩

/-- The status to show for a verdict and an outcome, if any. -/
def aggregate (verdict : Verdict) (outcome : Outcome) : Option FinalStatus :=
  match verdict with
  | .notTriggered => none
  | .rejected => some rejected
  | .triggered =>
    if outcome.blocking.isEmpty then some succeeded else some (failed outcome.blocking)

end FinalStatus

end Autoformat
