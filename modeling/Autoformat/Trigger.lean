import Autoformat.Comment
import Autoformat.Text.Search

/-!
# Who may start a run, and how

A comment starts a run when its author is trusted and its text holds both the mention of the bot and the
command. `Evaluation` is the decision about one comment, and its `Verdict` is all that is left of it for
the final status.
-/

namespace Autoformat

/-- Who may start a run, and the two phrases that ask for one. -/
structure TriggerPolicy where
  mention : String := "@mlflow-automation"
  command : String := "autoformat"
  trustedRoles : List Association := [.owner, .member, .collaborator]
  deriving DecidableEq, Repr

namespace TriggerPolicy

/-- Someone with this association may start a run. -/
def isAuthorized (p : TriggerPolicy) (a : Association) : Bool := p.trustedRoles.contains a

/-- The text asks for a run: it holds both phrases, in any order and in any place. -/
def requestsRun (p : TriggerPolicy) (body : String) : Bool :=
  Text.contains body p.mention && Text.contains body p.command

instance : Json.Wire TriggerPolicy where
  encode p := .object [
    ("mention", .string p.mention),
    ("command", .string p.command),
    ("trusted_roles", Json.encode p.trustedRoles)]
  decode :=
    let d : TriggerPolicy := {}
    Json.Fields.record "TriggerPolicy" <|
      TriggerPolicy.mk <$> .defaulted "mention" d.mention <*> .defaulted "command" d.command <*>
        .defaulted "trusted_roles" d.trustedRoles

end TriggerPolicy

/-- What is decided about a comment. -/
inductive Verdict where
  /-- The commenter is not trusted. -/
  | rejected
  /-- The commenter is trusted and asks for nothing. -/
  | notTriggered
  /-- A run is asked for. -/
  | triggered
  deriving DecidableEq, Repr

namespace Verdict

/-- The name of a verdict. -/
def name : Verdict → String
  | .rejected => "rejected"
  | .notTriggered => "not_triggered"
  | .triggered => "triggered"

instance : Named Verdict := ⟨[.rejected, .notTriggered, .triggered], name⟩

instance : Json.Wire Verdict := Named.wire none

end Verdict

/-- The decision about a comment, with the pull request that it stands on. -/
structure Evaluation where
  authorized : Bool
  shouldRun : Bool
  pullRequest : PullRequest
  commenter : String
  association : Association
  deriving DecidableEq, Repr

namespace Evaluation

/-- The decision in one word. -/
def verdict (e : Evaluation) : Verdict :=
  if !e.authorized then .rejected else if e.shouldRun then .triggered else .notTriggered

/-- A commenter who is not trusted is an error. -/
def ensureAuthorized (e : Evaluation) : Except BotError Unit :=
  if e.authorized then .ok () else .error (.unauthorized e.commenter e.association)

/-- The decision about a comment on a pull request. Only the text of trusted commenters is looked at. -/
def ofComment (policy : TriggerPolicy) (c : Comment) (pr : PullRequest) : Evaluation where
  authorized := policy.isAuthorized c.association
  shouldRun := policy.isAuthorized c.association && policy.requestsRun c.body
  pullRequest := pr
  commenter := c.author
  association := c.association

instance : Json.Wire Evaluation where
  encode e := .object [
    ("authorized", .bool e.authorized),
    ("should_run", .bool e.shouldRun),
    ("context", Json.encode e.pullRequest),
    ("commenter", .string e.commenter),
    ("association", Json.encode e.association)]
  decode := Json.Fields.record "Evaluation" <|
    Evaluation.mk <$> .required "authorized" <*> .required "should_run" <*> .required "context" <*>
      .required "commenter" <*> .required "association"

end Evaluation

end Autoformat
