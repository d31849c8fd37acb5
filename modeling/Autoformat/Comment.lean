import Autoformat.Error

/-!
# Comments and the payloads that announce them

A `Comment` is what the bot knows of a comment on an issue or pull request. `Comment.ofPayload` reads it
from the payload with which the platform announces the comment, and `Comment.applicable` is the rule that
only new comments on pull requests may start a run.
-/

namespace Autoformat

/-- A comment on an issue or pull request. -/
structure Comment where
  /-- The repository in which the comment stands. -/
  repository : String
  /-- The number of the issue or pull request. -/
  issueNumber : UInt64
  isPullRequest : Bool
  /-- What happened to the comment. -/
  action : String
  id : UInt64
  author : String
  association : Association
  body : String
  deriving DecidableEq, Repr

namespace Comment

instance : Json.Wire Comment where
  encode c := .object [
    ("repository", .string c.repository),
    ("issue_number", .word c.issueNumber),
    ("is_pull_request", .bool c.isPullRequest),
    ("action", .string c.action),
    ("comment_id", .word c.id),
    ("author_login", .string c.author),
    ("author_association", Json.encode c.association),
    ("body", .string c.body)]
  decode := Json.Fields.record "CommentEvent" <|
    Comment.mk <$> .required "repository" <*> .required "issue_number" <*>
      .required "is_pull_request" <*> .required "action" <*> .required "comment_id" <*>
      .required "author_login" <*> .required "author_association" <*> .required "body"

/-- The action of a new comment. -/
def created : String := "created"

/-- Only new comments on pull requests may start a run. -/
def applicable (c : Comment) : Except BotError Unit :=
  if !c.isPullRequest then .error (.notApplicable (.plainIssue c.issueNumber c.repository))
  else if c.action ≠ created then .error (.notApplicable (.notCreated c.id c.action))
  else .ok ()

/-! ## Payloads -/

/-- The part of a payload about the comment: its number, text, author and the author's association. -/
structure PayloadComment where
  id : UInt64
  body : Option String
  author : String
  association : Association

/-- The part of a payload about the issue: its number, and whether it is a pull request. -/
structure PayloadIssue where
  number : UInt64
  isPullRequest : Bool

/-- The author of a comment, by name. -/
def payloadUser : Json.Decoder String := Json.Fields.record "RawUser" (.required "login")

/-- The comment of a payload; its text may be absent. -/
def payloadComment : Json.Decoder PayloadComment :=
  Json.Fields.record "RawComment" <|
    PayloadComment.mk <$> .required "id" <*> .defaulted "body" none <*>
      .field "user" payloadUser none none <*> .required "author_association"

/-- Any value but `null`, kept whole. A text may nest 127 lists and objects in all, and this value lies
inside two of them. -/
def payloadLink : Json.Decoder Bool
  | .null => .ok false
  | d => do
    d.check 125
    pure true

/-- The issue of a payload; it is a pull request when it has a link to one. -/
def payloadIssue : Json.Decoder PayloadIssue :=
  Json.Fields.record "RawIssue" <|
    PayloadIssue.mk <$> .required "number" <*>
      .field "pull_request" payloadLink (some false) (some false)

/-- The repository of a payload, by name. -/
def payloadRepository : Json.Decoder String :=
  Json.Fields.record "RawRepository" (.required "full_name")

/-- The comment that a payload announces. -/
def ofParts (action : String) (comment : PayloadComment) (issue : PayloadIssue)
    (repository : String) : Comment where
  repository := repository
  issueNumber := issue.number
  isPullRequest := issue.isPullRequest
  action := action
  id := comment.id
  author := comment.author
  association := comment.association
  body := comment.body.getD ""

/-- A payload without an action announces a new comment. -/
def payload : Json.Decoder Comment :=
  Json.Fields.record "IssueCommentPayload" <|
    ofParts <$> .field "action" Json.decode (some created) (some created) <*>
      .field "comment" payloadComment none none <*> .field "issue" payloadIssue none none <*>
      .field "repository" payloadRepository none none

/-- Reads the comment that a payload announces. -/
def ofPayload (text : String) : Except BotError Comment :=
  (Json.parseWith payload text).mapError .invalidEvent

end Comment

end Autoformat
