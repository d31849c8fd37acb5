import Autoformat.Config.Environment
import Autoformat.Platform.Basic
import Autoformat.Platform.Http
import Autoformat.Text.Search

/-!
# The platform over its REST interface

`Rest.Client` answers the calls of a platform with requests over HTTP, one for each call, and one for each
page of a listing. `Rest.Client.ofSettings` refuses settings without a usable token.

An answer with another status than success is an error that quotes the body. A page that is not full is
the last one of a listing; nothing is returned of a listing with a page that fails.
-/

namespace Autoformat.Rest

/-- How the platform is reached. -/
structure Settings where
  /-- The address of the interface. -/
  apiBase : String
  token : String
  timeoutMs : UInt64
  userAgent : String
  deriving DecidableEq, Repr

namespace Settings

instance : Json.Wire Settings where
  encode s := .object [
    ("api_base", .string s.apiBase),
    ("token", .string s.token),
    ("request_timeout_ms", .word s.timeoutMs),
    ("user_agent", .string s.userAgent)]
  decode := Json.Fields.record "GithubConfig" <|
    Settings.mk <$> .required "api_base" <*> .required "token" <*>
      .required "request_timeout_ms" <*> .required "user_agent"

/-- Settings for an address and a token. -/
def new (apiBase token : String) : Settings := ⟨apiBase, token, 30000, "autoformat-bot/0.1.0"⟩

/-- Settings with another time limit. -/
def withTimeout (s : Settings) (timeoutMs : UInt64) : Settings := { s with timeoutMs := timeoutMs }

/-- The settings that an environment gives. -/
def ofEnvironment (env : Environment) : Settings :=
  new ((env "GITHUB_API_URL").getD "https://api.github.com") ((env "GITHUB_TOKEN").getD "")

end Settings

/-- A client of the interface. -/
structure Client where
  /-- The address of the interface, without slashes at its end. -/
  apiBase : String
  headers : List (String × String)
  timeoutMs : Nat

/-- The files of a full page. -/
def filesPerPage : Nat := 100

/-- The most pages that a listing may have. -/
def pageLimit : Nat := UInt32.size - 1

/-- How much of a body an error quotes. -/
def quoteLimit : Nat := 512

namespace Client

/-- The client for some settings, when the token can be sent. -/
def ofSettings (s : Settings) : Except PlatformError Client :=
  let token := Text.trim s.token
  if token = "" then .error (.misconfigured "a GitHub token is required (set GITHUB_TOKEN)")
  else if !Http.isHeaderValue token then .error (.misconfigured "invalid GitHub token")
  else if !Http.isHeaderValue s.userAgent then
    .error (.misconfigured "failed to build HTTP client: builder error")
  else
    .ok {
      apiBase := Text.dropTrailing '/' s.apiBase
      headers := [
        ("accept", "application/vnd.github+json"),
        ("authorization", "Bearer " ++ token),
        ("user-agent", s.userAgent),
        ("x-github-api-version", "2022-11-28")]
      timeoutMs := max s.timeoutMs.toNat 1 }

/-- A request that asks for a path. -/
def get (client : Client) (path : String) : Http.Request :=
  ⟨.get, client.apiBase ++ path, client.headers, none, client.timeoutMs⟩

/-- A request that sends a value to a path. -/
def post (client : Client) (path : String) (body : Json) : Http.Request :=
  ⟨.post, client.apiBase ++ path,
    client.headers ++ [("content-type", "application/json")], some body, client.timeoutMs⟩

end Client

/-- What a call comes to, over HTTP. -/
abbrev Answered (α : Type) := ExceptT PlatformError (Program Http.interface) α

/-- Sends a request; any status but success is an error. -/
def send (operation : String) (q : Http.Request) : Answered Http.Response := do
  match ← ExceptT.lift (Program.request (I := Http.interface) q) with
  | .error reason => throw (.transport operation reason)
  | .ok r =>
    if r.isSuccess then pure r
    else
      let body := Text.shorten quoteLimit quoteLimit (Utf8.decodeLossy r.body)
      throw (.status operation r.status body)

/-- What stands in a body for bytes that are not UTF-8. A text in which they stand is no fault for one who
passes over it, as with half of a surrogate pair; anywhere else they are a fault. -/
def strayBytes : List Char := Utf8.replacement :: ['\\', 'u', 'd', 'c', '0', '0']

/-- The body of an answer as a text. -/
def bodyText (data : ByteArray) : String := Utf8.decodeWith strayBytes data

/-- The value in the body of an answer. -/
def decodeBody {α : Type} (operation : String) (decode : Json.Decoder α) (r : Http.Response) :
    Except PlatformError α :=
  (Json.parseWith decode (bodyText r.body)).mapError fun _ =>
    .undecodable operation "error decoding response body"

/-- Sends a request and reads the value in the answer. -/
def sendFor {α : Type} (operation : String) (decode : Json.Decoder α) (q : Http.Request) :
    Answered α := do
  let r ← send operation q
  ExceptT.mk (pure (decodeBody operation decode r))

/-- One side of a pull request: its branch, its commit, and its repository unless that is gone. -/
structure Branch where
  ref : String
  sha : String
  repository : Option String

/-- A repository, by its name. -/
def repositoryName : Json.Decoder String := Json.Fields.record "RepoResponse" (.required "full_name")

/-- One side of a pull request. -/
def branch : Json.Decoder Branch :=
  Json.Fields.record "BranchResponse" <|
    Branch.mk <$> .required "ref" <*> .required "sha" <*>
      .field "repo" (Json.Doc.asOptional repositoryName) (some none) none

/-- The pull request with the given sides; a head repository that is gone counts as the base one. -/
def pullRequestOf (repository : String) (number : UInt64) (head base : Branch) : PullRequest where
  repository := repository
  headRepository := head.repository.getD repository
  number := number
  headRef := head.ref
  headSha := head.sha
  baseRef := base.ref
  baseSha := base.sha

/-- A pull request of a repository. -/
def pullRequest (repository : String) : Json.Decoder PullRequest :=
  Json.Fields.record "PullRequestResponse" <|
    pullRequestOf repository <$> .required "number" <*> .field "head" branch none none <*>
      .field "base" branch none none

/-- A file of a listing, by its path. -/
def fileName : Json.Decoder String := Json.Fields.record "PullRequestFile" (.required "filename")

/-- A page of a listing. -/
def page : Json.Decoder (List String) := Json.Doc.asList fileName

/-- The request for a page of a listing. -/
def Client.pageRequest (client : Client) (repository : String) (number : UInt64) (n : Nat) :
    Http.Request :=
  client.get s!"/repos/{repository}/pulls/{number}/files?per_page={filesPerPage}&page={n}"

/-- The name of the operation that lists files. -/
def listing : String := "list pull request files"

/-- Asks for page after page, until one is not full. -/
def listFrom (client : Client) (repository : String) (number : UInt64) (files : ChangedFiles) :
    Nat → Nat → Answered ChangedFiles
  | 0, _ => throw (.transport listing "the listing has too many pages")
  | pages + 1, n => do
    let paths ← sendFor listing page (client.pageRequest repository number n)
    let files := files.append paths
    if paths.length < filesPerPage then pure files
    else listFrom client repository number files pages (n + 1)

/-- A pull request that the platform does not know. -/
def notFound (repository : String) (number : UInt64) : PlatformError → PlatformError
  | .status operation code body =>
    if code = 404 then .pullRequestNotFound repository number else .status operation code body
  | e => e

/-- Answers a call of the platform. -/
def Client.answer (client : Client) :
    (c : Platform.Call) → Program Http.interface (Except PlatformError c.Result)
  | .addReaction repository comment reaction => do
    let path := s!"/repos/{repository}/issues/comments/{comment}/reactions"
    let body := Json.object [("content", Json.encode reaction)]
    let r ← (send "add reaction" (client.post path body)).run
    pure (r.map fun _ => ())
  | .setStatus repository sha status => do
    let path := s!"/repos/{repository}/statuses/{sha}"
    let r ← (send "create commit status" (client.post path (Json.encode status))).run
    pure (r.map fun _ => ())
  | .getPullRequest repository number => do
    let q := client.get s!"/repos/{repository}/pulls/{number}"
    let r ← (sendFor "get pull request" (pullRequest repository) q).run
    pure (r.mapError (notFound repository number))
  | .listFiles repository number =>
    (listFrom client repository number .empty pageLimit 1).run

end Autoformat.Rest
