import Autoformat.Json.Record

/-!
# Pull requests and the files they change
-/

namespace Autoformat

/-- Where a pull request stands: its branches and commits. -/
structure PullRequest where
  /-- The repository that the pull request is for; statuses are posted there. -/
  repository : String
  /-- The repository that holds the head branch. -/
  headRepository : String
  number : UInt64
  headRef : String
  headSha : String
  baseRef : String
  baseSha : String
  deriving DecidableEq, Repr

namespace PullRequest

/-- The head branch lies in another repository. -/
def isCrossRepository (p : PullRequest) : Bool := p.headRepository ≠ p.repository

instance : Json.Wire PullRequest where
  encode p := .object [
    ("repository", .string p.repository),
    ("head_repository", .string p.headRepository),
    ("pull_number", .word p.number),
    ("head_ref", .string p.headRef),
    ("head_sha", .string p.headSha),
    ("base_ref", .string p.baseRef),
    ("base_sha", .string p.baseSha)]
  decode := Json.Fields.record "PullRequestContext" <|
    PullRequest.mk <$> .required "repository" <*> .required "head_repository" <*>
      .required "pull_number" <*> .required "head_ref" <*> .required "head_sha" <*>
      .required "base_ref" <*> .required "base_sha"

end PullRequest

/-- The paths that a pull request changes, in the order in which the platform lists them. -/
structure ChangedFiles where
  paths : List String
  deriving DecidableEq, Repr

namespace ChangedFiles

/-- No paths. -/
def empty : ChangedFiles := ⟨[]⟩

/-- The number of paths. -/
def size (files : ChangedFiles) : Nat := files.paths.length

/-- More paths at the end. -/
def append (files : ChangedFiles) (paths : List String) : ChangedFiles := ⟨files.paths ++ paths⟩

instance : Json.Wire ChangedFiles where
  encode files := Json.encode files.paths
  decode d := ChangedFiles.mk <$> Json.decode d

end ChangedFiles

end Autoformat
