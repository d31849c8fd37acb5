import Autoformat.Platform.Basic

/-!
# A platform in memory

`Platform.Memory` holds pull requests with the files they change, keeps every call in order, and refuses
the operations that it is told to refuse. A refused call is kept like any other.
-/

namespace Autoformat.Platform

/-- The name of the operation of a call. -/
def Call.operation : Call → String
  | .addReaction .. => "add_reaction"
  | .setStatus .. => "create_commit_status"
  | .getPullRequest .. => "get_pull_request"
  | .listFiles .. => "list_pull_request_files"

/-- A pull request and the files it changes. -/
structure Registered where
  pullRequest : PullRequest
  files : ChangedFiles

/-- A platform in memory. -/
structure Memory where
  /-- What is registered, the latest first. -/
  pulls : List Registered := []
  /-- The operations that are refused. -/
  refused : List String := []
  /-- The calls so far. -/
  calls : List Call := []

namespace Memory

/-- Registers a pull request; it replaces an earlier one of the same repository and number. -/
def register (m : Memory) (pr : PullRequest) (files : ChangedFiles) : Memory :=
  { m with pulls := ⟨pr, files⟩ :: m.pulls }

/-- Refuses an operation from now on. -/
def refuse (m : Memory) (operation : String) : Memory :=
  { m with refused := operation :: m.refused }

/-- What is registered for a repository and number. -/
def find (m : Memory) (repository : String) (number : UInt64) : Except PlatformError Registered :=
  match m.pulls.find? fun r =>
    r.pullRequest.repository = repository && r.pullRequest.number = number with
  | some r => .ok r
  | none => .error (.pullRequestNotFound repository number)

/-- What a call that is not refused returns. -/
def result (m : Memory) : (c : Call) → Except PlatformError c.Result
  | .addReaction .. => .ok ()
  | .setStatus .. => .ok ()
  | .getPullRequest repository number => (m.find repository number).map Registered.pullRequest
  | .listFiles repository number => (m.find repository number).map Registered.files

/-- Answers a call and keeps it. -/
def answer (m : Memory) (c : Call) : Except PlatformError c.Result × Memory :=
  let m' := { m with calls := m.calls ++ [c] }
  if m.refused.contains c.operation then
    (.error (.status c.operation 500 "injected failure"), m')
  else (m.result c, m')

/-- The statuses set so far, with their commits. -/
def statuses (m : Memory) : List (String × StatusUpdate) :=
  m.calls.filterMap fun
    | .setStatus _ sha status => some (sha, status)
    | _ => none

/-- The reactions so far, with their comments. -/
def reactions (m : Memory) : List (UInt64 × Reaction) :=
  m.calls.filterMap fun
    | .addReaction _ comment reaction => some (comment, reaction)
    | _ => none

end Memory

end Autoformat.Platform
