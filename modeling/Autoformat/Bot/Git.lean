import Autoformat.Bot.Basic
import Autoformat.Config.Basic
import Autoformat.Text.Blank

/-!
# Git commands

Each of these runs git in the checkout. A command that fails ends the sequence that it belongs to, with
what git wrote on standard error. Commits and merges name their author on the command line, so that no
settings outside of the checkout matter.
-/

namespace Autoformat.Bot.Git

/-- The output of a command, without blanks at its ends. -/
def textOf (output : ByteArray) : String := Text.trim (Utf8.decodeLossy output)

/-- Runs git and returns its output. -/
def run (args : List String) : Action String := do
  match ← ask (.git args) with
  | .error e => throw (.git (.notStarted e))
  | .ok ending =>
    if ending.success then pure (textOf ending.stdout)
    else throw (.git (.failed args (textOf ending.stderr)))

/-- The arguments that name an author. -/
def identityArgs (c : CommitConfig) : List String :=
  ["-c", "user.name=" ++ c.authorName, "-c", "user.email=" ++ c.authorEmail]

/-- The name of the head commit. -/
def headSha : Action String := do
  let sha ← run ["rev-parse", "HEAD"]
  if sha = "" then throw (.git .emptyHead) else pure sha

/-- Fetches from a remote. -/
def fetch (remote refspec : String) : Action Unit := do
  let _ ← run ["fetch", "--no-tags", remote, refspec]

/-- Merges a commit. A merge that fails is taken back, and its error stays. -/
def merge (rev : String) (identity : CommitConfig) : Action Unit := do
  match ← attempt (run (identityArgs identity ++ ["merge", "--no-edit", rev])) with
  | .ok _ => pure ()
  | .error e =>
    let _ ← attempt (run ["merge", "--abort"])
    throw e

/-- The checkout differs from its head commit. -/
def hasChanges : Action Bool := do
  let changes ← run ["status", "--porcelain"]
  pure (changes ≠ "")

/-- The arguments of a commit. -/
def commitArgs (identity : CommitConfig) (message : String) : List String :=
  identityArgs identity ++ ["commit", "--no-verify", "-m", message] ++
    if identity.signoff then ["--signoff"] else []

/-- Commits all changes and returns the name of the commit, or nothing when there are none. -/
def commitAll (identity : CommitConfig) (message : String) : Action (Option String) := do
  if ← hasChanges then
    let _ ← run ["add", "--all"]
    let _ ← run (commitArgs identity message)
    let sha ← headSha
    pure (some sha)
  else pure none

/-- Pushes the head commit to a branch of a remote. -/
def push (remote branch : String) : Action Unit := do
  let _ ← run ["push", remote, "HEAD:refs/heads/" ++ branch]

end Autoformat.Bot.Git
