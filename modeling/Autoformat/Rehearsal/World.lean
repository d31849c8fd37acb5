import Autoformat.Bot.Basic
import Autoformat.Rehearsal.Url.Address
import Autoformat.Platform.Http
import Autoformat.Platform.Memory
import Autoformat.Rehearsal.Tree

/-!
# The world of a rehearsal

A `World` holds all that the bot can ask about: a platform in memory, files, the answers that git is to
give, and the log. It also keeps what was asked of git.

The modules of `Rehearsal` stand for the surroundings of the bot when it is tried out without a server, a
checkout and formatters. Neither the bot nor any theorem about it depends on them.
-/

namespace Autoformat.Rehearsal

/-- An answer that git is to give. -/
structure GitReply where
  stdout : ByteArray := .empty
  stderr : ByteArray := .empty
  code : UInt8 := 0

/-- A git command that was run. -/
structure GitCall where
  args : List String
  directory : String
  deriving DecidableEq, Repr

/-- All that the bot can ask about. -/
structure World where
  tree : Tree
  platform : Platform.Memory := {}
  /-- The answers that git is still to give; after them it succeeds without output. -/
  replies : List GitReply := []
  /-- The git commands so far. -/
  gitCalls : List GitCall := []
  /-- The answers that the server is still to give; none when it cannot be reached. -/
  server : Option (List Http.Response) := none
  /-- The requests that reached the server. -/
  requests : List Http.Request := []
  log : List Log.Entry := []
  /-- What was printed, line by line. -/
  printed : List String := []
  /-- A command that waits reaches its time limit at once. -/
  clockRuns : Bool := false
  /-- The run is cancelled once this file exists and a command waits. -/
  cancelFile : Option Steps := none

namespace World

/-- Git is run and gives its next answer. -/
def runGit (w : World) (args : List String) (directory : String) : GitReply × World :=
  (w.replies.headD {},
    { w with replies := w.replies.drop 1, gitCalls := w.gitCalls ++ [⟨args, directory⟩] })

/-- The file that cancels the run exists. -/
def isCancelled (w : World) : Bool :=
  match w.cancelFile with
  | none => false
  | some steps => (w.tree.nodes.lookup steps).isSome

/-- Why a request does not reach a server. -/
def unreachable (q : Http.Request) : String :=
  match Address.ofText? q.url with
  | none => "builder error"
  | some a =>
    let a := a.forRequest
    if a.takesRequests then "error sending request for url (" ++ a.text ++ ")"
    else "builder error for url (" ++ a.text ++ ")"

/-- The server gets a request, if it can be reached, and gives its next answer. -/
def exchange (w : World) (q : Http.Request) : Except String Http.Response × World :=
  match w.server with
  | none => (.error (unreachable q), w)
  | some [] =>
    (.ok ⟨500, "no scripted response".toUTF8⟩, { w with requests := w.requests ++ [q] })
  | some (r :: rest) =>
    (.ok r, { w with requests := w.requests ++ [q], server := some rest })

end World

end Autoformat.Rehearsal
