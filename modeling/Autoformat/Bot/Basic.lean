import Autoformat.Log
import Autoformat.Program

/-!
# What the bot asks of its surroundings

`Bot.interface` lists the questions of a run: calls of the platform, git commands and formatters in the
checkout, whether the run is cancelled, and entries of the log. A `Bot.Action` is a program over it that
may come to nothing with a `BotError`.
-/

namespace Autoformat.Bot

/-- A command that is run in the checkout. -/
structure Command where
  program : String
  args : List String
  /-- Where it runs, below the root of the checkout. -/
  workingDir : Option String
  /-- The time limit in seconds; zero sets none. -/
  timeout : UInt64
  deriving DecidableEq, Repr

/-- What a command that ended leaves behind. -/
structure Ending where
  /-- The exit code; none when a signal ended the command. -/
  code : Option UInt8
  stdout : ByteArray
  stderr : ByteArray

/-- The command ended with an exit code of zero. -/
def Ending.success (e : Ending) : Bool := e.code = some 0

/-- How a command goes. -/
inductive CommandResult where
  | notStarted (e : FileError)
  | timedOut
  /-- The command was started, and its end or its output is not to be had. -/
  | lost (e : FileError)
  /-- The run was cancelled while the command ran. -/
  | interrupted
  | ended (e : Ending)

/-- The places outside of a command where a run takes notice that it is cancelled. -/
inductive Pause where
  /-- Before the first step. -/
  | starting
  /-- While the platform lists the changed files. -/
  | listing
  deriving DecidableEq, Repr

/-- What the bot asks. -/
inductive Request where
  | platform (call : Platform.Call)
  | git (args : List String)
  | command (c : Command)
  | cancelled (at_ : Pause)
  | log (e : Log.Event)

/-- The answers. -/
def Answer : Request → Type
  | .platform call => Except PlatformError call.Result
  | .git _ => Except FileError Ending
  | .command _ => CommandResult
  | .cancelled _ => Bool
  | .log _ => Unit

/-- The surroundings of the bot. -/
abbrev interface : Interface := ⟨Request, Answer⟩

/-- A part of the bot that may come to nothing. -/
abbrev Action (α : Type) := ExceptT BotError (Program interface) α

/-- A single question. -/
def ask (q : Request) : Action (Answer q) := ExceptT.lift (Program.request (I := interface) q)

/-- Reports an event. -/
def log (e : Log.Event) : Action Unit := ask (.log e)

/-- Calls the platform. -/
def call (c : Platform.Call) : Action c.Result := do
  match ← ask (.platform c) with
  | .ok x => pure x
  | .error e => throw (.platform e)

/-- What comes of a part of the bot; the error is left to the caller. -/
def attempt {α : Type} (x : Action α) : Action (Except BotError α) := ExceptT.lift x.run

/-- A result that is known. -/
def orFail {α : Type} (x : Except BotError α) : Action α := ExceptT.mk (pure x)

end Autoformat.Bot
