import Autoformat.Bot.Basic
import Autoformat.CommandLine.Failure
import Autoformat.Log.Filter
import Autoformat.Platform.Rest

/-!
# What a command asks of the system

`Console.interface` lists the questions of a command: requests over HTTP, git and formatters in a
directory, files, the clock, and what is shown and logged. A part of the bot is carried out over it by
`Site.carryOut`: the platform is reached over HTTP, and entries of the log belong to the span of the site.
-/

namespace Autoformat.CommandLine

/-- Why a text cannot be put at the end of a file. -/
inductive AppendFault where
  /-- The file cannot be opened. -/
  | opening (e : FileError)
  /-- The open file does not take the text. -/
  | writing (e : FileError)

/-- What a command asks. -/
inductive Console.Request where
  | http (q : Http.Request)
  | git (directory : String) (args : List String)
  | command (directory : String) (c : Bot.Command)
  | cancelled (at_ : Bot.Pause)
  | log (e : Log.Entry)
  /-- The text of a file. -/
  | readText (path : String)
  /-- Puts a text at the end of a file, which is made when there is none. -/
  | appendText (path text : String)
  /-- Shows a text on lines of its own. -/
  | print (text : String)
  /-- Milliseconds since some moment. -/
  | clock
  /-- A name for a run that has none. -/
  | freshName

/-- The answers. -/
def Console.Answer : Console.Request → Type
  | .http _ => Except String Http.Response
  | .git .. => Except FileError Bot.Ending
  | .command .. => Bot.CommandResult
  | .cancelled _ => Bool
  | .log _ => Unit
  | .readText _ => Except FileError String
  | .appendText .. => Except AppendFault Unit
  | .print _ => Unit
  | .clock => Nat
  | .freshName => String

/-- The surroundings of a command. -/
abbrev Console.interface : Interface := ⟨Console.Request, Console.Answer⟩

/-- A part of a command that may fail. -/
abbrev Action (α : Type) := ExceptT Failure (Program Console.interface) α

/-- A single question. -/
def ask (q : Console.Request) : Action (Console.Answer q) :=
  ExceptT.lift (Program.request (I := Console.interface) q)

/-- Fails, with the causes behind an error. -/
def failWith {α : Type} (headline : String) (e : BotError) : Action α :=
  throw ⟨headline, e.causes⟩

/-- A result whose error is a failure. -/
def orFail {α : Type} (headline : String) : Except BotError α → Action α
  | .ok a => pure a
  | .error e => failWith headline e

/-- A value that has to be there. -/
def require {α : Type} (headline : String) : Option α → Action α
  | some a => pure a
  | none => throw ⟨headline, []⟩

/-- The answer to a question when only a part of the log is shown. -/
def Console.filtered (f : Log.Filter) :
    (q : Console.Request) → Program Console.interface (Console.Answer q)
  | .log e =>
    match f.shown? e with
    | some e => Program.request (I := Console.interface) (.log e)
    | none => pure ()
  | q => Program.request (I := Console.interface) q

/-- Where a part of the bot is carried out. -/
structure Site where
  client : Rest.Client
  /-- The checkout. -/
  directory : String := "."
  /-- The run to which entries of the log belong. -/
  span : Option Log.Span := none

namespace Site

/-- The answer to a question of the bot. -/
def answer (site : Site) : (q : Bot.Request) → Program Console.interface (Bot.Answer q)
  | .platform call =>
    (site.client.answer call).run fun q => Program.request (I := Console.interface) (.http q)
  | .git args => Program.request (I := Console.interface) (.git site.directory args)
  | .command c => Program.request (I := Console.interface) (.command site.directory c)
  | .cancelled at_ => Program.request (I := Console.interface) (.cancelled at_)
  | .log e => Program.request (I := Console.interface) (.log ⟨e, site.span⟩)

/-- Carries out a part of the bot; its error is left to the caller. -/
def carryOut {α : Type} (site : Site) (x : Bot.Action α) : Action (Except BotError α) :=
  ExceptT.lift (x.run.run site.answer)

end Site

end Autoformat.CommandLine
