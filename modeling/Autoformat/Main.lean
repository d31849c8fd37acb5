import Autoformat.CommandLine.Basic

/-!
# The program

`main` answers the questions of a command line from the files, the environment and the console of the
system. It has no network and starts no other program: requests stay unanswered, and git and formatters
are not found.
-/

namespace Autoformat.CommandLine

/-- An error of the system as a file error. -/
def fileError : IO.Error → FileError
  | .noFileOrDirectory .. => .notFound
  | .permissionDenied .. => .permissionDenied
  | .inappropriateType .. => .isADirectory
  | e => .refused (toString e) 5

/-- The result of an action on a file. -/
def onFile {α : Type} (x : IO α) : IO (Except FileError α) := do
  try
    return .ok (← x)
  catch e =>
    return .error (fileError e)

/-- The text of a file. -/
def textOfFile (path : String) : IO (Except FileError String) := do
  match ← onFile (IO.FS.readBinFile path) with
  | .error e => return .error e
  | .ok bytes =>
    match String.fromUTF8? bytes with
    | some text => return .ok text
    | none => return .error .invalidText

/-- Puts a text at the end of a file. -/
def appendToFile (path text : String) : IO (Except AppendFault Unit) := do
  match ← onFile (IO.FS.Handle.mk path .append) with
  | .error e => return .error (.opening e)
  | .ok handle =>
    let written ← onFile do
      handle.putStr text
      handle.flush
    return written.mapError .writing

/-- The answer of the system to a question of a command. -/
def systemAnswer (json : Bool) : (q : Console.Request) → IO (Console.Answer q)
  | .http q => return .error ("no connection for url (" ++ q.url ++ ")")
  | .git .. => return .error .notFound
  | .command .. => return .notStarted .notFound
  | .cancelled _ => return false
  | .log e => IO.eprintln (if json then e.encode.compact else e.line)
  | .readText path => textOfFile path
  | .appendText path text => appendToFile path text
  | .print text => IO.println text
  | .clock => IO.monoMsNow
  | .freshName => return toString (← IO.rand 0 (UInt64.size - 1))

/-- The variables of the system that matter. -/
def systemEnvironment : IO Environment := do
  let found ← (Log.Filter.variableName :: variableNames ++ Config.variableNames).filterMapM fun name => do
    return (← IO.getEnv name).map fun value => (name, value)
  return fun name => found.lookup name

/-- The log is to be written as JSON. -/
def logsJson (env : Environment) (args : List String) : Bool :=
  match Invocation.ofArguments env args with
  | .ok i => i.settings.json
  | .error _ => false

end Autoformat.CommandLine

open Autoformat CommandLine in
/-- Carries out the command line and returns its exit code. -/
def main (args : List String) : IO UInt32 := do
  let env ← systemEnvironment
  let exit ← (start env args).run (systemAnswer (logsJson env args))
  match exit.complaint? with
  | some text => IO.eprintln text
  | none => pure ()
  return exit.code.toUInt32
