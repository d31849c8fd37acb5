import Autoformat.Rehearsal.Shell.Conditions
import Autoformat.Rehearsal.Shell.Control
import Autoformat.Rehearsal.Shell.Format

/-!
# The commands of the shell by their names
-/

namespace Autoformat.Rehearsal.Shell

/-- Decides about its arguments. -/
def testCondition (isBracket : Bool) : Builtin := fun args => do
  match ← (Conditions.decideFor isBracket args).run with
  | .ok b => return { status := if b then 0 else 1 }
  | .error message =>
    warn message
    return { status := 2 }

/-- Writes arguments in a format. -/
def printFormat : Builtin := fun args => do
  match (← optionsOf [] [] args).2 with
  | [] => failWith "usage: printf format [arg ...]"
  | format :: args =>
    let r := Format.run .shell format args
    for complaint in r.complaints do
      warn complaint
    match r.invalid with
    | some text =>
      warn text
      return ⟨2, r.output⟩
    | none => return ⟨if r.complaints.isEmpty then 0 else 1, r.output⟩

/-- The command of the shell with a name. -/
def builtin? (self : Interpreter) (isTested : Bool) (name : String) : Option Builtin :=
  match name with
  | ":" | "true" => some fun _ => return {}
  | "false" => some fun _ => return { status := 1 }
  | "." => some (runFile self)
  | "[" => some (testCondition true)
  | "alias" => some setAliases
  | "bg" | "fg" => some noJob
  | "break" => some leaveLoops
  | "cd" | "chdir" => some changeDirectory
  | "command" => some tellMeaning
  | "continue" => some continueLoops
  | "echo" => some fun args => return { output := Format.echoInShell args }
  | "eval" => some (runArguments self isTested)
  | "exec" => some (becomeProgram self)
  | "exit" => some leaveShell
  | "export" => some exportVariables
  | "getopts" => some getOption
  | "hash" => some findPrograms
  | "jobs" => some fun args => if args.isEmpty || args = ["-l"] then return {} else noJob args
  | "kill" => some (sendSignals self)
  | "local" => some makeLocal
  | "printf" => some printFormat
  | "pwd" => some tellDirectory
  | "read" => some readVariables
  | "readonly" => some makeReadOnly
  | "return" => some leaveFunction
  | "set" => some changeSettings
  | "shift" => some dropArguments
  | "test" => some (testCondition false)
  | "times" => some fun _ => return .ofLines ["0m0.000000s 0m0.000000s", "0m0.000000s 0m0.000000s"]
  | "trap" => some setTraps
  | "type" => some tellMeanings
  | "ulimit" => some fun _ => return .ofLines ["unlimited"]
  | "umask" => some changeMask
  | "unalias" => some dropAliases
  | "unset" => some dropNames
  | "wait" => some (waitForJobs self)
  | _ => none

end Autoformat.Rehearsal.Shell
