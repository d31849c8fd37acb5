import Autoformat.Error

/-!
# Failures of a command

A `Failure` says what a command could not do and why. `Failure.report` is what is shown of it: a single
cause stands alone, and several are numbered, from the nearest to the farthest.
-/

namespace Autoformat

namespace BotError

/-- The error and the errors behind it. -/
def causes (e : BotError) : List String :=
  match e with
  | .serialization cause => [e.message, cause.message]
  | .file cause => [e.message, cause.message]
  | e => [e.message]

end BotError

namespace CommandLine

/-- What a command could not do, and why. -/
structure Failure where
  headline : String
  causes : List String := []
  deriving DecidableEq, Repr

namespace Failure

/-- A text whose lines after the first are indented. -/
def indentRest (indent : List Char) (s : String) : String :=
  String.ofList (s.toList.flatMap fun c => if c = '\n' then c :: indent else [c])

/-- A text on a line of its own, indented by the given number of blanks. -/
def indented (width : Nat) (mark text : String) : String :=
  let blanks := List.replicate width ' '
  "\n" ++ String.ofList (blanks.take (width - mark.length)) ++ mark ++ indentRest blanks text

/-- The causes of a failure, each on a line of its own. -/
def causeLines : List String → List String
  | [] => []
  | [cause] => [indented 4 "" cause]
  | causes => causes.zipIdx.map fun (cause, n) => indented 7 (toString n ++ ": ") cause

/-- What is shown of a failure. -/
def report (f : Failure) : String :=
  "Error: " ++ f.headline ++
    if f.causes.isEmpty then "" else "\n\nCaused by:" ++ String.join (causeLines f.causes)

end Failure

end CommandLine

end Autoformat
