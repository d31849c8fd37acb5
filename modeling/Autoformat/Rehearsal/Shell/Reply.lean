import Autoformat.Rehearsal.Shell.Expand

/-!
# Commands of the shell

A command of the shell gets its arguments and gives a `Reply`. What it writes to standard output is kept
until its end; what it writes to standard error is not.
-/

namespace Autoformat.Rehearsal.Shell

/-- What a command of the shell comes to. -/
structure Reply where
  status : Nat := 0
  output : ByteArray := .empty

/-- A reply that consists of a text. -/
def Reply.ofText (s : String) : Reply := { output := s.toUTF8 }

/-- A reply that consists of lines. -/
def Reply.ofLines (lines : List String) : Reply := .ofText (String.join (lines.map (· ++ "\n")))

/-- A command of the shell. -/
abbrev Builtin := List String → Process Reply

/-- The number that an argument has to be. -/
def numberOf (s : String) : Process Nat :=
  match digits? s with
  | some n => return n
  | none => failWith ("Illegal number: " ++ s)

/-- Options with the operands after them, from what is left of a word and the words after it. -/
def takeOptions (plain argued : List Char) (soFar : List (Char × String)) :
    Nat → List Char → List String → Process (List (Char × String) × List String)
  | 0, _, args => return (soFar.reverse, args)
  | fuel + 1, c :: cs, args =>
    if argued.contains c then
      match cs, args with
      | [], [] => failWith s!"No arg for -{c} option"
      | [], arg :: args => takeOptions plain argued ((c, arg) :: soFar) fuel [] args
      | cs, args => takeOptions plain argued ((c, String.ofList cs) :: soFar) fuel [] args
    else if plain.contains c then takeOptions plain argued ((c, "") :: soFar) fuel cs args
    else failWith s!"Illegal option -{c}"
  | _, [], [] => return (soFar.reverse, [])
  | fuel + 1, [], word :: rest =>
    if word = "--" then return (soFar.reverse, rest)
    else
      match word.toList with
      | '-' :: c :: cs => takeOptions plain argued soFar fuel (c :: cs) rest
      | _ => return (soFar.reverse, word :: rest)

/-- The options and operands among the arguments of a command of the shell. -/
def optionsOf (plain argued : List Char) (args : List String) :
    Process (List (Char × String) × List String) :=
  takeOptions plain argued [] ((args.map fun s => s.length + 2).foldl (· + ·) 1) [] args

/-- The parts of a text in single quotes; single quotes stand between double ones. -/
def singleQuotedFrom : Nat → List Char → List Char
  | 0, _ => []
  | fuel + 1, cs =>
    let plain := cs.takeWhile (· ≠ '\'')
    let rest := cs.drop plain.length
    let quotes := rest.takeWhile (· = '\'')
    let rest := rest.drop quotes.length
    let start := '\'' :: plain ++ ['\'']
    let middle := if quotes.isEmpty then [] else '"' :: quotes ++ ['"']
    start ++ middle ++ if rest.isEmpty then [] else singleQuotedFrom fuel rest

/-- A text as the shell could read it again. -/
def singleQuoted (s : String) : String := String.ofList (singleQuotedFrom (s.length + 1) s.toList)

end Autoformat.Rehearsal.Shell
