/-!
# Shell scripts

The command language of a shell: words with quoting and expansions, redirections, lists, pipelines,
compound commands and functions.
-/

namespace Autoformat.Rehearsal.Shell

/-- What a script takes from a parameter. `orEmpty` treats an empty value like none. -/
inductive Use where
  | value
  | length
  /-- The word where there is no value. -/
  | orElse (orEmpty : Bool)
  /-- The word, which becomes the value, where there is none. -/
  | orAssign (orEmpty : Bool)
  /-- An error where there is no value. -/
  | orFail (orEmpty : Bool)
  /-- The word where there is a value. -/
  | instead (orEmpty : Bool)
  /-- The value without the start, or the end, that the word matches. -/
  | withoutStart (longest : Bool)
  | withoutEnd (longest : Bool)
  /-- None of these. -/
  | unknown
  deriving DecidableEq, Repr

/-- What a redirection does with a stream. -/
inductive Redirection where
  | input
  | output
  /-- Replaces a file even when the shell is told to keep files. -/
  | overwrite
  | append
  /-- Opens a file for both. -/
  | both
  /-- Makes a stream the same as another. -/
  | duplicate
  /-- Reads a document that stands in the script. -/
  | document (n : Nat)
  deriving DecidableEq, Repr

/-- A redirection of a stream to what a word names. -/
structure Redirect (Word : Type) where
  stream : Nat
  kind : Redirection
  target : Word
  deriving DecidableEq, Repr

mutual

/-- A part of a word. -/
inductive Part where
  /-- Characters as they stand. -/
  | plain (s : String)
  /-- Characters that have lost their meaning. -/
  | quoted (s : String)
  /-- Parts in double quotes. -/
  | group (parts : List Part)
  | parameter (name : String) (use : Use) (word : List Part)
  /-- The output of commands. -/
  | output (body : Command)
  /-- The value of an expression. -/
  | arithmetic (parts : List Part)

/-- A command. -/
inductive Command where
  | nothing
  /-- Assignments, a program with its arguments, and redirections, on a line of the script. -/
  | simple (line : Nat) (assignments : List (String × List Part)) (words : List (List Part))
      (redirects : List (Redirect (List Part)))
  | sequence (a b : Command)
  /-- The second command only if the first succeeds. -/
  | both (a b : Command)
  /-- The second command only if the first fails. -/
  | either (a b : Command)
  /-- Success and failure exchanged. -/
  | negation (a : Command)
  /-- Each command reads what the one before it writes. -/
  | pipeline (commands : List Command)
  /-- A command that is not waited for. -/
  | background (body : Command)
  /-- A command in a shell of its own. -/
  | subshell (line : Nat) (body : Command) (redirects : List (Redirect (List Part)))
  | redirected (line : Nat) (body : Command) (redirects : List (Redirect (List Part)))
  | branch (condition yes no : Command)
  /-- The body for each word. -/
  | each (line : Nat) (name : String) (words : List (List Part)) (body : Command)
  /-- The body as long as the condition succeeds, or until it does. -/
  | loop (untilSuccess : Bool) (condition body : Command)
  /-- The body of the first case with a pattern that the word matches. -/
  | choice (line : Nat) (word : List Part) (cases : List (List (List Part) × Command))
  /-- A new command. -/
  | define (name : String) (body : Command)

end

/-- A word, before it is expanded. -/
abbrev Word := List Part

/-- The word as it stands, when nothing in it is quoted or expanded. -/
def plainText? : Word → Option String
  | [] => some ""
  | .plain s :: rest => (plainText? rest).map (s ++ ·)
  | _ => none

/-- The characters of a word that is not expanded, quoted or not. -/
def literalText : Word → String
  | [] => ""
  | .plain s :: rest => s ++ literalText rest
  | .quoted s :: rest => s ++ literalText rest
  | .group parts :: rest => literalText parts ++ literalText rest
  | _ :: rest => literalText rest

/-- Some part of the word is quoted. -/
def isQuotedWord (w : Word) : Bool :=
  w.any fun
    | .quoted _ => true
    | .group _ => true
    | _ => false

/-- A word of a single value. -/
def valueWord (name : String) : Word := [.group [.parameter name .value []]]

/-- A piece of a script. -/
inductive Token where
  | word (w : Word)
  | keyword (s : String)
  | operator (s : String)
  | newline
  | ending
  /-- A redirection operator and the stream it is for. -/
  | redirect (stream : Nat) (kind : Redirection)
  /-- The operator of a document; tabs in front of its lines may be dropped. -/
  | document (stream : Nat) (dropsTabs : Bool)

/-- The words that a script is built with. -/
def keywords : List String :=
  ["!", "case", "do", "done", "elif", "else", "esac", "fi", "for", "if", "in", "then", "until",
    "while", "\x7b", "\x7d"]

/-- How an error names a piece. -/
def Token.name : Token → String
  | .word _ => "word"
  | .keyword s => "\"" ++ s ++ "\""
  | .operator s => "\"" ++ s ++ "\""
  | .newline => "newline"
  | .ending => "end of file"
  | .redirect .. => "redirection"
  | .document .. => "redirection"

/-- The piece may end a list of commands. -/
def Token.endsList : Token → Bool
  | .ending => true
  | .operator s => s = ")" || s = ";;"
  | .keyword s => ["do", "done", "elif", "else", "esac", "fi", "then", "\x7d"].contains s
  | _ => false

end Autoformat.Rehearsal.Shell
