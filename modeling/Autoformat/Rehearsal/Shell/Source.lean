import Autoformat.Rehearsal.Shell.Syntax

/-!
# The text of a script

A `Source` is what is left of a script. Characters are taken one by one, and a backslash at the end of a
line joins it with the next one. Documents that stand in the script are cut out when the line ends that
announces them.
-/

namespace Autoformat.Rehearsal.Shell

/-- A document that is announced and still to come. -/
structure Announced where
  /-- Its place among the documents. -/
  number : Nat
  /-- The line that ends the document. -/
  marker : String
  dropsTabs : Bool
  /-- Nothing is expanded in the document. -/
  isQuoted : Bool

/-- What is left of a script. -/
structure Source where
  chars : List Char
  /-- How many characters there are at most. -/
  size : Nat
  /-- The line that the rest begins on. -/
  line : Nat := 1
  /-- A piece that was read and put back. -/
  pushed : Option Token := none
  announced : List Announced := []
  /-- The documents so far. -/
  documents : Array Word := #[]

/-- The whole of a text. -/
def Source.ofText (text : String) : Source := { chars := text.toList, size := text.length }

/-- What is wrong with a script, and the line where it shows. -/
structure ScriptFault where
  line : Nat
  message : String
  deriving DecidableEq, Repr

/-- A part of the reader. -/
abbrev Reader (α : Type) := StateT Source (Except ScriptFault) α

/-- Refuses the script. -/
def refuse {α : Type} (message : String) : Reader α := do
  throw ⟨(← get).line, message⟩

/-- The rest of a text after joined lines, and its line. -/
def afterJoins (line : Nat) : List Char → Nat × List Char
  | '\\' :: '\n' :: cs => afterJoins (line + 1) cs
  | cs => (line, cs)

/-- The line is joined with the next one here. -/
def isAtJoin : Reader Bool := do
  match (← get).chars with
  | '\\' :: '\n' :: _ => return true
  | _ => return false

/-- Goes on after joined lines. -/
def skipJoins : Reader Unit :=
  modify fun s =>
    let (line, cs) := afterJoins s.line s.chars
    { s with line := line, chars := cs }

/-- The next character, which stays. -/
def peekChar : Reader (Option Char) := do
  skipJoins
  return (← get).chars.head?

/-- The next character; lines are not joined. -/
def takeRaw : Reader (Option Char) := do
  let s ← get
  match s.chars with
  | [] => return none
  | c :: cs =>
    set { s with chars := cs, line := if c = '\n' then s.line + 1 else s.line }
    return some c

/-- The next character. -/
def takeChar : Reader (Option Char) := do
  skipJoins
  takeRaw

/-- Puts a character back. -/
def putBack (c : Option Char) : Reader Unit :=
  match c with
  | none => pure ()
  | some c =>
    modify fun s => { s with chars := c :: s.chars, line := if c = '\n' then s.line - 1 else s.line }

/-- Takes a character when it comes next. -/
def takeIf (c : Char) : Reader Bool := do
  if (← peekChar) = some c then
    let _ ← takeRaw
    return true
  else return false

/-- Characters of a name. -/
def isNameChar (c : Char) : Bool := c.isAlphanum || c = '_'

/-- Characters that a name begins with. -/
def isNameStart (c : Char) : Bool := c.isAlpha || c = '_'

/-- A name. -/
def isName (s : String) : Bool :=
  match s.toList with
  | [] => false
  | c :: cs => isNameStart c && cs.all isNameChar

/-- Parameters with a name of one special character. -/
def isSpecialParameter (c : Char) : Bool :=
  c.isDigit || ['@', '*', '#', '?', '$', '!', '-'].contains c

/-- The character before and after a command whose output stands in a word, as an older way to write it. -/
def backquote : Char := Char.ofNat 96

/-- Characters that end a word. -/
def endsWord (c : Char) : Bool := [' ', '\t', '\n', ';', '&', '|', '<', '>', '(', ')'].contains c

/-- The lines of a text, each with its end, the last one first; after a line that has begun. -/
def splitFrom (soFar : List (List Char)) (line : List Char) : List Char → List (List Char)
  | [] => if line.isEmpty then soFar else line.reverse :: soFar
  | c :: cs =>
    if c = '\n' then splitFrom ((c :: line).reverse :: soFar) [] cs else splitFrom soFar (c :: line) cs

/-- The lines of a text, each with its end. -/
def splitLines (cs : List Char) : List (List Char) := (splitFrom [] [] cs).reverse

/-- A text cut at a document's marker. -/
structure DocumentCut where
  inside : List (List Char) := []
  after : List (List Char) := []
  /-- The lines that the document takes, with its marker. -/
  taken : Nat := 0

/-- The lines of a document, up to its marker. A line that ends with a backslash hides the marker on the
next one, unless nothing in the document is expanded. -/
def cutDocument (a : Announced) (isJoined : Bool) : List (List Char) → DocumentCut
  | [] => {}
  | line :: rest =>
    let line := if a.dropsTabs then line.dropWhile (· = '\t') else line
    let text := line.takeWhile (· ≠ '\n')
    if !isJoined && String.ofList text = a.marker then { after := rest, taken := 1 }
    else
      let slashes := (text.reverse.takeWhile (· = '\\')).length
      let cut := cutDocument a (!a.isQuoted && slashes % 2 = 1) rest
      { cut with inside := line :: cut.inside, taken := cut.taken + 1 }

/-- How an error names what stands where a piece is expected. -/
def unexpected {α : Type} (t : Token) (expected : Option Token) : Reader α :=
  match expected with
  | none => refuse s!"Syntax error: {t.name} unexpected"
  | some e => refuse s!"Syntax error: {t.name} unexpected (expecting {e.name})"

end Autoformat.Rehearsal.Shell
