import Autoformat.Rehearsal.Shell.Options
import Autoformat.Rehearsal.Shell.Regex

/-!
# Scripts that edit lines

A `Script` is a list of commands, each with the addresses of the lines that it is for. Blocks and labels
are kept as places in the list. `Script.ofPieces` reads a script from the texts that it was given in, and
says in which of them, and after how many characters, something is wrong.
-/

namespace Autoformat.Rehearsal.Shell.Sed

/-- An expression that is looked for; without one, it is the one that was looked for last. -/
structure Expression where
  regex : Option Regex
  ignoresCase : Bool := false
  /-- The lines of a text have starts and ends of their own. -/
  hasLines : Bool := false

/-- Which lines a command is for. -/
inductive Address where
  | line (n : Nat)
  /-- Every so many lines, from one on. -/
  | every (first step : Nat)
  | last
  | found (e : Expression)

/-- Where a range of lines ends. -/
inductive Finish where
  | address (a : Address)
  /-- So many lines later. -/
  | after (n : Nat)
  /-- At a line whose number is a multiple. -/
  | multiple (n : Nat)

/-- How letters change. -/
inductive Casing where
  | upper
  | lower
  | nextUpper
  | nextLower
  | plain
  deriving DecidableEq

/-- A piece of a replacement. -/
inductive Piece where
  | text (c : Char)
  | group (n : Nat)
  | casing (c : Casing)

/-- A replacement of what is found. -/
structure Substitution where
  target : Expression
  replacement : List Piece
  /-- The first match that is replaced. -/
  count : Nat := 1
  /-- All matches from there on are replaced. -/
  isGlobal : Bool := false
  prints : Bool := false
  /-- The result is run as a command. -/
  runs : Bool := false
  file : Option String := none

/-- When a jump is taken. -/
inductive Jump where
  | always
  | ifReplaced
  | unlessReplaced

/-- What a command does. -/
inductive Action where
  /-- A block up to a place in the list. -/
  | block (finish : Nat)
  | nothing
  | number
  | append (text : List Char)
  | insert (text : List Char)
  | change (text : List Char)
  | delete
  | deleteLine
  /-- Runs a command, or what is worked on. -/
  | run (command : List Char)
  | fileName
  | takeHold
  | addHold
  | hold
  | holdMore
  | swap
  | showAll (width : Option Nat)
  | next
  | nextMore
  | print
  | printLine
  | quit (code : Nat)
  | quitSilently (code : Nat)
  | readFile (path : String)
  | readLine (path : String)
  | write (path : String)
  | writeLine (path : String)
  | substitute (s : Substitution)
  | replaceEach (pairs : List (Char × Char))
  | jump (kind : Jump) (label : String)
  | clear

/-- A command with its addresses. -/
structure Command where
  first : Option Address := none
  last : Option Finish := none
  /-- The command is for the other lines. -/
  isNegated : Bool := false
  action : Action

/-- A script. -/
structure Script where
  commands : Array Command := #[]
  labels : List (String × Nat) := []
  /-- Only commands print. -/
  isQuiet : Bool := false
  /-- The files that commands write to. -/
  files : List String := []

/-- Where a piece of a script was found. -/
inductive Origin where
  | expression (n : Nat)
  | file (path : String)

/-- What is wrong with a script. -/
structure ScriptError where
  message : String
  status : Nat := 1

/-- A reader of a script. -/
structure Reader where
  origin : Origin
  rest : List Char
  /-- The characters that were taken of the piece. -/
  taken : Nat := 0
  line : Nat := 1
  script : Script := {}
  /-- The blocks that are open, and where they begin: the piece and the line. -/
  blocks : List (Nat × Origin × Nat) := []
  /-- A text that goes on in the next piece, of the last command. -/
  pending : Option (List Char) := none
  isExtended : Bool

/-- A part of the reader. -/
abbrev Reading (α : Type) := StateT Reader (Except ScriptError) α

/-- Where something is wrong. -/
def Origin.at (o : Origin) (taken line : Nat) : String :=
  match o with
  | .expression n => s!"-e expression #{n}, char {taken}"
  | .file path => s!"file {path} line {line}"

/-- Refuses the script. -/
def refuse {α : Type} (message : String) : Reading α := do
  let r ← get
  let place := r.origin.at r.taken r.line
  throw { message := s!"{place}: {message}" }

/-! ## Characters -/

/-- The next character. -/
def take : Reading (Option Char) := do
  let r ← get
  match r.rest with
  | [] => return none
  | c :: cs =>
    set { r with rest := cs, taken := r.taken + 1, line := if c = '\n' then r.line + 1 else r.line }
    return some c

/-- Puts a character back. -/
def putBack (c : Option Char) : Reading Unit :=
  match c with
  | none => pure ()
  | some c =>
    modify fun r =>
      { r with rest := c :: r.rest, taken := r.taken - 1, line := if c = '\n' then r.line - 1 else r.line }

/-- A blank in a line. -/
def isBlank (c : Char) : Bool := c = ' ' || c = '\t'

/-- Takes the characters that pass a test. -/
def takeWhile (test : Char → Bool) : Reading (List Char) := do
  let r ← get
  let run := r.rest.takeWhile test
  set { r with
    rest := r.rest.drop run.length
    taken := r.taken + run.length
    line := r.line + run.count '\n' }
  return run

/-- The next character that is not blank. -/
def takeNonBlank : Reading (Option Char) := do
  let _ ← takeWhile isBlank
  take

/-- The number that begins with a digit. -/
def takeNumber (first : Char) : Reading Nat := do
  let ds ← takeWhile Char.isDigit
  return (digits? (String.ofList (first :: ds))).getD 0

/-- The number that comes next; without digits it is zero. -/
def takeOptionalNumber : Reading Nat := do
  match ← takeNonBlank with
  | some c =>
    if c.isDigit then takeNumber c
    else
      putBack (some c)
      return 0
  | none => return 0

/-! ## Escapes -/

/-- The value of digits of a base, at most so many, and what follows them. -/
def escapedNumber? (base most : Nat) (cs : List Char) : Option (Char × List Char) :=
  let value? (c : Char) : Option Nat :=
    let n :=
      if c.isDigit then c.toNat - '0'.toNat
      else if 'a' ≤ c.toLower && c.toLower ≤ 'f' then c.toLower.toNat - 'a'.toNat + 10
      else 16
    if n < base then some n else none
  let ds := (cs.take most).takeWhile fun c => (value? c).isSome
  if ds.isEmpty then none
  else
    let n := (ds.filterMap value?).foldl (fun n d => base * n + d) 0
    some (Char.ofNat (n % 256), cs.drop ds.length)

/-- The character that an escape stands for, after its backslash, and what follows it. -/
def escape? (cs : List Char) : Option (Char × List Char) :=
  match cs with
  | 'a' :: rest => some ('\x07', rest)
  | 'f' :: rest => some ('\x0c', rest)
  | 'n' :: rest => some ('\n', rest)
  | 'r' :: rest => some ('\x0d', rest)
  | 't' :: rest => some ('\t', rest)
  | 'v' :: rest => some ('\x0b', rest)
  | 'c' :: c :: rest => some (Char.ofNat ((c.toUpper.toNat + 64) % 128), rest)
  | 'd' :: rest => escapedNumber? 10 3 rest
  | 'o' :: rest => escapedNumber? 8 3 rest
  | 'x' :: rest => escapedNumber? 16 2 rest
  | _ => none

/-- An expression whose escapes are characters. -/
def plainExpression : Nat → List Char → List Char
  | 0, _ => []
  | _, [] => []
  | fuel + 1, '\\' :: cs =>
    match escape? cs with
    | some (c, rest) =>
      let isOperator := ['$', '*', '.', '[', '\\', ']', '^'].contains c
      (if isOperator then ['\\', c] else [c]) ++ plainExpression fuel rest
    | none =>
      match cs with
      | c :: rest => '\\' :: c :: plainExpression fuel rest
      | [] => ['\\']
  | fuel + 1, c :: cs => c :: plainExpression fuel cs

/-- A text whose escapes are characters, and without other backslashes. -/
def plainText : Nat → List Char → List Char
  | 0, _ => []
  | _, [] => []
  | fuel + 1, '\\' :: cs =>
    match escape? cs with
    | some (c, rest) => c :: plainText fuel rest
    | none =>
      match cs with
      | c :: rest => c :: plainText fuel rest
      | [] => []
  | fuel + 1, c :: cs => c :: plainText fuel cs

/-- The pieces of a replacement. -/
def pieces : Nat → List Char → List Piece
  | 0, _ => []
  | _, [] => []
  | fuel + 1, '&' :: cs => .group 0 :: pieces fuel cs
  | fuel + 1, '\\' :: c :: cs =>
    if c.isDigit then .group (c.toNat - '0'.toNat) :: pieces fuel cs
    else
      match c with
      | 'U' => .casing .upper :: pieces fuel cs
      | 'L' => .casing .lower :: pieces fuel cs
      | 'u' => .casing .nextUpper :: pieces fuel cs
      | 'l' => .casing .nextLower :: pieces fuel cs
      | 'E' => .casing .plain :: pieces fuel cs
      | c =>
        match escape? (c :: cs) with
        | some (c, rest) => .text c :: pieces fuel rest
        | none => .text c :: pieces fuel cs
  | fuel + 1, c :: cs => .text c :: pieces fuel cs

/-! ## Expressions -/

/-- Takes a set in brackets, after the opening one, up to its end; none if it has none. -/
def takeSet : Nat → Reading (Option (List Char))
  | 0 => return none
  | fuel + 1 => do
    match ← take with
    | none => return none
    | some '\n' =>
      putBack (some '\n')
      return none
    | some ']' => return some [']']
    | some '[' => do
      match ← take with
      | some mark =>
        if [':', '.', '='].contains mark then
          let inside ← takeWhile fun c => c ≠ ']' && c ≠ '\n'
          match ← take with
          | some ']' =>
            let more ← takeSet fuel
            return more.map fun cs => '[' :: mark :: inside ++ ']' :: cs
          | c =>
            putBack c
            return none
        else
          putBack (some mark)
          return (← takeSet fuel).map ('[' :: ·)
      | none => return none
    | some '\\' => do
      match ← take with
      | some 'n' => return (← takeSet fuel).map ('\n' :: ·)
      | some c =>
        if c = ']' then
          putBack (some c)
          return (← takeSet fuel).map ('\\' :: ·)
        else return (← takeSet fuel).map fun cs => '\\' :: c :: cs
      | none => return none
    | some c => return (← takeSet fuel).map (c :: ·)

/-- Takes the text up to a delimiter that no backslash stands before; none if there is no such. -/
def takeDelimited (delimiter : Char) (isExpression : Bool) : Nat → Reading (Option (List Char))
  | 0 => return none
  | fuel + 1 => do
    match ← take with
    | none => return none
    | some c =>
      if c = delimiter then return some []
      else if c = '\n' && isExpression then
        putBack (some c)
        return none
      else if c = '\\' then
        match ← take with
        | none => return none
        | some d =>
          let more ← takeDelimited delimiter isExpression fuel
          let kept : List Char :=
            if d = delimiter then (if !isExpression && d = '&' then ['\\', d] else [d])
            else if d = 'n' && isExpression then ['\n']
            else if d = '\n' then (if isExpression then [d] else ['\\', d])
            else ['\\', d]
          return more.map (kept ++ ·)
      else if c = '[' && isExpression then
        let start ← takeSetStart
        match ← takeSet fuel with
        | none => return none
        | some inside =>
          let more ← takeDelimited delimiter isExpression fuel
          return more.map fun cs => '[' :: start ++ inside ++ cs
      else if c = '\n' then
        putBack (some c)
        return none
      else return (← takeDelimited delimiter isExpression fuel).map (c :: ·)
where
  /-- The signs at the start of a set that do not end it. -/
  takeSetStart : Reading (List Char) := do
    let r ← get
    let start : List Char :=
      match r.rest with
      | '^' :: ']' :: _ => ['^', ']']
      | '^' :: _ => ['^']
      | ']' :: _ => [']']
      | _ => []
    set { r with rest := r.rest.drop start.length, taken := r.taken + start.length }
    return start

/-- Reads an expression; gives the number of its groups too. -/
def readExpression (text : List Char) (ignoresCase hasLines : Bool) : Reading (Expression × Nat) := do
  if text.isEmpty then
    if ignoresCase || hasLines then refuse "cannot specify modifiers on empty regexp"
    else return (⟨none, false, false⟩, 9)
  else
    match Regex.parse ⟨(← get).isExtended, true⟩ (plainExpression (text.length + 1) text) with
    | .ok p => return (⟨some p.regex, ignoresCase, hasLines⟩, p.groups)
    | .error .classOutside => throw ⟨Regex.Fault.classOutside.message, 4⟩
    | .error e => refuse e.message

/-! ## Addresses -/

/-- The flags of an expression in an address. -/
def takeFlags (ignoresCase hasLines : Bool) : Nat → Reading (Bool × Bool)
  | 0 => return (ignoresCase, hasLines)
  | fuel + 1 => do
    match ← takeNonBlank with
    | some 'I' => takeFlags true hasLines fuel
    | some 'M' => takeFlags ignoresCase true fuel
    | c =>
      putBack c
      return (ignoresCase, hasLines)

/-- The address that begins with a character. -/
def readFinish? (c : Char) : Reading (Option Finish) := do
  let fuel := (← get).rest.length + 2
  if c = '/' || c = '\\' then
    let delimiter ← if c = '\\' then take else pure (some c)
    match ← takeDelimited (delimiter.getD '/') true fuel with
    | none => refuse "unterminated address regex"
    | some text =>
      let (ignoresCase, hasLines) ← takeFlags false false fuel
      return some (.address (.found (← readExpression text ignoresCase hasLines).1))
  else if c.isDigit then
    let n ← takeNumber c
    match ← takeNonBlank with
    | some '~' =>
      let step ← takeOptionalNumber
      return some (.address (if step = 0 then .line n else .every n step))
    | d =>
      putBack d
      return some (.address (.line n))
  else if c = '+' then return some (.after (← takeOptionalNumber))
  else if c = '~' then return some (.multiple (← takeOptionalNumber))
  else if c = '$' then return some (.address .last)
  else return none

/-! ## Commands -/

/-- The end of a command. -/
def endCommand : Reading Unit := do
  match ← takeNonBlank with
  | none => pure ()
  | some c =>
    if c = '}' || c = '#' then putBack (some c)
    else if c ≠ '\n' && c ≠ ';' then refuse "extra characters after command"

/-- A label. -/
def readLabel : Reading String := do
  let _ ← takeWhile isBlank
  let cs ← takeWhile fun c => !Regex.isSpaceChar c && c ≠ ';' && c ≠ '}'
  return textOfChars cs

/-- A path up to the end of the line. -/
def readPath : Reading String := do
  let _ ← takeWhile isBlank
  let cs ← takeWhile (· ≠ '\n')
  let _ ← take
  if cs.isEmpty then refuse "missing filename in r/R/w/W commands"
  else return textOfChars cs

/-- A text up to the end of its line; a backslash joins it with the next one. Tells too whether it goes
on in another piece. -/
def takeText (soFar : List Char) : Nat → Reading (List Char × Bool)
  | 0 => return (soFar.reverse, false)
  | fuel + 1 => do
    match ← take with
    | none => return (soFar.reverse, false)
    | some '\n' => return (soFar.reverse, false)
    | some '\\' =>
      match ← take with
      | none => return (soFar.reverse, true)
      | some c => takeText (c :: '\\' :: soFar) fuel
    | some c => takeText (c :: soFar) fuel

/-- A text as it is written: with a line end. -/
def textOf (cs : List Char) : List Char := plainText (cs.length + 1) cs ++ ['\n']

/-- The text of a command. -/
def readText : Reading (List Char) := do
  match ← takeNonBlank with
  | none => refuse "expected \\ after \x60a', \x60c' or \x60i'"
  | some c =>
    if c ≠ '\\' then putBack (some c)
    else
      let r ← get
      let after := r.rest.dropWhile isBlank
      match after with
      | '\n' :: _ =>
        let _ ← takeWhile isBlank
        let _ ← take
      | _ => pure ()
    if (← get).rest.isEmpty then
      modify fun r => { r with pending := some [] }
      return []
    else
      let (cs, goesOn) ← takeText [] ((← get).rest.length + 1)
      if goesOn then modify fun r => { r with pending := some (cs ++ ['\\', '\n']) }
      return textOf cs

/-- The options after a replacement. -/
def takeOptions (s : Substitution) (hasCount : Bool) : Nat → Reading Substitution
  | 0 => return s
  | fuel + 1 => do
    match ← take with
    | none => return s
    | some c =>
      match c with
      | ' ' => takeOptions s hasCount fuel
      | '\n' | ';' => return s
      | '}' | '#' =>
        putBack (some c)
        return s
      | 'i' | 'I' => takeOptions { s with target := { s.target with ignoresCase := true } } hasCount fuel
      | 'm' | 'M' => takeOptions { s with target := { s.target with hasLines := true } } hasCount fuel
      | 'e' => takeOptions { s with runs := true } hasCount fuel
      | 'p' =>
        if s.prints then refuse "multiple \x60p' options to \x60s' command"
        else takeOptions { s with prints := true } hasCount fuel
      | 'g' =>
        if s.isGlobal then refuse "multiple \x60g' options to \x60s' command"
        else takeOptions { s with isGlobal := true } hasCount fuel
      | 'w' =>
        let path ← readPath
        modify fun r => { r with script.files := r.script.files ++ [path] }
        return { s with file := some path }
      | c =>
        if !c.isDigit then refuse "unknown option to \x60s'"
        else if hasCount then refuse "multiple number options to \x60s' command"
        else
          let n ← takeNumber c
          if n = 0 then refuse "number option to \x60s' command may not be zero"
          else takeOptions { s with count := n } true fuel

/-- The greatest group that a replacement takes. -/
def greatestGroup (ps : List Piece) : Nat :=
  ps.foldl
    (fun n p =>
      match p with
      | .group m => max n m
      | _ => n)
    0

/-- A replacement. -/
def readSubstitution : Reading Substitution := do
  let fuel := (← get).rest.length + 2
  let unterminated := "unterminated \x60s' command"
  match ← take with
  | none => refuse unterminated
  | some delimiter =>
    match ← takeDelimited delimiter true fuel with
    | none => refuse unterminated
    | some target =>
      match ← takeDelimited delimiter false fuel with
      | none => refuse unterminated
      | some replacement =>
        let ps := pieces (replacement.length + 1) replacement
        let s ← takeOptions { target := ⟨none, false, false⟩, replacement := ps } false fuel
        let (e, groups) ← readExpression target s.target.ignoresCase s.target.hasLines
        let greatest := greatestGroup ps
        if groups < greatest then refuse s!"invalid reference \\{greatest} on \x60s' command's RHS"
        else return { s with target := e }

/-- Pairs of characters and their replacements. -/
def readReplacements : Reading (List (Char × Char)) := do
  let fuel := (← get).rest.length + 2
  let unterminated := "unterminated \x60y' command"
  match ← take with
  | none => refuse unterminated
  | some delimiter =>
    match ← takeDelimited delimiter false fuel with
    | none => refuse unterminated
    | some source =>
      match ← takeDelimited delimiter false fuel with
      | none => refuse unterminated
      | some target =>
        let source := plainText (source.length + 1) source
        let target := plainText (target.length + 1) target
        if source.length ≠ target.length then
          refuse "strings for \x60y' command are different lengths"
        else
          endCommand
          return source.zip target

/-- A number at the end of a command. -/
def readNumber? : Reading (Option Nat) := do
  match ← takeNonBlank with
  | some c =>
    if c.isDigit then return some (← takeNumber c)
    else
      putBack (some c)
      return none
  | none => return none

/-- Adds a command to the script. -/
def addCommand (c : Command) : Reading Unit :=
  modify fun r => { r with script.commands := r.script.commands.push c }

/-- A command without arguments. -/
def simple? (c : Char) : Option Action :=
  match c with
  | '=' => some .number
  | 'd' => some .delete
  | 'D' => some .deleteLine
  | 'F' => some .fileName
  | 'g' => some .takeHold
  | 'G' => some .addHold
  | 'h' => some .hold
  | 'H' => some .holdMore
  | 'n' => some .next
  | 'N' => some .nextMore
  | 'p' => some .print
  | 'P' => some .printLine
  | 'x' => some .swap
  | 'z' => some .clear
  | _ => none

/-- Reads what a command does. -/
def readAction (hasFirst hasLast : Bool) (c : Char) : Reading Action := do
  match simple? c with
  | some action =>
    endCommand
    return action
  | none =>
    match c with
    | 'a' => return .append (← readText)
    | 'i' => return .insert (← readText)
    | 'c' => return .change (← readText)
    | 's' => return .substitute (← readSubstitution)
    | 'y' => return .replaceEach (← readReplacements)
    | 'r' => return .readFile (← readPath)
    | 'R' => return .readLine (← readPath)
    | 'w' | 'W' =>
      let path ← readPath
      modify fun r => { r with script.files := r.script.files ++ [path] }
      return if c = 'w' then .write path else .writeLine path
    | 'b' => return .jump .always (← endOfLabel)
    | 't' => return .jump .ifReplaced (← endOfLabel)
    | 'T' => return .jump .unlessReplaced (← endOfLabel)
    | 'q' | 'Q' =>
      if hasLast then refuse "command only uses one address"
      else
        let code := (← readNumber?).getD 0
        endCommand
        return if c = 'q' then .quit code else .quitSilently code
    | 'l' =>
      let width ← readNumber?
      endCommand
      return .showAll width
    | 'e' =>
      let _ ← takeWhile isBlank
      let cs ← takeWhile (· ≠ '\n')
      let _ ← take
      return .run cs
    | ':' =>
      if hasFirst then refuse ": doesn't want any addresses"
      else
        let label ← readLabel
        if label = "" then refuse "\":\" lacks a label"
        else
          modify fun r =>
            { r with script.labels := r.script.labels ++ [(label, r.script.commands.size)] }
          return .nothing
    | 'v' =>
      let _ ← readLabel
      return .nothing
    | c => refuse s!"unknown command: \x60{c}'"
where
  /-- A label, and the end of the command. -/
  endOfLabel : Reading String := do
    let label ← readLabel
    endCommand
    return label

/-- Reads one command with its addresses. -/
def readCommand (c : Char) : Reading Unit := do
  let start ← readFinish? c
  let first : Option Address ←
    match start with
    | some (.address a) => pure (some a)
    | some _ => refuse "invalid usage of +N or ~N as first address"
    | none => pure none
  let next ← if first.isSome then takeNonBlank else pure (some c)
  let last : Option Finish ←
    match first, next with
    | some _, some ',' => do
      match ← takeNonBlank with
      | none => refuse "unexpected \x60,'"
      | some d =>
        match ← readFinish? d with
        | some f => pure (some f)
        | none => refuse "unexpected \x60,'"
    | _, _ => pure none
  let next ← if last.isSome then takeNonBlank else pure next
  match first, last with
  | some (.line 0), some (.address (.found _)) => pure ()
  | some (.line 0), _ => refuse "invalid usage of line address 0"
  | _, _ => pure ()
  let isNegated := next = some '!'
  let next ← if isNegated then takeNonBlank else pure next
  match next with
  | none => refuse "missing command"
  | some '!' => refuse "multiple \x60!'s"
  | some '#' =>
    if first.isSome then refuse "comments don't accept any addresses"
    else
      let text ← takeWhile (· ≠ '\n')
      let r ← get
      let isStart := r.script.commands.isEmpty && r.taken = text.length + 1 &&
        (match r.origin with
          | .expression n => n = 1
          | .file _ => true)
      if text.head? = some 'n' && isStart then modify fun r => { r with script.isQuiet := true }
  | some '\x7b' =>
    modify fun r => { r with blocks := (r.script.commands.size, r.origin, r.line) :: r.blocks }
    addCommand ⟨first, last, isNegated, .block 0⟩
  | some '}' =>
    match (← get).blocks with
    | [] => refuse "unexpected \x60\x7d'"
    | (start, _) :: others =>
      if first.isSome then refuse "\x7d doesn't want any addresses"
      else
        endCommand
        modify fun r =>
          let finish := r.script.commands.size
          { r with
            blocks := others
            script.commands := r.script.commands.modify start fun c => { c with action := .block finish } }
  | some c =>
    let action ← readAction first.isSome last.isSome c
    addCommand ⟨first, last, isNegated, action⟩

/-- Reads the commands of a piece. -/
def readCommands : Nat → Reading Unit
  | 0 => pure ()
  | fuel + 1 => do
    let _ ← takeWhile fun c => c = ';' || Regex.isSpaceChar c
    match ← take with
    | none => pure ()
    | some c =>
      readCommand c
      readCommands fuel

/-- The text of the last command, changed. -/
def setLastText (text : List Char) : Reading Unit :=
  modify fun r =>
    let commands := r.script.commands
    { r with
      script.commands := commands.modify (commands.size - 1) fun c =>
        match c.action with
        | .append _ => { c with action := .append text }
        | .insert _ => { c with action := .insert text }
        | .change _ => { c with action := .change text }
        | _ => c }

/-- Goes on with a text that began in another piece. -/
def readPending : Reading Unit := do
  match (← get).pending with
  | none => pure ()
  | some soFar =>
    let (cs, goesOn) ← takeText soFar.reverse ((← get).rest.length + 1)
    modify fun r => { r with pending := if goesOn then some (cs ++ ['\\', '\n']) else none }
    setLastText (textOf cs)

/-- Reads a piece of a script. -/
def readPiece (origin : Origin) (text : List Char) : Reading Unit := do
  modify fun r => { r with origin := origin, rest := text, taken := 0, line := 1 }
  readPending
  readCommands (text.length + 1)

/-- The labels that commands jump to. -/
def Script.targets (s : Script) : List String :=
  s.commands.toList.filterMap fun c =>
    match c.action with
    | .jump _ label => if label = "" then none else some label
    | _ => none

/-- Reads all pieces of a script. -/
def readAll (ps : List (Origin × List Char)) : Reading Script := do
  for (origin, text) in ps do
    readPiece origin text
  let r ← get
  match r.blocks with
  | (_, origin, line) :: _ =>
    let place := origin.at 0 line
    throw { message := s!"{place}: unmatched \x60\x7b'" }
  | [] =>
    match r.script.targets.find? fun label => !r.script.labels.any fun x => x.1 = label with
    | some label => throw ⟨s!"can't find label for jump to \x60{label}'", 4⟩
    | none => return r.script

/-- The script that pieces make. -/
def Script.ofPieces (isExtended : Bool) (ps : List (Origin × List Char)) : Except ScriptError Script :=
  match (readAll ps).run { origin := .expression 1, rest := [], isExtended := isExtended } with
  | .ok (script, _) => .ok script
  | .error e => .error e

end Autoformat.Rehearsal.Shell.Sed
