import Autoformat.Rehearsal.Shell.Words

/-!
# The grammar of scripts

A script is read command by command, so that the commands before a mistake still run. `nextCommand` gives
the next complete command: one line, or as many as its compound commands take.
-/

namespace Autoformat.Rehearsal.Shell

/-- What is asked of the next piece. -/
structure Wanted where
  /-- Words of the grammar are told from other words. -/
  keywords : Bool := false
  /-- Line ends are passed over. -/
  skipsLines : Bool := false

/-- Nothing special. -/
def Wanted.word : Wanted := {}

/-- A word of the grammar. -/
def Wanted.keyword : Wanted := ⟨true, false⟩

/-- A word of the grammar, maybe on a later line. -/
def Wanted.next : Wanted := ⟨true, true⟩

/-- Which lists of commands may be empty, and which tokens end them. -/
inductive ListKind where
  /-- The commands of a line. -/
  | line
  /-- Commands inside of others. -/
  | inner
  /-- Commands inside of others, maybe none. -/
  | optional
  deriving DecidableEq, Repr

/-- Puts a piece back. -/
def pushBack (t : Token) : Reader Unit := modify fun s => { s with pushed := some t }

/-- The word as a word of the grammar, if it is one. -/
def asKeyword (t : Token) : Token :=
  match t with
  | .word w =>
    match plainText? w with
    | some s => if keywords.contains s then .keyword s else t
    | none => t
  | t => t

/-- Passes over blanks and a comment. -/
def skipBlanks : Nat → Reader Unit
  | 0 => pure ()
  | fuel + 1 => do
    match ← peekChar with
    | some ' ' | some '\t' =>
      let _ ← takeRaw
      skipBlanks fuel
    | some '#' =>
      let _ ← takeRun (· ≠ '\n')
    | _ => pure ()

/-- The redirection that an operator character begins. -/
def takeRedirection (stream : Option Nat) (c : Char) : Reader Token := do
  if c = '>' then
    let stream := stream.getD 1
    if ← takeIf '>' then return .redirect stream .append
    else if ← takeIf '|' then return .redirect stream .overwrite
    else if ← takeIf '&' then return .redirect stream .duplicate
    else return .redirect stream .output
  else
    let stream := stream.getD 0
    if ← takeIf '<' then return .document stream (← takeIf '-')
    else if ← takeIf '&' then return .redirect stream .duplicate
    else if ← takeIf '>' then return .redirect stream .both
    else return .redirect stream .input

/-- The stream that a word in front of a redirection names. -/
def streamOf? (w : Word) : Option (Option Nat) :=
  match w with
  | [] => some none
  | [.plain s] =>
    match s.toList with
    | [d] => if d.isDigit then some (some (d.toNat - '0'.toNat)) else none
    | _ => none
  | _ => none

/-- Reads a word, or the redirection that it belongs to. -/
def readWord (commands : Reader Command) (isMarker : Bool) : Reader Token := do
  let w ← readParts commands isMarker .base [] (4 * (← get).size + 8)
  match ← peekChar, streamOf? w with
  | some '<', some stream =>
    let _ ← takeRaw
    takeRedirection stream '<'
  | some '>', some stream =>
    let _ ← takeRaw
    takeRedirection stream '>'
  | _, _ => return .word w

/-- An operator character that may stand twice. -/
def readOperator (c : Char) : Reader Token := do
  let isDoubled ← if c = '(' || c = ')' then pure false else takeIf c
  return .operator (String.ofList (if isDoubled then [c, c] else [c]))

/-- Reads a piece that was not put back. -/
def readPiece (commands : Reader Command) (isMarker : Bool) : Reader Token := do
  skipBlanks ((← get).size + 1)
  match ← peekChar with
  | none => return .ending
  | some c =>
    if c = '\n' then
      let _ ← takeRaw
      return .newline
    else if ['&', '|', ';', '(', ')'].contains c then
      let _ ← takeRaw
      readOperator c
    else readWord commands isMarker

/-- Reads the next piece as it is. -/
def rawToken (commands : Reader Command) (isMarker : Bool) : Reader Token := do
  match (← get).pushed with
  | some t =>
    modify fun s => { s with pushed := none }
    return t
  | none => readPiece commands isMarker

/-- Takes the documents that are announced out of the text that follows. -/
def takeDocuments (commands : Reader Command) : List Announced → Reader Unit
  | [] => pure ()
  | a :: rest => do
    let s ← get
    let cut := cutDocument a false (splitLines s.chars)
    let body := cut.inside.flatten
    let doc ←
      if a.isQuoted then pure [.quoted (String.ofList body)]
      else onText body s.line (readParts commands false .document [] (4 * body.length + 8))
    modify fun s =>
      { s with
        chars := cut.after.flatten
        line := s.line + cut.taken
        documents := s.documents.setIfInBounds a.number doc }
    takeDocuments commands rest

/-- The documents begin here. -/
def beginDocuments (commands : Reader Command) : Reader Unit := do
  let announced := (← get).announced
  modify fun s => { s with announced := [] }
  takeDocuments commands announced

/-- Passes over line ends. -/
def passLines (commands : Reader Command) (t : Token) : Nat → Reader Token
  | 0 => return t
  | fuel + 1 => do
    match t with
    | .newline =>
      beginDocuments commands
      passLines commands (← rawToken commands false) fuel
    | t => return t

/-- Reads the next piece. -/
def readToken (commands : Reader Command) (wanted : Wanted) : Reader Token := do
  let t ← rawToken commands false
  let t ← if wanted.skipsLines then passLines commands t ((← get).size + 2) else pure t
  return if wanted.keywords then asKeyword t else t

/-- Reads a word of the grammar that has to be there. -/
def expect (commands : Reader Command) (wanted : Wanted) (expected : Token) : Reader Unit := do
  let t ← readToken commands wanted
  if t.name = expected.name then pure () else unexpected t (some expected)

/-- Reads a word that has to be there. -/
def expectWord (commands : Reader Command) (isMarker : Bool) : Reader Word := do
  match ← rawToken commands isMarker with
  | .word w => return w
  | t => unexpected t none

/-- The redirection that a piece begins, if it begins one. -/
def readRedirect? (commands : Reader Command) (t : Token) : Reader (Option (Redirect Word)) := do
  match t with
  | .redirect stream kind => return some ⟨stream, kind, ← expectWord commands false⟩
  | .document stream dropsTabs =>
    let marker ← expectWord commands true
    let number := (← get).documents.size
    modify fun s =>
      { s with
        announced := s.announced ++ [⟨number, literalText marker, dropsTabs, isQuotedWord marker⟩]
        documents := s.documents.push [] }
    return some ⟨stream, .document number, []⟩
  | _ => return none

/-- Redirections in a row, with the piece after them put back. -/
def readRedirects (commands : Reader Command) : Nat → Reader (List (Redirect Word))
  | 0 => return []
  | fuel + 1 => do
    let t ← readToken commands .keyword
    match ← readRedirect? commands t with
    | some r => return r :: (← readRedirects commands fuel)
    | none =>
      pushBack t
      return []

/-- Words in a row and the piece after them. -/
def readWords (commands : Reader Command) : Nat → Reader (List Word × Token)
  | 0 => return ([], .ending)
  | fuel + 1 => do
    match ← readToken commands .word with
    | .word w =>
      let (words, t) ← readWords commands fuel
      return (w :: words, t)
    | t => return ([], t)

/-- The patterns of a case. Words of the grammar may stand here too. -/
def readPatterns (commands : Reader Command) (first : Token) : Nat → Reader (List Word)
  | 0 => return []
  | fuel + 1 => do
    let pattern : Word :=
      match first with
      | .word w => w
      | .keyword s => [.plain s]
      | _ => []
    let t ← readToken commands .word
    match t with
    | .operator "|" =>
      let next ← readToken commands .word
      return pattern :: (← readPatterns commands next fuel)
    | .operator ")" => return [pattern]
    | t => unexpected t (some (.operator ")"))

/-- The assignment that a word is. -/
def assignment? (w : Word) : Option (String × Word) :=
  match w with
  | .plain s :: rest =>
    let cs := s.toList
    let name := String.ofList (cs.takeWhile isNameChar)
    match cs.dropWhile isNameChar with
    | '=' :: value => if isName name then some (name, .plain (String.ofList value) :: rest) else none
    | _ => none
  | _ => none

/-- Commands that belong to the grammar more than others; their names name nothing else. -/
def specialCommands : List String :=
  [".", ":", "break", "continue", "eval", "exec", "exit", "export", "local", "readonly", "return", "set",
    "shift", "times", "trap", "unset"]

/-- A simple command so far. -/
structure Simple where
  line : Nat
  assignments : List (String × Word) := []
  words : List Word := []
  redirects : List (Redirect Word) := []

/-- The command. -/
def Simple.command (c : Simple) : Command :=
  .simple c.line c.assignments.reverse c.words.reverse c.redirects.reverse

mutual

/-- Reads a list of commands. -/
def readList (kind : ListKind) : Nat → Reader Command
  | 0 => return .nothing
  | fuel + 1 => do
    let commands := readCommands fuel
    let t ← readToken commands (if kind = .line then .keyword else .next)
    match t with
    | .newline =>
      beginDocuments commands
      return .nothing
    | .ending =>
      beginDocuments commands
      pushBack .ending
      return .nothing
    | t =>
      pushBack t
      if kind = .optional && t.endsList then return .nothing
      else
        let c ← readAndOr fuel
        let t ← readToken commands .word
        let c := if t.name = "\"&\"" then .background c else c
        match t with
        | .ending =>
          beginDocuments commands
          pushBack .ending
          return c
        | .newline | .operator "&" | .operator ";" =>
          if t.name = "newline" then pushBack t
          let kind := if kind = .line then .line else .optional
          match ← readList kind fuel with
          | .nothing => return c
          | rest => return .sequence c rest
        | t =>
          if kind = .line then unexpected t none
          else
            pushBack t
            return c

/-- Reads commands inside of a word, up to a closing bracket or the end. -/
def readCommands : Nat → Reader Command
  | 0 => return .nothing
  | fuel + 1 => readList .optional fuel

/-- Reads commands whose success decides about the next one. -/
def readAndOr : Nat → Reader Command
  | 0 => return .nothing
  | fuel + 1 => do
    readAndOrAfter (← readPipeline .word fuel) fuel

/-- Reads the commands after the first one. -/
def readAndOrAfter (first : Command) : Nat → Reader Command
  | 0 => return first
  | fuel + 1 => do
    match ← readToken (readCommands fuel) .word with
    | .operator "&&" => readAndOrAfter (.both first (← readPipeline .next fuel)) fuel
    | .operator "||" => readAndOrAfter (.either first (← readPipeline .next fuel)) fuel
    | t =>
      pushBack t
      return first

/-- Reads commands that hand on what they write. -/
def readPipeline (wanted : Wanted) : Nat → Reader Command
  | 0 => return .nothing
  | fuel + 1 => do
    match ← readToken (readCommands fuel) wanted with
    | .keyword "!" => return .negation (← readPiped (← readCommand .keyword fuel) fuel)
    | t =>
      pushBack t
      readPiped (← readCommand .word fuel) fuel

/-- Reads the rest of a pipeline. -/
def readPiped (first : Command) : Nat → Reader Command
  | 0 => return first
  | fuel + 1 => do
    match ← readPipes fuel with
    | [] => return first
    | rest => return .pipeline (first :: rest)

/-- Reads the commands after the first one of a pipeline. -/
def readPipes : Nat → Reader (List Command)
  | 0 => return []
  | fuel + 1 => do
    match ← readToken (readCommands fuel) .word with
    | .operator "|" =>
      let c ← readCommand .next fuel
      return c :: (← readPipes fuel)
    | t =>
      pushBack t
      return []

/-- Reads a command with its redirections. -/
def readCommand (wanted : Wanted) : Nat → Reader Command
  | 0 => return .nothing
  | fuel + 1 => do
    let commands := readCommands fuel
    let t ← readToken commands wanted
    let line := (← get).line
    match t with
    | .word _ | .redirect .. | .document .. =>
      pushBack t
      readSimple ⟨line, [], [], []⟩ fuel
    | t =>
      let body ← readCompound t line fuel
      let redirects ← readRedirects commands fuel
      match body with
      | .subshell _ inner _ => return .subshell line inner redirects
      | body => return if redirects.isEmpty then body else .redirected line body redirects

/-- Reads a command that a word of the grammar, or a bracket, has begun. -/
def readCompound (t : Token) (line : Nat) : Nat → Reader Command
  | 0 => return .nothing
  | fuel + 1 => do
    let commands := readCommands fuel
    match t with
    | .keyword "if" =>
      let c ← readBranch fuel
      expect commands .keyword (.keyword "fi")
      return c
    | .keyword "while" => readLoop false fuel
    | .keyword "until" => readLoop true fuel
    | .keyword "for" => readEach line fuel
    | .keyword "case" =>
      let word ←
        match ← readToken commands .word with
        | .word w => pure w
        | t => unexpected t (some (.word []))
      expect commands .next (.keyword "in")
      return .choice line word (← readCases fuel)
    | .operator "(" =>
      let body ← readList .inner fuel
      expect commands .keyword (.operator ")")
      return .subshell line body []
    | .keyword "\x7b" =>
      let body ← readList .inner fuel
      expect commands .keyword (.keyword "\x7d")
      return body
    | t => unexpected t none

/-- Reads a condition with what depends on it. -/
def readBranch : Nat → Reader Command
  | 0 => return .nothing
  | fuel + 1 => do
    let commands := readCommands fuel
    let condition ← readList .inner fuel
    expect commands .keyword (.keyword "then")
    let yes ← readList .inner fuel
    match ← readToken commands .keyword with
    | .keyword "elif" => return .branch condition yes (← readBranch fuel)
    | .keyword "else" => return .branch condition yes (← readList .inner fuel)
    | t =>
      pushBack t
      return .branch condition yes .nothing

/-- Reads a loop with a condition. -/
def readLoop (untilSuccess : Bool) : Nat → Reader Command
  | 0 => return .nothing
  | fuel + 1 => do
    let commands := readCommands fuel
    let condition ← readList .inner fuel
    expect commands .keyword (.keyword "do")
    let body ← readList .inner fuel
    expect commands .keyword (.keyword "done")
    return .loop untilSuccess condition body

/-- Reads a loop over words. -/
def readEach (line : Nat) : Nat → Reader Command
  | 0 => return .nothing
  | fuel + 1 => do
    let commands := readCommands fuel
    let name ←
      match ← readToken commands .word with
      | .word w =>
        match plainText? w with
        | some s => if isName s then pure s else refuse "Syntax error: Bad for loop variable"
        | none => refuse "Syntax error: Bad for loop variable"
      | _ => refuse "Syntax error: Bad for loop variable"
    let words ←
      match ← readToken commands .next with
      | .keyword "in" =>
        let (words, t) ← readWords commands fuel
        match t with
        | .newline =>
          beginDocuments commands
          pure words
        | .operator ";" => pure words
        | t => unexpected t none
      | .operator ";" => pure [valueWord "@"]
      | t =>
        pushBack t
        pure [valueWord "@"]
    expect commands .next (.keyword "do")
    let body ← readList .inner fuel
    expect commands .keyword (.keyword "done")
    return .each line name words body

/-- Reads cases up to the end of them. -/
def readCases : Nat → Reader (List (List Word × Command))
  | 0 => return []
  | fuel + 1 => do
    let commands := readCommands fuel
    match ← readToken commands .next with
    | .keyword "esac" => return []
    | t =>
      let t ←
        match t with
        | .operator "(" => readToken commands .word
        | t => pure t
      let patterns ← readPatterns commands t fuel
      let body ← readList .optional fuel
      match ← readToken commands .next with
      | .keyword "esac" => return [(patterns, body)]
      | .operator ";;" => return (patterns, body) :: (← readCases fuel)
      | t => unexpected t (some (.operator ";;"))

/-- Reads the rest of a simple command, or of a definition. -/
def readSimple (c : Simple) : Nat → Reader Command
  | 0 => return c.command
  | fuel + 1 => do
    let commands := readCommands fuel
    let t ← readToken commands .word
    match t with
    | .word w =>
      match if c.words.isEmpty then assignment? w else none with
      | some a => readSimple { c with assignments := a :: c.assignments } fuel
      | none => readSimple { c with words := w :: c.words } fuel
    | .operator "(" =>
      match c.words, c.assignments, c.redirects with
      | [w], [], [] =>
        expect commands .word (.operator ")")
        let name := (plainText? w).getD ""
        if !isName name || specialCommands.contains name then refuse "Syntax error: Bad function name"
        else return .define name (← readCommand .next fuel)
      | _, _, _ =>
        pushBack t
        return c.command
    | t =>
      match ← readRedirect? commands t with
      | some r => readSimple { c with redirects := r :: c.redirects } fuel
      | none =>
        pushBack t
        return c.command

end

/-- The next complete command of a script, or none at its end. -/
def nextCommand (s : Source) : Except ScriptFault (Option Command × Source) :=
  let fuel := 20 * s.size + 100
  match (readList .line fuel).run { s with pushed := none } with
  | .error e => .error e
  | .ok (c, s) =>
    match c, s.pushed with
    | .nothing, some .ending => .ok (none, s)
    | c, _ => .ok (some c, s)

end Autoformat.Rehearsal.Shell
