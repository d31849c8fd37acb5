import Autoformat.Rehearsal.Shell.Source

/-!
# Words of a script

A word is read part by part. What a character means depends on the quotes and braces it stands in, which
is the `Context` of a part. Commands inside of words are read by a reader that is given.
-/

namespace Autoformat.Rehearsal.Shell

/-- Where a part of a word stands. -/
inductive Context where
  | base
  | double
  /-- In the braces of a parameter; quotes may be open around them, and again inside. -/
  | braces (isQuoted isInner : Bool)
  /-- In an expression, below a number of open brackets. -/
  | arithmetic (depth : Nat)
  | document
  deriving DecidableEq, Repr

namespace Context

/-- Everything in the context is quoted. -/
def isQuoted : Context → Bool
  | .base => false
  | .braces isQuoted _ => isQuoted
  | _ => true

/-- The character may have a meaning in the context. -/
def isSpecial (k : Context) (c : Char) : Bool :=
  c = '\\' || c = '$' || c = backquote ||
    match k with
    | .base => c = '\'' || c = '"' || endsWord c
    | .double => c = '"'
    | .braces isQuoted _ => c = '}' || c = '"' || (!isQuoted && c = '\'')
    | .arithmetic _ => c = '(' || c = ')'
    | .document => false

/-- A backslash takes the meaning of the character, and is not kept. -/
def isEscapable (k : Context) (c : Char) : Bool :=
  c = '\\' || c = '$' || c = backquote || (c = '"' && k ≠ .document) || (c = '}' && k = .braces true false)

/-- The context of a word in braces that begin here; in a pattern quotes begin anew. -/
def inner (k : Context) (isPattern : Bool) : Context := .braces (k.isQuoted && !isPattern) false

end Context

/-- The end of the script in a context. -/
def atEnd (k : Context) : Reader Unit :=
  match k with
  | .base | .document => pure ()
  | .arithmetic _ => refuse "Syntax error: Missing '))'"
  | .braces false _ => refuse "Syntax error: Missing '\x7d'"
  | .double | .braces true _ => refuse "Syntax error: Unterminated quoted string"

/-- Characters at the end of parts, the last of which comes first. -/
def addPlain (text : String) : List Part → List Part
  | .plain s :: rest => .plain (s ++ text) :: rest
  | rest => .plain text :: rest

/-- Takes the characters up to the first that fails a test; no lines are joined. -/
def takeRun (test : Char → Bool) : Reader String := do
  let s ← get
  let (run, rest) := s.chars.span test
  set { s with chars := rest, line := s.line + run.count '\n' }
  return String.ofList run

/-- Takes the characters that pass a test, across joined lines. -/
def takeName (test : Char → Bool) : Nat → Reader String
  | 0 => return ""
  | fuel + 1 => do
    skipJoins
    let run ← takeRun test
    if run = "" then return ""
    else return run ++ (← takeName test fuel)

/-- Takes what stands in single quotes. -/
def takeQuoted : Reader String := do
  let text ← takeRun (· ≠ '\'')
  match ← takeRaw with
  | some _ => return text
  | none => refuse "Syntax error: Unterminated quoted string"

/-- Takes the text of a command up to a backquote. -/
def takeBackquoted (k : Context) : Nat → Reader String
  | 0 => return ""
  | fuel + 1 => do
    skipJoins
    let run ← takeRun fun c => c ≠ backquote && c ≠ '\\'
    if ← isAtJoin then return run ++ (← takeBackquoted k fuel)
    else
    match ← takeRaw with
    | none => refuse "Syntax error: EOF in backquote substitution"
    | some '\\' =>
      match ← takeRaw with
      | none => refuse "Syntax error: EOF in backquote substitution"
      | some c =>
        let isFreed := c = '\\' || c = backquote || c = '$' || (c = '"' && k.isQuoted)
        let text := if isFreed then c.toString else "\\" ++ c.toString
        return run ++ text ++ (← takeBackquoted k fuel)
    | some _ => return run

/-- Runs a reader on a text of its own; what it leaves is dropped. -/
def onText {α : Type} (text : List Char) (line : Nat) (r : Reader α) : Reader α := do
  let outer ← get
  set { outer with chars := text, size := text.length, line := line, pushed := none, announced := [] }
  let a ← r
  modify fun s => { outer with documents := s.documents }
  return a

/-- The use of a parameter that a character stands for. -/
def useOf? (orEmpty : Bool) : Char → Option Use
  | '-' => some (.orElse orEmpty)
  | '=' => some (.orAssign orEmpty)
  | '?' => some (.orFail orEmpty)
  | '+' => some (.instead orEmpty)
  | _ => none

/-- What is known of a parameter in braces before its word is read. -/
structure Named where
  name : String
  use : Use
  /-- The word is a pattern. -/
  isPattern : Bool := false
  /-- The closing brace has been read. -/
  isClosed : Bool := false

/-- The use of a parameter, after its name. -/
def takeUse (name : String) : Reader Named := do
  match ← takeChar with
  | none => return ⟨name, .unknown, false, false⟩
  | some '}' => return ⟨name, .value, false, true⟩
  | some ':' =>
    match ← takeChar with
    | none => return ⟨name, .unknown, false, false⟩
    | some '}' => return ⟨name, .value, false, false⟩
    | some c => return ⟨name, (useOf? true c).getD .unknown, false, false⟩
  | some '#' => return ⟨name, .withoutStart (← takeIf '#'), true, false⟩
  | some '%' => return ⟨name, .withoutEnd (← takeIf '%'), true, false⟩
  | some c => return ⟨name, (useOf? false c).getD .unknown, false, false⟩

/-- The length of a parameter, after its name. -/
def takeLength (name : String) : Reader Named := do
  if ← takeIf '}' then return ⟨name, .length, false, true⟩
  else return ⟨name, .unknown, false, false⟩

/-- The name of a parameter that begins with a character: letters, or digits. -/
def takeParameterName (first : Char) : Reader String := do
  let fuel := (← get).size + 1
  return first.toString ++ (← takeName (if first.isDigit then Char.isDigit else isNameChar) fuel)

/-- A parameter in braces, after a number sign in front. -/
def takeCounted : Reader Named := do
  match ← takeChar with
  | none => return ⟨"#", .unknown, false, false⟩
  | some c =>
    if isNameChar c then takeLength (← takeParameterName c)
    else if c ≠ '}' && (← peekChar) = some '}' then
      let _ ← takeRaw
      return ⟨c.toString, if isSpecialParameter c then .length else .unknown, false, isSpecialParameter c⟩
    else
      putBack (some c)
      takeUse "#"

/-- What stands at the start of braces. -/
def takeNamed : Reader Named := do
  match ← takeChar with
  | none => return ⟨"", .unknown, false, false⟩
  | some c =>
    if isNameChar c then takeUse (← takeParameterName c)
    else if c = '#' then takeCounted
    else if isSpecialParameter c then takeUse c.toString
    else
      putBack (some c)
      return ⟨"", .unknown, false, false⟩

mutual

/-- Reads parts up to the end of a context, after the parts so far. In the marker of a document nothing is
expanded. -/
def readParts (commands : Reader Command) (isMarker : Bool) (k : Context) (soFar : List Part) :
    Nat → Reader (List Part)
  | 0 => return soFar.reverse
  | fuel + 1 => do
    skipJoins
    let run ← takeRun fun c => !k.isSpecial c
    let soFar := if run = "" then soFar else addPlain run soFar
    if ← isAtJoin then readParts commands isMarker k soFar fuel
    else
    match ← takeRaw with
    | none =>
      atEnd k
      return soFar.reverse
    | some '\\' => readParts commands isMarker k (← readEscape k soFar) fuel
    | some '$' =>
      match ← readDollar commands isMarker k fuel with
      | some part => readParts commands isMarker k (part :: soFar) fuel
      | none => readParts commands isMarker k (addPlain "$" soFar) fuel
    | some '\'' => readParts commands isMarker k (.quoted (← takeQuoted) :: soFar) fuel
    | some '"' =>
      match k with
      | .double => return soFar.reverse
      | .braces true isInner => readParts commands isMarker (.braces true !isInner) soFar fuel
      | _ =>
        let parts ← readParts commands isMarker .double [] fuel
        readParts commands isMarker k (.group parts :: soFar) fuel
    | some '}' =>
      if k = .braces true true then readParts commands isMarker k (addPlain "\x7d" soFar) fuel
      else return soFar.reverse
    | some c =>
      if c = backquote then
        if isMarker then readParts commands isMarker k (addPlain c.toString soFar) fuel
        else
          let text ← takeBackquoted k fuel
          let body ← onText text.toList 1 commands
          readParts commands isMarker k (.output body :: soFar) fuel
      else
      match k with
      | .arithmetic depth =>
        if c = '(' then readParts commands isMarker (.arithmetic (depth + 1)) (addPlain "(" soFar) fuel
        else if depth ≠ 0 then
          readParts commands isMarker (.arithmetic (depth - 1)) (addPlain ")" soFar) fuel
        else if ← takeIf ')' then return soFar.reverse
        else readParts commands isMarker k (addPlain ")" soFar) fuel
      | _ =>
        putBack (some c)
        return soFar.reverse
where
  /-- What stands after a backslash. -/
  readEscape (k : Context) (soFar : List Part) : Reader (List Part) := do
    match ← takeRaw with
    | none => return .quoted "\\" :: soFar
    | some c =>
      if !k.isQuoted then return .quoted c.toString :: soFar
      else if k.isEscapable c then return addPlain c.toString soFar
      else return addPlain ("\\" ++ c.toString) soFar

/-- Reads what stands after a dollar sign, if it has a meaning. -/
def readDollar (commands : Reader Command) (isMarker : Bool) (k : Context) :
    Nat → Reader (Option Part)
  | 0 => return none
  | fuel + 1 => do
    match ← peekChar with
    | none => return none
    | some c =>
      if isMarker then return none
      else if c = '(' then
        let _ ← takeRaw
        if ← takeIf '(' then
          return some (.arithmetic (← readParts commands false (.arithmetic 0) [] fuel))
        else return some (.output (← readBracket))
      else if c = '\x7b' then
        let _ ← takeRaw
        let n ← takeNamed
        if n.isClosed then return some (.parameter n.name n.use [])
        else
          let word ← readParts commands false (k.inner n.isPattern) [] fuel
          return some (.parameter n.name n.use word)
      else if isNameStart c then
        let _ ← takeRaw
        return some (.parameter (← takeParameterName c) .value [])
      else if isSpecialParameter c then
        let _ ← takeRaw
        return some (.parameter c.toString .value [])
      else return none
where
  /-- Commands up to a closing bracket. -/
  readBracket : Reader Command := do
    let outer ← get
    set { outer with announced := [] }
    let body ← commands
    let close : Token := .operator ")"
    match (← get).pushed with
    | none => pure ()
    | some t => if t.name ≠ close.name then unexpected t (some close)
    modify fun s => { s with pushed := none, announced := outer.announced }
    return body

end

end Autoformat.Rehearsal.Shell
