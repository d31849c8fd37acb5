import Autoformat.Rehearsal.Shell.Arithmetic
import Autoformat.Rehearsal.Shell.Machine
import Autoformat.Rehearsal.Shell.Pattern
import Autoformat.Rehearsal.Shell.Source

/-!
# Expanding words

A word of a script becomes words of a command: parameters, the output of commands and expressions take
their values, values that are not quoted are split, and patterns stand for paths. How a command is run
beside the shell is given.
-/

namespace Autoformat.Rehearsal.Shell

/-! ## Complaints of the shell -/

/-- Says what is wrong, with the place in the script. -/
def warn (s : String) : Process Unit := do
  let sh ← theShell
  let builtin := (sh.builtin.map (· ++ ": ")).getD ""
  printErr s!"{sh.zero}: {sh.line}: {builtin}{s}\n"

/-- Says what is wrong; the shell, or its command, ends. -/
def failWith {α : Type} (s : String) : Process α := do
  warn s
  throw .mistake

/-! ## Variables -/

/-- The value of a variable. -/
def Session.value? (s : Session) (name : String) : Option String := (s.bindings.lookup name).bind Variable.value

/-- A variable, known or not. -/
def Session.variableNamed (s : Session) (name : String) : Variable := (s.bindings.lookup name).getD ⟨none, false, false⟩

/-- The shell with another variable of a name. -/
def Session.withVariable (s : Session) (name : String) (v : Variable) : Session :=
  if s.bindings.any fun x => x.1 = name then
    { s with bindings := s.bindings.map fun x => if x.1 = name then (name, v) else x }
  else { s with bindings := s.bindings ++ [(name, v)] }

/-- Makes sure that there is space for a text that is taken apart into its characters. -/
def requireSpaceFor (bytes : Nat) : Process Unit := requireSpace (32 * bytes)

/-- Gives a variable a value. -/
def setVariable (name value : String) : Process Unit := do
  requireSpaceFor value.utf8ByteSize
  let s ← theShell
  let v := s.variableNamed name
  if v.isReadOnly then failWith (name ++ ": is read only")
  let v := { v with value := some value, isExported := v.isExported || s.options.contains 'a' }
  modifyShell fun s =>
    let s := s.withVariable name v
    if name = "OPTIND" then { s with optionIndex := (digits? value).getD 1, optionOffset := none } else s

/-- The characters that divide words. -/
def Session.separators (s : Session) : List Char :=
  match s.bindings.lookup "IFS" with
  | some ⟨some ifs, _, _⟩ => ifs.toList
  | _ => [' ', '\t', '\n']

/-- The letters of the options that are set, as the shell tells them. -/
def Session.optionText (s : Session) : String :=
  String.ofList (['e', 'f', 'I', 'i', 'm', 'n', 's', 'x', 'v', 'V', 'E', 'C', 'a', 'b', 'u'].reverse.filter
    s.options.contains)

/-- The value of a parameter that is a single text. -/
def Session.parameter? (s : Session) (name : String) : Option String :=
  match name with
  | "?" => some (toString s.status)
  | "$" => some (toString s.root)
  | "#" => some (toString s.args.length)
  | "!" => s.lastJob.map toString
  | "-" => some s.optionText
  | "0" => some s.zero
  | name =>
    match digits? name with
    | some n => s.args[n - 1]?
    | none => s.value? name

/-! ## Pieces of expanded words -/

/-- A piece of an expanded word. -/
inductive Piece where
  /-- A character. It may be quoted, and it may divide words. -/
  | char (c : Char) (isQuoted divides : Bool)
  /-- Something quoted stands here, even if it is empty. -/
  | mark
  /-- A new word begins. -/
  | cut

/-- The pieces of a text. -/
def piecesOf (isQuoted divides : Bool) (s : String) : List Piece := s.toList.map (.char · isQuoted divides)

/-- How far a list of pieces has been divided into words. -/
structure Division where
  /-- The words so far, the last one first. -/
  done : List Pattern := []
  /-- The characters of a word that has begun, the last one first. -/
  current : Option Pattern := none
  /-- A blank has ended the last word. -/
  afterBlank : Bool := false

/-- The word that has begun ends. -/
def Division.close (d : Division) : Division :=
  match d.current with
  | none => d
  | some cs => { d with done := cs.reverse :: d.done, current := none }

/-- One more piece. A separator ends a word; blanks around it and blanks in a row count once. -/
def Division.add (separators : List Char) (d : Division) (p : Piece) : Division :=
  match p with
  | .mark => { d with current := some (d.current.getD []), afterBlank := false }
  | .cut => { d.close with afterBlank := false }
  | .char c isQuoted divides =>
    if divides && separators.contains c then
      if c = ' ' || c = '\t' || c = '\n' then
        { d.close with afterBlank := d.current.isSome || d.afterBlank }
      else if d.current.isSome then { d.close with afterBlank := false }
      else if d.afterBlank then { d with afterBlank := false }
      else { d with done := [] :: d.done }
    else { d with current := some ((c, isQuoted) :: d.current.getD []), afterBlank := false }

/-- The words of pieces. -/
def wordsOf (separators : List Char) (ps : List Piece) : List Pattern :=
  (ps.foldl (Division.add separators) {}).close.done.reverse

/-- The characters of pieces that are not divided. -/
def patternOf (ps : List Piece) : Pattern :=
  ps.filterMap fun
    | .char c isQuoted _ => some (c, isQuoted)
    | .mark => none
    | .cut => some (' ', false)

/-- The text of pieces that are not divided. -/
def textOf (ps : List Piece) : String := (patternOf ps).text

/-! ## Expansion -/

/-- The directory that a tilde with a name stands for. -/
def homeOf? (s : Session) (name : String) : Option String :=
  if name = "" then s.value? "HOME" else if name = "root" then some "/root" else none

/-- A word whose tilde at the start is a directory. -/
def withTilde (s : Session) (isValue : Bool) (w : Word) : Word :=
  match w with
  | .plain text :: rest =>
    match text.toList with
    | '~' :: cs =>
      let ends (c : Char) : Bool := c = '/' || (isValue && c = ':')
      let name := cs.takeWhile fun c => !ends c
      let after := cs.drop name.length
      if after.isEmpty && !rest.isEmpty then w
      else
        match homeOf? s (String.ofList name) with
        | some home => .quoted home :: .plain (String.ofList after) :: rest
        | none => w
    | _ => w
  | w => w

/-- The parts of a text between colons, each with its colon. -/
def colonParts (s : String) : List String :=
  match s.splitOn ":" with
  | [] => []
  | first :: rest => first :: rest.map (":" ++ ·)

/-- A value of a variable whose tildes, at the start and after colons, are directories. -/
def withTildes (s : Session) (w : Word) : Word :=
  match w with
  | .plain text :: rest =>
    let parts := colonParts text
    let count := parts.length
    let words := parts.zipIdx.map fun (part, i) =>
      let after := if i + 1 = count then rest else []
      match part.toList with
      | ':' :: cs => .plain ":" :: withTilde s true (.plain (String.ofList cs) :: after)
      | _ => withTilde s true (.plain part :: after)
    words.flatten
  | w => w

/-- Runs a command beside the shell, for its status and what it writes. -/
abbrev Spawner := Command → Process (Nat × ByteArray)

/-- The output of a command without line ends at its end. -/
def outputText (bs : ByteArray) : String := Text.dropTrailing '\n' (Utf8.decodeLossy bs)

/-- The output of commands. -/
def outputOf (spawn : Spawner) (body : Command) : Process String := do
  let (code, written) ← spawn body
  requireSpaceFor written.size
  modifyShell fun s => { s with outputStatus := code }
  return outputText (ByteArray.mk (written.data.filter (· ≠ 0)))

/-- The value of an expression. -/
def computed (expression : String) : Process String := do
  let s ← theShell
  match Arithmetic.evaluate (fun name => (s.parameter? name).getD "") expression with
  | .error e => failWith (e.message expression)
  | .ok (n, assigned) =>
    for (name, n) in assigned.reverse do
      setVariable name (toString n)
    return toString n

/-- The pieces of a parameter's value. -/
def valuePieces (isQuoted : Bool) (name : String) (value : Option String) : Process (List Piece) := do
  let s ← theShell
  let each := s.args.map fun arg =>
    if isQuoted then .mark :: piecesOf true false arg else piecesOf false true arg
  match name, isQuoted with
  | "@", _ | "*", false => return (each.intersperse [.cut]).flatten
  | "*", true =>
    let glue := ((s.separators.head?).map Char.toString).getD ""
    return piecesOf true false (glue.intercalate s.args)
  | _, _ => return piecesOf isQuoted (!isQuoted) (value.getD "")

/-- The parameter stands for all arguments. -/
def isArguments (name : String) : Bool := name = "@" || name = "*"

/-- The value of a parameter as one text. -/
def parameterText? (name : String) : Process (Option String) := do
  let s ← theShell
  if isArguments name then
    return if s.args.isEmpty then none else some (" ".intercalate s.args)
  else return s.parameter? name

/-- A parameter without a value is a mistake when the shell is told so. -/
def requireSet (name : String) (value : Option String) : Process Unit := do
  if value.isNone && !isArguments name && (← theShell).options.contains 'u' then
    failWith (name ++ ": parameter not set")

/-- How many bytes the value of a parameter has; of the arguments, how many there are. -/
def lengthOf (name : String) (value : Option String) : Process Nat := do
  if isArguments name then return (← theShell).args.length
  else
    requireSet name value
    return (value.getD "").utf8ByteSize

/-- A value without an end that a pattern matches. -/
def trimmed (use : Use) (p : Pattern) (value : String) : String :=
  match use with
  | .withoutStart longest => Pattern.withoutStart p longest value
  | .withoutEnd longest => Pattern.withoutEnd p longest value
  | _ => value

mutual

/-- The pieces of a part of a word. Plain characters may divide words in the default of a parameter. -/
def expandPart (spawn : Spawner) (isQuoted divides : Bool) : Part → Process (List Piece)
  | .plain s => return piecesOf isQuoted divides s
  | .quoted s => return .mark :: piecesOf true false s
  | .group parts => do
    let ps ← expandParts spawn true false parts
    match parts with
    | [.parameter "@" _ _] => return ps
    | _ => return .mark :: ps
  | .output body => return piecesOf isQuoted (!isQuoted) (← outputOf spawn body)
  | .arithmetic parts => do
    let ps ← expandParts spawn true false parts
    return piecesOf isQuoted (!isQuoted) (← computed (textOf ps))
  | .parameter name use word => do
    let value ← parameterText? name
    let isThere (orEmpty : Bool) : Bool := value.isSome && !(orEmpty && value = some "")
    match use with
    | .value =>
      requireSet name value
      valuePieces isQuoted name value
    | .length => return piecesOf isQuoted (!isQuoted) (toString (← lengthOf name value))
    | .orElse orEmpty =>
      if isThere orEmpty then valuePieces isQuoted name value
      else expandDefault spawn isQuoted word
    | .instead orEmpty =>
      if isThere orEmpty then expandDefault spawn isQuoted word else return []
    | .orAssign orEmpty =>
      if isThere orEmpty then valuePieces isQuoted name value
      else
        let text := textOf (← expandDefault spawn isQuoted word)
        if !isName name then failWith (name ++ ": bad variable name")
        setVariable name text
        return piecesOf isQuoted (!isQuoted) text
    | .orFail orEmpty =>
      if isThere orEmpty then valuePieces isQuoted name value
      else
        let text := textOf (← expandDefault spawn isQuoted word)
        if word.isEmpty then
          failWith (name ++ ": parameter not set" ++ if orEmpty then " or null" else "")
        else failWith (name ++ ": " ++ text)
    | .withoutStart _ | .withoutEnd _ =>
      requireSet name value
      let p := patternOf (← expandParts spawn false false word)
      return piecesOf isQuoted (!isQuoted) (trimmed use p (value.getD ""))
    | .unknown => failWith "Bad substitution"

/-- The pieces of parts of a word. -/
def expandParts (spawn : Spawner) (isQuoted divides : Bool) : List Part → Process (List Piece)
  | [] => return []
  | part :: rest => do
    let ps ← expandPart spawn isQuoted divides part
    return ps ++ (← expandParts spawn isQuoted divides rest)

/-- The pieces of a default of a parameter. -/
def expandDefault (spawn : Spawner) (isQuoted : Bool) : List Part → Process (List Piece)
  | [] => return []
  | .plain text :: rest => do
    let s ← theShell
    let ps ←
      match if isQuoted then [] else withTilde s false (.plain text :: rest.map fun _ => .plain "") with
      | .quoted home :: .plain after :: _ =>
        pure (.mark :: piecesOf true false home ++ piecesOf isQuoted (!isQuoted) after)
      | _ => pure (piecesOf isQuoted (!isQuoted) text)
    return ps ++ (← expandParts spawn isQuoted (!isQuoted) rest)
  | part :: rest => do
    let ps ← expandPart spawn isQuoted (!isQuoted) part
    return ps ++ (← expandParts spawn isQuoted (!isQuoted) rest)

end

/-- The words that a word of a command stands for. -/
def expandWord (spawn : Spawner) (w : Word) : Process (List String) := do
  let ps ← expandParts spawn false false (withTilde (← theShell) false w)
  let s ← theShell
  let patterns := wordsOf s.separators ps
  if s.options.contains 'f' then return patterns.map Pattern.text
  else
    let t ← tree
    return patterns.flatMap (Pattern.expand t s.here)

/-- The words that words of a command stand for. -/
def expandWords (spawn : Spawner) : List Word → Process (List String)
  | [] => return []
  | w :: rest => do
    let words ← expandWord spawn w
    return words ++ (← expandWords spawn rest)

/-- The text that a word stands for, where only one is wanted. -/
def expandText (spawn : Spawner) (w : Word) : Process String := do
  return textOf (← expandParts spawn false false (withTilde (← theShell) false w))

/-- The text that the value of an assignment stands for. -/
def expandValue (spawn : Spawner) (w : Word) : Process String := do
  return textOf (← expandParts spawn false false (withTildes (← theShell) w))

/-- The pattern that a word stands for. -/
def expandPattern (spawn : Spawner) (w : Word) : Process Pattern := do
  return patternOf (← expandParts spawn false false (withTilde (← theShell) false w))

/-- The text of a document. -/
def expandDocument (spawn : Spawner) (n : Nat) : Process String := do
  return textOf (← expandParts spawn true false ((← get).documents.getD n []))

end Autoformat.Rehearsal.Shell
