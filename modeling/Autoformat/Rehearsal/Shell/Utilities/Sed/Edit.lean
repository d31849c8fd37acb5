import Autoformat.Rehearsal.Shell.Utilities.Running
import Autoformat.Rehearsal.Shell.Utilities.Sed.Script

/-!
# Editing lines by a script

`Editing` is the state of an editor: what it works on, what it holds, the lines that are left, and what
was written. A cycle takes a line, runs the script on it and writes the result.
-/

namespace Autoformat.Rehearsal.Shell.Sed

/-- How far a range of lines has come. -/
inductive RangeState where
  | waiting
  /-- The range goes up to a line, or to one that fits. -/
  | open (finish : Option Nat)
  | closed

/-- What is written at the end of a cycle. -/
inductive Addition where
  | text (cs : List Char)
  | file (path : String)

/-- What was written to one place. -/
structure Sink where
  bytes : ByteArray := .empty
  /-- The last line has no end yet. -/
  lacksEnd : Bool := false

/-- Text in a sink, after the end of the line before. -/
def Sink.add (s : Sink) (divider : Char) (cs : List Char) : Sink :=
  let start : List Char := if s.lacksEnd then [divider] else []
  { bytes := s.bytes ++ bytesOf (start ++ cs) }

/-- A line in a sink, which may have no end. -/
def Sink.addLine (s : Sink) (divider : Char) (cs : List Char) (isWhole : Bool) : Sink :=
  let s := s.add divider cs
  if isWhole then { s with bytes := s.bytes ++ bytesOf [divider] } else { s with lacksEnd := true }

/-- The state of an editor. -/
structure Editing where
  name : String
  script : Script
  divider : Char := '\n'
  /-- Every file has its own lines, with their own numbers. -/
  isSeparate : Bool := false
  /-- Files are replaced by what is written; earlier ones may be kept under another name. -/
  inPlace : Option String := none
  listWidth : Nat := 70
  /-- What is worked on, and whether its last line has an end. -/
  pattern : List Char := []
  isWhole : Bool := true
  held : List Char := []
  heldIsWhole : Bool := true
  line : Nat := 0
  /-- The lines of the file that are left, and whether they have ends. -/
  left : List (List Char × Bool) := []
  /-- The files that are left. -/
  files : List String
  current : String := "-"
  /-- A file is open that is to be replaced. -/
  isReplacing : Bool := false
  additions : List Addition := []
  isReplaced : Bool := false
  ranges : Array RangeState := #[]
  lastUsed : Option Expression := none
  /-- What was written to standard output. -/
  standard : Sink := {}
  /-- What was written in the place of the file. -/
  replacement : Sink := {}
  /-- What was written to other files. -/
  sinks : List (String × Sink) := []
  /-- The lines that are left of files that are read line by line. -/
  sources : List (String × List (List Char)) := []
  /-- A file could not be read. -/
  hasFailed : Bool := false
  /-- The next cycle goes on with what is left. -/
  keepsPattern : Bool := false

/-- A part of an editor. -/
abbrev Edit (α : Type) := StateT Editing Process α

/-! ## Output -/

/-- Changes what is written as the result. -/
def modifyOutput (f : Sink → Sink) : Edit Unit :=
  modify fun e =>
    if e.isReplacing then { e with replacement := f e.replacement } else { e with standard := f e.standard }

/-- Changes what is written to a file. -/
def modifySink (path : String) (f : Sink → Sink) : Edit Unit :=
  modify fun e =>
    if path = "/dev/stdout" then { e with standard := f e.standard }
    else { e with sinks := e.sinks.map fun x => if x.1 = path then (x.1, f x.2) else x }

/-- Writes what goes to other files. -/
def flushSinks : Edit Unit := do
  for (path, sink) in (← get).sinks do
    let _ ← writeAt path sink.bytes

/-- Writes standard output. -/
def flushStandard : Edit Unit := do
  let e ← get
  emit e.name e.standard.bytes
  set { e with standard := { e.standard with bytes := .empty } }

/-- Ends the editor with a complaint. -/
def stopWith {α : Type} (message : String) (status : Nat) : Edit α := do
  printErr s!"{(← get).name}: {message}\n"
  flushStandard
  flushSinks
  throw (.exit status)

/-- Writes a text as the result. -/
def writeText (cs : List Char) : Edit Unit := do
  let divider := (← get).divider
  modifyOutput fun s => s.add divider cs

/-- Writes what is worked on. -/
def writePattern : Edit Unit := do
  let e ← get
  modifyOutput fun s => s.addLine e.divider e.pattern e.isWhole

/-- The first line of what is worked on, and whether it has an end. -/
def Editing.firstLine (e : Editing) : List Char × Bool :=
  let first := e.pattern.takeWhile (· ≠ e.divider)
  (first, e.isWhole || first.length < e.pattern.length)

/-- Writes what was put off to the end of the cycle. -/
def writeAdditions : Edit Unit := do
  let additions := (← get).additions
  modify fun e => { e with additions := [] }
  for a in additions do
    match a with
    | .text cs => writeText cs
    | .file path =>
      if (← get).sinks.any fun x => x.1 = path then flushSinks
      match ← (if path = "/dev/stdin" then readInput else readAt path : Process _) with
      | .ok content => if !content.isEmpty then writeText (charsOf content)
      | .error _ => pure ()

/-! ## Input -/

/-- The lines of a text, and whether they have ends. -/
def linesBetween (divider : Char) (cs : List Char) : List (List Char × Bool) :=
  let (part, parts) := cs.foldr
    (fun c (acc : List Char × List (List Char)) =>
      if c = divider then ([], acc.1 :: acc.2) else (c :: acc.1, acc.2))
    ([], [])
  let all := part :: parts
  let last := (all.getLast?).getD []
  all.dropLast.map (·, true) ++ if last.isEmpty then [] else [(last, false)]

/-- The name under which the earlier state of a file is kept. -/
def backupName (suffix path : String) : String :=
  if suffix.toList.contains '*' then
    let base := suffix.replace "*" (baseName path)
    if base.toList.contains '/' then base
    else
      let above := directoryName path
      if above = "." && !Text.startsWith path "./" then base else joinPath above base
  else path ++ suffix

/-- The end of a file: it is replaced, if it is to be. -/
def closeFile : Edit Unit := do
  let e ← get
  if e.isReplacing then
    match e.inPlace with
    | some suffix =>
      if suffix ≠ "" then
        match ← readAt e.current with
        | .ok content =>
          let _ ← writeAt (backupName suffix e.current) content
        | .error _ => pure ()
    | none => pure ()
    let _ ← writeAt e.current e.replacement.bytes
    modify fun e => { e with isReplacing := false, replacement := {} }

/-- Opens a file. -/
def openInput (path : String) : Edit Unit := do
  let e ← get
  let isFolder : Bool :=
    match ← foundAt path with
    | .directory => path ≠ "-"
    | _ => false
  if isFolder then
    if e.inPlace.isSome then stopWith s!"couldn't edit {path}: not a regular file" 4
    else stopWith s!"read error on {path}: Is a directory" 4
  else
    match ← readOperand path with
    | .error fault =>
      printErr s!"{e.name}: can't read {path}: {reason fault}\n"
      modify fun e => { e with hasFailed := true }
    | .ok content =>
      let start := e.script.commands.map fun c =>
        match c.first with
        | some (.line 0) => RangeState.open none
        | _ => RangeState.waiting
      modify fun e =>
        { e with
          left := linesBetween e.divider (charsOf content)
          current := path
          isReplacing := e.inPlace.isSome
          line := if e.isSeparate then 0 else e.line
          ranges := if e.isSeparate || e.ranges.isEmpty then start else e.ranges }

/-- Goes on to a file with lines that are left, if there is one. -/
def toNextLines : Nat → Edit Bool
  | 0 => return false
  | fuel + 1 => do
    let e ← get
    if !e.left.isEmpty then return true
    else
      closeFile
      match e.files with
      | [] => return false
      | path :: rest =>
        modify fun e => { e with files := rest }
        openInput path
        toNextLines fuel

/-- No line is left. -/
def isAtEnd : Edit Bool := do
  let e ← get
  if !e.left.isEmpty then return false
  else if e.isSeparate then return true
  else return !(← toNextLines (e.files.length + 1))

/-- Takes the next line, if there is one. -/
def takeLine : Edit (Option (List Char × Bool)) := do
  writeAdditions
  let hasLines ← toNextLines ((← get).files.length + 1)
  let e ← get
  match hasLines, e.left with
  | true, x :: rest =>
    set { e with left := rest, line := e.line + 1, isReplaced := false }
    return some x
  | _, _ => return none

/-! ## Addresses -/

/-- Finds an expression in what is worked on, from a place on. -/
def findIn (x : Expression) (cs : Array Char) (i : Nat) : Edit (Option (Nat × Regex.Match)) := do
  let used ←
    match x.regex with
    | some _ => do
      modify fun e => { e with lastUsed := some x }
      pure (some x)
    | none => pure (← get).lastUsed
  match used with
  | some ⟨some r, ignoresCase, hasLines⟩ => return Regex.search ⟨cs, ignoresCase, hasLines⟩ r i
  | _ => stopWith "-e expression #1, char 0: no previous regular expression" 1

/-- The line has an address. -/
def fits (a : Address) : Edit Bool := do
  let e ← get
  match a with
  | .line n => return e.line = n
  | .every first step => return if e.line < first then false else (e.line - first) % step = 0
  | .last => isAtEnd
  | .found x => return (← findIn x e.pattern.toArray 0).isSome

/-- The state of the range of a command. -/
def setRange (i : Nat) (r : RangeState) : Edit Unit :=
  modify fun e => { e with ranges := e.ranges.setIfInBounds i r }

/-- The first line of a range has been found. -/
def beginRange (i : Nat) (f : Finish) : Edit Unit := do
  let n := (← get).line
  let until? : Option Nat :=
    match f with
    | .address (.line m) => some m
    | .after m => some (n + m)
    | .multiple m => some (if m = 0 then n else (n / m + 1) * m)
    | _ => none
  match until? with
  | some m => if n < m then setRange i (.open (some m))
  | none => setRange i (.open none)

/-- The line is in the range of a command. -/
def isInRange (i : Nat) (a : Address) (f : Finish) : Edit Bool := do
  let e ← get
  let begin : Edit Bool := do
    if ← fits a then
      beginRange i f
      return true
    else return false
  match e.ranges.getD i .waiting with
  | .open (some n) =>
    if n ≤ e.line then setRange i .closed
    if e.line ≤ n then return true else begin
  | .open none =>
    match f with
    | .address b => if ← fits b then setRange i .closed
    | _ => pure ()
    return true
  | .closed =>
    match a with
    | .line _ => return false
    | _ => begin
  | .waiting => begin

/-- The command is for the line. -/
def selects (i : Nat) (c : Command) : Edit Bool := do
  let isMeant ←
    match c.first, c.last with
    | none, _ => pure true
    | some a, none => fits a
    | some a, some f => isInRange i a f
  return isMeant != c.isNegated

/-! ## Replacing -/

/-- Characters that change on their way. -/
structure Recased where
  mode : Casing := .plain
  next : Option Casing := none
  /-- The last one first. -/
  written : List Char := []

/-- One more character. -/
def Recased.add (r : Recased) (c : Char) : Recased :=
  let changed :=
    match r.next, r.mode with
    | some .nextUpper, _ => c.toUpper
    | some .nextLower, _ => c.toLower
    | _, .upper => c.toUpper
    | _, .lower => c.toLower
    | _, _ => c
  { r with next := none, written := changed :: r.written }

/-- What is replaced by the pieces of a replacement, after what was written. -/
def Recased.addPieces (r : Recased) (text : Array Char) (whole : Regex.Span)
    (groups : List (Nat × Regex.Span)) (ps : List Piece) : Recased :=
  ps.foldl
    (fun r p =>
      match p with
      | .text c => r.add c
      | .group n =>
        match if n = 0 then some whole else groups.lookup n with
        | some (a, b) => (text.extract a b).foldl Recased.add r
        | none => r
      | .casing .nextUpper => { r with next := some .nextUpper }
      | .casing .nextLower => { r with next := some .nextLower }
      | .casing c => { r with mode := c })
    r

/-- Characters of a text at the end of others, which are kept in their reverse order. -/
def copied (text : Array Char) (a b : Nat) (acc : List Char) : List Char :=
  (text.extract a b).foldl (fun acc c => c :: acc) acc

/-- What a substitution makes of the rest of a text, from a place on; `before` is the end of the match
before. Tells too whether something was replaced. -/
def replaceFrom (s : Substitution) (text : Array Char) (acc : List Char) (isReplaced : Bool) :
    Nat → Nat → Option Nat → Nat → Edit (List Char × Bool)
  | 0, i, _, _ => return ((copied text i text.size acc).reverse, isReplaced)
  | fuel + 1, i, before, count => do
    if text.size < i then return (acc.reverse, isReplaced)
    else
      match ← findIn s.target text i with
      | none => return ((copied text i text.size acc).reverse, isReplaced)
      | some (a, m) =>
        let acc := copied text i a acc
        if m.finish = a && before = some a then
          replaceFrom s text (copied text a (a + 1) acc) isReplaced fuel (a + 1) none count
        else
          let isMeant := s.count ≤ count + 1
          let acc :=
            if isMeant then
              (Recased.addPieces { written := acc } text (a, m.finish) m.groups s.replacement).written
            else copied text a m.finish acc
          if isMeant && !s.isGlobal then
            return ((copied text m.finish text.size acc).reverse, true)
          else if m.finish = a then
            replaceFrom s text (copied text a (a + 1) acc) (isReplaced || isMeant) fuel (a + 1) none (count + 1)
          else
            replaceFrom s text acc (isReplaced || isMeant) fuel m.finish (some m.finish) (count + 1)

/-! ## Showing all characters -/

/-- A character as it is shown. -/
def shown (c : Char) : List Char :=
  match c with
  | '\\' => ['\\', '\\']
  | '\x07' => ['\\', 'a']
  | '\x08' => ['\\', 'b']
  | '\x0c' => ['\\', 'f']
  | '\n' => ['\\', 'n']
  | '\x0d' => ['\\', 'r']
  | '\t' => ['\\', 't']
  | '\x0b' => ['\\', 'v']
  | c =>
    if ' ' ≤ c && c ≤ '~' then [c]
    else
      let ds := Nat.toDigits 8 c.toNat
      '\\' :: List.replicate (3 - ds.length) '0' ++ ds

/-- A text whose characters are all shown, in lines of a width. -/
def listed (width : Nat) (cs : List Char) : List Char :=
  let (_, acc) := cs.foldl
    (fun ((column : Nat), (acc : List Char)) c =>
      let piece := shown c
      if 0 < width && width - 1 < column + piece.length then
        (piece.length, piece.reverse ++ '\n' :: '\\' :: acc)
      else (column + piece.length, piece.reverse ++ acc))
    (0, [])
  ('$' :: acc).reverse

/-! ## Running -/

/-- How a run of the script ends. -/
inductive Outcome where
  /-- The result is written. -/
  | finished
  /-- Nothing is written. -/
  | dropped
  | quit (code : Nat)

/-- Where the script goes on. -/
inductive Step where
  | goTo (i : Nat)
  | finish (o : Outcome)

/-- What a command of the shell writes. -/
def outputOfCommand (self : Interpreter) (command : List Char) : Edit (List Char) := do
  flushStandard
  let (_, written) ← capture self (do
    let _ ← runChild self ["sh", "-c", textOfChars command]
    return 0)
  return charsOf written

/-- The next line of a file that is read line by line. -/
def nextOfSource (path : String) : Edit (Option (List Char)) := do
  let lines ←
    match (← get).sources.lookup path with
    | some lines => pure lines
    | none =>
      match ← readAt path with
      | .ok content => pure (splitLines (charsOf content))
      | .error _ => pure []
  let others := (← get).sources.filter fun x => x.1 ≠ path
  modify fun e => { e with sources := (path, lines.drop 1) :: others }
  return lines.head?

/-- Replaces, and does what is to be done then. -/
def runSubstitution (self : Interpreter) (s : Substitution) : Edit Unit := do
  let e ← get
  let text := e.pattern.toArray
  let (result, isReplaced) ← replaceFrom s text [] false (text.size + 2) 0 none 0
  if isReplaced then
    modify fun e => { e with pattern := result, isReplaced := true }
    if s.runs then
      let written ← outputOfCommand self result
      let written := if written.getLast? = some '\n' then written.dropLast else written
      modify fun e => { e with pattern := written }
    if s.prints then writePattern
    match s.file with
    | some path =>
      let e ← get
      modifySink path fun sink => sink.addLine e.divider e.pattern e.isWhole
    | none => pure ()

/-- Does what a command does. -/
def runAction (self : Interpreter) (i : Nat) (action : Action) : Edit Step := do
  let e ← get
  let onward : Step := .goTo (i + 1)
  match action with
  | .block _ | .nothing => return onward
  | .number =>
    writeText (toString e.line ++ "\n").toList
    return onward
  | .append text =>
    set { e with additions := e.additions ++ [Addition.text text] }
    return onward
  | .insert text =>
    writeText text
    return onward
  | .change text =>
    match e.ranges.getD i .waiting with
    | .open _ => pure ()
    | _ => writeText text
    return .finish .dropped
  | .delete => return .finish .dropped
  | .deleteLine =>
    let (first, _) := e.firstLine
    if first.length < e.pattern.length then
      set { e with pattern := e.pattern.drop (first.length + 1), keepsPattern := true }
    return .finish .dropped
  | .run command =>
    if command.isEmpty then
      let written ← outputOfCommand self e.pattern
      let written := if written.getLast? = some '\n' then written.dropLast else written
      modify fun e => { e with pattern := written }
    else writeText (← outputOfCommand self command)
    return onward
  | .fileName =>
    writeText (argumentChars e.current ++ ['\n'])
    return onward
  | .takeHold =>
    set { e with pattern := e.held, isWhole := e.heldIsWhole }
    return onward
  | .addHold =>
    set { e with pattern := e.pattern ++ e.divider :: e.held, isWhole := e.heldIsWhole }
    return onward
  | .hold =>
    set { e with held := e.pattern, heldIsWhole := e.isWhole }
    return onward
  | .holdMore =>
    set { e with held := e.held ++ e.divider :: e.pattern, heldIsWhole := e.isWhole }
    return onward
  | .swap =>
    set { e with
      pattern := e.held, isWhole := e.heldIsWhole, held := e.pattern, heldIsWhole := e.isWhole }
    return onward
  | .showAll width =>
    modifyOutput fun s => s.addLine e.divider (listed (width.getD e.listWidth) e.pattern) true
    return onward
  | .next =>
    if ← isAtEnd then return .finish .finished
    else
      if !e.script.isQuiet then writePattern
      match ← takeLine with
      | some (cs, isWhole) =>
        modify fun e => { e with pattern := cs, isWhole := isWhole }
        return onward
      | none => return .finish .dropped
  | .nextMore =>
    if ← isAtEnd then return .finish .finished
    else
      match ← takeLine with
      | some (cs, isWhole) =>
        modify fun e => { e with pattern := e.pattern ++ e.divider :: cs, isWhole := isWhole }
        return onward
      | none => return .finish .finished
  | .print =>
    writePattern
    return onward
  | .printLine =>
    let (first, isWhole) := e.firstLine
    modifyOutput fun s => s.addLine e.divider first isWhole
    return onward
  | .quit code =>
    if !e.script.isQuiet then writePattern
    writeAdditions
    return .finish (.quit code)
  | .quitSilently code => return .finish (.quit code)
  | .readFile path =>
    set { e with additions := e.additions ++ [Addition.file path] }
    return onward
  | .readLine path =>
    match ← nextOfSource path with
    | some cs => modify fun e => { e with additions := e.additions ++ [Addition.text cs] }
    | none => pure ()
    return onward
  | .write path =>
    modifySink path fun s => s.addLine e.divider e.pattern e.isWhole
    return onward
  | .writeLine path =>
    let (first, isWhole) := e.firstLine
    modifySink path fun s => s.addLine e.divider first isWhole
    return onward
  | .substitute s =>
    runSubstitution self s
    return onward
  | .replaceEach pairs =>
    set { e with pattern := e.pattern.map fun c => (pairs.lookup c).getD c }
    return onward
  | .jump kind label =>
    let isTaken : Bool :=
      match kind with
      | .always => true
      | .ifReplaced => e.isReplaced
      | .unlessReplaced => !e.isReplaced
    modify fun e =>
      match kind with
      | .always => e
      | _ => { e with isReplaced := false }
    if isTaken then
      return .goTo ((if label = "" then none else e.script.labels.lookup label).getD e.script.commands.size)
    else return onward
  | .clear =>
    set { e with pattern := [] }
    return onward

/-- Runs the script from a command on. -/
def runFrom (self : Interpreter) : Nat → Nat → Edit Outcome
  | 0, _ => throw .timedOut
  | fuel + 1, i => do
    countStep
    match (← get).script.commands[i]? with
    | none => return .finished
    | some c =>
      let isSelected ← selects i c
      let step ←
        match isSelected, c.action with
        | false, .block finish => pure (.goTo finish)
        | false, _ => pure (.goTo (i + 1))
        | true, action => runAction self i action
      match step with
      | .goTo j => runFrom self fuel j
      | .finish o => return o

/-- Runs cycles up to the end of the lines, or until the script quits. -/
def runCycles (self : Interpreter) : Nat → Edit Nat
  | 0 => throw .timedOut
  | fuel + 1 => do
    let isThere ←
      if (← get).keepsPattern then do
        modify fun e => { e with keepsPattern := false }
        pure true
      else
        match ← takeLine with
        | some (cs, isWhole) =>
          modify fun e => { e with pattern := cs, isWhole := isWhole }
          pure true
        | none => pure false
    if !isThere then return 0
    else
      match ← runFrom self 500000 0 with
      | .quit code => return code
      | .finished =>
        if !(← get).script.isQuiet then writePattern
        writeAdditions
        runCycles self fuel
      | .dropped =>
        writeAdditions
        runCycles self fuel

/-- Edits all lines. -/
def edit (self : Interpreter) : Edit Nat := do
  let code ← runCycles self 500000
  closeFile
  flushStandard
  flushSinks
  return if code = 0 && (← get).hasFailed then 2 else code

/-! ## The utility -/

/-- The options of `sed`. -/
def letters : Letters :=
  { plain := ['n', 'E', 'r', 's', 'z', 'u']
    argued := ['e', 'f', 'l']
    maybeArgued := ['i']
    long := [("quiet", 'n'), ("silent", 'n'), ("expression", 'e'), ("file", 'f'), ("regexp-extended", 'E'),
      ("in-place", 'i'), ("separate", 's'), ("null-data", 'z'), ("unbuffered", 'u'), ("posix", 'u'),
      ("follow-symlinks", 'u'), ("line-length", 'l')] }

/-- The pieces of a script among options. -/
def piecesOf (name : String) : Nat → List (Char × String) → Process (List (Origin × List Char))
  | _, [] => return []
  | n, ('e', text) :: rest => do
    return (.expression n, argumentChars text) :: (← piecesOf name (n + 1) rest)
  | n, ('f', path) :: rest => do
    match ← readOperand path with
    | .ok content =>
      let cs := charsOf content
      let cs := if cs.getLast? = some '\n' then cs.dropLast else cs
      return (Origin.file path, cs) :: (← piecesOf name n rest)
    | .error e =>
      printErr s!"{name}: couldn't open file {path}: {reason e}\n"
      throw (.exit 4)
  | n, _ :: rest => piecesOf name n rest

/-- Edits lines by a script. -/
def utility (self : Interpreter) : Utility := fun name args => do
  let o ← getOptions name letters 1 args
  let hasScript := o.has 'e' || o.has 'f'
  match hasScript, o.operands with
  | false, [] => complain (tryHelp name) 1
  | hasScript, operands =>
    let ps ←
      if hasScript then piecesOf name 1 o.given
      else pure [(.expression 1, argumentChars (operands.headD ""))]
    let files := if hasScript then operands else operands.drop 1
    match Script.ofPieces (o.has 'E' || o.has 'r') ps with
    | .error e => complain s!"{name}: {e.message}" e.status
    | .ok script =>
      let script := if o.has 'n' then { script with isQuiet := true } else script
      let inPlace := o.value? 'i'
      if inPlace.isSome && files.isEmpty then complain s!"{name}: no input files" 4
      else
        for path in script.files do
          if path ≠ "/dev/stdout" then
            match ← writeAt path .empty with
            | .ok () => pure ()
            | .error e =>
              printErr s!"{name}: couldn't open file {path}: {reason e}\n"
              throw (.exit 4)
        let start : Editing :=
          { name := name
            script := script
            divider := if o.has 'z' then '\x00' else '\n'
            isSeparate := o.has 's' || inPlace.isSome
            inPlace := inPlace
            listWidth := ((o.value? 'l').bind digits?).getD 70
            files := if files.isEmpty then ["-"] else files
            sinks := (script.files.filter (· ≠ "/dev/stdout")).eraseDups.map fun path => (path, {}) }
        return (← (edit self).run start).1

end Autoformat.Rehearsal.Shell.Sed
