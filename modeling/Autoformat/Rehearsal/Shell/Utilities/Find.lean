import Autoformat.Rehearsal.Shell.Regex
import Autoformat.Rehearsal.Shell.Utilities.Files
import Autoformat.Rehearsal.Shell.Utilities.Running

/-!
# Finding files

`find` walks through directories and decides about every file by an expression of tests and actions.
`Expression.read` reads the expression of a command line; `Expression.decide` decides about a file. All files
are new, and they all belong to one user.
-/

namespace Autoformat.Rehearsal.Shell.Find

/-- A number that is asked for: it may be exact, or a bound. -/
inductive Bound where
  | exactly (n : Nat)
  | above (n : Nat)
  | below (n : Nat)

/-- The number is in the bound. -/
def Bound.accepts (b : Bound) (n : Nat) : Bool :=
  match b with
  | .exactly m => n = m
  | .above m => m < n
  | .below m => n < m

/-- The bound that a text stands for. -/
def Bound.ofChars? (cs : List Char) : Option Bound :=
  let number (ds : List Char) : Option Nat := if ds.isEmpty then none else digits? (String.ofList ds)
  match cs with
  | '+' :: ds => (number ds).map .above
  | '-' :: ds => (number ds).map .below
  | ds => (number ds).map .exactly

/-- Which rights are asked for. -/
inductive Rights where
  | exactly (mode : Nat)
  | all (mode : Nat)
  | any (mode : Nat)

/-- Tests and actions. -/
inductive Expression where
  | always (b : Bool)
  | name (pattern : String) (ignoresCase : Bool)
  | path (pattern : String) (ignoresCase : Bool)
  | regex (r : Regex) (ignoresCase : Bool)
  | kind (letters : List Char)
  | empty
  | executable
  | size (b : Bound) (unit : Nat)
  | rights (r : Rights)
  | depth (b : Bound)
  | print (ending : String)
  | format (cs : List Char)
  | delete
  | prune
  | quit
  | run (words : List String) (inDirectory : Bool)
  /-- A command that is run once for all files. -/
  | runForAll (number : Nat)
  | negation (e : Expression)
  | both (a b : Expression)
  | either (a b : Expression)
  /-- The first one does not decide. -/
  | after (a b : Expression)

/-- What is known of a walk before it begins. -/
structure Settings where
  least : Nat := 0
  most : Option Nat := none
  /-- What is in a directory comes before the directory. -/
  isDeepFirst : Bool := false
  /-- An action says what is done with files. -/
  hasAction : Bool := false
  /-- The form of regular expressions. -/
  form : Option Regex.Form := none
  /-- The commands that are run once for all files. -/
  commands : List (List String) := []
  /-- The predicate before had a pattern. -/
  lastPattern : Option String := none

/-! ## Reading -/

/-- A reader of an expression. -/
structure Reader where
  rest : List String
  settings : Settings := {}

/-- A part of the reader; what is wrong is said in words. -/
abbrev Reading (α : Type) := StateT Reader (ExceptT String Process) α

/-- The next word, which stays. -/
def peek : Reading (Option String) := do return (← get).rest.head?

/-- Passes over a word. -/
def skip : Reading Unit := modify fun r => { r with rest := r.rest.drop 1 }

/-- The argument of a predicate. -/
def argument (predicate : String) : Reading String := do
  match (← get).rest with
  | [] => throw s!"missing argument to \x60{predicate}'"
  | word :: rest =>
    modify fun r => { r with rest := rest }
    return word

/-- Changes the settings. -/
def modifySettings (f : Settings → Settings) : Reading Unit :=
  modify fun r => { r with settings := f r.settings }

/-- An expression in the form that is the default: counts need no backslash, all else does. -/
def plainForm : List Char → List Char
  | '\\' :: c :: cs => if c = '+' || c = '?' then c :: plainForm cs else '\\' :: c :: plainForm cs
  | '+' :: cs => '\\' :: '+' :: plainForm cs
  | '?' :: cs => '\\' :: '?' :: plainForm cs
  | c :: cs => c :: plainForm cs
  | [] => []

/-- The unit that a letter stands for, in bytes. -/
def unitOf? (c : Char) : Option Nat :=
  match c with
  | 'b' => some 512
  | 'c' => some 1
  | 'w' => some 2
  | 'k' => some 1024
  | 'M' => some 1048576
  | 'G' => some 1073741824
  | _ => none

/-- A test of sizes. -/
def readSize (s : String) : Reading Expression := do
  let cs := s.toList
  let last := cs.getLast?.getD 'b'
  let (number, unit) := if last.isDigit then (cs, some 512) else (cs.dropLast, unitOf? last)
  match Bound.ofChars? number, unit with
  | some b, some unit => return .size b unit
  | _, none => throw s!"invalid -size type \x60{last}'"
  | none, _ => throw s!"Invalid argument \x60{s}' to -size"

/-- A test of rights. -/
def readRights (s : String) : Reading Expression := do
  let mode? (s : String) : Option Nat := (modeOf? s).map fun f => f false 0
  let rest := String.ofList (s.toList.drop 1)
  let found : Option Rights :=
    match s.toList.head? with
    | some '-' => (mode? rest).map .all
    | some '/' => (mode? rest).map .any
    | _ => (mode? s).map .exactly
  match found with
  | some r => return .rights r
  | none => throw s!"invalid mode '{s}'"

/-- A test of kinds. -/
def readKinds (s : String) : Reading Expression := do
  let parts := s.splitOn ","
  let known := ['b', 'c', 'd', 'p', 'f', 'l', 's', 'D']
  if s = "" then throw "Arguments to -type should contain at least one letter"
  else
    for part in parts do
      match part.toList with
      | [] => throw "Last file type in list argument to -type is missing, i.e., list is ending on: ','"
      | [c] => if !known.contains c then throw s!"Unknown argument to -type: {c}"
      | c :: _ =>
        if known.contains c then throw "Must separate multiple arguments to -type using: ','"
        else throw s!"Unknown argument to -type: {c}"
    return .kind (parts.flatMap String.toList)

/-- The words of a command, up to its end, and whether it is run once for all files. -/
def commandWords (predicate : String) (soFar : List String) : List String → Reading (List String × Bool)
  | [] => throw s!"missing argument to \x60{predicate}'"
  | ";" :: rest => do
    modify fun r => { r with rest := rest }
    return (soFar.reverse, false)
  | word :: rest => do
    if word = "+" && (soFar.head?.any fun w => Text.contains w "\x7b\x7d") then
      modify fun r => { r with rest := rest }
      return (soFar.reverse, true)
    else commandWords predicate (word :: soFar) rest

/-- A command that is run for files. -/
def readCommand (predicate : String) : Reading Expression := do
  let mark := "\x7b\x7d"
  if (← peek) = some ";" then throw s!"invalid argument \x60;' to \x60{predicate}'"
  let (words, isForAll) ← commandWords predicate [] (← get).rest
  modifySettings fun s => { s with hasAction := true }
  if !isForAll then return .run words (predicate = "-execdir")
  else if words.dropLast.contains mark then
    throw s!"Only one instance of \x7b\x7d is supported with {predicate} ... +"
  else
    match words.find? fun w => w ≠ mark && Text.contains w mark with
    | some w =>
      throw s!"In '{predicate} ... \x7b\x7d +' the '\x7b\x7d' must appear by itself, but you specified '{w}'"
    | none =>
      let number := (← get).settings.commands.length
      modifySettings fun s => { s with commands := s.commands ++ [words.dropLast] }
      return .runForAll number

/-- A limit of the depth. -/
def readDepth (predicate : String) : Reading Nat := do
  let s ← argument predicate
  match if s = "" then none else digits? s with
  | some n => return n
  | none => throw s!"Expected a positive decimal integer argument to {predicate}, but got '{s}'"

/-- An action. -/
def action (e : Expression) : Reading Expression := do
  modifySettings fun s => { s with hasAction := true }
  return e

/-- A test with a pattern. -/
def withPattern (predicate : String) (e : String → Expression) : Reading Expression := do
  let s ← argument predicate
  modifySettings fun x => { x with lastPattern := some predicate }
  return e s

/-- A test of age, which is zero for all files. -/
def readAge (predicate : String) : Reading Expression := do
  let s ← argument predicate
  match Bound.ofChars? s.toList with
  | some b => return .always (b.accepts 0)
  | none => throw s!"invalid argument \x60{s}' to \x60{predicate}'"

/-- Reads the rest of a predicate. -/
def readPredicate (predicate : String) : Reading Expression := do
  modifySettings fun s => { s with lastPattern := none }
  match predicate with
  | "-true" | "-noleaf" | "-mount" | "-xdev" | "-warn" | "-nowarn" | "-readable" | "-writable" | "-follow"
  | "-daystart" | "-ignore_readdir_race" | "-noignore_readdir_race" => return .always true
  | "-false" | "-nouser" | "-nogroup" => return .always false
  | "-name" => withPattern predicate (.name · false)
  | "-iname" => withPattern predicate (.name · true)
  | "-path" | "-wholename" => withPattern predicate (.path · false)
  | "-ipath" | "-iwholename" => withPattern predicate (.path · true)
  | "-lname" | "-ilname" => withPattern predicate fun _ => .always false
  | "-regex" | "-iregex" =>
    let s ← argument predicate
    let form := (← get).settings.form
    let cs := argumentChars s
    match Regex.parse (form.getD ⟨false, false⟩) (if form.isNone then plainForm cs else cs) with
    | .ok p => return .regex p.regex (predicate = "-iregex")
    | .error e => throw s!"failed to compile regular expression '{s}': {e.message}"
  | "-regextype" =>
    let s ← argument predicate
    let isExtended := ["posix-extended", "posix-egrep", "egrep", "awk", "posix-awk", "gnu-awk"].contains s
    let isBasic := ["posix-basic", "grep", "ed", "sed", "posix-minimal-basic"].contains s
    if isExtended || isBasic then
      modifySettings fun x => { x with form := some ⟨isExtended, false⟩ }
    return .always true
  | "-type" | "-xtype" => readKinds (← argument predicate)
  | "-empty" => return .empty
  | "-executable" => return .executable
  | "-size" => readSize (← argument predicate)
  | "-perm" => readRights (← argument predicate)
  | "-mtime" | "-atime" | "-ctime" | "-mmin" | "-amin" | "-cmin" => readAge predicate
  | "-links" =>
    let s ← argument predicate
    match Bound.ofChars? s.toList with
    | some b => return .always (b.accepts 1)
    | none => throw s!"invalid argument \x60{s}' to \x60{predicate}'"
  | "-user" | "-group" =>
    let s ← argument predicate
    return .always (s = "root" || s = "0")
  | "-newer" | "-anewer" | "-cnewer" =>
    let s ← argument predicate
    match ← (standing s : Process _) with
    | .ok _ => return .always false
    | .error e => throw s!"'{s}': {reason e}"
  | "-maxdepth" =>
    let n ← readDepth predicate
    modifySettings fun s => { s with most := some n }
    return .always true
  | "-mindepth" =>
    let n ← readDepth predicate
    modifySettings fun s => { s with least := n }
    return .always true
  | "-depth" | "-d" =>
    modifySettings fun s => { s with isDeepFirst := true }
    return .always true
  | "-print" => action (.print "\n")
  | "-print0" => action (.print "\x00")
  | "-printf" => action (.format (argumentChars (← argument predicate)))
  | "-delete" =>
    modifySettings fun s => { s with isDeepFirst := true }
    action .delete
  | "-prune" => return .prune
  | "-quit" => action .quit
  | "-exec" | "-execdir" => readCommand predicate
  | predicate => throw s!"unknown predicate \x60{predicate}'"

/-- A word that is no part of an expression. -/
def refuseWord (word : String) : Reading Expression := do
  let pattern := (← get).settings.lastPattern
  let isThere : Bool :=
    match ← (foundAt word : Process _) with
    | .nothing => false
    | _ => true
  let hint :=
    match pattern, isThere with
    | some p, true => s!"\nfind: possible unquoted pattern after predicate \x60{p}'?"
    | _, _ => ""
  throw (s!"paths must precede expression: \x60{word}'" ++ hint)

/-- Operators between two expressions. -/
def isOperator (word : String) : Bool := ["-o", "-or", "-a", "-and", ","].contains word

mutual

/-- Reads a single test, action, or expression in brackets. -/
def readSingle : Nat → Reading Expression
  | 0 => throw "expression too deep"
  | fuel + 1 => do
    match ← peek with
    | none => throw "expected an expression"
    | some word =>
      if isOperator word then
        throw s!"invalid expression; you have used a binary operator '{word}' with nothing before it."
      else if word = ")" then throw "you have too many ')'"
      else if word = "!" || word = "-not" then
        skip
        if (← peek).isNone then throw s!"expected an expression after '{word}'"
        return .negation (← readSingle fuel)
      else if word = "(" then
        skip
        if (← peek) = some ")" then throw "invalid expression; empty parentheses are not allowed."
        let e ← readList fuel
        match ← peek with
        | some ")" =>
          skip
          return e
        | _ => throw "invalid expression; I was expecting to find a ')' somewhere but did not see one."
      else if Text.startsWith word "-" && word ≠ "-" then
        skip
        readPredicate word
      else refuseWord word

/-- Reads expressions that all have to hold. -/
def readBoth (first : Expression) : Nat → Reading Expression
  | 0 => return first
  | fuel + 1 => do
    match ← peek with
    | none => return first
    | some word =>
      if word = "-a" || word = "-and" then
        skip
        if (← peek).isNone then throw s!"expected an expression after '{word}'"
        readBoth (.both first (← readSingle fuel)) fuel
      else if word = ")" || isOperator word then return first
      else readBoth (.both first (← readSingle fuel)) fuel

/-- Reads expressions one of which has to hold. -/
def readEither : Nat → Reading Expression
  | 0 => throw "expression too deep"
  | fuel + 1 => do
    let a ← readBoth (← readSingle fuel) fuel
    match ← peek with
    | some word =>
      if word = "-o" || word = "-or" then
        skip
        if (← peek).isNone then throw s!"expected an expression after '{word}'"
        return .either a (← readEither fuel)
      else return a
    | none => return a

/-- Reads expressions in a row. -/
def readList : Nat → Reading Expression
  | 0 => throw "expression too deep"
  | fuel + 1 => do
    let a ← readEither fuel
    match ← peek with
    | some "," =>
      skip
      if (← peek).isNone then throw "expected an expression after ','"
      return .after a (← readList fuel)
    | _ => return a

end

/-- The expression of a command line. Without an action, files are printed. -/
def readExpression : Reading Expression := do
  let n := (← get).rest.length
  if n = 0 then return .print "\n"
  else
    let e ← readList (4 * n + 8)
    match ← peek with
    | some ")" => throw "you have too many ')'"
    | some word => refuseWord word
    | none => return if (← get).settings.hasAction then e else .both e (.print "\n")

/-! ## Deciding -/

/-- A file that is looked at. -/
structure Item where
  path : String
  root : String
  place : Place
  depth : Nat

/-- A walk. -/
structure Walk where
  name : String
  settings : Settings
  code : Nat := 0
  /-- What is in the directory is passed over. -/
  isPruned : Bool := false
  hasQuit : Bool := false
  /-- The files for the commands that are run once, the last one first. -/
  waiting : List (Nat × String) := []

/-- A part of a walk. -/
abbrev Walking (α : Type) := StateT Walk Process α

/-- Says what is wrong. -/
def complainOf (s : String) : Walking Unit := do
  printErr s!"{(← get).name}: {s}\n"
  modify fun w => { w with code := 1 }

/-- The letter of a kind of file. -/
def kindOf : Found → Char
  | .directory => 'd'
  | .device _ => 'c'
  | _ => 'f'

/-- The size of a file in bytes. -/
def sizeOf : Found → Nat
  | .file content _ => content.size
  | .directory => 4096
  | _ => 0

/-- The rights of a file. -/
def modeOf : Found → Nat
  | .directory | .program _ => 493
  | .file _ executable => if executable then 493 else 420
  | _ => 438

/-- A name as it is compared with a pattern. -/
def matchesPattern (pattern : String) (ignoresCase : Bool) (s : String) : Bool :=
  let lower (s : String) : String := if ignoresCase then s.map Char.toLower else s
  Pattern.accepts (.ofString (lower pattern)) (lower s).toList

/-- The path of a file without the root of the walk. -/
def Item.below (i : Item) : String :=
  let cs := i.path.toList.drop i.root.length
  String.ofList (if cs.head? = some '/' then cs.drop 1 else cs)

/-- A directive of a format. -/
def Item.directive (i : Item) (found : Found) (c : Char) : Option String :=
  match c with
  | 'p' => some i.path
  | 'f' => some (baseName i.path)
  | 'h' =>
    let cs := (i.path.toList.reverse.dropWhile (· ≠ '/')).drop 1
    some (if i.path.toList.contains '/' then String.ofList cs.reverse else ".")
  | 'P' => some i.below
  | 'H' => some i.root
  | 's' => some (toString (sizeOf found))
  | 'd' => some (toString i.depth)
  | 'y' | 'Y' => some (kindOf found).toString
  | 'm' => some (String.ofList (Nat.toDigits 8 (modeOf found)))
  | 'M' => some ((if kindOf found = 'f' then "-" else (kindOf found).toString) ++ modeText (modeOf found))
  | 'k' => some (toString ((sizeOf found + 4095) / 4096 * 4))
  | 'b' => some (toString ((sizeOf found + 4095) / 4096 * 8))
  | 'u' | 'g' => some "root"
  | 'U' | 'G' => some "0"
  | 'n' => some "1"
  | 'l' => some ""
  | '%' => some "%"
  | _ => none

/-- What a format comes to for a file, and the directives that it does not know. -/
def Item.formatted (i : Item) (found : Found) : Nat → List Char → List Char × List Char
  | 0, _ => ([], [])
  | _, [] => ([], [])
  | fuel + 1, '\\' :: c :: cs =>
    let simple : Option Char :=
      match c with
      | 'a' => some '\x07'
      | 'b' => some '\x08'
      | 'f' => some '\x0c'
      | 'n' => some '\n'
      | 'r' => some '\x0d'
      | 't' => some '\t'
      | 'v' => some '\x0b'
      | '\\' => some '\\'
      | _ => none
    let ds := ((c :: cs).take 3).takeWhile fun d => '0' ≤ d && d ≤ '7'
    if c = 'c' then ([], [])
    else if !ds.isEmpty then
      let n := ds.foldl (fun n d => 8 * n + (d.toNat - '0'.toNat)) 0
      let (out, unknown) := i.formatted found fuel ((c :: cs).drop ds.length)
      (Char.ofNat (n % 256) :: out, unknown)
    else
      let (out, unknown) := i.formatted found fuel cs
      match simple with
      | some d => (d :: out, unknown)
      | none => ('\\' :: c :: out, unknown)
  | fuel + 1, '%' :: c :: cs =>
    let (out, unknown) := i.formatted found fuel cs
    match i.directive found c with
    | some s => (argumentChars s ++ out, unknown)
    | none => ('%' :: c :: out, c :: unknown)
  | fuel + 1, c :: cs =>
    let (out, unknown) := i.formatted found fuel cs
    (c :: out, unknown)

/-- The words of a command with a path put in. -/
def withPath (path : String) (words : List String) : List String :=
  words.map fun w => w.replace "\x7b\x7d" path

/-- Runs a command; tells whether it succeeds. -/
def runCommand (self : Interpreter) (words : List String) : Walking Bool := do
  let program := words.headD ""
  match ← (runChild self words : Process _) with
  | .ok (.exited code) => return code = 0
  | .ok (.killed _) => return false
  | .error e =>
    printErr s!"{(← get).name}: '{program}': {reason e}\n"
    return false

/-- Runs a command in the directory of a file. -/
def runBesideFile (self : Interpreter) (i : Item) (words : List String) : Walking Bool := do
  let start ← (here : Process _)
  let above : Place ←
    match ← (placeOf (directoryName i.path) : Process _) with
    | .ok p => pure p
    | .error _ => pure start
  modifyShell fun s => { s with here := above }
  let isDone ← runCommand self (withPath (joinPath "." (baseName i.path)) words)
  modifyShell fun s => { s with here := start }
  return isDone

/-- Removes a file. -/
def deleteItem (i : Item) : Walking Bool := do
  let t ← (tree : Process _)
  if i.path = "." then return true
  else if kindOf (t.found i.place) = 'd' && !(t.namesIn i.place).isEmpty then
    complainOf s!"cannot delete '{i.path}': Directory not empty"
    return false
  else
    setTree (t.remove i.place)
    return true

/-- Decides about a file. -/
def decide (self : Interpreter) (i : Item) (found : Found) : Expression → Walking Bool
  | .always b => return b
  | .name pattern ignoresCase => return matchesPattern pattern ignoresCase (baseName i.path)
  | .path pattern ignoresCase => return matchesPattern pattern ignoresCase i.path
  | .regex r ignoresCase =>
    let t : Regex.Subject := { text := (argumentChars i.path).toArray, ignoresCase := ignoresCase }
    return ((Regex.longestAt t r 0).run Regex.stepLimit).1.any fun m => m.finish = t.text.size
  | .kind letters => return letters.contains (kindOf found)
  | .empty => do
    match found with
    | .directory => return ((← (tree : Process _)).namesIn i.place).isEmpty
    | .file content _ => return content.isEmpty
    | _ => return false
  | .executable => return modeOf found &&& 73 ≠ 0
  | .size b unit => return b.accepts ((sizeOf found + unit - 1) / unit)
  | .rights r =>
    let mode := modeOf found
    match r with
    | .exactly m => return mode = m
    | .all m => return mode &&& m = m
    | .any m => return m = 0 || mode &&& m ≠ 0
  | .depth b => return b.accepts i.depth
  | .print ending => do
    emitText (← get).name (i.path ++ ending)
    return true
  | .format cs => do
    let (out, unknown) := i.formatted found (cs.length + 1) cs
    for c in unknown do
      printErr s!"{(← get).name}: warning: unrecognized format directive \x60%{c}'\n"
    emitChars (← get).name out
    return true
  | .delete => deleteItem i
  | .prune => do
    modify fun w => { w with isPruned := true }
    return true
  | .quit => do
    modify fun w => { w with hasQuit := true }
    return true
  | .run words inDirectory =>
    if inDirectory then runBesideFile self i words else runCommand self (withPath i.path words)
  | .runForAll number => do
    modify fun w => { w with waiting := (number, i.path) :: w.waiting }
    return true
  | .negation e => do return !(← decide self i found e)
  | .both a b => do
    let isTrue ← decide self i found a
    if isTrue && !(← get).hasQuit then decide self i found b else return isTrue
  | .either a b => do
    let isTrue ← decide self i found a
    if isTrue || (← get).hasQuit then return isTrue else decide self i found b
  | .after a b => do
    let isTrue ← decide self i found a
    if (← get).hasQuit then return isTrue else decide self i found b

/-! ## Walking -/

/-- Decides about a file when it is as deep as it has to be. -/
def visit (self : Interpreter) (e : Expression) (i : Item) (found : Found) : Walking Unit := do
  let w ← get
  unless w.hasQuit || i.depth < w.settings.least do
    let _ ← decide self i found e

/-- Walks through a file and what is below it. -/
def walk (self : Interpreter) (e : Expression) (i : Item) : Nat → Walking Unit
  | 0 => pure ()
  | fuel + 1 => do
    let t ← (tree : Process _)
    let found := t.found i.place
    let settings := (← get).settings
    modify fun w => { w with isPruned := false }
    if !settings.isDeepFirst then visit self e i found
    let w ← get
    let isDeeper := kindOf found = 'd' && (settings.most.all (i.depth < ·)) &&
      (!w.isPruned || settings.isDeepFirst) && !w.hasQuit
    if isDeeper then
      for name in (← (tree : Process _)).sortedNames i.place do
        if !(← get).hasQuit then
          walk self e
            { i with
              path := joinPath i.path name
              place := Tree.step i.place name
              depth := i.depth + 1 }
            fuel
    if settings.isDeepFirst then visit self e i found

/-- Walks through what is at the end of a path. -/
def walkFrom (self : Interpreter) (e : Expression) (path : String) : Walking Unit := do
  if !(← get).hasQuit then
    match ← (standing path : Process _) with
    | .error fault => complainOf s!"'{path}': {reason fault}"
    | .ok (p, found) =>
      if Text.endsWith path "/" && kindOf found ≠ 'd' then complainOf s!"'{path}': Not a directory"
      else walk self e ⟨path, path, p, 0⟩ 300

/-- Runs the commands that are run once for all files. -/
def runWaiting (self : Interpreter) : Walking Unit := do
  let w ← get
  for (words, n) in w.settings.commands.zipIdx do
    let paths := (w.waiting.reverse.filter fun x => x.1 = n).map Prod.snd
    if !paths.isEmpty then
      if !(← runCommand self (words ++ paths)) then modify fun w => { w with code := 1 }

/-- A word begins the expression. -/
def beginsExpression (word : String) : Bool :=
  (Text.startsWith word "-" && word ≠ "-") || word = "(" || word = ")" || word = "!"

/-- Finds files. -/
def utility (self : Interpreter) : Utility := fun name args => do
  let args := args.dropWhile fun a => ["-H", "-L", "-P"].contains a || Text.startsWith a "-O"
  let paths := args.takeWhile fun a => !beginsExpression a
  match ← (readExpression.run { rest := args.drop paths.length }).run with
  | .error message => complain s!"{name}: {message}" 1
  | .ok (e, r) =>
    let roots := if paths.isEmpty then ["."] else paths
    let (_, w) ← (do
      roots.forM (walkFrom self e)
      runWaiting self : Walking Unit).run { name := name, settings := r.settings }
    return w.code

end Autoformat.Rehearsal.Shell.Find
