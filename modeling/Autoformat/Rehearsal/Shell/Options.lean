import Autoformat.Rehearsal.Shell.Machine

/-!
# Options and files of utilities

A utility gets its name and its arguments. `Options.parse` tells options from operands; options may stand
anywhere before two minus signs. The rest of the module reads and writes files as the utilities do, which
look at texts byte by byte.
-/

namespace Autoformat.Rehearsal.Shell

/-! ## Bytes as characters -/

/-- Bytes as characters, one each. -/
def charsOf (bs : ByteArray) : List Char := bs.data.toList.map fun b => Char.ofNat b.toNat

/-- The bytes of a text as characters, one each. -/
def argumentChars (s : String) : List Char := charsOf s.toUTF8

/-- The bytes that characters stand for. -/
def bytesOf (cs : List Char) : ByteArray := ⟨(cs.map fun c => UInt8.ofNat c.toNat).toArray⟩

/-- The text that characters stand for. -/
def textOfChars (cs : List Char) : String := Utf8.decodeLossy (bytesOf cs)

/-- The lines of a text, the last one first, after a line that has begun. -/
def linesFrom (soFar : List (List Char)) (line : List Char) : List Char → List (List Char)
  | [] => if line.isEmpty then soFar else line.reverse :: soFar
  | c :: cs => if c = '\n' then linesFrom (line.reverse :: soFar) [] cs else linesFrom soFar (c :: line) cs

/-- The lines of a text, without their ends. -/
def linesOf (cs : List Char) : List (List Char) := (linesFrom [] [] cs).reverse

/-- Lines as a text. -/
def unlines (lines : List (List Char)) : List Char := lines.flatMap (· ++ ['\n'])

/-- The text stands before another one in the order of bytes. -/
def isBefore (a b : List Char) : Bool := decide (a < b)

/-! ## Options -/

/-- The options and operands among arguments. -/
structure Options where
  /-- The letters, with the arguments they take. -/
  given : List (Char × String) := []
  operands : List String := []

/-- The option was given. -/
def Options.has (o : Options) (c : Char) : Bool := o.given.any fun x => x.1 = c

/-- The last argument of an option. -/
def Options.value? (o : Options) (c : Char) : Option String :=
  ((o.given.filter fun x => x.1 = c).getLast?).map Prod.snd

/-- All arguments of an option. -/
def Options.values (o : Options) (c : Char) : List String := (o.given.filter fun x => x.1 = c).map Prod.snd

/-- The last of some options that was given. -/
def Options.last? (o : Options) (cs : List Char) : Option Char :=
  ((o.given.filter fun x => cs.contains x.1).getLast?).map Prod.fst

/-- The options of a utility. -/
structure Letters where
  plain : List Char := []
  /-- Options with an argument. -/
  argued : List Char := []
  /-- Options that may have an argument in the same word. -/
  maybeArgued : List Char := []
  /-- Longer names of options. -/
  long : List (String × Char) := []
  /-- Options stand only before the operands. -/
  stopsAtOperand : Bool := false

/-- What is wrong with options. -/
inductive OptionFault where
  | unknown (c : Char)
  | unknownName (s : String)
  | missing (c : Char)
  | missingName (s : String)
  | unwanted (s : String)

/-- The wording of a fault. -/
def OptionFault.message : OptionFault → String
  | .unknown c => s!"invalid option -- '{c}'"
  | .unknownName s => s!"unrecognized option '--{s}'"
  | .missing c => s!"option requires an argument -- '{c}'"
  | .missingName s => s!"option '--{s}' requires an argument"
  | .unwanted s => s!"option '--{s}' doesn't allow an argument"

namespace Options

/-- An option at the end of those so far. -/
def add (o : Options) (c : Char) (argument : String) : Options := { o with given := o.given ++ [(c, argument)] }

/-- The options of one word, and the arguments after it. -/
def addWord (l : Letters) (o : Options) (rest : List String) : List Char →
    Except OptionFault (Options × List String)
  | [] => .ok (o, rest)
  | c :: cs =>
    if l.argued.contains c then
      match cs, rest with
      | [], argument :: rest => .ok (o.add c argument, rest)
      | [], [] => .error (.missing c)
      | cs, rest => .ok (o.add c (String.ofList cs), rest)
    else if l.maybeArgued.contains c then .ok (o.add c (String.ofList cs), rest)
    else if l.plain.contains c then addWord l (o.add c "") rest cs
    else .error (.unknown c)

/-- The option with a longer name, and the arguments after it. -/
def addName (l : Letters) (o : Options) (rest : List String) (word : String) :
    Except OptionFault (Options × List String) :=
  let cs := word.toList
  let name := String.ofList (cs.takeWhile (· ≠ '='))
  let value := cs.drop (name.length + 1)
  let hasValue := cs.contains '='
  let exact := l.long.filter fun x => x.1 = name
  let candidates := if exact.isEmpty then l.long.filter fun x => Text.startsWith x.1 name else exact
  match candidates with
  | [] => .error (.unknownName (if hasValue then word else name))
  | (full, c) :: _ =>
    if l.argued.contains c then
      if hasValue then .ok (o.add c (String.ofList value), rest)
      else
        match rest with
        | argument :: rest => .ok (o.add c argument, rest)
        | [] => .error (.missingName full)
    else if l.maybeArgued.contains c then .ok (o.add c (String.ofList value), rest)
    else if hasValue then .error (.unwanted full)
    else .ok (o.add c "", rest)

/-- Options and operands after those so far. -/
def parseFrom (l : Letters) (o : Options) : Nat → List String → Except OptionFault Options
  | 0, _ => .ok o
  | _, [] => .ok o
  | fuel + 1, word :: rest =>
    if word = "--" then .ok { o with operands := o.operands ++ rest }
    else if Text.startsWith word "--" then do
      let (o, rest) ← addName l o rest (String.ofList (word.toList.drop 2))
      parseFrom l o fuel rest
    else if Text.startsWith word "-" && word ≠ "-" then do
      let (o, rest) ← addWord l o rest (word.toList.drop 1)
      parseFrom l o fuel rest
    else if l.stopsAtOperand then .ok { o with operands := o.operands ++ word :: rest }
    else parseFrom l { o with operands := o.operands ++ [word] } fuel rest

/-- The options and operands among arguments. -/
def parse (l : Letters) (args : List String) : Except OptionFault Options :=
  parseFrom l {} (args.length + 1) args

end Options

/-- A text in which zeros end lines, as one in which lines have their own ends, and the other way round. -/
def withZeros (cs : List Char) : List Char :=
  cs.map fun c => if c = '\n' then '\x00' else if c = '\x00' then '\n' else c

/-- A text whose lines end as options say, as one in which lines have their own ends, or the other way
round. -/
def Options.lineEnds (o : Options) (cs : List Char) : List Char := if o.has 'z' then withZeros cs else cs

/-! ## Utilities -/

/-- A utility: its name as it was called, and its arguments. -/
abbrev Utility := String → List String → Process Nat

/-- Where help is found. -/
def tryHelp (name : String) : String := s!"Try '{name} --help' for more information."

/-- The options and operands of a utility, which ends when they are wrong. -/
def getOptions (name : String) (l : Letters) (status : Nat) (args : List String) : Process Options := do
  match Options.parse l args with
  | .ok o => return o
  | .error e =>
    printErr s!"{name}: {e.message}\n{tryHelp name}\n"
    throw (.exit status)

/-- Writes bytes; a utility that cannot write ends. -/
def emit (name : String) (bs : ByteArray) : Process Unit := do
  match ← writeTo 1 bs with
  | .ok () => pure ()
  | .error e =>
    printErr s!"{name}: write error: {reason e}\n"
    throw (.exit 1)

/-- Writes characters that stand for bytes. -/
def emitChars (name : String) (cs : List Char) : Process Unit := emit name (bytesOf cs)

/-- Writes a text. -/
def emitText (name : String) (s : String) : Process Unit := emit name s.toUTF8

/-- The complaint of a utility that needs more arguments. -/
def missingOperand (name what : String) : Process Nat :=
  complain s!"{name}: missing {what}\n{tryHelp name}" 1

/-- Does the same for every argument; the status is the greatest. -/
def forArguments (args : List String) (body : String → Process Nat) : Process Nat :=
  args.foldlM (fun code arg => do return max code (← body arg)) 0

/-! ## Files -/

/-- Where a path leads from the directory of the shell. -/
def placeOf (path : String) : Process (Except FileError Place) := do
  return (← tree).walk (← here) path

/-- What stands where a path leads. -/
def foundAt (path : String) : Process Found := do
  match ← placeOf path with
  | .ok p => return (← tree).found p
  | .error _ => return .nothing

/-- The content of a file. -/
def readAt (path : String) : Process (Except FileError ByteArray) := do
  match ← placeOf path with
  | .error e => return .error e
  | .ok p =>
    let t ← tree
    match t.found p with
    | .device (.stream n) => takeFrom n fun content offset => (content.extract offset content.size, content.size)
    | _ => return t.read p

/-- Puts content into a file. -/
def writeAt (path : String) (content : ByteArray) : Process (Except FileError Unit) := do
  match ← placeOf path with
  | .error e => return .error e
  | .ok p =>
    let t ← tree
    match t.found p with
    | .device (.stream n) => writeTo n content
    | _ =>
      match t.write p content with
      | .ok t =>
        setTree t
        return .ok ()
      | .error e => return .error e

/-- The content of a file, or what is read when a minus sign stands for it. -/
def readOperand (path : String) : Process (Except FileError ByteArray) :=
  if path = "-" then readInput else readAt path

/-- The last part of a path, without slashes at its end. -/
def baseName (path : String) : String :=
  let cs := (path.toList.reverse.dropWhile (· = '/')).reverse
  if cs.isEmpty then (if path = "" then "" else "/")
  else String.ofList (cs.reverse.takeWhile (· ≠ '/')).reverse

/-- The path of the directory that a path is in. -/
def directoryName (path : String) : String :=
  let cs := (path.toList.reverse.dropWhile (· = '/'))
  if cs.isEmpty then (if path = "" then "." else "/")
  else
    let above := cs.dropWhile (· ≠ '/')
    if above.isEmpty then "."
    else
      let above := (above.dropWhile (· = '/')).reverse
      if above.isEmpty then "/" else String.ofList above

/-- Two paths, one after the other. -/
def joinPath (directory name : String) : String :=
  if Text.endsWith directory "/" then directory ++ name else directory ++ "/" ++ name

end Autoformat.Rehearsal.Shell
