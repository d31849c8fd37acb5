import Autoformat.Rehearsal.Shell.Options
import Autoformat.Rehearsal.Shell.Source

/-!
# Programs that show texts

`cat`, `tac`, `head`, `tail`, `wc`, `nl`, `rev`, `fold`, `expand` and `tee`.
-/

namespace Autoformat.Rehearsal.Shell

/-! ## Reading operands -/

/-- Does something with the content of each operand, or of standard input when there is none. A file that
cannot be read is complained about. -/
def forContents (paths : List String) (complaint : String → FileError → String)
    (body : String → ByteArray → Process Unit) : Process Nat :=
  forArguments (if paths.isEmpty then ["-"] else paths) fun path => do
    match ← readOperand path with
    | .ok content =>
      body path content
      return 0
    | .error e => complain (complaint path e) 1

/-- The plain wording for a file that cannot be read. -/
def plainComplaint (name path : String) (e : FileError) : String := s!"{name}: {path}: {reason e}"

/-- A number with a unit. -/
def amount? (s : String) : Option Nat :=
  let cs := s.toList
  let ds := cs.takeWhile Char.isDigit
  let factor : Option Nat :=
    match String.ofList (cs.drop ds.length) with
    | "" => some 1
    | "b" => some 512
    | "kB" | "KB" => some 1000
    | "k" | "K" | "KiB" => some 1024
    | "MB" => some 1000000
    | "m" | "M" | "MiB" => some 1048576
    | "GB" => some 1000000000
    | "G" | "GiB" => some 1073741824
    | _ => none
  match digits? (String.ofList ds), factor with
  | some n, some f => some (n * f)
  | _, _ => none

/-- Blanks in front of a text that is shorter than a width. -/
def padLeft (width : Nat) (s : String) : String :=
  String.ofList (List.replicate (width - s.length) ' ') ++ s

/-! ## `cat` -/

/-- How far `cat` has come. -/
structure CatState where
  line : Nat := 0
  atStart : Bool := true
  /-- How many empty lines came last. -/
  empties : Nat := 0
  output : List (List Char) := []

/-- A character as `cat -v` shows it. -/
def visible (c : Char) : List Char :=
  let low (n : Nat) : List Char :=
    if n < 32 then ['^', Char.ofNat (n + 64)] else if n = 127 then ['^', '?'] else [Char.ofNat n]
  let n := c.toNat
  if n < 128 then low n else 'M' :: '-' :: low (n - 128)

/-- One more line; the last one may have no end. -/
def CatState.add (o : Options) (s : CatState) (line : List Char) : CatState :=
  let isWhole := line.getLast? = some '\n'
  let text := if isWhole then line.dropLast else line
  let isEmpty := s.atStart && text.isEmpty && isWhole
  let empties := if isEmpty then s.empties + 1 else 0
  if isEmpty && o.has 's' && 1 < empties then { s with empties := empties }
  else
    let isNumbered := s.atStart && if o.has 'b' then !isEmpty else o.has 'n'
    let number := if isNumbered then (padLeft 6 (toString (s.line + 1)) ++ "\t").toList else []
    let show? (c : Char) : List Char :=
      if c = '\t' then (if o.has 'T' then ['^', 'I'] else ['\t'])
      else if o.has 'v' then visible c else [c]
    let tail := if isWhole then (if o.has 'E' then ['$', '\n'] else ['\n']) else []
    { line := if isNumbered then s.line + 1 else s.line
      atStart := isWhole
      empties := empties
      output := (number ++ text.flatMap show? ++ tail) :: s.output }

/-- Shows files. -/
def cat : Utility := fun name args => do
  let o ← getOptions name
    { plain := ['A', 'b', 'e', 'E', 'n', 's', 't', 'T', 'u', 'v']
      long := [("show-all", 'A'), ("number-nonblank", 'b'), ("show-ends", 'E'), ("number", 'n'),
        ("squeeze-blank", 's'), ("show-tabs", 'T'), ("show-nonprinting", 'v')] } 1 args
  let add (c : Char) (more : List Char) (o : Options) : Options :=
    if o.has c then more.foldl (fun o c => o.add c "") o else o
  let o := add 't' ['v', 'T'] (add 'e' ['v', 'E'] (add 'A' ['v', 'E', 'T'] o))
  let isPlain := o.given.all fun x => x.1 = 'u'
  let paths := if o.operands.isEmpty then ["-"] else o.operands
  let (code, _) ← paths.foldlM
    (fun ((code : Nat), (s : CatState)) path => do
      match ← readOperand path with
      | .error e =>
        printErr (plainComplaint name path e ++ "\n")
        return (1, s)
      | .ok content =>
        if isPlain then
          emit name content
          return (code, s)
        else
          let s := (splitLines (charsOf content)).foldl (CatState.add o) s
          emitChars name s.output.reverse.flatten
          return (code, { s with output := [] }))
    (0, {})
  if (← openedAt? 0).isNone && paths.contains "-" then
    complain s!"{name}: closing standard input: {reason badStream}" 1
  else return code

/-! ## The order of lines -/

/-- Shows the lines of files, the last one first. -/
def tac : Utility := fun name args => do
  let o ← getOptions name {} 1 args
  forContents o.operands
    (fun path e =>
      if e = .isADirectory then s!"{name}: {path}: read error: {reason e}"
      else s!"{name}: failed to open '{path}' for reading: {reason e}")
    fun _ content => emitChars name (splitLines (charsOf content)).reverse.flatten

/-- Shows the characters of lines, the last one first. -/
def rev : Utility := fun name args => do
  let o ← getOptions name {} 1 args
  forContents o.operands (fun path e => s!"{name}: cannot open {path}: {reason e}") fun _ content =>
    let text := (Utf8.decodeLossy content).toList
    let turned := (splitLines text).flatMap fun line =>
      if line.getLast? = some '\n' then line.dropLast.reverse ++ ['\n'] else line.reverse
    emitText name (String.ofList turned)

/-! ## Parts of files -/

/-- What `head` or `tail` shows of a text. -/
structure Portion where
  bytes : Bool
  options : Options
  /-- Everything but so much, or for `tail` from there on. -/
  isRest : Bool
  count : Nat

/-- The first part of a text. -/
def Portion.start (p : Portion) (content : ByteArray) : ByteArray :=
  if p.bytes then content.extract 0 (if p.isRest then content.size - p.count else p.count)
  else
    let lines := splitLines (p.options.lineEnds (charsOf content))
    bytesOf (p.options.lineEnds (lines.take (if p.isRest then lines.length - p.count else p.count)).flatten)

/-- The last part of a text. -/
def Portion.finish (p : Portion) (content : ByteArray) : ByteArray :=
  if p.bytes then
    content.extract (if p.isRest then p.count - 1 else content.size - p.count) content.size
  else
    let lines := splitLines (p.options.lineEnds (charsOf content))
    bytesOf (p.options.lineEnds (lines.drop (if p.isRest then p.count - 1 else lines.length - p.count)).flatten)

/-- The arguments with a count in its old form in the new form. -/
def withCounts (signs : List Char) : List String → List String
  | [] => []
  | word :: rest =>
    match word.toList with
    | sign :: d :: ds =>
      if signs.contains sign && (d :: ds).all Char.isDigit then
        "-n" :: (if sign = '-' then String.ofList (d :: ds) else word) :: rest
      else word :: rest
    | _ => word :: rest

/-- The part of texts that options ask for; `mark` is the sign in front of a count that asks for the rest. -/
def portionOf (name : String) (mark : Char) (o : Options) : Process Portion := do
  match o.last? ['n', 'c'] with
  | none => return ⟨false, o, false, 10⟩
  | some c =>
    let word := (o.value? c).getD ""
    let isRest := word.toList.head? = some mark
    let isSigned := isRest || word.toList.head? = some '-'
    match amount? (if isSigned then String.ofList (word.toList.drop 1) else word) with
    | some n => return ⟨c = 'c', o, isRest, n⟩
    | none =>
      let what := if c = 'c' then "bytes" else "lines"
      printErr s!"{name}: invalid number of {what}: '{word}'\n"
      throw (.exit 1)

/-- Shows a part of each file, with their names when there are several. -/
def showPortions (name : String) (o : Options) (part : ByteArray → ByteArray) : Process Nat := do
  let paths := if o.operands.isEmpty then ["-"] else o.operands
  let showsNames := o.has 'v' || (1 < paths.length && !o.has 'q')
  let header (isFirst : Bool) (path : String) : Process Unit := do
    if showsNames then
      let title := if path = "-" then "standard input" else path
      emitText name ((if isFirst then "" else "\n") ++ "==> " ++ title ++ " <==\n")
  let (code, _) ← paths.foldlM
    (fun ((code : Nat), (isFirst : Bool)) path => do
      match ← readOperand path with
      | .ok content =>
        header isFirst path
        emit name (part content)
        return (code, false)
      | .error e =>
        if e = .isADirectory then
          header isFirst path
          printErr s!"{name}: error reading '{path}': {reason e}\n"
          return (1, false)
        else
          printErr s!"{name}: cannot open '{path}' for reading: {reason e}\n"
          return (1, isFirst))
    (0, true)
  return code

/-- The options of `head` and `tail`. -/
def portionLetters : Letters :=
  { plain := ['q', 'v', 'z', 'f', 'F']
    argued := ['n', 'c', 's']
    long := [("lines", 'n'), ("bytes", 'c'), ("quiet", 'q'), ("silent", 'q'), ("verbose", 'v'),
      ("zero-terminated", 'z'), ("follow", 'f')] }

/-- A stream of zeros has as many of them as are asked for. -/
def isZeros (path : String) : Process Bool := do
  if path = "-" then isEndless
  else
    match ← foundAt path with
    | .device .zero => return true
    | _ => return false

/-- Shows the first part of files. -/
def head : Utility := fun name args => do
  let o ← getOptions name portionLetters 1 (withCounts ['-'] args)
  let p ← portionOf name '-' o
  if ← isZeros (o.operands.headD "-") then
    let count := if p.bytes && !p.isRest then p.count else 0
    requireSpace count
    emit name ⟨Array.replicate count 0⟩
    return 0
  else showPortions name o p.start

/-- Shows the last part of files. -/
def tail : Utility := fun name args => do
  let o ← getOptions name portionLetters 1 (withCounts ['-', '+'] args)
  showPortions name o (← portionOf name '+' o).finish

/-! ## Counting -/

/-- What `wc` counts. -/
structure Counts where
  lines : Nat := 0
  words : Nat := 0
  bytes : Nat := 0
  longest : Nat := 0

/-- The counts of two texts. -/
def Counts.and (a b : Counts) : Counts :=
  ⟨a.lines + b.lines, a.words + b.words, a.bytes + b.bytes, max a.longest b.longest⟩

/-- Blank bytes. -/
def isSpace (c : Char) : Bool := c = ' ' || (9 ≤ c.toNat && c.toNat ≤ 13)

/-- How wide a line is on a screen. -/
def lineWidth (line : List Char) : Nat :=
  line.foldl
    (fun n c => if c = '\t' then n / 8 * 8 + 8 else if 32 ≤ c.toNat && c.toNat < 127 then n + 1 else n) 0

/-- The counts of a text. -/
def countsOf (content : ByteArray) : Counts :=
  let cs := charsOf content
  let (words, _) := cs.foldl
    (fun ((n : Nat), (inWord : Bool)) c => if isSpace c then (n, false) else (if inWord then n else n + 1, true))
    (0, false)
  { lines := (cs.filter (· = '\n')).length
    words := words
    bytes := content.size
    longest := ((linesOf cs).map lineWidth).foldl max 0 }

/-- The size of the file behind an operand; none for what is no plain file. -/
def plainSize? (path : String) : Process (Option Nat) := do
  if path = "-" then
    match ← openedAt? 0 with
    | some (_, o) =>
      match o.target with
      | .file p =>
        match (← tree).found p with
        | .file content _ => return some content.size
        | _ => return none
      | _ => return none
    | none => return none
  else
    match ← foundAt path with
    | .file content _ => return some content.size
    | _ => return none

/-- Nothing stands at the end of a path. -/
def isMissing (path : String) : Process Bool := do
  if path = "-" then return false
  else
    match ← foundAt path with
    | .nothing => return true
    | _ => return false

/-- Counts lines, words and bytes. -/
def wc : Utility := fun name args => do
  let o ← getOptions name
    { plain := ['l', 'w', 'c', 'm', 'L']
      long := [("lines", 'l'), ("words", 'w'), ("bytes", 'c'), ("chars", 'm'), ("max-line-length", 'L')] } 1 args
  let kinds := ['l', 'w', 'm', 'c', 'L'].filter o.has
  let kinds := if kinds.isEmpty then ['l', 'w', 'c'] else kinds
  let paths := if o.operands.isEmpty then ["-"] else o.operands
  let isSingle := paths.length = 1 && kinds.length = 1
  let sizes ← paths.mapM plainSize?
  let missing ← paths.mapM isMissing
  let isOdd := (sizes.zip missing).any fun x => x.1.isNone && !x.2
  let total := (sizes.filterMap id).foldl (· + ·) 0
  let width :=
    if isSingle || missing.head? = some true then 1
    else max (toString total).length (if isOdd then 7 else 1)
  let shown (c : Counts) (path : String) : String :=
    let numbers := kinds.map fun k =>
      padLeft width <| toString <|
        if k = 'l' then c.lines else if k = 'w' then c.words else if k = 'L' then c.longest else c.bytes
    " ".intercalate numbers ++ (if path = "" then "" else " " ++ path) ++ "\n"
  let (code, sum) ← paths.foldlM
    (fun ((code : Nat), (sum : Counts)) path => do
      match ← readOperand path with
      | .ok content =>
        let c := countsOf content
        emitText name (shown c (if o.operands.isEmpty then "" else path))
        return (code, sum.and c)
      | .error e =>
        printErr (plainComplaint name path e ++ "\n")
        if e = .isADirectory then emitText name (shown {} path)
        return (1, sum))
    (0, {})
  if 1 < paths.length then emitText name (shown sum "total")
  return code

/-! ## Numbering -/

/-- Numbers the lines of files. -/
def nl : Utility := fun name args => do
  let o ← getOptions name
    { argued := ['b', 'w', 's', 'n', 'v', 'i']
      long := [("body-numbering", 'b'), ("number-width", 'w'), ("number-separator", 's'),
        ("number-format", 'n'), ("starting-line-number", 'v'), ("line-increment", 'i')] } 1 args
  let number (c : Char) (default : Nat) : Nat := ((o.value? c).bind digits?).getD default
  let width := number 'w' 6
  let step := number 'i' 1
  let separator := (o.value? 's').getD "\t"
  let style := (o.value? 'b').getD "t"
  let shownNumber (n : Nat) : String :=
    let s := toString n
    match o.value? 'n' with
    | some "ln" => s ++ String.ofList (List.replicate (width - s.length) ' ')
    | some "rz" => String.ofList (List.replicate (width - s.length) '0') ++ s
    | _ => padLeft width s
  let paths := if o.operands.isEmpty then ["-"] else o.operands
  let (code, _) ← paths.foldlM
    (fun ((code : Nat), (next : Nat)) path => do
      match ← readOperand path with
      | .error e =>
        printErr (plainComplaint name path e ++ "\n")
        return (1, next)
      | .ok content =>
        let (next, lines) := (linesOf (charsOf content)).foldl
          (fun ((n : Nat), (lines : List (List Char))) line =>
            if style = "a" || (style = "t" && !line.isEmpty) then
              (n + step, ((shownNumber n ++ separator).toList ++ line ++ ['\n']) :: lines)
            else
              let gap := List.replicate (width + separator.length) ' '
              (n, (gap ++ line ++ ['\n']) :: lines))
          (next, [])
        emitChars name lines.reverse.flatten
        return (code, next))
    (0, number 'v' 1)
  return code

/-! ## Widths -/

/-- The column after a character. -/
def columnAfter (column : Nat) (c : Char) : Nat :=
  if c = '\t' then column / 8 * 8 + 8
  else if c.toNat = 8 then column - 1
  else if c = '\r' then 0 else column + 1

/-- A line in pieces of a width; `line` is the piece so far, the last character first. -/
def foldLine (width : Nat) (atBlanks : Bool) (line : List Char) (column : Nat) :
    Nat → List Char → List (List Char)
  | 0, cs => [line.reverse ++ cs]
  | _, [] => if line.isEmpty then [] else [line.reverse]
  | fuel + 1, c :: cs =>
    let next := columnAfter column c
    if width < next && !line.isEmpty then
      let after := line.takeWhile fun c => c ≠ ' ' && c ≠ '\t'
      if atBlanks && after.length < line.length then
        let kept := line.drop after.length
        kept.reverse :: foldLine width atBlanks after (after.reverse.foldl columnAfter 0) fuel (c :: cs)
      else line.reverse :: foldLine width atBlanks [] 0 fuel (c :: cs)
    else foldLine width atBlanks (c :: line) next fuel cs

/-- Breaks long lines. -/
def fold : Utility := fun name args => do
  let args := args.map fun arg =>
    match arg.toList with
    | '-' :: d :: ds => if (d :: ds).all Char.isDigit then "-w" ++ String.ofList (d :: ds) else arg
    | _ => arg
  let o ← getOptions name
    { plain := ['b', 's'], argued := ['w'], long := [("width", 'w'), ("spaces", 's'), ("bytes", 'b')] } 1 args
  let word := (o.value? 'w').getD "80"
  match (digits? word).filter (0 < ·) with
  | none => complain s!"{name}: invalid number of columns: '{word}'" 1
  | some width =>
    forContents o.operands (plainComplaint name) fun _ content =>
      let folded := (splitLines (charsOf content)).map fun line =>
        let isWhole := line.getLast? = some '\n'
        let text := if isWhole then line.dropLast else line
        let pieces := foldLine width (o.has 's') [] 0 (4 * text.length + 4) text
        List.intercalate ['\n'] pieces ++ if isWhole then ['\n'] else []
      emitChars name folded.flatten

/-- Puts blanks in the place of tabs. -/
def expand : Utility := fun name args => do
  let o ← getOptions name { plain := ['i'], argued := ['t'], long := [("tabs", 't'), ("initial", 'i')] } 1 args
  let width := max 1 (((o.value? 't').bind digits?).getD 8)
  let expandLine (line : List Char) : List Char :=
    (line.foldl
      (fun ((column : Nat), (acc : List Char)) c =>
        if c = '\t' then
          let next := column / width * width + width
          (next, List.replicate (next - column) ' ' ++ acc)
        else (column + 1, c :: acc))
      (0, [])).2.reverse
  forContents o.operands (plainComplaint name) fun _ content =>
    emitChars name ((splitLines (charsOf content)).flatMap expandLine)

/-! ## Copies -/

/-- Copies its input to its output and to files. -/
def tee : Utility := fun name args => do
  let o ← getOptions name { plain := ['a', 'i', 'p'], long := [("append", 'a'), ("ignore-interrupts", 'i')] } 1 args
  match ← readInput with
  | .error e => complain s!"{name}: read error: {reason e}" 1
  | .ok content =>
    emit name content
    forArguments o.operands fun path => do
      let earlier : Except FileError ByteArray ← if o.has 'a' then readAt path else pure (.ok .empty)
      match ← writeAt path (earlier.toOption.getD .empty ++ content) with
      | .ok () => return 0
      | .error e => complain (plainComplaint name path e) 1

end Autoformat.Rehearsal.Shell
