import Autoformat.Rehearsal.Shell.Format
import Autoformat.Rehearsal.Shell.Pattern
import Autoformat.Rehearsal.Shell.Utilities.Texts

/-!
# Programs for columns and characters

`cut`, `paste`, `tr`, `uniq` and `comm`.
-/

namespace Autoformat.Rehearsal.Shell

/-! ## `cut` -/

/-- What is wrong with a list of positions. -/
inductive RangeFault where
  | zero
  | decreasing
  | unreadable (s : String)

/-- A range of positions; without a second one it has no end. -/
abbrev Range := Nat × Option Nat

/-- Reads a range. -/
def range? (s : String) : Except RangeFault Range :=
  let cs := s.toList
  let start := cs.takeWhile Char.isDigit
  let rest := cs.drop start.length
  let first := if start.isEmpty then 1 else (digits? (String.ofList start)).getD 0
  let check (r : Range) : Except RangeFault Range :=
    if r.1 = 0 || r.2 = some 0 then .error .zero
    else if r.2.any (· < r.1) then .error .decreasing else .ok r
  match rest with
  | [] => if start.isEmpty then .error (.unreadable s) else check (first, some first)
  | '-' :: finish =>
    if start.isEmpty && finish.isEmpty then .error (.unreadable s)
    else if finish.isEmpty then check (first, none)
    else if finish.all Char.isDigit then check (first, some ((digits? (String.ofList finish)).getD 0))
    else .error (.unreadable s)
  | _ => .error (.unreadable s)

/-- Reads a list of ranges. -/
def ranges? (s : String) : Except RangeFault (List Range) :=
  ((s.map fun c => if c = ' ' then ',' else c).splitOn ",").mapM range?

/-- A position lies in one of the ranges. -/
def inRanges (rs : List Range) (n : Nat) : Bool := rs.any fun r => r.1 ≤ n && r.2.all (n ≤ ·)

/-- The parts of a text between separators. -/
def fieldsOf (separator : Char) (cs : List Char) : List (List Char) :=
  let (field, fields) := cs.foldr
    (fun c (acc : List Char × List (List Char)) =>
      if c = separator then ([], acc.1 :: acc.2) else (c :: acc.1, acc.2))
    ([], [])
  field :: fields

/-- The wording of a fault. -/
def RangeFault.message (isFields : Bool) : RangeFault → String
  | .zero =>
    if isFields then "fields are numbered from 1" else "byte/character positions are numbered from 1"
  | .decreasing => "invalid decreasing range"
  | .unreadable s => if isFields then s!"invalid field value '{s}'" else s!"invalid byte/character position '{s}'"

/-- Shows parts of lines. -/
def cut : Utility := fun name args => do
  let o ← getOptions name
    { plain := ['s', 'n', 'z', 'C']
      argued := ['b', 'c', 'd', 'f', 'O']
      long := [("bytes", 'b'), ("characters", 'c'), ("delimiter", 'd'), ("fields", 'f'),
        ("only-delimited", 's'), ("complement", 'C'), ("output-delimiter", 'O'), ("zero-terminated", 'z')] } 1 args
  let wrong (s : String) : Process Nat := complain s!"{name}: {s}\n{tryHelp name}" 1
  let kinds := o.given.filter fun x => ['b', 'c', 'f'].contains x.1
  match kinds with
  | [] => wrong "you must specify a list of bytes, characters, or fields"
  | _ :: _ :: _ => wrong "only one type of list may be specified"
  | [(kind, list)] =>
    let isFields := kind = 'f'
    let delimiter := argumentChars ((o.value? 'd').getD "\t")
    if 1 < delimiter.length then wrong "the delimiter must be a single character"
    else if !isFields && o.has 'd' then
      wrong "an input delimiter may be specified only when operating on fields"
    else
      match ranges? list with
      | .error e => wrong (e.message isFields)
      | .ok rs =>
        let separator := delimiter.headD '\x00'
        let isKept (n : Nat) : Bool := inRanges rs n != o.has 'C'
        let kept {α : Type} (xs : List α) : List α :=
          (xs.zipIdx.filter fun x => isKept (x.2 + 1)).map Prod.fst
        let glue := ((o.value? 'O').map argumentChars).getD (if isFields then [separator] else [])
        let shown (line : List Char) : List (List Char) :=
          if !isFields then [kept line]
          else if !line.contains separator then (if o.has 's' then [] else [line])
          else [List.intercalate glue (kept (fieldsOf separator line))]
        forContents o.operands (plainComplaint name) fun _ content =>
          emitChars name (o.lineEnds (unlines ((linesOf (o.lineEnds (charsOf content))).flatMap shown)))

/-! ## `paste` -/

/-- The separators that a list names, each a text of at most one character. -/
def separatorsOf : List Char → List (List Char)
  | [] => []
  | '\\' :: 'n' :: cs => ['\n'] :: separatorsOf cs
  | '\\' :: 't' :: cs => ['\t'] :: separatorsOf cs
  | '\\' :: '0' :: cs => [] :: separatorsOf cs
  | '\\' :: c :: cs => [c] :: separatorsOf cs
  | c :: cs => [c] :: separatorsOf cs

/-- Lines with separators between them, which are taken in turn. -/
def joinWith (separators : List (List Char)) (lines : List (List Char)) : List Char :=
  let count := max 1 separators.length
  (lines.zipIdx.map fun (line, i) =>
    if i = 0 then line else (separators[(i - 1) % count]?).getD [] ++ line).flatten

/-- One line of each source, by their numbers; a source that is named twice gives two lines. -/
def takeRow (sources : List Nat) (left : Array (List (List Char))) :
    List (List Char) × Array (List (List Char)) :=
  let (row, left) := sources.foldl
    (fun ((row : List (List Char)), (left : Array (List (List Char)))) i =>
      match left.getD i [] with
      | [] => ([] :: row, left)
      | line :: rest => (line :: row, left.setIfInBounds i rest))
    ([], left)
  (row.reverse, left)

/-- The rows of some sources. -/
def rowsOf (sources : List Nat) : Nat → Array (List (List Char)) → List (List (List Char))
  | 0, _ => []
  | fuel + 1, left =>
    if left.all List.isEmpty then []
    else
      let (row, left) := takeRow sources left
      row :: rowsOf sources fuel left

/-- Puts lines of files side by side. -/
def paste : Utility := fun name args => do
  let o ← getOptions name
    { plain := ['s', 'z'], argued := ['d'], long := [("serial", 's'), ("delimiters", 'd')] } 1 args
  let separators := separatorsOf (argumentChars ((o.value? 'd').getD "\t"))
  let paths := if o.operands.isEmpty then ["-"] else o.operands
  let contents ← paths.eraseDups.mapM fun path => do return (path, ← readOperand path)
  let lines (path : String) : Except FileError (List (List Char)) :=
    ((contents.lookup path).getD (.ok .empty)).map fun content => linesOf (charsOf content)
  if o.has 's' then
    forArguments paths fun path => do
      match lines path with
      | .ok lines =>
        emitChars name (joinWith separators lines ++ ['\n'])
        return 0
      | .error e => complain (plainComplaint name path e) 1
  else
    let failed := paths.filterMap fun path =>
      match lines path with
      | .ok _ => none
      | .error e => some (path, e)
    match failed with
    | (path, e) :: _ => complain (plainComplaint name path e) 1
    | [] =>
      let shared := paths.zipIdx.map fun (path, i) =>
        if path = "-" then (paths.findIdx? (· = "-")).getD i else i
      let left := (paths.zipIdx.map fun (path, i) =>
        if shared[i]? = some i then (lines path).toOption.getD [] else []).toArray
      let total := (left.toList.map List.length).foldl (· + ·) 1
      emitChars name (unlines ((rowsOf shared total left).map (joinWith separators)))
      return 0

/-! ## `tr` -/

/-- A piece of a set of characters. -/
inductive SetPiece where
  | chars (cs : List Char)
  /-- A character as often as the other set is long. -/
  | filling (c : Char)

/-- All bytes. -/
def allBytes : List Char := (List.range 256).map Char.ofNat

/-- A character of a set, which may be written with a backslash. -/
def setChar : List Char → Option (Char × List Char)
  | [] => none
  | '\\' :: c :: cs =>
    let octal := ((c :: cs).take 3).takeWhile Format.isOctal
    if !octal.isEmpty then
      some (Char.ofNat (Format.numberIn 8 octal % 256), (c :: cs).drop octal.length)
    else
      match c with
      | 'a' => some ('\x07', cs)
      | 'b' => some ('\x08', cs)
      | 'f' => some ('\x0c', cs)
      | 'n' => some ('\n', cs)
      | 'r' => some ('\r', cs)
      | 't' => some ('\t', cs)
      | 'v' => some ('\x0b', cs)
      | c => some (c, cs)
  | c :: cs => some (c, cs)

/-- A class or a repetition in brackets. -/
def bracketPiece? (cs : List Char) : Option (SetPiece × List Char) :=
  match cs with
  | '[' :: ':' :: rest =>
    let word := rest.takeWhile Char.isAlpha
    match rest.drop word.length, classTest? (String.ofList word) with
    | ':' :: ']' :: after, some test => some (.chars (allBytes.filter fun c => c.toNat < 128 && test c), after)
    | _, _ => none
  | '[' :: '=' :: c :: '=' :: ']' :: after => some (.chars [c], after)
  | '[' :: rest =>
    match setChar rest with
    | some (c, '*' :: rest) =>
      let count := rest.takeWhile Char.isDigit
      match rest.drop count.length with
      | ']' :: after =>
        let n := (digits? (String.ofList count)).getD 0
        some (if n = 0 then .filling c else .chars (List.replicate n c), after)
      | _ => none
    | _ => none
  | _ => none

/-- The pieces of a set, or a range that goes backwards. -/
def setPieces : Nat → List Char → Except String (List SetPiece)
  | 0, _ => .ok []
  | _, [] => .ok []
  | fuel + 1, cs =>
    match bracketPiece? cs with
    | some (piece, rest) => do return piece :: (← setPieces fuel rest)
    | none =>
      match setChar cs with
      | none => .ok []
      | some (a, '-' :: rest) =>
        match setChar rest with
        | none => do return .chars [a] :: (← setPieces fuel ('-' :: rest))
        | some (b, rest) =>
          if b.toNat < a.toNat then .error (String.ofList [a, '-', b])
          else do
            let run := (List.range (b.toNat - a.toNat + 1)).map fun i => Char.ofNat (a.toNat + i)
            return .chars run :: (← setPieces fuel rest)
      | some (a, rest) => do return .chars [a] :: (← setPieces fuel rest)

/-- The characters of pieces; a filling makes them as many as are wanted. -/
def setChars (wanted : Nat) (pieces : List SetPiece) : List Char :=
  let known := (pieces.map fun
    | .chars cs => cs.length
    | .filling _ => 0).foldl (· + ·) 0
  pieces.flatMap fun
    | .chars cs => cs
    | .filling c => List.replicate (wanted - known) c

/-- The text without repetitions of some characters. -/
def squeezed (set : List Char) (cs : List Char) : List Char :=
  (cs.foldl
    (fun (acc : List Char) c => if set.contains c && acc.head? = some c then acc else c :: acc) []).reverse

/-- What `tr` does to a text. -/
def transform (o : Options) (first : List Char) (second : Option (List SetPiece)) (cs : List Char) :
    List Char :=
  let first := if o.has 'c' || o.has 'C' then allBytes.filter fun c => !first.contains c else first
  let second := second.map (setChars first.length)
  if o.has 'd' then
    let left := cs.filter fun c => !first.contains c
    if o.has 's' then squeezed (second.getD []) left else left
  else
    match second with
    | none => if o.has 's' then squeezed first cs else cs
    | some second =>
      let first := if o.has 't' then first.take second.length else first
      let pad := List.replicate (first.length - second.length) (second.getLast?.getD ' ')
      let table := (first.zip (second ++ pad)).reverse
      let mapped := cs.map fun c => (table.lookup c).getD c
      if o.has 's' then squeezed second mapped else mapped

/-- Changes characters. -/
def tr : Utility := fun name args => do
  let o ← getOptions name
    { plain := ['c', 'C', 'd', 's', 't']
      long := [("complement", 'c'), ("delete", 'd'), ("squeeze-repeats", 's'), ("truncate-set1", 't')]
      stopsAtOperand := true } 1 args
  let wrong (s : String) : Process Nat := complain s!"{name}: {s}\n{tryHelp name}" 1
  let needsTwo := o.has 'd' == o.has 's'
  match o.operands with
  | [] => wrong "missing operand"
  | [a] =>
    if needsTwo then
      let why := if o.has 'd' then "Two strings must be given when both deleting and squeezing repeats."
        else "Two strings must be given when translating."
      wrong s!"missing operand after '{a}'\n{why}"
    else run o a none
  | [a, b] =>
    if o.has 'd' && !o.has 's' then
      wrong s!"extra operand '{b}'\nOnly one string may be given when deleting without squeezing repeats."
    else run o a (some b)
  | _ :: _ :: c :: _ => wrong s!"extra operand '{c}'"
where
  /-- Changes the characters of the input. -/
  run (o : Options) (first : String) (second : Option String) : Process Nat := do
    let read (s : String) : Process (List SetPiece) :=
      match setPieces (s.utf8ByteSize + 1) (argumentChars s) with
      | .ok pieces => return pieces
      | .error r => do
        printErr s!"tr: range-endpoints of '{r}' are in reverse collating sequence order\n"
        throw (.exit 1)
    let a ← read first
    let b ← second.mapM read
    if second = some "" && !o.has 'd' && !o.has 't' then
      complain "tr: when not truncating set1, string2 must be non-empty" 1
    else
      match ← readInput with
      | .error e => complain s!"tr: read error: {reason e}" 1
      | .ok content =>
        emitChars "tr" (transform o (setChars 0 a) b (charsOf content))
        return 0

/-! ## `uniq` -/

/-- Equal lines in a row, with what is left of the first one for comparing. -/
structure Run where
  key : List Char
  line : List Char
  count : Nat

/-- The lines in runs of equal ones. -/
def runsOf (key : List Char → List Char) (lines : List (List Char)) : List Run :=
  (lines.foldl
    (fun (runs : List Run) line =>
      let k := key line
      match runs with
      | r :: rest => if r.key = k then { r with count := r.count + 1 } :: rest else ⟨k, line, 1⟩ :: runs
      | [] => [⟨k, line, 1⟩])
    []).reverse

/-- A line without its first fields. -/
def withoutFields : Nat → List Char → List Char
  | 0, cs => cs
  | n + 1, cs =>
    let isBlank (c : Char) : Bool := c = ' ' || c = '\t'
    withoutFields n ((cs.dropWhile isBlank).dropWhile fun c => !isBlank c)

/-- Shows lines that repeat only once. -/
def uniq : Utility := fun name args => do
  let o ← getOptions name
    { plain := ['c', 'd', 'D', 'u', 'i', 'z']
      argued := ['f', 's', 'w']
      long := [("count", 'c'), ("repeated", 'd'), ("unique", 'u'), ("ignore-case", 'i'),
        ("skip-fields", 'f'), ("skip-chars", 's'), ("check-chars", 'w'), ("zero-terminated", 'z')] } 1 args
  let number? (c : Char) : Option Nat := (o.value? c).bind digits?
  let key (line : List Char) : List Char :=
    let cs := (withoutFields ((number? 'f').getD 0) line).drop ((number? 's').getD 0)
    let cs := ((number? 'w').map (cs.take ·)).getD cs
    if o.has 'i' then cs.map Char.toUpper else cs
  match ← readOperand (o.operands.headD "-") with
  | .error e => complain (plainComplaint name (o.operands.headD "-") e) 1
  | .ok content =>
    let lines := linesOf (o.lineEnds (charsOf content))
    let runs := (runsOf key lines).filter fun r =>
      (!o.has 'd' || 1 < r.count) && (!o.has 'u' || r.count = 1) && (!o.has 'D' || 1 < r.count)
    let shown := runs.flatMap fun r =>
      if o.has 'D' then List.replicate r.count r.line
      else if o.has 'c' then [(padLeft 7 (toString r.count) ++ " ").toList ++ r.line] else [r.line]
    let text := o.lineEnds (unlines shown)
    match o.operands[1]? with
    | none =>
      emitChars name text
      return 0
    | some path =>
      match ← writeAt path (bytesOf text) with
      | .ok () => return 0
      | .error e => complain (plainComplaint name path e) 1

/-! ## `comm` -/

/-- How far `comm` has come. -/
structure CommState where
  output : List (List Char) := []
  hasUnpaired : Bool := false
  /-- The files that are known not to be sorted. -/
  disordered : List Nat := []

/-- Notes that a file is not sorted, once that matters. -/
def CommState.check (s : CommState) (file : Nat) (line : List Char) (rest : List (List Char)) : CommState :=
  match rest with
  | next :: _ =>
    if s.hasUnpaired && isBefore next line && !s.disordered.contains file then
      { s with disordered := s.disordered ++ [file] }
    else s
  | [] => s

/-- Merges two files; `show` makes a line of a column. -/
def merge (show_ : Nat → List Char → List (List Char)) :
    Nat → CommState → List (List Char) → List (List Char) → CommState
  | 0, s, _, _ => s
  | _, s, [], [] => s
  | fuel + 1, s, a :: as, [] =>
    let s := { s with output := show_ 1 a ++ s.output, hasUnpaired := true }
    merge show_ fuel (s.check 1 a as) as []
  | fuel + 1, s, [], b :: bs =>
    let s := { s with output := show_ 2 b ++ s.output, hasUnpaired := true }
    merge show_ fuel (s.check 2 b bs) [] bs
  | fuel + 1, s, a :: as, b :: bs =>
    if a = b then
      let s := { s with output := show_ 3 a ++ s.output }
      merge show_ fuel ((s.check 1 a as).check 2 b bs) as bs
    else if isBefore a b then
      let s := { s with output := show_ 1 a ++ s.output, hasUnpaired := true }
      merge show_ fuel (s.check 1 a as) as (b :: bs)
    else
      let s := { s with output := show_ 2 b ++ s.output, hasUnpaired := true }
      merge show_ fuel (s.check 2 b bs) (a :: as) bs

/-- Compares two sorted files. -/
def comm : Utility := fun name args => do
  let o ← getOptions name { plain := ['1', '2', '3', 'z', 'x'], long := [("nocheck-order", 'x')] } 1 args
  match o.operands with
  | [] => missingOperand name "operand"
  | [a] => complain s!"{name}: missing operand after '{a}'\n{tryHelp name}" 1
  | _ :: _ :: c :: _ => complain s!"{name}: extra operand '{c}'\n{tryHelp name}" 1
  | [a, b] =>
    match ← readOperand a, ← readOperand b with
    | .error e, _ => complain (plainComplaint name a e) 1
    | _, .error e => complain (plainComplaint name b e) 1
    | .ok x, .ok y =>
      let tabs (n : Nat) : List Char :=
        (if 1 < n && !o.has '1' then ['\t'] else []) ++ if 2 < n && !o.has '2' then ['\t'] else []
      let show_ (n : Nat) (line : List Char) : List (List Char) :=
        if o.has (Char.ofNat ('0'.toNat + n)) then [] else [tabs n ++ line]
      let as := linesOf (charsOf x)
      let bs := linesOf (charsOf y)
      let s := merge show_ (as.length + bs.length + 1) {} as bs
      emitChars name (unlines s.output.reverse)
      let disordered := if o.has 'x' then [] else s.disordered
      for n in disordered do
        printErr s!"{name}: file {n} is not in sorted order\n"
      if disordered.isEmpty then return 0
      else complain s!"{name}: input is not in sorted order" 1

end Autoformat.Rehearsal.Shell
