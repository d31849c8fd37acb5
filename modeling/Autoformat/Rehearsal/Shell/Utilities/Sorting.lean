import Autoformat.Rehearsal.Shell.Utilities.Texts

/-!
# Sorting lines

`sort` compares lines by keys, each with a way to compare, and at last by their bytes.
-/

namespace Autoformat.Rehearsal.Shell

/-! ## Comparing texts -/

/-- The other way round. -/
def turned : Ordering → Ordering
  | .lt => .gt
  | .eq => .eq
  | .gt => .lt

/-- The order of two texts by their bytes. -/
def compareChars (a b : List Char) : Ordering :=
  if isBefore a b then .lt else if isBefore b a then .gt else .eq

/-- A number with a fraction: its sign, and its digits before and after the point. -/
structure Numeral where
  isNegative : Bool := false
  whole : Nat := 0
  fraction : List Char := []

/-- The number that a text begins with, and the rest. -/
def numeralOf (cs : List Char) : Numeral × List Char :=
  let cs := cs.dropWhile fun c => c = ' ' || c = '\t'
  let isNegative := cs.head? = some '-'
  let cs := if isNegative then cs.drop 1 else cs
  let ds := cs.takeWhile Char.isDigit
  let rest := cs.drop ds.length
  let fraction := if rest.head? = some '.' then (rest.drop 1).takeWhile Char.isDigit else []
  let rest := if rest.head? = some '.' then rest.drop (fraction.length + 1) else rest
  let zeros := (fraction.reverse.takeWhile (· = '0')).length
  (⟨isNegative, (digits? (String.ofList ds)).getD 0, fraction.take (fraction.length - zeros)⟩, rest)

/-- The number is zero. -/
def Numeral.isZero (n : Numeral) : Bool := n.whole = 0 && n.fraction.isEmpty

/-- The order of two numbers. -/
def Numeral.order (a b : Numeral) : Ordering :=
  let size : Ordering := (compare a.whole b.whole).then (compareChars a.fraction b.fraction)
  let isNegative (n : Numeral) : Bool := n.isNegative && !n.isZero
  match isNegative a, isNegative b with
  | true, true => turned size
  | true, false => .lt
  | false, true => .gt
  | false, false => size

/-- The order of two numbers with units. -/
def compareScaled (a b : List Char) : Ordering :=
  let scale (rest : List Char) : Nat :=
    match rest with
    | c :: _ =>
      if c = 'k' then 1
      else
        match ['K', 'M', 'G', 'T', 'P', 'E', 'Z', 'Y'].findIdx? (· = c) with
        | some i => i + 1
        | none => 0
    | [] => 0
  let signed (x : Numeral × List Char) : Int :=
    let s : Int := if x.1.isZero then 0 else scale x.2 + 1
    if x.1.isNegative then -s else s
  let x := numeralOf a
  let y := numeralOf b
  (compare (signed x) (signed y)).then (x.1.order y.1)

/-- How a character of a version counts; the end of a text comes after a tilde and before all else. -/
def versionRank : Option Char → Nat
  | some '~' => 0
  | none => 1
  | some c => if c.isDigit then 1 else if c.isAlpha then c.toNat + 2 else c.toNat + 300

/-- The order of the parts of two versions that are no digits, and the rest. -/
def compareWords : List Char → List Char → Ordering × List Char × List Char
  | [], [] => (.eq, [], [])
  | a :: as, [] =>
    if a.isDigit then (.eq, a :: as, []) else (compare (versionRank (some a)) 1, [], [])
  | [], b :: bs =>
    if b.isDigit then (.eq, [], b :: bs) else (compare 1 (versionRank (some b)), [], [])
  | a :: as, b :: bs =>
    if a.isDigit && b.isDigit then (.eq, a :: as, b :: bs)
    else
      match compare (versionRank (some a)) (versionRank (some b)) with
      | .eq => compareWords as bs
      | o => (o, [], [])

/-- The order of two versions. -/
def compareVersions : Nat → List Char → List Char → Ordering
  | 0, _, _ => .eq
  | fuel + 1, a, b =>
    if a.isEmpty && b.isEmpty then .eq
    else
      let (o, a, b) := compareWords a b
      let number (cs : List Char) : Nat := (digits? (String.ofList (cs.takeWhile Char.isDigit))).getD 0
      (o.then (compare (number a) (number b))).then
        (compareVersions fuel (a.dropWhile Char.isDigit) (b.dropWhile Char.isDigit))

/-- The month that a text begins with. -/
def monthOf (cs : List Char) : Nat :=
  let word := (cs.dropWhile isSpace).take 3
  let names := ["JAN", "FEB", "MAR", "APR", "MAY", "JUN", "JUL", "AUG", "SEP", "OCT", "NOV", "DEC"]
  match names.findIdx? (· = String.ofList (word.map Char.toUpper)) with
  | some i => i + 1
  | none => 0

/-! ## Keys -/

/-- A place in a line: a field, a character in it, and options. -/
structure KeyEnd where
  field : Nat
  char : Nat
  options : List Char

/-- A key. -/
structure Key where
  start : KeyEnd
  finish : Option KeyEnd := none

/-- Reads a place in a line. -/
def keyEnd? (s : String) : Option KeyEnd :=
  let cs := s.toList
  let field := cs.takeWhile Char.isDigit
  let rest := cs.drop field.length
  let char := if rest.head? = some '.' then (rest.drop 1).takeWhile Char.isDigit else []
  let rest := if rest.head? = some '.' then rest.drop (char.length + 1) else rest
  if field.isEmpty || !rest.all (['b', 'd', 'f', 'g', 'h', 'i', 'M', 'n', 'r', 'R', 'V'].contains ·) then none
  else some ⟨(digits? (String.ofList field)).getD 0, (digits? (String.ofList char)).getD 0, rest⟩

/-- Reads a key. -/
def key? (s : String) : Option Key :=
  match s.splitOn "," with
  | [a] => do return { start := ← keyEnd? a }
  | [a, b] => do return { start := ← keyEnd? a, finish := some (← keyEnd? b) }
  | _ => none

/-- A line without its first fields; a field includes the blanks before it, unless there is a separator. -/
def afterFields (separator : Option Char) : Nat → List Char → List Char
  | 0, cs => cs
  | n + 1, cs =>
    match separator with
    | some c => afterFields separator n ((cs.dropWhile (· ≠ c)).drop 1)
    | none =>
      let isBlank (c : Char) : Bool := c = ' ' || c = '\t'
      afterFields separator n ((cs.dropWhile isBlank).dropWhile fun c => !isBlank c)

/-- The part of a line that is a key. -/
def Key.part (k : Key) (separator : Option Char) (line : List Char) : List Char :=
  let isBlank (c : Char) : Bool := c = ' ' || c = '\t'
  let skip (options : List Char) (cs : List Char) : List Char :=
    if options.contains 'b' then cs.dropWhile isBlank else cs
  let from_ := (skip k.start.options (afterFields separator (k.start.field - 1) line)).drop (k.start.char - 1)
  match k.finish with
  | none => from_
  | some e =>
    let rest :=
      if e.char = 0 then
        let before := afterFields separator (e.field - 1) line
        match separator with
        | some c => before.dropWhile (· ≠ c)
        | none => (before.dropWhile isBlank).dropWhile fun c => !isBlank c
      else (skip e.options (afterFields separator (e.field - 1) line)).drop e.char
    from_.take (from_.length - rest.length)

/-- The order of two keys. -/
def compareBy (options : List Char) (a b : List Char) : Ordering :=
  let has (c : Char) : Bool := options.contains c
  let prepared (cs : List Char) : List Char :=
    let cs := if has 'd' then cs.filter fun c => c = ' ' || c = '\t' || c.isAlphanum else cs
    let cs := if has 'i' then cs.filter fun c => 32 ≤ c.toNat && c.toNat < 127 else cs
    if has 'f' then cs.map Char.toUpper else cs
  let o :=
    if has 'n' || has 'g' then (numeralOf a).1.order (numeralOf b).1
    else if has 'h' then compareScaled a b
    else if has 'M' then compare (monthOf a) (monthOf b)
    else if has 'V' then compareVersions (a.length + b.length + 2) a b
    else compareChars (prepared a) (prepared b)
  if has 'r' then turned o else o

/-! ## Sorting -/

/-- How lines are sorted. -/
structure SortOrder where
  options : List Char
  keys : List Key
  separator : Option Char
  isStable : Bool
  isUnique : Bool

/-- The order of two lines by the keys. -/
def SortOrder.byKeys (s : SortOrder) (a b : List Char) : Ordering :=
  let isBlank (c : Char) : Bool := c = ' ' || c = '\t'
  match s.keys with
  | [] =>
    let trim (cs : List Char) : List Char := if s.options.contains 'b' then cs.dropWhile isBlank else cs
    compareBy s.options (trim a) (trim b)
  | keys =>
    keys.foldl
      (fun o k =>
        let own := k.start.options ++ ((k.finish.map KeyEnd.options).getD [])
        let options := if own.isEmpty then s.options else own
        let skips := if own.isEmpty && s.options.contains 'b' then ['b'] else []
        let k := { k with start.options := k.start.options ++ skips }
        o.then (compareBy options (k.part s.separator a) (k.part s.separator b)))
      .eq

/-- The order of two lines. -/
def SortOrder.order (s : SortOrder) (a b : List Char) : Ordering :=
  let o := s.byKeys a b
  if s.isStable || s.isUnique then o
  else
    let last := compareChars a b
    o.then (if s.options.contains 'r' then turned last else last)

/-- Neighbours that are equal appear once. -/
def SortOrder.unique (s : SortOrder) (lines : List (List Char)) : List (List Char) :=
  (lines.foldl
    (fun (acc : List (List Char)) line =>
      match acc with
      | last :: _ => if s.byKeys last line = .eq then acc else line :: acc
      | [] => [line])
    []).reverse

/-- Merges two lists of lines. -/
def SortOrder.merge (s : SortOrder) : Nat → List (List Char) → List (List Char) → List (List Char)
  | 0, as, bs => as ++ bs
  | _, as, [] => as
  | _, [], bs => bs
  | fuel + 1, a :: as, b :: bs =>
    if s.order b a = .lt then b :: s.merge fuel (a :: as) bs else a :: s.merge fuel as (b :: bs)

/-- The first line that is out of order, with its number. -/
def SortOrder.disorder? (s : SortOrder) : Nat → List (List Char) → Option (Nat × List Char)
  | n, a :: b :: rest =>
    let o := s.order a b
    if o = .gt || (s.isUnique && o = .eq) then some (n + 1, b) else s.disorder? (n + 1) (b :: rest)
  | _, _ => none

/-- Sorts the lines of files. -/
def sort : Utility := fun name args => do
  let o ← getOptions name
    { plain := ['b', 'd', 'f', 'g', 'h', 'i', 'M', 'n', 'r', 'R', 'V', 'c', 'C', 'm', 's', 'u', 'z']
      argued := ['k', 't', 'o', 'S', 'T']
      long := [("ignore-leading-blanks", 'b'), ("dictionary-order", 'd'), ("ignore-case", 'f'),
        ("general-numeric-sort", 'g'), ("human-numeric-sort", 'h'), ("ignore-nonprinting", 'i'),
        ("month-sort", 'M'), ("numeric-sort", 'n'), ("reverse", 'r'), ("version-sort", 'V'), ("check", 'c'),
        ("merge", 'm'), ("stable", 's'), ("unique", 'u'), ("key", 'k'), ("field-separator", 't'),
        ("output", 'o'), ("zero-terminated", 'z')] } 2 args
  let wrong (s : String) : Process Nat := complain s!"{name}: {s}" 2
  let separator := argumentChars ((o.value? 't').getD "")
  let keys := (o.values 'k').map fun s => (s, key? s)
  match keys.find? fun x => x.2.isNone, keys.find? fun x => x.2.any fun k => k.start.field = 0 with
  | some (s, _), _ => wrong s!"invalid number at field start: invalid count at start of '{s}'"
  | _, some (s, _) => wrong s!"field number is zero: invalid field specification '{s}'"
  | none, none =>
    if o.has 't' && separator.isEmpty then wrong "empty tab"
    else if 1 < separator.length && (o.value? 't') ≠ some "\\0" then
      wrong s!"multi-character tab '{textOfChars separator}'"
    else
      let s : SortOrder :=
        { options := ['b', 'd', 'f', 'g', 'h', 'i', 'M', 'n', 'r', 'V'].filter o.has
          keys := keys.filterMap Prod.snd
          separator := if separator.length = 1 then separator.head? else if separator.isEmpty then none else some '\x00'
          isStable := o.has 's'
          isUnique := o.has 'u' }
      run name o s
where
  /-- The lines of all operands. -/
  contents (name : String) (o : Options) (paths : List String) : Process (List (List (List Char))) :=
    paths.mapM fun path => do
      match ← readOperand path with
      | .ok content => return linesOf (o.lineEnds (charsOf content))
      | .error e =>
        let how := if e = .isADirectory then "read failed" else "cannot read"
        printErr s!"{name}: {how}: {path}: {reason e}\n"
        throw (.exit 2)
  /-- Sorts, merges or checks. -/
  run (name : String) (o : Options) (s : SortOrder) : Process Nat := do
    let paths := if o.operands.isEmpty then ["-"] else o.operands
    let files ← contents name o paths
    if o.has 'c' || o.has 'C' then
      match s.disorder? 1 (files.headD []) with
      | none => return 0
      | some (n, line) =>
        if o.has 'c' then
          let path := paths.headD ""
          printErr s!"{name}: {path}:{n}: disorder: {textOfChars line}\n"
        return 1
    else
      let lines :=
        if o.has 'm' then
          files.foldl (fun acc file => s.merge (acc.length + file.length + 1) acc file) []
        else files.flatten.mergeSort fun a b => s.order a b ≠ .gt
      let lines := if s.isUnique then s.unique lines else lines
      let text := o.lineEnds (unlines lines)
      match o.value? 'o' with
      | none =>
        emitChars name text
        return 0
      | some path =>
        match ← writeAt path (bytesOf text) with
        | .ok () => return 0
        | .error e => complain s!"{name}: open failed: {path}: {reason e}" 2

end Autoformat.Rehearsal.Shell
