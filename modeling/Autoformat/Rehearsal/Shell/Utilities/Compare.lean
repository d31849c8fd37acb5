import Autoformat.Rehearsal.Shell.Utilities.Texts

/-!
# Programs that compare files

`cmp` tells where two files differ, and `diff` how one is made from the other.
-/

namespace Autoformat.Rehearsal.Shell

/-! ## `cmp` -/

/-- The first place where two texts differ, with the number of lines before it. -/
def firstDifference (i line : Nat) : List UInt8 → List UInt8 → Option (Nat × Nat)
  | a :: as, b :: bs =>
    if a = b then firstDifference (i + 1) (if a = 10 then line + 1 else line) as bs else some (i, line)
  | [], [] => none
  | _, _ => some (i, line)

/-- A byte in digits of base eight, on three columns. -/
def octalByte (b : UInt8) : String := padLeft 3 (String.ofList (Nat.toDigits 8 b.toNat))

/-- Compares two files byte by byte. -/
def cmp : Utility := fun name args => do
  let o ← getOptions name
    { plain := ['l', 's', 'b'], argued := ['n', 'i']
      long := [("verbose", 'l'), ("quiet", 's'), ("silent", 's'), ("print-bytes", 'b'), ("bytes", 'n')] } 2 args
  let say (s : String) : Process Nat := if o.has 's' then return 2 else complain s 2
  match o.operands with
  | [] => complain s!"{name}: missing operand after '{name}'\n{name}: {tryHelp name}" 2
  | a :: rest =>
    let b := rest.headD "-"
    match ← readOperand a, ← readOperand b with
    | .error e, _ => say (plainComplaint name a e)
    | _, .error e => say (plainComplaint name b e)
    | .ok x, .ok y =>
      let cut (bs : ByteArray) : ByteArray :=
        match (o.value? 'n').bind digits? with
        | some n => bs.extract 0 n
        | none => bs
      let x := cut x
      let y := cut y
      match firstDifference 0 0 x.data.toList y.data.toList with
      | none => return 0
      | some (i, line) =>
        if o.has 's' then return 1
        else
          let size := min x.size y.size
          let short := if x.size < y.size then a else b
          if o.has 'l' then
            let width := (toString size).length
            let pairs := (x.data.toList.zip y.data.toList).zipIdx.filter fun p => p.1.1 ≠ p.1.2
            let lines := pairs.map fun ((p, q), i) =>
              padLeft width (toString (i + 1)) ++ " " ++ octalByte p ++ " " ++ octalByte q ++ "\n"
            emitText name (String.join lines)
            if x.size ≠ y.size then printErr s!"{name}: EOF on {short} after byte {size}\n"
          else if i < size then emitText name s!"{a} {b} differ: char {i + 1}, line {line + 1}\n"
          else if size = 0 then printErr s!"{name}: EOF on {short} which is empty\n"
          else
            let isWhole := ((if x.size < y.size then x else y).data.toList.getLast?) = some 10
            let place := if isWhole then s!"line {line}" else s!"in line {line + 1}"
            printErr s!"{name}: EOF on {short} after byte {size}, {place}\n"
          return 1

/-! ## Edit scripts -/

/-- A line of one file or of both. -/
inductive Edit where
  | keep (line : List Char)
  | drop (line : List Char)
  | add (line : List Char)

/-- The table of the longest common parts: for each rest of the first text, a row that gives for each rest
of the second the length of their longest common part. -/
def commonTable (same : List Char → List Char → Bool) (bs : List (List Char)) :
    List (List Char) → List (List Nat)
  | [] => [List.replicate (bs.length + 1) 0]
  | a :: as =>
    let rows := commonTable same bs as
    let below := rows.headD []
    let row := (bs.zip (below.zip (below.drop 1))).foldr
      (fun (b, here, right) (acc : List Nat) =>
        (if same a b then right + 1 else max here (acc.headD 0)) :: acc)
      [0]
    row :: rows

/-- The edits that make the second text from the first, by the table of their common parts. -/
def editsFrom (same : List Char → List Char → Bool) :
    List (List Char) → List (List Char) → List (List Nat) → List Edit
  | [], bs, _ => bs.map .add
  | as, [], _ => as.map .drop
  | a :: as, b :: bs, rows =>
    if same a b then .keep a :: editsFrom same as bs ((rows.drop 1).map (List.drop 1))
    else
      let below := ((rows[1]?).getD []).headD 0
      let right := (((rows.headD []).drop 1).headD 0)
      if right ≤ below then .drop a :: editsFrom same as (b :: bs) (rows.drop 1)
      else .add b :: editsFrom same (a :: as) bs (rows.map (List.drop 1))
  termination_by as bs => as.length + bs.length

/-- Lines at the start, and at the end, that two texts share. -/
def sharedStart (same : List Char → List Char → Bool) : List (List Char) → List (List Char) → Nat
  | a :: as, b :: bs => if same a b then sharedStart same as bs + 1 else 0
  | _, _ => 0

/-- The edits that make the second text from the first. -/
def edits (same : List Char → List Char → Bool) (as bs : List (List Char)) : List Edit :=
  let start := sharedStart same as bs
  let restA := as.drop start
  let restB := bs.drop start
  let finish := sharedStart same restA.reverse restB.reverse
  let midA := restA.take (restA.length - finish)
  let midB := restB.take (restB.length - finish)
  let middle :=
    if midA.isEmpty || midB.isEmpty || 4000000 < midA.length * midB.length then
      midA.map Edit.drop ++ midB.map Edit.add
    else editsFrom same midA midB (commonTable same midB midA)
  (as.take start).map .keep ++ middle ++ (restA.drop midA.length).map .keep

/-! ## `diff` -/

/-- A change: the lines that go and those that come, and the lines before it in both files. -/
structure Change where
  beforeA : Nat
  beforeB : Nat
  gone : List (List Char) := []
  come : List (List Char) := []

/-- The changes among edits. -/
def changesIn (edits : List Edit) : List Change :=
  let close (open_ : Option Change) (done : List Change) : List Change :=
    match open_ with
    | some c => { c with gone := c.gone.reverse, come := c.come.reverse } :: done
    | none => done
  let (a, b, current, done) := edits.foldl
    (fun ((a : Nat), (b : Nat), (current : Option Change), (done : List Change)) e =>
      match e with
      | .keep _ => (a + 1, b + 1, none, close current done)
      | .drop line =>
        let c := current.getD ⟨a, b, [], []⟩
        (a + 1, b, some { c with gone := line :: c.gone }, done)
      | .add line =>
        let c := current.getD ⟨a, b, [], []⟩
        (a, b + 1, some { c with come := line :: c.come }, done))
    (0, 0, none, [])
  let _ := (a, b)
  (close current done).reverse

/-- Lines with a sign in front of each; a last line without an end is told. -/
def signed (sign : String) (lines : List (List Char)) : List Char :=
  lines.flatMap fun line =>
    let text := sign.toList ++ line
    if line.getLast? = some '\n' then text else text ++ "\n\\ No newline at end of file\n".toList

/-- The numbers of lines in a plain change. -/
def plainRange (before count : Nat) : String :=
  if count = 0 then toString before
  else if count = 1 then toString (before + 1)
  else s!"{before + 1},{before + count}"

/-- A change in plain form. -/
def Change.plain (c : Change) : List Char :=
  let letter := if c.gone.isEmpty then "a" else if c.come.isEmpty then "d" else "c"
  let header := plainRange c.beforeA c.gone.length ++ letter ++ plainRange c.beforeB c.come.length ++ "\n"
  let middle := if c.gone.isEmpty || c.come.isEmpty then "" else "---\n"
  header.toList ++ signed "< " c.gone ++ middle.toList ++ signed "> " c.come

/-- Changes that are close to each other. -/
def hunksOf (context : Nat) (changes : List Change) : List (List Change) :=
  (changes.foldl
    (fun (hunks : List (List Change)) c =>
      match hunks with
      | (last :: rest) :: more =>
        if c.beforeA ≤ last.beforeA + last.gone.length + 2 * context then (c :: last :: rest) :: more
        else [c] :: hunks
      | _ => [c] :: hunks)
    []).reverse.map List.reverse

/-- The numbers of lines in a unified change. -/
def unifiedRange (start count : Nat) : String :=
  if count = 1 then toString (start + 1)
  else if count = 0 then s!"{start},0"
  else s!"{start + 1},{count}"

/-- Changes in unified form, with the lines around them. -/
def unified (context : Nat) (as : List (List Char)) (hunk : List Change) : List Char :=
  match hunk.head?, hunk.getLast? with
  | some first, some last =>
    let startA := first.beforeA - context
    let startB := first.beforeB - (first.beforeA - startA)
    let endA := min as.length (last.beforeA + last.gone.length + context)
    let delta (c : Change) : Int := (c.come.length : Int) - c.gone.length
    let countA := endA - startA
    let countB := ((countA : Int) + (hunk.map delta).foldl (· + ·) 0).toNat
    let header := s!"@@ -{unifiedRange startA countA} +{unifiedRange startB countB} @@\n"
    let (at_, body) := hunk.foldl
      (fun ((at_ : Nat), (body : List (List Char))) c =>
        let kept := (as.drop at_).take (c.beforeA - at_)
        (c.beforeA + c.gone.length, signed "+" c.come :: signed "-" c.gone :: signed " " kept :: body))
      (startA, [])
    header.toList ++ body.reverse.flatten ++ signed " " ((as.drop at_).take (endA - at_))
  | _, _ => []

/-- How lines are compared. -/
def sameLines (o : Options) (a b : List Char) : Bool :=
  let norm (cs : List Char) : List Char :=
    let cs := if o.has 'i' then cs.map Char.toLower else cs
    if o.has 'w' then cs.filter fun c => !isSpace c
    else if o.has 'b' then
      let parts := (String.ofList (cs.map fun c => if isSpace c then ' ' else c)).splitOn " "
      let gap := if cs.head?.any isSpace then [' '] else []
      gap ++ (" ".intercalate (parts.filter (· ≠ ""))).toList
    else cs
  a = b || norm a = norm b

/-- What `diff` tells about two texts. -/
def compareTexts (o : Options) (a b : String) (x y : ByteArray) : Nat × List Char :=
  let as := splitLines (charsOf x)
  let bs := splitLines (charsOf y)
  let changes := changesIn (edits (sameLines o) as bs)
  let changes :=
    if o.has 'B' then changes.filter fun c => !(c.gone ++ c.come).all fun line => line = ['\n'] else changes
  if changes.isEmpty then
    (0, if o.has 's' then s!"Files {a} and {b} are identical\n".toList else [])
  else if o.has 'q' then (1, s!"Files {a} and {b} differ\n".toList)
  else if o.has 'u' || o.has 'U' then
    let context := ((o.value? 'U').bind digits?).getD 3
    let stamp := "\t1970-01-01 00:00:00.000000000 +0000\n"
    let header := "--- " ++ a ++ stamp ++ "+++ " ++ b ++ stamp
    (1, header.toList ++ (hunksOf context changes).flatMap (unified context as))
  else (1, changes.flatMap Change.plain)

/-- Compares two files, or directories. The number of directories inside of each other is limited. -/
def comparePaths (name : String) (o : Options) (a b : String) : Nat → Process Nat
  | 0 => return 0
  | fuel + 1 => do
    let isFolder (f : Found) : Bool :=
      match f with
      | .directory => true
      | _ => false
    match isFolder (← foundAt a), isFolder (← foundAt b) with
    | true, true =>
      let names (path : String) : Process (List String) := do
        match ← placeOf path with
        | .ok p => return (← tree).sortedNames p
        | .error _ => return []
      let left ← names a
      let right ← names b
      let all := (left ++ right.filter fun n => !left.contains n).mergeSort fun x y => decide (¬Utf8.Before y x)
      forArguments all fun n => do
        if !right.contains n then
          emitText name s!"Only in {a}: {n}\n"
          return 1
        else if !left.contains n then
          emitText name s!"Only in {b}: {n}\n"
          return 1
        else
          let x := joinPath a n
          let y := joinPath b n
          if isFolder (← foundAt x) && isFolder (← foundAt y) then
            if o.has 'r' then comparePaths name o x y fuel
            else
              emitText name s!"Common subdirectories: {x} and {y}\n"
              return 0
          else
            if o.has 'r' && !o.has 'q' then
              match ← readOperand x, ← readOperand y with
              | .ok p, .ok q =>
                if p ≠ q then emitText name s!"diff -r {x} {y}\n"
              | _, _ => pure ()
            comparePaths name o x y fuel
    | true, false => comparePaths name o (joinPath a (baseName b)) b fuel
    | false, true => comparePaths name o a (joinPath b (baseName a)) fuel
    | false, false =>
      match ← readOperand a, ← readOperand b with
      | .ok x, .ok y =>
        let (code, text) := compareTexts o a b x y
        emitChars name text
        return code
      | .error e, .ok _ => complain (plainComplaint name a e) 2
      | .ok _, .error e => complain (plainComplaint name b e) 2
      | .error e, .error f =>
        printErr (plainComplaint name a e ++ "\n")
        complain (plainComplaint name b f) 2

/-- Tells how two files differ. -/
def diff : Utility := fun name args => do
  let o ← getOptions name
    { plain := ['a', 'b', 'B', 'd', 'e', 'E', 'i', 'N', 'q', 'r', 's', 't', 'T', 'u', 'w', 'y', 'Z']
      argued := ['U', 'C', 'x', 'I', 'L', 'W']
      maybeArgued := ['K']
      long := [("brief", 'q'), ("ignore-case", 'i'), ("ignore-all-space", 'w'), ("ignore-space-change", 'b'),
        ("ignore-blank-lines", 'B'), ("recursive", 'r'), ("report-identical-files", 's'), ("unified", 'u'),
        ("text", 'a'), ("color", 'K'), ("new-file", 'N'), ("label", 'L')] } 2 args
  match o.operands with
  | [] => complain s!"{name}: missing operand after '{name}'\n{name}: {tryHelp name}" 2
  | [a] => complain s!"{name}: missing operand after '{a}'\n{name}: {tryHelp name}" 2
  | [a, b] => comparePaths name o a b 100
  | _ :: _ :: c :: _ => complain s!"{name}: extra operand '{c}'\n{name}: {tryHelp name}" 2

end Autoformat.Rehearsal.Shell
