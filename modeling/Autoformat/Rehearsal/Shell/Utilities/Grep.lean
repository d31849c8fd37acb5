import Autoformat.Rehearsal.Shell.Regex
import Autoformat.Rehearsal.Shell.Utilities.Texts

/-!
# Searching for lines

`grep` shows the lines of files in which one of its expressions occurs.
-/

namespace Autoformat.Rehearsal.Shell.Grep

/-- What is looked for. -/
structure Search where
  patterns : List Regex
  ignoresCase : Bool
  /-- A match has to be a whole line, or whole words. -/
  wholeLine : Bool
  wholeWord : Bool

/-- A match that stands between no characters of words, at a place; shorter ones are tried too. -/
def wordAt (t : Regex.Subject) (r : Regex) (i : Nat) : Nat → Nat → Option Nat
  | 0, _ => none
  | fuel + 1, size =>
    let part : Regex.Subject := { t with text := t.text.extract 0 size }
    match ((Regex.longestAt part r i).run Regex.stepLimit).1 with
    | none => none
    | some m =>
      if !t.isWordBefore i && !t.isWordAt m.finish then some m.finish
      else if m.finish ≤ i then none
      else wordAt t r i fuel (m.finish - 1)

/-- The first match of whole words at or after a place. -/
def wordFrom (t : Regex.Subject) (r : Regex) : Nat → Nat → Option (Nat × Nat)
  | 0, _ => none
  | fuel + 1, i =>
    match wordAt t r i (t.text.size + 1) t.text.size with
    | some finish => some (i, finish)
    | none => wordFrom t r fuel (i + 1)

/-- The first match of one expression at or after a place. -/
def Search.oneFrom (s : Search) (t : Regex.Subject) (r : Regex) (i : Nat) : Option (Nat × Nat) :=
  if s.wholeLine then
    if i ≠ 0 then none
    else
      match ((Regex.longestAt t r 0).run Regex.stepLimit).1 with
      | some m => if m.finish = t.text.size then some (0, m.finish) else none
      | none => none
  else if s.wholeWord then wordFrom t r (t.text.size + 1 - i) i
  else (Regex.search t r i).map fun x => (x.1, x.2.finish)

/-- The first and then longest match of all expressions at or after a place. -/
def Search.from (s : Search) (t : Regex.Subject) (i : Nat) : Option (Nat × Nat) :=
  s.patterns.foldl
    (fun best r =>
      match best, s.oneFrom t r i with
      | none, found => found
      | best, none => best
      | some a, some b => if b.1 < a.1 || (b.1 = a.1 && a.2 < b.2) then some b else some a)
    none

/-- All matches in a line that are not empty. -/
def Search.all (s : Search) (t : Regex.Subject) : Nat → Nat → List (Nat × Nat)
  | 0, _ => []
  | fuel + 1, i =>
    match s.from t i with
    | none => []
    | some (a, b) =>
      if b ≤ a then (if t.text.size ≤ a then [] else s.all t fuel (a + 1)) else (a, b) :: s.all t fuel b

/-- How what was found is shown. -/
structure Display where
  options : Options
  showsNames : Bool
  before : Nat
  after : Nat
  most : Option Nat

/-- A line of a text. -/
structure Line where
  number : Nat
  /-- The bytes before it. -/
  offset : Nat
  text : List Char
  isSelected : Bool

/-- The start of a line of output, for a part of a line that begins at an offset. -/
def Display.heading (d : Display) (file : String) (number offset : Nat) (sign : Char) : List Char :=
  (if d.showsNames then argumentChars file ++ [sign] else []) ++
    (if d.options.has 'n' then (toString number).toList ++ [sign] else []) ++
    if d.options.has 'b' then (toString offset).toList ++ [sign] else []

/-- The lines of output for the lines of a file. Lines around selected ones are shown too; gaps are marked,
also to what was shown of other files. -/
def Display.lines (d : Display) (search : Search) (hasShown : Bool) (file : String) (lines : List Line) :
    List (List Char) :=
  let selected := (lines.filter Line.isSelected).map Line.number
  let isShown (n : Nat) : Bool := selected.any fun m => (m ≤ n && n ≤ m + d.after) || (n ≤ m && m ≤ n + d.before)
  let hasContext := d.before ≠ 0 || d.after ≠ 0
  let shown := if hasContext then lines.filter fun x => isShown x.number else lines.filter Line.isSelected
  (shown.foldl
    (fun ((last : Option Nat), (acc : List (List Char))) x =>
      let isGap := hasContext && (if let some m := last then m + 1 < x.number else hasShown)
      let acc := if isGap then "--".toList :: acc else acc
      let sign := if x.isSelected then ':' else '-'
      let acc :=
        if d.options.has 'o' then
          if x.isSelected && !d.options.has 'v' then
            let t : Regex.Subject := { text := x.text.toArray, ignoresCase := search.ignoresCase }
            (search.all t (x.text.length + 1) 0).foldl
              (fun acc (a, b) =>
                (d.heading file x.number (x.offset + a) sign ++ (t.text.extract a b).toList) :: acc) acc
          else acc
        else (d.heading file x.number x.offset sign ++ x.text) :: acc
      (some x.number, acc))
    (none, [])).2.reverse

/-- The lines of a text, some of which are selected, not more than so many. -/
def selectLines (search : Search) (isInverted : Bool) (most : Option Nat) (lines : List (List Char)) :
    List Line :=
  (lines.foldl
    (fun ((n : Nat), (offset : Nat), (count : Nat), (acc : List Line)) line =>
      let t : Regex.Subject := { text := line.toArray, ignoresCase := search.ignoresCase }
      let isSelected := !most.any (· ≤ count) && (search.from t 0).isSome != isInverted
      (n + 1, offset + line.length + 1, if isSelected then count + 1 else count,
        ⟨n, offset, line, isSelected⟩ :: acc))
    (1, 0, 0, [])).2.2.2.reverse

/-- Searches a text; tells whether a line was selected. -/
def searchText (name : String) (d : Display) (search : Search) (hasShown : Bool) (file : String)
    (content : ByteArray) : Process Bool := do
  let o := d.options
  let divider := if o.has 'z' then '\x00' else '\n'
  let cs := charsOf content
  let rows :=
    if divider = '\n' then linesOf cs
    else
      let parts := (cs.foldr
        (fun c (acc : List Char × List (List Char)) =>
          if c = divider then ([], acc.1 :: acc.2) else (c :: acc.1, acc.2)) ([], []))
      let all := parts.1 :: parts.2
      if all.getLast? = some [] then all.dropLast else all
  let lines := selectLines search (o.has 'v') d.most rows
  let count := (lines.filter Line.isSelected).length
  let isFound := count ≠ 0
  let label := if file = "-" then "(standard input)" else file
  if o.has 'q' then return isFound
  else if o.has 'l' then
    if isFound then emitText name (label ++ "\n")
    return isFound
  else if o.has 'L' then
    if !isFound then emitText name (label ++ "\n")
    return isFound
  else if o.has 'c' then
    emitText name ((if d.showsNames then label ++ ":" else "") ++ toString count ++ "\n")
    return isFound
  else if cs.contains '\x00' && !o.has 'a' && !o.has 'z' then
    if isFound then printErr s!"{name}: {label}: binary file matches\n"
    return isFound
  else
    let shown := d.lines search hasShown label lines
    emitChars name (shown.flatMap (· ++ [divider]))
    return isFound

/-- The files below a path that are searched. -/
def filesFrom (t : Tree) (o : Options) (p : Place) (path : String) : Nat → List String
  | 0 => []
  | fuel + 1 =>
    (t.sortedNames p).flatMap fun name =>
      let q := Tree.step p name
      let full := if path = "" then name else joinPath path name
      let fits (c : Char) : Bool := (o.values c).any fun s => Pattern.accepts (.ofString s) name.toList
      match t.found q with
      | .directory => if fits 'D' then [] else filesFrom t o q full fuel
      | .file .. => if (o.has 'N' && !fits 'N') || fits 'X' then [] else [full]
      | _ => []

/-- How `grep` is used. -/
def usage : String := "Usage: grep [OPTION]... PATTERNS [FILE]...\nTry 'grep --help' for more information."

/-- The options of `grep`. -/
def letters : Letters :=
  { plain := ['E', 'F', 'G', 'P', 'i', 'y', 'v', 'c', 'l', 'L', 'n', 'H', 'h', 'o', 'w', 'x', 'q', 's', 'r', 'R',
      'a', 'b', 'I', 'T', 'U', 'Z', 'z', '0', '1', '2', '3', '4', '5', '6', '7', '8', '9']
    argued := ['e', 'f', 'm', 'A', 'B', 'C', 'N', 'X', 'D', 'd']
    maybeArgued := ['K']
    long := [("extended-regexp", 'E'), ("fixed-strings", 'F'), ("basic-regexp", 'G'), ("perl-regexp", 'P'),
      ("ignore-case", 'i'), ("invert-match", 'v'), ("count", 'c'), ("files-with-matches", 'l'),
      ("files-without-match", 'L'), ("line-number", 'n'), ("with-filename", 'H'), ("no-filename", 'h'),
      ("only-matching", 'o'), ("word-regexp", 'w'), ("line-regexp", 'x'), ("quiet", 'q'), ("silent", 'q'),
      ("no-messages", 's'), ("recursive", 'r'), ("text", 'a'), ("null-data", 'z'), ("regexp", 'e'), ("file", 'f'),
      ("max-count", 'm'), ("after-context", 'A'), ("before-context", 'B'), ("context", 'C'), ("include", 'N'),
      ("exclude", 'X'), ("exclude-dir", 'D'), ("color", 'K'), ("colour", 'K')] }

/-- An expression with the shorter names of classes that another kind of expression has. -/
def withShortClasses : List Char → List Char
  | '\\' :: 'd' :: cs => "[0-9]".toList ++ withShortClasses cs
  | '\\' :: 'D' :: cs => "[^0-9]".toList ++ withShortClasses cs
  | '\\' :: 't' :: cs => '\t' :: withShortClasses cs
  | '\\' :: c :: cs => '\\' :: c :: withShortClasses cs
  | '(' :: '?' :: ':' :: cs => '(' :: withShortClasses cs
  | c :: cs => c :: withShortClasses cs
  | [] => []

/-- The expressions that are looked for. -/
def compile (name : String) (o : Options) (texts : List String) : Process (List Regex) :=
  texts.mapM fun text => do
    let kind := (o.last? ['E', 'F', 'G', 'P']).getD
      (if baseName name = "egrep" then 'E' else if baseName name = "fgrep" then 'F' else 'G')
    let cs := argumentChars text
    if kind = 'F' then return Regex.ofChars cs
    else
      match Regex.parse ⟨kind ≠ 'G', false⟩ (if kind = 'P' then withShortClasses cs else cs) with
      | .ok p =>
        for w in p.warnings do
          printErr s!"{name}: warning: {w}\n"
        return p.regex
      | .error e =>
        printErr s!"{name}: {e.message}\n"
        throw (.exit 2)

/-- Searches one operand; gives whether a line was selected, and whether all could be read. -/
def searchOperand (name : String) (d : Display) (search : Search) (hasShown : Bool) (path : String) :
    Process (Bool × Bool) := do
  let o := d.options
  let isRecursive := o.has 'r' || o.has 'R'
  let failed (path : String) (e : FileError) : Process (Bool × Bool) := do
    if !o.has 's' then printErr s!"{name}: {path}: {reason e}\n"
    return (false, false)
  match path, isRecursive with
  | "-", _ =>
    match ← readInput with
    | .ok content => return (← searchText name d search hasShown "-" content, true)
    | .error e => failed "(standard input)" e
  | path, false =>
    match ← readAt path with
    | .ok content => return (← searchText name d search hasShown path content, true)
    | .error e => failed path e
  | path, true =>
    match ← placeOf (if path = "" then "." else path) with
    | .error e => failed path e
    | .ok p =>
      let t ← tree
      match t.found p with
      | .nothing => failed path .notFound
      | .directory =>
        (filesFrom t o p path 100).foldlM
          (fun ((isFound : Bool), (isRead : Bool)) file => do
            match ← readAt file with
            | .ok content =>
              return ((← searchText name d search (hasShown || isFound) file content) || isFound, isRead)
            | .error e =>
              let _ ← failed file e
              return (isFound, false))
          (false, true)
      | _ =>
        match ← readAt path with
        | .ok content => return (← searchText name d search hasShown path content, true)
        | .error e => failed path e

/-- The arguments with counts of lines in their old form in the new form. -/
def withContexts (args : List String) : List String :=
  args.map fun arg =>
    match arg.toList with
    | '-' :: d :: ds => if (d :: ds).all Char.isDigit then "-C" ++ String.ofList (d :: ds) else arg
    | _ => arg

/-- The lines of a file of expressions. -/
def patternFile (name path : String) : Process (List String) := do
  match ← readOperand path with
  | .ok content => return (linesOf (charsOf content)).map textOfChars
  | .error e =>
    printErr s!"{name}: {path}: {reason e}\n"
    throw (.exit 2)

/-- Shows the lines in which an expression occurs. -/
def utility : Utility := fun name args => do
  match Options.parse letters (withContexts args) with
  | .error e => complain s!"{name}: {e.message}\n{usage}" 2
  | .ok o =>
    let fromFiles ← (o.values 'f').mapM (patternFile name)
    let hasOwn := o.has 'e' || o.has 'f'
    if !hasOwn && o.operands.isEmpty then complain usage 2
    else
      let given := if hasOwn then o.values 'e' else o.operands.take 1
      let paths := if hasOwn then o.operands else o.operands.drop 1
      let texts := given.flatMap (·.splitOn "\n") ++ fromFiles.flatten
      let patterns ← compile name o texts
      let isRecursive := o.has 'r' || o.has 'R'
      let number? (c : Char) : Option Nat := (o.value? c).bind digits?
      let context := number? 'C'
      let search : Search := ⟨patterns, o.has 'i' || o.has 'y', o.has 'x', o.has 'w'⟩
      let showsNames := o.last? ['H', 'h'] = some 'H' ||
        (!o.has 'h' && (1 < paths.length || isRecursive))
      let d : Display :=
        { options := o
          showsNames := showsNames
          before := ((number? 'B').or context).getD 0
          after := ((number? 'A').or context).getD 0
          most := number? 'm' }
      let paths := if paths.isEmpty then [if isRecursive then "" else "-"] else paths
      let results ← paths.foldlM
        (fun (results : List (Bool × Bool)) path => do
          return (← searchOperand name d search (results.any Prod.fst) path) :: results)
        []
      let isFound := if o.has 'L' then results.any (fun x => !x.1) else results.any Prod.fst
      if isFound && o.has 'q' then return 0
      else if results.any (fun x => !x.2) then return 2
      else return if isFound then 0 else 1

end Autoformat.Rehearsal.Shell.Grep
