import Autoformat.Rehearsal.Shell.Utilities.Files

/-!
# Programs that tell about paths

`ls`, `pwd`, `basename`, `dirname`, `readlink` and `realpath`.
-/

namespace Autoformat.Rehearsal.Shell

/-! ## `ls` -/

/-- An entry of a listing. -/
structure Entry where
  /-- How it is shown. -/
  name : String
  place : Place
  found : Found

/-- The size of an entry. -/
def Entry.size (e : Entry) : Nat :=
  match e.found with
  | .file content _ => content.size
  | .directory => 4096
  | _ => 0

/-- How much room an entry takes, in units of 1024 bytes. -/
def Entry.blocks (e : Entry) : Nat := (e.size + 4095) / 4096 * 4

/-- The sign after an entry's name. -/
def Entry.sign (o : Options) (e : Entry) : String :=
  match e.found with
  | .directory => if o.has 'F' || o.has 'p' then "/" else ""
  | .file _ executable => if executable && o.has 'F' then "*" else ""
  | .program _ => if o.has 'F' then "*" else ""
  | _ => ""

/-- An entry's name with its sign. -/
def Entry.shown (o : Options) (e : Entry) : String :=
  (if o.has 'Q' then "\"" ++ e.name ++ "\"" else e.name) ++ e.sign o

/-- The part of a name after its last point. -/
def extensionOf (name : String) : List Char :=
  let cs := name.toList
  if cs.contains '.' then '.' :: (cs.reverse.takeWhile (· ≠ '.')).reverse else []

/-- Entries in the order that options ask for. -/
def sortedEntries (o : Options) (entries : List Entry) : List Entry :=
  let byName := entries.mergeSort fun a b => decide (¬Utf8.Before b.name a.name)
  let sorted :=
    if o.has 'S' then byName.mergeSort fun a b => b.size ≤ a.size
    else if o.has 'X' then byName.mergeSort fun a b => !isBefore (extensionOf b.name) (extensionOf a.name)
    else if o.has 'U' || o.has 'f' then entries
    else byName
  if o.has 'r' then sorted.reverse else sorted

/-- An entry on a line with its rights and size. -/
def Entry.longLine (t : Tree) (o : Options) (width : Nat) (e : Entry) : String :=
  let (kind, mode) : String × Nat :=
    match e.found with
    | .directory => ("d", 493)
    | .file _ executable => ("-", if executable then 493 else 420)
    | .program _ => ("-", 493)
    | _ => ("c", 438)
  let links :=
    match e.found with
    | .directory => 2 + ((t.namesIn e.place).filter fun n => isDirectory (t.found (Tree.step e.place n))).length
    | _ => 1
  let size := toString e.size
  let pad := String.ofList (List.replicate (width - size.length) ' ')
  s!"{kind}{modeText mode} {links} root root {pad}{size} Jan  1 00:00 {e.shown o}"

/-- The lines of a listing. -/
def listing (t : Tree) (o : Options) (isFolder : Bool) (entries : List Entry) : List String :=
  let sorted := sortedEntries o entries
  let total := (sorted.map Entry.blocks).foldl (· + ·) 0
  if o.has 'l' || o.has 'g' || o.has 'n' then
    let width := (sorted.map fun e => (toString e.size).length).foldl max 0
    (if isFolder then [s!"total {total}"] else []) ++ sorted.map (Entry.longLine t o width)
  else if o.has 'm' then
    if sorted.isEmpty then [] else [", ".intercalate (sorted.map (Entry.shown o))]
  else
    let numbered (e : Entry) : String := (if o.has 's' then toString e.blocks ++ " " else "") ++ e.shown o
    (if isFolder && o.has 's' then [s!"total {total}"] else []) ++
      sorted.map numbered

/-- The entries of a directory. -/
def entriesIn (t : Tree) (o : Options) (p : Place) : List Entry :=
  let names := (t.namesIn p).filter fun n => o.has 'a' || o.has 'A' || o.has 'f' || !Text.startsWith n "."
  let dots := if o.has 'a' || o.has 'f' then [".", ".."] else []
  (dots ++ names).map fun n => ⟨n, Tree.step p n, t.found (Tree.step p n)⟩

/-- The listings of a directory and, if they are asked for, of those below it. -/
def listings (t : Tree) (o : Options) (path : String) (p : Place) : Nat → List (String × List String)
  | 0 => []
  | fuel + 1 =>
    let below :=
      if o.has 'R' then
        (sortedEntries o (entriesIn t o p)).flatMap fun e =>
          if isDirectory e.found && e.name ≠ "." && e.name ≠ ".." then
            listings t o (joinPath path e.name) e.place fuel
          else []
      else []
    (path, listing t o true (entriesIn t o p)) :: below

/-- Lists files. -/
def ls : Utility := fun name args => do
  let o ← getOptions name
    { plain := ['1', 'a', 'A', 'b', 'B', 'c', 'C', 'd', 'f', 'F', 'g', 'G', 'h', 'H', 'i', 'k', 'l', 'L', 'm', 'n',
        'N', 'o', 'p', 'q', 'Q', 'r', 'R', 's', 'S', 't', 'u', 'U', 'v', 'x', 'X', 'Z']
      argued := ['I', 'T', 'w']
      maybeArgued := ['K']
      long := [("all", 'a'), ("almost-all", 'A'), ("directory", 'd'), ("classify", 'F'), ("recursive", 'R'),
        ("reverse", 'r'), ("size", 's'), ("quote-name", 'Q'), ("color", 'K'), ("human-readable", 'h')] } 2 args
  let paths := if o.operands.isEmpty then ["."] else o.operands
  let known ← paths.mapM fun path => do
    match ← standing path with
    | .ok (p, found) => return some (⟨path, p, found⟩ : Entry)
    | .error e =>
      printErr s!"{name}: cannot access '{path}': {reason e}\n"
      return none
  let t ← tree
  let entries := known.filterMap id
  let single := entries.filter fun e => o.has 'd' || !isDirectory e.found
  let folders := sortedEntries { o with given := o.given.filter fun x => x.1 ≠ 'S' }
    (entries.filter fun e => !o.has 'd' && isDirectory e.found)
  let files := listing t o false single
  let blocks := folders.flatMap fun e => listings t o e.name e.place 100
  let showsNames := 1 < paths.length || o.has 'R'
  let shownBlocks := blocks.zipIdx.flatMap fun (block, i) =>
    let gap := if i = 0 && single.isEmpty then [] else [""]
    (if showsNames then gap ++ [block.1 ++ ":"] else []) ++ block.2
  emitText name (String.join ((files ++ shownBlocks).map (· ++ "\n")))
  return if known.any Option.isNone then 2 else 0

/-! ## Paths -/

/-- Tells the directory. -/
def pwd : Utility := fun name args => do
  let o ← getOptions name { plain := ['L', 'P'], long := [("logical", 'L'), ("physical", 'P')] } 1 args
  if !o.operands.isEmpty then printErr s!"{name}: ignoring non-option arguments\n"
  emitText name ((← tree).pathOf (← here) ++ "\n")
  return 0

/-- A name without an ending, unless it is nothing else. -/
def withoutEnding (ending s : String) : String :=
  if s ≠ ending && Text.endsWith s ending then String.ofList (s.toList.take (s.length - ending.length)) else s

/-- Shows the last parts of paths. -/
def basename : Utility := fun name args => do
  let o ← getOptions name
    { plain := ['a', 'z'], argued := ['s'], long := [("multiple", 'a'), ("suffix", 's'), ("zero", 'z')]
      stopsAtOperand := true } 1 args
  let ending := if o.has 'z' then "\x00" else "\n"
  match o.operands, o.has 'a' || o.has 's' with
  | [], _ => missingOperand name "operand"
  | paths, true =>
    emitText name (String.join (paths.map fun p => withoutEnding ((o.value? 's').getD "") (baseName p) ++ ending))
    return 0
  | [path], false =>
    emitText name (baseName path ++ ending)
    return 0
  | [path, last], false =>
    emitText name (withoutEnding last (baseName path) ++ ending)
    return 0
  | _ :: _ :: extra :: _, false => complain s!"{name}: extra operand '{extra}'\n{tryHelp name}" 1

/-- Shows the directories that paths are in. -/
def dirname : Utility := fun name args => do
  let o ← getOptions name { plain := ['z'], long := [("zero", 'z')] } 1 args
  if o.operands.isEmpty then missingOperand name "operand"
  else
    let ending := if o.has 'z' then "\x00" else "\n"
    emitText name (String.join (o.operands.map fun p => directoryName p ++ ending))
    return 0

/-- The full path of a file, which may be missing if the directory it is in is there. -/
def fullPath (mustExist : Bool) (path : String) : Process (Except FileError String) := do
  match ← placeOf (withoutSlashes path) with
  | .error e => return .error e
  | .ok p =>
    let t ← tree
    match t.found p, mustExist with
    | .nothing, true => return .error .notFound
    | _, _ => return .ok (t.pathOf p)

/-- Shows full paths. -/
def realpath : Utility := fun name args => do
  let o ← getOptions name
    { plain := ['e', 'm', 'L', 'P', 'q', 's', 'z'], argued := ['r']
      long := [("canonicalize-existing", 'e'), ("canonicalize-missing", 'm'), ("relative-to", 'r'), ("quiet", 'q'),
        ("no-symlinks", 's')] } 1 args
  if o.operands.isEmpty then missingOperand name "operand"
  else
    forArguments o.operands fun path => do
      match ← fullPath (o.has 'e') path with
      | .ok full =>
        emitText name (full ++ "\n")
        return 0
      | .error e => if o.has 'q' then return 1 else complain (s!"{name}: {path}: {reason e}") 1

/-- Shows where links lead; without links, only full paths. -/
def readlink : Utility := fun name args => do
  let o ← getOptions name
    { plain := ['e', 'f', 'm', 'n', 'q', 's', 'v', 'z']
      long := [("canonicalize", 'f'), ("no-newline", 'n'), ("quiet", 'q')] } 1 args
  if o.operands.isEmpty then missingOperand name "operand"
  else if o.has 'f' || o.has 'e' || o.has 'm' then
    forArguments o.operands fun path => do
      match ← fullPath (o.has 'e') path with
      | .ok full =>
        emitText name (full ++ if o.has 'n' then "" else "\n")
        return 0
      | .error _ => return 1
  else return 1

end Autoformat.Rehearsal.Shell
