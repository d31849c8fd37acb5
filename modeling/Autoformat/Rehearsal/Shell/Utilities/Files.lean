import Autoformat.Rehearsal.Shell.Options

/-!
# Programs that make and remove files

`touch`, `mkdir`, `rmdir`, `rm`, `cp`, `mv`, `ln`, `chmod`, `truncate` and `mktemp`. A link is made as a copy.
-/

namespace Autoformat.Rehearsal.Shell

/-! ## Trees -/

/-- A path without slashes at its end. -/
def withoutSlashes (path : String) : String :=
  let cs := (path.toList.reverse.dropWhile (· = '/')).reverse
  if cs.isEmpty && path ≠ "" then "/" else String.ofList cs

/-- A place and all that lies below it, by the steps from there. -/
def nodesBelow (t : Tree) (p : Place) : List (Steps × Node) :=
  let below (steps : Steps) (nodes : List (Steps × Node)) : List (Steps × Node) :=
    nodes.filterMap fun x => if steps.isPrefixOf x.1 then some (x.1.drop steps.length, x.2) else none
  match p with
  | .inside steps => below steps t.nodes
  | .outside steps => below steps t.system

/-- The place some steps below another one. -/
def placeBelow (p : Place) (steps : Steps) : Place :=
  match p with
  | .inside above => .inside (above ++ steps)
  | .outside above => .outside (above ++ steps)

/-- A place lies below another one, or is the same. -/
def isBelow (p above : Place) : Bool :=
  match p, above with
  | .inside a, .inside b => b.isPrefixOf a
  | .outside a, .outside b => b.isPrefixOf a
  | _, _ => false

/-- Nodes are put below a place. -/
def putBelow (t : Tree) (p : Place) (nodes : List (Steps × Node)) : Tree :=
  (nodes.mergeSort fun a b => a.1.length ≤ b.1.length).foldl (fun t x => t.put (placeBelow p x.1) x.2) t

/-- What stands at the end of a path, with its place. -/
def standing (path : String) : Process (Except FileError (Place × Found)) := do
  match ← placeOf path with
  | .error e => return .error e
  | .ok p =>
    match (← tree).found p with
    | .nothing => return .error .notFound
    | found => return .ok (p, found)

/-- What was found is a directory. -/
def isDirectory : Found → Bool
  | .directory => true
  | _ => false

/-- There is something at the end of a path already. -/
def fileExists : FileError := .refused "File exists" 17

/-- A directory is not empty. -/
def notEmpty : FileError := .refused "Directory not empty" 39

/-! ## Making -/

/-- Makes empty files. -/
def touch : Utility := fun name args => do
  let o ← getOptions name
    { plain := ['a', 'c', 'f', 'h', 'm'], argued := ['d', 'r', 't', 'D']
      long := [("no-create", 'c'), ("date", 'd'), ("reference", 'r'), ("time", 'D')] } 1 args
  if o.operands.isEmpty then missingOperand name "file operand"
  else
    forArguments o.operands fun path => do
      let wrong (e : FileError) : Process Nat := complain s!"{name}: cannot touch '{path}': {reason e}" 1
      match ← placeOf path with
      | .error e => if e = .notFound && o.has 'c' then return 0 else wrong e
      | .ok p =>
        let t ← tree
        match t.found p with
        | .nothing =>
          if o.has 'c' then return 0
          else
            match t.write p .empty with
            | .ok t =>
              setTree t
              return 0
            | .error e => wrong e
        | _ => return 0

/-- Makes one directory. -/
def makeDirectory (path : String) : Process (Except FileError Unit) := do
  match ← placeOf (withoutSlashes path) with
  | .error e => return .error e
  | .ok p =>
    let t ← tree
    match t.found p with
    | .nothing =>
      setTree (t.put p .directory)
      return .ok ()
    | _ => return .error fileExists

/-- The paths of a directory and of those above it, the first step first. -/
def pathsAbove (path : String) : List String :=
  let parts := (withoutSlashes path).splitOn "/"
  let paths := (List.range parts.length).map fun i => "/".intercalate (parts.take (i + 1))
  paths.filter (· ≠ "")

/-- Makes directories. -/
def mkdir : Utility := fun name args => do
  let o ← getOptions name
    { plain := ['p', 'v', 'Z'], argued := ['m']
      long := [("parents", 'p'), ("verbose", 'v'), ("mode", 'm')] } 1 args
  if o.operands.isEmpty then missingOperand name "operand"
  else
    forArguments o.operands fun path => do
      let tell (path : String) : Process Unit := do
        if o.has 'v' then emitText name s!"{name}: created directory '{path}'\n"
      let wrong (path : String) (e : FileError) : Process Nat :=
        complain s!"{name}: cannot create directory '{path}': {reason e}" 1
      if o.has 'p' then parents tell wrong path (pathsAbove path)
      else
        match ← makeDirectory path with
        | .ok () =>
          tell path
          return 0
        | .error e => wrong path e
where
  /-- Makes the directories of some paths that are not there. -/
  parents (tell : String → Process Unit) (wrong : String → FileError → Process Nat) (goal : String) :
      List String → Process Nat
    | [] => return 0
    | path :: rest => do
      match ← makeDirectory path with
      | .ok () =>
        tell path
        parents tell wrong goal rest
      | .error e =>
        if isDirectory (← foundAt path) then parents tell wrong goal rest
        else if e = fileExists && !rest.isEmpty then wrong path .notADirectory
        else wrong path e

/-! ## Removing -/

/-- Removes one empty directory. -/
def removeDirectory (path : String) : Process (Except FileError Unit) := do
  match ← standing (withoutSlashes path) with
  | .error e => return .error e
  | .ok (p, found) =>
    let t ← tree
    if !isDirectory found then return .error .notADirectory
    else if !(t.namesIn p).isEmpty then return .error notEmpty
    else
      setTree (t.remove p)
      return .ok ()

/-- Removes empty directories. -/
def rmdir : Utility := fun name args => do
  let o ← getOptions name
    { plain := ['p', 'v', 'I'], long := [("ignore-fail-on-non-empty", 'I'), ("parents", 'p'), ("verbose", 'v')] } 1 args
  if o.operands.isEmpty then missingOperand name "operand"
  else
    forArguments o.operands fun path =>
      removeAll name o (if o.has 'p' then (pathsAbove path).reverse else [path])
where
  /-- Removes directories one after the other. -/
  removeAll (name : String) (o : Options) : List String → Process Nat
    | [] => return 0
    | path :: rest => do
      if o.has 'v' then emitText name s!"{name}: removing directory, '{path}'\n"
      match ← removeDirectory path with
      | .ok () => removeAll name o rest
      | .error e =>
        if e = notEmpty && o.has 'I' then return 0
        else complain s!"{name}: failed to remove '{path}': {reason e}" 1

/-- The paths below a directory and its own, the deepest first, and whether each is a directory. -/
def pathsBelow (t : Tree) (p : Place) (path : String) : Nat → List (String × Bool)
  | 0 => []
  | fuel + 1 =>
    match t.found p with
    | .directory =>
      ((t.sortedNames p).flatMap fun name =>
        pathsBelow t (Tree.step p name) (joinPath path name) fuel) ++ [(path, true)]
    | _ => [(path, false)]

/-- Removes files. -/
def rm : Utility := fun name args => do
  let o ← getOptions name
    { plain := ['d', 'f', 'i', 'I', 'r', 'R', 'v']
      long := [("dir", 'd'), ("force", 'f'), ("interactive", 'i'), ("recursive", 'r'), ("verbose", 'v')] } 1 args
  if o.operands.isEmpty then if o.has 'f' then return 0 else missingOperand name "operand"
  else
    forArguments o.operands fun path => do
      let isRecursive := o.has 'r' || o.has 'R'
      let last := baseName path
      let wrong (e : FileError) : Process Nat := complain s!"{name}: cannot remove '{path}': {reason e}" 1
      if isRecursive && (last = "." || last = "..") then
        complain s!"{name}: refusing to remove '.' or '..' directory: skipping '{path}'" 1
      else
        match ← standing path with
        | .error e => if o.has 'f' && (e = .notFound || e = .notADirectory) then return 0 else wrong e
        | .ok (p, found) =>
          let t ← tree
          let isFolder := isDirectory found
          if isFolder && !isRecursive && !o.has 'd' then wrong .isADirectory
          else if isFolder && !isRecursive && !(t.namesIn p).isEmpty then wrong notEmpty
          else if o.last? ['f', 'i'] = some 'i' then ask name path p found
          else
            setTree (t.remove p)
            if o.has 'v' then
              for (path, isFolder) in pathsBelow t p path 200 do
                let what := if isFolder then "directory " else ""
                emitText name s!"removed {what}'{path}'\n"
            return 0
where
  /-- Removes a file if the answer that is read agrees. -/
  ask (name path : String) (p : Place) (found : Found) : Process Nat := do
    let kind :=
      match found with
      | .directory => "directory"
      | .file content _ => if content.isEmpty then "regular empty file" else "regular file"
      | _ => "character special file"
    printErr s!"{name}: remove {kind} '{path}'? "
    let answer ← takeFrom 0 fun content offset =>
      let line := (content.extract offset content.size).data.toList.takeWhile (· ≠ 10)
      (line, offset + line.length + 1)
    match answer with
    | .ok (121 :: _) => setTree ((← tree).remove p)
    | .ok (89 :: _) => setTree ((← tree).remove p)
    | _ => pure ()
    return 0

/-! ## Copying and moving -/

/-- The kind of a copy: `cp` or `mv`. -/
structure Transfer where
  name : String
  moves : Bool
  options : Options

/-- The target of a transfer is told. -/
def Transfer.tell (x : Transfer) (source target : String) : Process Unit := do
  if x.options.has 'v' then
    let how := if x.moves then "renamed " else ""
    emitText x.name s!"{how}'{source}' -> '{target}'\n"

/-- Copies a file or a directory with what is in it. -/
def copyNodes (t : Tree) (source target : Place) (keepsMode : Bool) : Except FileError Tree := do
  match t.found source, t.found target with
  | .directory, .directory => pure (putBelow t target ((nodesBelow t source).filter fun x => !x.1.isEmpty))
  | .directory, _ => pure (putBelow (t.put target .directory) target (nodesBelow t source))
  | .file content executable, found =>
    t.requireWritable target
    match found with
    | .file _ old => pure (t.put target (.file content (if keepsMode then executable else old)))
    | .device _ => t.write target content
    | _ => pure (t.put target (.file content executable))
  | _, _ => t.write target .empty

/-- Transfers a file to exactly this path. -/
def Transfer.one (x : Transfer) (source target : String) : Process Nat := do
  let o := x.options
  let say (s : String) : Process Nat := complain s!"{x.name}: {s}" 1
  let isRecursive := o.has 'r' || o.has 'R' || o.has 'a'
  match ← standing source with
  | .error e => say s!"cannot stat '{source}': {reason e}"
  | .ok (p, found) =>
    let isFolder := isDirectory found
    if isFolder && !x.moves && !isRecursive then say s!"-r not specified; omitting directory '{source}'"
    else
      match ← placeOf (if isFolder then withoutSlashes target else target) with
      | .error e =>
        if x.moves then say s!"cannot move '{source}' to '{target}': {reason (atEnd target e)}"
        else if e = .notADirectory && !target.endsWith "/" then say s!"cannot stat '{target}': {reason e}"
        else
          let kind := if isFolder then "directory" else "regular file"
          say s!"cannot create {kind} '{target}': {reason (atEnd target e)}"
      | .ok q =>
        let t ← tree
        let there := t.found q
        let isThere : Bool :=
          match there with
          | .nothing => false
          | _ => true
        if p = q then say s!"'{source}' and '{target}' are the same file"
        else if isFolder && isBelow q p then
          if x.moves then say s!"cannot move '{source}' to a subdirectory of itself, '{target}'"
          else
            match copyNodes t p q false with
            | .ok t => setTree t
            | .error _ => pure ()
            say s!"cannot copy a directory, '{source}', into itself, '{target}'"
        else if isThere && o.has 'n' then
          if x.moves then say s!"not replacing '{target}'" else return 0
        else if isFolder && isThere && !isDirectory there then
          say s!"cannot overwrite non-directory '{target}' with directory '{source}'"
        else if !isFolder && isDirectory there then
          say s!"cannot overwrite directory '{target}' with non-directory"
        else if x.moves && isFolder && isDirectory there && !(t.namesIn q).isEmpty then
          say s!"cannot overwrite '{target}': Directory not empty"
        else
          let copied :=
            if x.moves then copyNodes (t.remove q) p q true else copyNodes t p q (o.has 'p' || o.has 'a')
          match copied with
          | .error e => say s!"cannot create regular file '{target}': {reason e}"
          | .ok t =>
            setTree (if x.moves then t.remove p else t)
            x.tell source target
            return 0
where
  /-- A path with a slash at its end names no file. -/
  atEnd (target : String) (e : FileError) : FileError :=
    if target.endsWith "/" && e = .notFound then .notADirectory else e

/-- Transfers files. -/
def Transfer.run (x : Transfer) : Process Nat := do
  let o := x.options
  let into (directory source : String) : String := joinPath directory (baseName source)
  match o.value? 't', o.operands with
  | some directory, sources =>
    if sources.isEmpty then missingOperand x.name "file operand"
    else forArguments sources fun source => x.one source (into directory source)
  | none, [] => missingOperand x.name "file operand"
  | none, [a] => complain s!"{x.name}: missing destination file operand after '{a}'\n{tryHelp x.name}" 1
  | none, [source, target] =>
    if isDirectory (← foundAt target) && !o.has 'T' then x.one source (into target source)
    else x.one source target
  | none, operands =>
    let target := operands.getLast?.getD ""
    match ← standing target with
    | .error e => complain s!"{x.name}: target '{target}': {reason e}" 1
    | .ok (_, found) =>
      if isDirectory found then
        forArguments operands.dropLast fun source => x.one source (into target source)
      else complain s!"{x.name}: target '{target}': Not a directory" 1

/-- Copies files. -/
def cp : Utility := fun name args => do
  let o ← getOptions name
    { plain := ['a', 'b', 'd', 'f', 'H', 'i', 'l', 'L', 'n', 'P', 'p', 'r', 'R', 's', 'T', 'u', 'v', 'x']
      argued := ['t', 'S']
      maybeArgued := ['K']
      long := [("archive", 'a'), ("force", 'f'), ("interactive", 'i'), ("no-clobber", 'n'), ("recursive", 'r'),
        ("target-directory", 't'), ("no-target-directory", 'T'), ("update", 'u'), ("verbose", 'v'),
        ("preserve", 'K'), ("parents", 'x')] } 1 args
  if o.has 'n' then
    printErr s!"{name}: warning: behavior of -n is non-portable and may change in future; use --update=none instead\n"
  Transfer.run ⟨name, false, o⟩

/-- Moves files. -/
def mv : Utility := fun name args => do
  let o ← getOptions name
    { plain := ['b', 'f', 'i', 'n', 'T', 'u', 'v']
      argued := ['t', 'S']
      long := [("force", 'f'), ("interactive", 'i'), ("no-clobber", 'n'), ("target-directory", 't'),
        ("no-target-directory", 'T'), ("update", 'u'), ("verbose", 'v')] } 1 args
  Transfer.run ⟨name, true, o⟩

/-- Makes a link. -/
def linkOne (name : String) (o : Options) (source target : String) : Process Nat := do
  let kind := if o.has 's' then "symbolic link" else "hard link"
  let source? ← standing (if o.has 's' then joinPath (directoryName target) source else source)
  match source? with
  | .error e => if o.has 's' then return 0 else complain s!"{name}: failed to access '{source}': {reason e}" 1
  | .ok (p, found) =>
    if isDirectory found && !o.has 's' then
      complain s!"{name}: {source}: hard link not allowed for directory" 1
    else
      match ← placeOf target with
      | .error e => complain s!"{name}: failed to create {kind} '{target}': {reason e}" 1
      | .ok q =>
        let t ← tree
        match t.found q, o.has 'f' with
        | .nothing, _ =>
          setTree ((copyNodes t p q true).toOption.getD t)
          return 0
        | _, true =>
          setTree ((copyNodes (t.remove q) p q true).toOption.getD t)
          return 0
        | _, false => complain s!"{name}: failed to create {kind} '{target}': File exists" 1

/-- Makes links. -/
def ln : Utility := fun name args => do
  let o ← getOptions name
    { plain := ['f', 'i', 'n', 'r', 's', 'T', 'v'], argued := ['t']
      long := [("force", 'f'), ("no-dereference", 'n'), ("relative", 'r'), ("symbolic", 's'), ("verbose", 'v')] } 1 args
  match o.operands with
  | [] => missingOperand name "file operand"
  | [source] => linkOne name o source (baseName source)
  | [source, target] =>
    if isDirectory (← foundAt target) && !o.has 'n' then
      linkOne name o source (joinPath target (baseName source))
    else linkOne name o source target
  | operands =>
    let target := operands.getLast?.getD ""
    if isDirectory (← foundAt target) then
      forArguments operands.dropLast fun source => linkOne name o source (joinPath target (baseName source))
    else complain s!"{name}: target '{target}': Not a directory" 1

/-! ## Rights -/

/-- One change of rights: for whom, how, and which; an x for directories and programs only is apart. -/
structure RightChange where
  who : Nat
  sign : Char
  rights : Nat
  conditional : Bool

/-- Reads changes of rights. -/
def rightChanges? (s : String) : Option (List RightChange) :=
  (s.splitOn ",").mapM fun part =>
    let cs := part.toList
    let who := cs.takeWhile fun c => ['u', 'g', 'o', 'a'].contains c
    match cs.drop who.length with
    | sign :: letters =>
      let known := letters.all fun c => ['r', 'w', 'x', 'X', 's', 't'].contains c
      if !(['+', '-', '='].contains sign && known) then none
      else
        let bits (c : Char) : Nat := if c = 'u' then 448 else if c = 'g' then 56 else if c = 'o' then 7 else 511
        let mask := if who.isEmpty then 511 else who.foldl (fun n c => n ||| bits c) 0
        let right (c : Char) : Nat :=
          if c = 'r' then 292 else if c = 'w' then 146 else if c = 'x' then 73 else 0
        some ⟨mask, sign, letters.foldl (fun n c => n ||| right c) 0, letters.contains 'X'⟩
    | [] => none

/-- The rights after a change. -/
def RightChange.apply (c : RightChange) (isFolder : Bool) (mode : Nat) : Nat :=
  let more := if c.conditional && (isFolder || mode &&& 73 ≠ 0) then 73 else 0
  let bits := (c.rights ||| more) &&& c.who
  let without (a b : Nat) : Nat := a - (a &&& b)
  if c.sign = '+' then mode ||| bits
  else if c.sign = '-' then without mode bits
  else without mode c.who ||| bits

/-- The new rights that a mode gives. -/
def modeOf? (s : String) : Option (Bool → Nat → Nat) :=
  let cs := s.toList
  if !cs.isEmpty && cs.length ≤ 5 && cs.all fun c => '0' ≤ c && c ≤ '7' then
    some fun _ _ => cs.foldl (fun n c => n * 8 + (c.toNat - '0'.toNat)) 0 % 512
  else (rightChanges? s).map fun changes isFolder mode =>
    changes.foldl (fun mode c => c.apply isFolder mode) mode

/-- The rights in letters. -/
def modeText (mode : Nat) : String :=
  let bit (n : Nat) (c : Char) : Char := if mode &&& n ≠ 0 then c else '-'
  String.ofList [bit 256 'r', bit 128 'w', bit 64 'x', bit 32 'r', bit 16 'w', bit 8 'x', bit 4 'r', bit 2 'w',
    bit 1 'x']

/-- A mode as a number of four digits of base eight. -/
def modeDigits (mode : Nat) : String :=
  let ds := Nat.toDigits 8 mode
  String.ofList (List.replicate (4 - ds.length) '0' ++ ds)

/-- Changes the rights of files. -/
def chmod : Utility := fun name args => do
  -- a mode may look like an option
  let isMode (arg : String) : Bool := Text.startsWith arg "-" && (modeOf? arg).isSome
  let mode? := args.find? isMode
  let o ← getOptions name
    { plain := ['c', 'f', 'v', 'R'], argued := ['e']
      long := [("changes", 'c'), ("quiet", 'f'), ("verbose", 'v'), ("recursive", 'R'), ("reference", 'e')] } 1
    (args.filter fun arg => !isMode arg)
  let (mode, paths) : String × List String :=
    match mode? with
    | some m => (m, o.operands)
    | none => (o.operands.headD "", o.operands.drop 1)
  if mode?.isNone && o.operands.isEmpty then missingOperand name "operand"
  else if paths.isEmpty then complain s!"{name}: missing operand after '{mode}'\n{tryHelp name}" 1
  else
    match modeOf? mode with
    | none => complain s!"{name}: invalid mode: '{mode}'\n{tryHelp name}" 1
    | some change =>
      forArguments paths fun path => do
        match ← standing path with
        | .error e => complain s!"{name}: cannot access '{path}': {reason e}" 1
        | .ok (p, _) =>
          let t ← tree
          let places := if o.has 'R' then (nodesBelow t p).map fun x => placeBelow p x.1 else [p]
          for q in places do
            match (← tree).found q with
            | .file content executable =>
              let old := if executable then 493 else 420
              let new := change false old
              setTree ((← tree).put q (.file content (new &&& 73 ≠ 0)))
              if o.has 'v' || (o.has 'c' && old ≠ new) then
                let was := s!"{modeDigits old} ({modeText old})"
                let now := s!"{modeDigits new} ({modeText new})"
                emitText name <|
                  if old = new then s!"mode of '{path}' retained as {now}\n"
                  else s!"mode of '{path}' changed from {was} to {now}\n"
            | _ => pure ()
          return 0

/-! ## Sizes and names -/

/-- The size that a file gets. -/
def newSize (word : String) (old : Nat) : Option Nat :=
  let amount (cs : List Char) : Option Nat := amountOf? (String.ofList cs)
  match word.toList with
  | '+' :: cs => (amount cs).map (old + ·)
  | '-' :: cs => (amount cs).map (old - ·)
  | '<' :: cs => (amount cs).map (min old ·)
  | '>' :: cs => (amount cs).map (max old ·)
  | '/' :: cs => (amount cs).map fun n => old / n * n
  | '%' :: cs => (amount cs).map fun n => (old + n - 1) / n * n
  | cs => amount cs
where
  /-- A number with a unit. -/
  amountOf? (s : String) : Option Nat :=
    let cs := s.toList
    let ds := cs.takeWhile Char.isDigit
    let factor : Option Nat :=
      match String.ofList (cs.drop ds.length) with
      | "" => some 1
      | "k" | "K" => some 1024
      | "M" => some 1048576
      | "KB" => some 1000
      | _ => none
    match digits? (String.ofList ds), factor with
    | some n, some f => some (n * f)
    | _, _ => none

/-- Sets the sizes of files. -/
def truncate : Utility := fun name args => do
  let o ← getOptions name
    { plain := ['c', 'o'], argued := ['s', 'r']
      long := [("no-create", 'c'), ("size", 's'), ("reference", 'r')] } 1 args
  match o.value? 's' with
  | none =>
    complain s!"{name}: you must specify either '--size' or '--reference'\n{tryHelp name}" 1
  | some word =>
    if o.operands.isEmpty then missingOperand name "file operand"
    else if (newSize word 0).isNone then complain s!"{name}: Invalid number: '{word}'" 1
    else
      forArguments o.operands fun path => do
        let old := (← readAt path).toOption
        if old.isNone && o.has 'c' then return 0
        else
          let content := old.getD .empty
          let size := (newSize word content.size).getD 0
          requireSpace size
          let padded := content.extract 0 size ++ ⟨Array.replicate (size - content.size) 0⟩
          match ← writeAt path padded with
          | .ok () => return 0
          | .error e => complain s!"{name}: cannot open '{path}' for writing: {reason e}" 1

/-- Letters in the place of a number. -/
def lettersOf (n : Nat) : Nat → List Char
  | 0 => []
  | count + 1 => Char.ofNat ('a'.toNat + n % 26) :: lettersOf (n / 26 + 7 * count) count

/-- Makes a file with a new name. -/
def mktemp : Utility := fun name args => do
  let o ← getOptions name
    { plain := ['d', 'u', 'q', 't'], argued := ['p'], maybeArgued := ['P']
      long := [("directory", 'd'), ("dry-run", 'u'), ("quiet", 'q'), ("tmpdir", 'P'), ("suffix", 'p')] } 1 args
  let isPlain := !o.operands.isEmpty && !o.has 't' && !o.has 'p' && !o.has 'P'
  let template := o.operands.headD "tmp.XXXXXXXXXX"
  let directory := (o.value? 'p').getD "/tmp"
  let template := if isPlain then template else joinPath directory template
  let cs := template.toList.reverse
  let after := cs.takeWhile (· ≠ 'X')
  let count := ((cs.drop after.length).takeWhile (· = 'X')).length
  if count < 3 then
    let given := o.operands.headD ""
    complain s!"{name}: too few X's in template '{given}'" 1
  else
    let start := (cs.drop (after.length + count)).reverse
    let path := String.ofList (start ++ lettersOf ((← newPid) * 7919) count ++ after.reverse)
    let made ←
      if o.has 'u' then pure (.ok ())
      else if o.has 'd' then makeDirectory path
      else writeAt path .empty
    match made with
    | .ok () =>
      emitText name (path ++ "\n")
      return 0
    | .error e =>
      let what := if o.has 'd' then "directory" else "file"
      complain s!"{name}: failed to create {what} via template '{template}': {reason e}" 1

end Autoformat.Rehearsal.Shell
