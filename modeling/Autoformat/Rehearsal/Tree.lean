import Autoformat.Error

/-!
# Files in memory

A `Tree` holds the files and directories below one directory, named by the steps that lead to them. A
path is walked from a directory of the tree, or from the root of the system, of which only a few places
are known, besides what was put there. Walking asks of every step but the last that it is a directory.
-/

namespace Autoformat.Rehearsal

/-- What stands at a place of a tree. -/
inductive Node where
  | directory
  | file (content : ByteArray) (executable : Bool)

/-- The steps from the top of a tree, or from the root of the system. -/
abbrev Steps := List String

/-- Where a path leads. -/
inductive Place where
  /-- To a place of the tree. -/
  | inside (steps : Steps)
  /-- To a place of the system. -/
  | outside (steps : Steps)
  deriving DecidableEq, Repr

/-- A file of the system that is none. -/
inductive Device where
  /-- Swallows what is written to it. -/
  | null
  /-- Gives zeros without an end. -/
  | zero
  /-- Has no room for what is written to it. -/
  | full
  /-- A stream of the process that asks. -/
  | stream (n : Nat)
  deriving DecidableEq, Repr

/-- What is found at a place. -/
inductive Found where
  | nothing
  | directory
  | file (content : ByteArray) (executable : Bool)
  | device (d : Device)
  /-- A program of the system. -/
  | program (name : String)

/-- Files and directories below one directory. -/
structure Tree where
  /-- How the top of the tree is written in a path. -/
  top : String
  nodes : List (Steps × Node)
  /-- What was put at places of the system. -/
  system : List (Steps × Node) := []

/-- The programs of the system. -/
def programs : List String :=
  ["[", "basename", "bash", "cat", "chmod", "cmp", "comm", "cp", "cut", "dash", "diff", "dirname",
    "echo", "egrep", "env", "expand", "expr", "false", "fgrep", "find", "fold", "git", "grep", "head",
    "kill", "ln", "ls", "mkdir", "mktemp", "mv", "nl", "paste", "printenv", "printf", "pwd",
    "readlink", "realpath", "rev", "rm", "rmdir", "sed", "seq", "sh", "sleep", "sort", "tac", "tail", "tee",
    "test", "timeout", "touch", "tr", "true", "truncate", "uniq", "wc", "which", "xargs", "yes"]

/-- The directories of the system. -/
def systemDirectories : List Steps :=
  [[], ["bin"], ["dev"], ["dev", "fd"], ["etc"], ["home"], ["proc"], ["root"], ["tmp"], ["usr"],
    ["usr", "bin"], ["usr", "local"], ["usr", "local", "bin"], ["var"]]

/-- The devices of the system. -/
def devices : List (Steps × Device) := [
  (["dev", "null"], .null), (["dev", "zero"], .zero), (["dev", "full"], .full),
  (["dev", "stdin"], .stream 0), (["dev", "stdout"], .stream 1), (["dev", "stderr"], .stream 2),
  (["dev", "fd", "0"], .stream 0), (["dev", "fd", "1"], .stream 1), (["dev", "fd", "2"], .stream 2)]

/-- What stands at a place of the system. -/
def foundOutside (steps : Steps) : Found :=
  if systemDirectories.contains steps then .directory
  else
    match devices.lookup steps, steps with
    | some d, _ => .device d
    | none, ["bin", name] => if programs.contains name then .program name else .nothing
    | none, ["usr", "bin", name] => if programs.contains name then .program name else .nothing
    | none, _ => .nothing

/-- The parts of a path between slashes. -/
def splitPath (path : List Char) : List String :=
  let (part, parts) := path.foldr
    (fun c (acc : List Char × List String) =>
      if c = '/' then ([], String.ofList acc.1 :: acc.2) else (c :: acc.1, acc.2))
    ([], [])
  String.ofList part :: parts

namespace Tree

/-- A tree with one empty directory. -/
def withDirectory (top name : String) : Tree := ⟨top, [([name], .directory)], []⟩

/-- What was put at a place. -/
def node? (t : Tree) : Place → Option Node
  | .inside steps => t.nodes.lookup steps
  | .outside steps => t.system.lookup steps

/-- What stands at a place. -/
def found (t : Tree) (p : Place) : Found :=
  match p, t.node? p with
  | _, some .directory => .directory
  | _, some (.file content executable) => .file content executable
  | .inside [], none => .directory
  | .inside _, none => .nothing
  | .outside steps, none => foundOutside steps

/-- A place has to be a directory. -/
def requireDirectory (t : Tree) (p : Place) : Except FileError Unit :=
  match t.found p with
  | .directory => .ok ()
  | .nothing => .error .notFound
  | _ => .error .notADirectory

/-- One step from a place. -/
def step (p : Place) (name : String) : Place :=
  if name = "" ∨ name = "." then p
  else if name = ".." then
    match p with
    | .inside [] => .outside []
    | .inside steps => .inside steps.dropLast
    | .outside steps => .outside steps.dropLast
  else
    match p with
    | .inside steps => .inside (steps ++ [name])
    | .outside steps => .outside (steps ++ [name])

/-- Steps from a place, each from a directory. A name has at most 255 bytes. -/
def walkSteps (t : Tree) : Place → List String → Except FileError Place
  | p, [] => .ok p
  | p, name :: rest => do
    t.requireDirectory p
    if 255 < name.utf8ByteSize then throw .nameTooLong
    t.walkSteps (step p name) rest

/-- The place to which a path leads. A path has less than 4096 bytes. -/
def walk (t : Tree) (here : Place) (path : String) : Except FileError Place :=
  let cs := path.toList
  let top := t.top.toList
  if path = "" then .error .notFound
  else if 4095 < path.utf8ByteSize then .error .nameTooLong
  else if cs = top then .ok (.inside [])
  else if (top ++ ['/']).isPrefixOf cs then
    t.walkSteps (.inside []) (splitPath (cs.drop (top.length + 1)))
  else if ['/'].isPrefixOf cs then t.walkSteps (.outside []) (splitPath (cs.drop 1))
  else t.walkSteps here (splitPath cs)

/-- How a place is written as a path. -/
def pathOf (t : Tree) : Place → String
  | .inside steps => "/".intercalate (t.top :: steps)
  | .outside steps => "/" ++ "/".intercalate steps

/-- A node is put at a place. -/
def put (t : Tree) (p : Place) (node : Node) : Tree :=
  match p with
  | .inside steps => { t with nodes := (steps, node) :: t.nodes.filter fun x => x.1 ≠ steps }
  | .outside steps => { t with system := (steps, node) :: t.system.filter fun x => x.1 ≠ steps }

/-- A place and all that lies below it is taken away. -/
def remove (t : Tree) (p : Place) : Tree :=
  match p with
  | .inside steps => { t with nodes := t.nodes.filter fun x => !steps.isPrefixOf x.1 }
  | .outside steps => { t with system := t.system.filter fun x => !steps.isPrefixOf x.1 }

/-- A directory is made with the directories above it. -/
def makeDirectories (t : Tree) (steps : Steps) : Tree :=
  (List.range steps.length).foldl
    (fun (t : Tree) n =>
      let above : Place := .inside (steps.take (n + 1))
      match t.node? above with
      | none => t.put above .directory
      | some _ => t)
    t

/-- A file is put with the directories above it. -/
def addFile (t : Tree) (steps : Steps) (content : ByteArray) (executable : Bool) : Tree :=
  (t.makeDirectories steps.dropLast).put (.inside steps) (.file content executable)

/-- The content of a file. -/
def read (t : Tree) (p : Place) : Except FileError ByteArray :=
  match t.found p with
  | .file content _ => .ok content
  | .device _ => .ok .empty
  | .program _ => .ok .empty
  | .directory => .error .isADirectory
  | .nothing => .error .notFound

/-- A file can be opened for writing. -/
def requireWritable (t : Tree) (p : Place) : Except FileError Unit :=
  match t.found p with
  | .directory => .error .isADirectory
  | .program _ => .error (.refused "Text file busy" 26)
  | _ => .ok ()

/-- A file with the given content; an existing file stays executable. -/
def write (t : Tree) (p : Place) (content : ByteArray) : Except FileError Tree := do
  t.requireWritable p
  match t.found p with
  | .device .full => if content.isEmpty then pure t else throw .noSpace
  | .device _ => pure t
  | .file _ executable => pure (t.put p (.file content executable))
  | _ => pure (t.put p (.file content false))

/-- The text of a file, as the bot reads it. -/
def readText (t : Tree) (here : Place) (path : String) : Except FileError String := do
  let content ← t.read (← t.walk here path)
  match String.fromUTF8? content with
  | some text => .ok text
  | none => .error .invalidText

/-- The file at the end of a path, opened so that bytes can be put at its end; it is made when there is
none. -/
def openAtEnd (t : Tree) (here : Place) (path : String) : Except FileError (Place × Tree) := do
  let p ← t.walk here path
  t.requireWritable p
  match t.found p with
  | .nothing => return (p, ← t.write p .empty)
  | _ => return (p, t)

/-- Bytes are put at the end of a file. -/
def append (t : Tree) (p : Place) (bytes : ByteArray) : Except FileError Tree := do
  t.write p ((← t.read p) ++ bytes)

/-- The files below a directory of the tree, by their paths from there. -/
def filesBelow (t : Tree) (steps : Steps) : List (String × ByteArray) :=
  t.nodes.filterMap fun
    | (path, .file content _) =>
      if steps.isPrefixOf path then some ("/".intercalate (path.drop steps.length), content) else none
    | _ => none

/-- The names in a directory, among places. -/
def namesAmong (steps : Steps) (nodes : List (Steps × Node)) : List String :=
  nodes.filterMap fun x =>
    match x.1.getLast? with
    | some name => if x.1.dropLast = steps then some name else none
    | none => none

/-- The names in a directory. -/
def namesIn (t : Tree) : Place → List String
  | .inside steps => namesAmong steps t.nodes
  | .outside steps =>
    let known := systemDirectories ++ devices.map Prod.fst
    let names := known.filterMap fun path =>
      match path.getLast? with
      | some name => if path.dropLast = steps then some name else none
      | none => none
    let tools := if steps = ["bin"] || steps = ["usr", "bin"] then programs else []
    (namesAmong steps t.system ++ names ++ tools).eraseDups

/-- The names in a directory, by their bytes. -/
def sortedNames (t : Tree) (p : Place) : List String :=
  (t.namesIn p).mergeSort fun a b => decide (¬Utf8.Before b a)

end Tree

end Autoformat.Rehearsal
