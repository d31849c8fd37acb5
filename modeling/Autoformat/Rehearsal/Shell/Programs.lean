import Autoformat.Rehearsal.Shell.Options

/-!
# Finding programs

A program is named by a path, or by a name that is looked for in directories. A file that may be executed
names in its first line the program that runs it; `findImage` follows such lines to a program of the
system.
-/

namespace Autoformat.Rehearsal.Shell

/-- A program of the system with its arguments; the first is its name as it was called. -/
structure Image where
  program : String
  name : String
  args : List String

/-- A file without a known format; shells take it for a script. -/
def notExecutable : FileError := .refused "Exec format error" 8

/-- The program that the first line of a file names, and maybe an argument. -/
def interpreter? (content : ByteArray) : Option (List String) :=
  match (content.extract 0 256).data.toList.map fun b => Char.ofNat b.toNat with
  | '#' :: '!' :: cs =>
    let isBlank (c : Char) : Bool := c = ' ' || c = '\t'
    let line := (cs.takeWhile (· ≠ '\n')).dropWhile isBlank
    let line := (line.reverse.dropWhile isBlank).reverse
    let path := line.takeWhile fun c => !isBlank c
    let argument := (line.drop path.length).dropWhile isBlank
    some (textOfChars path :: if argument.isEmpty then [] else [textOfChars argument])
  | _ => none

/-- The program behind a path. -/
def findImage (t : Tree) (start : Place) (path : String) (args : List String) :
    Nat → Except FileError Image
  | 0 => .error (.refused "Too many levels of symbolic links" 40)
  | depth + 1 => do
    let p ← t.walk start path
    match t.found p with
    | .nothing => throw .notFound
    | .directory => throw .permissionDenied
    | .device _ => throw .permissionDenied
    | .program program => return ⟨program, path, args⟩
    | .file content executable =>
      if !executable then throw .permissionDenied
      match interpreter? content with
      | none => throw notExecutable
      | some [] => throw notExecutable
      | some ("" :: _) => throw notExecutable
      | some (interpreter :: more) => findImage t start interpreter (more ++ path :: args) depth

/-- The directories in which programs are looked for by default. -/
def defaultSearch : String := "/usr/local/sbin:/usr/local/bin:/usr/sbin:/usr/bin:/sbin:/bin"

/-- The paths that a name may stand for. -/
def candidates (search name : String) : List String :=
  (search.splitOn ":").map fun directory => if directory = "" then name else joinPath directory name

/-- A file stands at the end of a path, and may be executed. -/
def isExecutable (t : Tree) (start : Place) (path : String) : Bool :=
  match t.walk start path with
  | .error _ => false
  | .ok p =>
    match t.found p with
    | .program _ => true
    | .file _ executable => executable
    | _ => false

/-- The path of a program that is looked for in directories. -/
def searched? (t : Tree) (start : Place) (search name : String) : Option String :=
  (candidates search name).find? fun path => isExecutable t start path

/-- The program of a name or path. A program that was found by its name keeps that name. -/
def resolve (t : Tree) (start : Place) (search name : String) (args : List String) :
    Except FileError Image := do
  if name.toList.contains '/' then findImage t start name args 6
  else
    match if name = "" then none else searched? t start search name with
    | none => throw .notFound
    | some path =>
      let image ← findImage t start path args 6
      return if image.name = path then { image with name := name } else image

/-- Programs that run scripts of the shell. -/
def isShell (program : String) : Bool := ["sh", "bash", "dash"].contains program

end Autoformat.Rehearsal.Shell
