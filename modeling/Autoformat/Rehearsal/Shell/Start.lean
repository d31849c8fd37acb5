import Autoformat.Rehearsal.Shell.Evaluate
import Autoformat.Rehearsal.Shell.Programs
import Autoformat.Rehearsal.Shell.Utilities

/-!
# Starting programs

A program takes the place of a process: it keeps the open files and the variables that are meant for
programs. `interpreter` ties what runs commands to what they run.
-/

namespace Autoformat.Rehearsal.Shell

/-- The state of a process when a program takes its place. -/
def Session.asProgram (s : Session) : Session :=
  { here := s.here
    bindings := s.bindings.filter fun x => x.2.isExported && x.2.value.isSome
    traps := s.traps.filter fun x => x.2 = ""
    streams := s.streams
    pid := s.pid
    root := s.pid
    umask := s.umask }

/-! ## Shells -/

/-- The options of a shell that starts, the arguments after them, and whether the first of these is the
script. -/
def startOptions (hasText : Bool) : List String → Process (Bool × List String)
  | [] => return (hasText, [])
  | word :: rest =>
    match word.toList with
    | ['-'] => return (hasText, rest)
    | ['-', '-'] => return (hasText, rest)
    | sign :: letters => do
      if sign = '-' || sign = '+' then
        let isOn := sign = '-'
        setLetters isOn (letters.filter fun c => c ≠ 'c' && c ≠ 'o' && c ≠ 'l')
        let hasText := hasText || letters.contains 'c'
        if letters.contains 'o' then
          match rest with
          | [] => return (hasText, [])
          | name :: rest =>
            setNamed isOn name
            startOptions hasText rest
        else startOptions hasText rest
      else return (hasText, word :: rest)
    | [] => return (hasText, word :: rest)

/-- The text of a script in a file. -/
def scriptText (path : String) : Process String := do
  let t ← tree
  match t.walk (← here) path with
  | .error e => failWith s!"cannot open {path}: {commandFile.noFile e}"
  | .ok p =>
    match t.found p with
    | .nothing => failWith s!"cannot open {path}: No such file"
    | _ => return Utf8.decodeLossy ((t.read p).toOption.getD .empty)

/-- Runs a shell. -/
def startShell (self : Interpreter) (name : String) (args : List String) : Process Nat := do
  modifyShell fun s => { s with zero := name }
  let (hasText, args) ← startOptions false args
  modifyShell fun s => s.withVariable "OPTIND" ⟨some "1", false, false⟩
  let readsInput := !hasText && ((← theShell).options.contains 's' || args.isEmpty)
  if readsInput then
    modifyShell fun s =>
      { s with args := args, options := if s.options.contains 's' then s.options else 's' :: s.options }
    match ← readInput with
    | .ok content => self.text false (Utf8.decodeLossy content)
    | .error _ => return 0
  else
    match hasText, args with
    | true, [] => failWith "-c requires an argument"
    | true, [text] => self.text false text
    | true, text :: zero :: args =>
      modifyShell fun s => { s with zero := zero, args := args }
      self.text false text
    | false, [] => return 0
    | false, path :: args =>
      let text ← scriptText path
      modifyShell fun s => { s with zero := path, args := args }
      self.text false text

/-! ## Programs -/

/-- Runs git, which gives the next of its answers. -/
def runGit (args : List String) : Process Nat := do
  let directory := (← tree).pathOf (← here)
  let (reply, world) := (← get).world.runGit args directory
  modify fun m => { m with world := world }
  let _ ← writeTo 1 reply.stdout
  let _ ← writeTo 2 reply.stderr
  return reply.code.toNat

/-- Runs a program of the system. -/
def runImage (self : Interpreter) (image : Image) : Process Nat := do
  countStep
  modifyShell Session.asProgram
  if isShell image.program then asShell self (startShell self image.name image.args)
  else if image.program = "git" then runGit image.args
  else
    match utility? self image.program with
    | some run => run image.name image.args
    | none => return 0

/-- The directories in which a process looks for programs. -/
def Session.search (s : Session) : String :=
  match s.bindings.lookup "PATH" with
  | some v => v.value.getD ""
  | none => defaultSearch

/-- Runs a program in the place of the process. A file without a known format is taken for a script. -/
def execute (self : Interpreter) (words : List String) : Process (Except FileError Nat) := do
  match words with
  | [] => return .error .notFound
  | name :: args =>
    let s ← theShell
    let t ← tree
    match resolve t s.here s.search name args with
    | .ok image => return .ok (← runImage self image)
    | .error e =>
      if e = notExecutable then
        let path := if name.toList.contains '/' then name else (searched? t s.here s.search name).getD name
        return .ok (← runImage self ⟨"sh", "sh", path :: args⟩)
      else return .error e

/-- Runs commands that stand at most this deep inside of each other. -/
def interpreter : Nat → Interpreter
  | 0 =>
    { run := fun _ _ => throw .timedOut
      text := fun _ _ => throw .timedOut
      exec := fun _ => throw .timedOut }
  | depth + 1 =>
    { run := fun isTested c => evaluate (interpreter depth) isTested c
      text := fun isTested s => runText (interpreter depth) isTested s
      exec := fun words => execute (interpreter depth) words }

end Autoformat.Rehearsal.Shell
