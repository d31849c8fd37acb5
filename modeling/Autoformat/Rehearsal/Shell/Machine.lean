import Autoformat.Rehearsal.Shell.Syntax
import Autoformat.Rehearsal.World

/-!
# A running command

`Machine` is the state of a command that runs in a rehearsed world: the shell that is running, the files it
has opened, what was written, and how far its time has gone. A `Process` changes the machine and may end
at any point: by exiting, by a signal, or because its time is over or the run is cancelled.
-/

namespace Autoformat.Rehearsal.Shell

/-- A variable of a shell. -/
structure Variable where
  value : Option String
  /-- Programs get the variable too. -/
  isExported : Bool := false
  isReadOnly : Bool := false
  deriving DecidableEq, Repr

/-- Where an open file leads. -/
inductive Target where
  /-- To a buffer of the machine. -/
  | buffer (n : Nat)
  | file (p : Place)
  | device (d : Device)
  deriving DecidableEq, Repr

/-- An open file. -/
structure Opened where
  target : Target
  /-- How far it has been read or written. -/
  offset : Nat := 0
  reads : Bool := false
  writes : Bool := false
  /-- What is written goes to the end. -/
  appends : Bool := false
  deriving DecidableEq, Repr

/-- What a shell knows while it runs. -/
structure Session where
  here : Place
  /-- The name of the script. -/
  zero : String := "sh"
  args : List String := []
  bindings : List (String × Variable) := []
  functions : List (String × Command) := []
  status : Nat := 0
  /-- The status of the last command whose output a word took. -/
  outputStatus : Nat := 0
  /-- The letters of the options that are set. -/
  options : List Char := []
  /-- What is done on a signal, or at the end. -/
  traps : List (String × String) := []
  /-- The open files, by the numbers of the streams. -/
  streams : List (Nat × Nat) := []
  /-- The number of the process. -/
  pid : Nat
  /-- The number of the shell that began the script. -/
  root : Nat
  /-- The line of the command that runs. -/
  line : Nat := 0
  /-- The command of the shell that runs. -/
  builtin : Option String := none
  /-- The last command that was not waited for. -/
  lastJob : Option Nat := none
  /-- How many functions run inside of each other. -/
  depth : Nat := 0
  /-- How many loops run inside of each other. -/
  loops : Nat := 0
  umask : Nat := 18
  /-- The argument that is read for options next. -/
  optionIndex : Nat := 1
  /-- How far options in one word have been read, if some are left in it. -/
  optionOffset : Option Nat := none
  /-- The variables that functions have hidden. -/
  hidden : List (List (String × Option Variable)) := []
  aliases : List (String × String) := []
  /-- The status that the shell ends with, once it is about to. -/
  finalStatus : Option Nat := none

/-- How a process ended. -/
inductive Ending where
  | exited (code : Nat)
  | killed (signal : Nat)
  deriving DecidableEq, Repr

/-- A command that was not waited for. -/
structure Job where
  pid : Nat
  /-- The process that started it. -/
  parent : Nat
  shell : Session
  command : Command
  /-- The time when it was started. -/
  start : Nat
  /-- How and when it ended, if it has. -/
  ended : Option (Ending × Nat) := none
  /-- The job is what runs, or has started what runs. -/
  isRunning : Bool := false

/-- The state of a running command. -/
structure Machine where
  world : World
  shell : Session
  opened : Array Opened := #[]
  /-- What commands have written. -/
  buffers : Array ByteArray := #[]
  /-- The documents of the scripts that were read. -/
  documents : Array Word := #[]
  /-- The time that has gone, in milliseconds. -/
  elapsed : Nat := 0
  /-- The time limit in seconds; zero sets none. -/
  limit : UInt64 := 0
  /-- The steps so far. -/
  steps : Nat := 0
  /-- The number of the next process. -/
  nextPid : Nat := 3
  /-- Signals on their way, with the processes they are for. -/
  signals : List (Nat × Nat) := []
  jobs : Array Job := #[]
  /-- The time at which a command that is not waited for has to end. -/
  deadline : Option Nat := none

/-- Why a command ends before its last step. -/
inductive Stop where
  /-- The shell ends. -/
  | exit (code : Nat)
  /-- The shell ends because of a mistake. -/
  | mistake
  /-- Loops end. -/
  | leave (loops : Nat)
  /-- A loop goes on with its next turn. -/
  | next (loops : Nat)
  /-- A function or a file of commands ends. -/
  | back (code : Nat)
  | killed (signal : Nat)
  /-- A command that is not waited for ends at the time of a signal. -/
  | cut
  | timedOut
  | interrupted
  deriving DecidableEq, Repr

/-- A part of a running command. -/
abbrev Process (α : Type) := ExceptT Stop (StateM Machine) α

/-- What commands that run other commands need. -/
structure Interpreter where
  /-- Runs a command. The failure of a command that is tested does not end the shell. -/
  run : (isTested : Bool) → Command → Process Nat
  /-- Runs a text as a script. -/
  text : (isTested : Bool) → String → Process Nat
  /-- Runs a program, named by the first of some words, in the place of the process. -/
  exec : List String → Process (Except FileError Nat)

/-- The file tree. -/
def tree : Process Tree := do return (← get).world.tree

/-- Changes the file tree. -/
def setTree (t : Tree) : Process Unit := modify fun m => { m with world.tree := t }

/-- The shell that is running. -/
def theShell : Process Session := do return (← get).shell

/-- The directory of the shell. -/
def here : Process Place := do return (← get).shell.here

/-- Changes the shell. -/
def modifyShell (f : Session → Session) : Process Unit := modify fun m => { m with shell := f m.shell }

/-- Counts a step. A command that takes too many of them runs out of time. -/
def countStep : Process Unit := do
  let m ← get
  if 400000 < m.steps then throw .timedOut
  set { m with steps := m.steps + 1 }

/-- Makes sure that there is space for so many bytes. A command that needs too many of them runs out of
time. -/
def requireSpace (bytes : Nat) : Process Unit :=
  if 0x4000000 < bytes then throw .timedOut else return ()

/-! ## Open files -/

/-- Opens a file. -/
def openFile (o : Opened) : Process Nat := do
  let n := (← get).opened.size
  modify fun m => { m with opened := m.opened.push o }
  return n

/-- The open file of a stream. -/
def openedAt? (stream : Nat) : Process (Option (Nat × Opened)) := do
  let m ← get
  return (m.shell.streams.lookup stream).bind fun n => (m.opened[n]?).map fun o => (n, o)

/-- Changes what a stream leads to. -/
def setStream (stream : Nat) (opened : Option Nat) : Process Unit :=
  modifyShell fun s =>
    let others := s.streams.filter fun x => x.1 ≠ stream
    { s with
      streams :=
        match opened with
        | some n => (stream, n) :: others
        | none => others }

/-- Bytes in the place of those of a content from an offset on; a gap is filled with zeros. -/
def overwritten (content : ByteArray) (offset : Nat) (bs : ByteArray) : ByteArray :=
  if offset = content.size then content ++ bs
  else
    let gap : ByteArray := ⟨Array.replicate (offset - content.size) 0⟩
    content.extract 0 offset ++ gap ++ bs ++ content.extract (offset + bs.size) content.size

/-- A stream that is not open for what is done with it. -/
def badStream : FileError := .refused "Bad file descriptor" 9

/-- Writes to a stream. -/
def writeTo (stream : Nat) (bs : ByteArray) : Process (Except FileError Unit) := do
  if bs.isEmpty then return .ok ()
  match ← openedAt? stream with
  | none => return .error badStream
  | some (n, o) =>
    if !o.writes then return .error badStream
    else
      match o.target with
      | .device .full => return .error .noSpace
      | .device _ => return .ok ()
      | .buffer b =>
        requireSpace (((← get).buffers.getD b .empty).size + bs.size)
        modify fun m => { m with buffers := m.buffers.modify b (· ++ bs) }
        return .ok ()
      | .file p =>
        let t ← tree
        match t.found p with
        | .file content executable =>
          let offset := if o.appends then content.size else o.offset
          requireSpace (offset + bs.size)
          modify fun m =>
            { m with
              world.tree := t.put p (.file (overwritten content offset bs) executable)
              opened := m.opened.setIfInBounds n { o with offset := offset + bs.size } }
          return .ok ()
        | _ => return .ok ()

/-- The content behind an open file. -/
def contentOf (o : Opened) : Process (Except FileError ByteArray) := do
  let m ← get
  match o.target with
  | .buffer b => return .ok (m.buffers.getD b .empty)
  | .device _ => return .ok .empty
  | .file p =>
    match m.world.tree.found p with
    | .file content _ => return .ok content
    | .directory => return .error .isADirectory
    | _ => return .ok .empty

/-- Reads from a stream: a function gets the content and how far it was read, and gives what it makes of
it and how far it is read then. -/
def takeFrom {α : Type} (stream : Nat) (f : ByteArray → Nat → α × Nat) :
    Process (Except FileError α) := do
  match ← openedAt? stream with
  | none => return .error badStream
  | some (n, o) =>
    if !o.reads then return .error badStream
    else
      match ← contentOf o with
      | .error e => return .error e
      | .ok content =>
        let (a, offset) := f content o.offset
        modify fun m => { m with opened := m.opened.setIfInBounds n { o with offset := offset } }
        return .ok a

/-- All that is left to read at standard input. -/
def readInput : Process (Except FileError ByteArray) :=
  takeFrom 0 fun content offset => (content.extract offset content.size, content.size)

/-- Standard input never ends. -/
def isEndless : Process Bool := do
  match ← openedAt? 0 with
  | some (_, o) => return o.target = .device .zero
  | none => return false

/-- Writes a text to standard error. -/
def printErr (s : String) : Process Unit := do
  let _ ← writeTo 2 s.toUTF8

/-- Writes a complaint and fails. -/
def complain (s : String) (code : Nat) : Process Nat := do
  printErr (s ++ "\n")
  return code

/-- What is wrong with a file, in the words of the utilities. -/
def reason : FileError → String
  | .invalidText | .nulInName => "Invalid argument"
  | .refused reason _ => reason

/-! ## Time, signals and processes -/

/-- Waits. A run that is cancelled or out of time ends here. -/
def waitFor (milliseconds : Nat) : Process Unit := do
  let m ← get
  if m.world.isCancelled then throw .interrupted
  let elapsed := m.elapsed + milliseconds
  if m.deadline.any (· < elapsed) then throw .cut
  if m.limit ≠ 0 && (m.world.clockRuns || m.limit.toNat * 1000 < elapsed) then throw .timedOut
  set { m with elapsed := elapsed }

/-- The signals by their numbers. -/
def signalNames : List String :=
  ["EXIT", "HUP", "INT", "QUIT", "ILL", "TRAP", "ABRT", "BUS", "FPE", "KILL", "USR1", "SEGV", "USR2", "PIPE",
    "ALRM", "TERM", "STKFLT", "CHLD", "CONT", "STOP", "TSTP", "TTIN", "TTOU", "URG", "XCPU", "XFSZ", "VTALRM",
    "PROF", "WINCH", "IO", "PWR", "SYS"]

/-- The name of a signal. -/
def signalName (n : Nat) : String := (signalNames[n]?).getD (toString n)

/-- The number that a text of digits stands for. -/
def digits? (s : String) : Option Nat :=
  if s.toList.all Char.isDigit then s.toNat? else none

/-- The number of a signal, by its name or number. -/
def signal? (s : String) : Option Nat :=
  let name := s.map Char.toUpper
  match digits? s with
  | some n => if n < 65 then some n else none
  | none => signalNames.findIdx? (· = name)

/-- What is said about a process that a signal has ended. -/
def signalText (n : Nat) : String :=
  match signalName n with
  | "HUP" => "Hangup"
  | "QUIT" => "Quit"
  | "ILL" => "Illegal instruction"
  | "TRAP" => "Trace/breakpoint trap"
  | "ABRT" => "Aborted"
  | "BUS" => "Bus error"
  | "FPE" => "Floating point exception"
  | "KILL" => "Killed"
  | "USR1" => "User defined signal 1"
  | "SEGV" => "Segmentation fault"
  | "USR2" => "User defined signal 2"
  | "ALRM" => "Alarm clock"
  | "TERM" => "Terminated"
  | "STKFLT" => "Stack fault"
  | "XCPU" => "CPU time limit exceeded"
  | "XFSZ" => "File size limit exceeded"
  | "VTALRM" => "Virtual timer expired"
  | "PROF" => "Profiling timer expired"
  | "IO" => "I/O possible"
  | "PWR" => "Power failure"
  | "SYS" => "Bad system call"
  | _ => ""

/-- Signals that do nothing to a process that does not expect them. -/
def isHarmless (n : Nat) : Bool := ["CHLD", "CONT", "URG", "WINCH"].contains (signalName n)

/-- What a shell does on a signal. -/
def Session.trap? (s : Session) (n : Nat) : Option String := s.traps.lookup (signalName n)

/-- The signals that have come for the running shell. -/
def takeSignals : Process (List Nat) := do
  let m ← get
  let mine := m.signals.filter fun x => x.1 = m.shell.pid
  set { m with signals := m.signals.filter fun x => x.1 ≠ m.shell.pid }
  return mine.map Prod.snd

/-- Sends a signal to a process. The running shell ends at once, unless it has something else to do. -/
def sendSignal (pid signal : Nat) : Process Unit := do
  let s ← theShell
  if signal = 0 || isHarmless signal then pure ()
  else if pid = s.pid && (signal = 9 || (s.trap? signal).isNone) then throw (.killed signal)
  else modify fun m => { m with signals := m.signals ++ [(pid, signal)] }

/-- The number of a new process. -/
def newPid : Process Nat := do
  let n := (← get).nextPid
  modify fun m => { m with nextPid := n + 1 }
  return n

/-- Runs a body to the end of its process. -/
def ending (body : Process Nat) : Process Ending :=
  tryCatch (do return .exited (← body)) fun
    | .exit code => return .exited code
    | .mistake => return .exited 2
    | .back code => return .exited code
    | .leave _ | .next _ => return .exited 0
    | .killed signal => return .killed signal
    | stop => throw stop

/-- Does something after a body, however it ends. -/
def andThen {α : Type} (body : Process α) (after : Process Unit) : Process α := do
  let a ← tryCatch body fun stop => do
    after
    throw stop
  after
  return a

/-- Runs a body as a process with a state of its own. -/
def inProcess (s : Session) (body : Process Nat) : Process Ending := do
  let outer ← theShell
  modifyShell fun _ => s
  andThen (ending body) (modifyShell fun _ => outer)

/-- The status of a process that was waited for, about whose end is told. -/
def Ending.status (e : Ending) : Process Nat := do
  match e with
  | .exited code => return code
  | .killed signal =>
    let text := signalText signal
    if text ≠ "" then printErr (text ++ "\n")
    return 128 + signal

/-- The state of a shell that is like another one and runs beside it. -/
def Session.beside (s : Session) (pid : Nat) : Session :=
  { s with pid := pid, traps := s.traps.filter fun x => x.2 = "", finalStatus := none }

/-- A new buffer. -/
def newBuffer (content : ByteArray) : Process Nat := do
  let b := (← get).buffers.size
  modify fun m => { m with buffers := m.buffers.push content }
  return b

/-- Takes what was written to a buffer. -/
def emptyBuffer (b : Nat) : Process ByteArray := do
  let written := (← get).buffers.getD b .empty
  modify fun m => { m with buffers := m.buffers.setIfInBounds b .empty }
  return written

end Autoformat.Rehearsal.Shell
