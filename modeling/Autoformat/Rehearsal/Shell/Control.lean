import Autoformat.Rehearsal.Shell.Grammar
import Autoformat.Rehearsal.Shell.Jobs
import Autoformat.Rehearsal.Shell.Programs
import Autoformat.Rehearsal.Shell.Variables

/-!
# Commands that control the shell

The commands of the shell that leave loops, functions and the shell itself, run texts and files as
scripts, handle signals and processes, and change the directory.
-/

namespace Autoformat.Rehearsal.Shell

/-! ## Leaving -/

/-- How many loops an argument tells to leave; not more than there are. -/
def loopCount (args : List String) : Process Nat := do
  let arg := args.headD "1"
  let n ← numberOf arg
  if n = 0 then failWith ("Illegal number: " ++ arg)
  return min n (← theShell).loops

/-- Leaves loops. -/
def leaveLoops : Builtin := fun args => do
  let n ← loopCount args
  if n = 0 then return {} else throw (.leave n)

/-- Goes on with the next turn of a loop. -/
def continueLoops : Builtin := fun args => do
  let n ← loopCount args
  if n = 0 then return {} else throw (.next n)

/-- Leaves a function or a file of commands. -/
def leaveFunction : Builtin := fun args => do
  match args with
  | [] => throw (.back (← theShell).status)
  | arg :: _ => throw (.back (← numberOf arg))

/-- Ends the shell. -/
def leaveShell : Builtin := fun args => do
  let s ← theShell
  match args with
  | [] => throw (.exit (s.finalStatus.getD s.status))
  | arg :: _ => throw (.exit (← numberOf arg))

/-! ## Scripts -/

/-- Runs its arguments as a script. -/
def runArguments (self : Interpreter) (isTested : Bool) : Builtin := fun args => do
  return { status := ← self.text isTested (" ".intercalate args) }

/-- The content of a file of commands. A name without a slash is looked for in directories. -/
def commandFile (name : String) : Process (String × ByteArray) := do
  let t ← tree
  let s ← theShell
  let isFile (path : String) : Bool :=
    match t.walk s.here path with
    | .ok p =>
      match t.found p with
      | .file .. => true
      | _ => false
    | .error _ => false
  let path ←
    if name.toList.contains '/' then pure name
    else
      match (candidates ((s.value? "PATH").getD "") name).find? isFile with
      | some path => pure path
      | none => failWith (name ++ ": not found")
  match t.walk s.here path with
  | .error e => failWith s!"cannot open {path}: {noFile e}"
  | .ok p =>
    match t.found p with
    | .file content _ => return (path, content)
    | .nothing => failWith s!"cannot open {path}: No such file"
    | _ => return (path, .empty)
where
  /-- The reason for which a file cannot be opened. -/
  noFile (e : FileError) : String :=
    match e with
    | .refused _ 2 => "No such file"
    | .refused _ 20 => "No such file"
    | e => reason e

/-- Runs the commands of a file in this shell. -/
def runFile (self : Interpreter) : Builtin := fun args => do
  match args with
  | [] => return {}
  | name :: _ =>
    let (path, content) ← commandFile name
    modifyShell fun s => { s with builtin := some path }
    let code ← tryCatch (self.text false (Utf8.decodeLossy content)) fun
      | .back code => return code
      | stop => throw stop
    return { status := code }

/-- The wording for a program that cannot be run, and the status for it. -/
def programFault (e : FileError) : String × Nat :=
  match e with
  | .refused _ 2 => ("not found", 127)
  | .refused _ 20 => ("not found", 127)
  | .refused reason 40 => (reason, 127)
  | .refused reason 36 => (reason, 127)
  | e => (reason e, 126)

/-- Runs a program in the place of the shell. -/
def becomeProgram (self : Interpreter) : Builtin := fun args => do
  match args with
  | [] => return {}
  | name :: _ =>
    match ← self.exec args with
    | .ok code => throw (.exit code)
    | .error e =>
      let (text, code) := programFault e
      warn s!"{name}: {text}"
      throw (.exit code)

/-! ## Signals and processes -/

/-- Says what is done on a signal, or shows what is. -/
def setTraps : Builtin := fun args => do
  let (_, args) ← optionsOf [] [] args
  match args with
  | [] =>
    let s ← theShell
    let shown := (List.range 65).filterMap fun n => (s.trap? n).map fun action =>
      s!"trap -- {singleQuoted action} {signalName n}"
    return .ofLines shown
  | first :: rest =>
    let isAction := !rest.isEmpty && (digits? first).isNone
    let signals := if isAction then rest else args
    setAll (if isAction && first ≠ "-" then some first else none) signals
where
  /-- Sets what is done on signals. -/
  setAll (action : Option String) : List String → Process Reply
    | [] => return {}
    | name :: rest => do
      match signal? name with
      | none =>
        printErr s!"trap: {name}: bad trap\n"
        return { status := 1 }
      | some n =>
        let key := signalName n
        modifyShell fun s =>
          { s with traps := (s.traps.filter fun x => x.1 ≠ key) ++ (action.map fun a => (key, a)).toList }
        setAll action rest

/-- The job that an argument names. -/
def jobNamed (arg : String) : Process (Option Nat) := do
  match arg.toList with
  | '%' :: cs =>
    let s ← theShell
    let mine := ((← get).jobs.toList.zipIdx.filter fun x => x.1.parent = s.pid).map Prod.snd
    let found : Option Nat :=
      match cs with
      | [] => mine.getLast?
      | ['%'] => mine.getLast?
      | ['+'] => mine.getLast?
      | ['-'] => mine.dropLast.getLast?
      | cs => (digits? (String.ofList cs)).bind fun n => if n = 0 then none else mine[n - 1]?
    match found with
    | some i => return some i
    | none => failWith ("No such job: " ++ arg)
  | _ => jobOf? (← numberOf arg)

/-- Waits for processes. -/
def waitForJobs (self : Interpreter) : Builtin := fun args => do
  let (_, args) ← optionsOf [] [] args
  let s ← theShell
  if args.isEmpty then
    let mine := (← get).jobs.toList.zipIdx.filter fun x => x.1.parent = s.pid
    for (_, i) in mine do
      let _ ← waitForJob self i
    return {}
  else
    let code ← args.foldlM (fun _ arg => do
      match ← jobNamed arg with
      | none => return 127
      | some i => (← waitForJob self i).status) 0
    return { status := code }

/-- How `kill` is used. -/
def killUsage : String :=
  "Usage: kill [-s sigspec | -signum | -sigspec] [pid | job]... or\nkill -l [exitstatus]"

/-- The names of all signals; numbers stand for those without a name. -/
def signalList : List String :=
  let early := (List.range 32).map fun n => if n = 0 || n = 16 then toString n else signalName n
  let upper := (List.range 16).map fun n => if n = 0 then "RTMIN" else s!"RTMIN+{n}"
  let lower := (List.range 15).reverse.map fun n => if n = 0 then "RTMAX" else s!"RTMAX-{n}"
  early ++ ["32", "33"] ++ upper ++ lower

/-- Shows names of signals. -/
def listSignals (args : List String) : Process Reply := do
  match args with
  | [] => return .ofLines signalList
  | arg :: _ =>
    let n ← numberOf arg
    let n := if 128 < n then n - 128 else n
    if 0 < n && n < 65 then return .ofLines [(signalList[n]?).getD ""]
    else failWith ("invalid signal number or exit status: " ++ arg)

/-- Sends a signal to processes. -/
def signalAll (self : Interpreter) (signal : Nat) (targets : List String) : Process Reply :=
  targets.foldlM (fun (r : Reply) target => do
    let isThere ←
      match target.toList with
      | '%' :: _ =>
        let _ ← jobNamed target
        pure false
      | '-' :: cs => signalProcess self (← numberOf (String.ofList cs)) signal
      | _ => signalProcess self (← numberOf target) signal
    if isThere then return r
    else
      warn "No such process\n"
      return { r with status := 1 }) {}

/-- Sends signals, or tells their names. -/
def sendSignals (self : Interpreter) : Builtin := fun args => do
  let plain (signal : Option Nat) (targets : List String) : Process Reply := do
    if targets.isEmpty then failWith killUsage
    signalAll self (signal.getD 15) targets
  match args with
  | [] => failWith killUsage
  | first :: rest =>
    match first.toList with
    | '-' :: cs =>
      match if cs.isEmpty then none else signal? (String.ofList cs) with
      | some signal => plain (some signal) rest
      | none =>
        let (options, operands) ← optionsOf ['l'] ['s'] args
        if options.any fun x => x.1 = 'l' then listSignals operands
        else
          match options.getLast? with
          | none => plain none operands
          | some (_, name) =>
            match signal? name with
            | some signal => plain (some signal) operands
            | none => failWith ("invalid signal number or name: " ++ name)
    | _ => plain none args

/-- Brings a job to the front, where there is none. -/
def noJob : Builtin := fun args =>
  match args with
  | [] => failWith "No current job"
  | arg :: _ => failWith ("No such job: " ++ arg)

/-! ## Directories -/

/-- The place of a path that is read step by step, without a look at what stands there. -/
def logicalPlace (t : Tree) (start : Place) (path : String) : Place :=
  let cs := path.toList
  let top := t.top.toList
  let walk (p : Place) (cs : List Char) : Place := (splitPath cs).foldl Tree.step p
  if cs = top then .inside []
  else if (top ++ ['/']).isPrefixOf cs then walk (.inside []) (cs.drop (top.length + 1))
  else if ['/'].isPrefixOf cs then walk (.outside []) cs
  else walk start cs

/-- Changes the directory. -/
def changeDirectory : Builtin := fun args => do
  let (_, args) ← optionsOf ['L', 'P'] [] args
  let s ← theShell
  let t ← tree
  let goal := args.headD ((s.value? "HOME").getD "")
  let goesBack := goal = "-"
  let goal := if goesBack then (s.value? "OLDPWD").getD "" else goal
  let p := logicalPlace t s.here goal
  match t.found p with
  | .directory =>
    let current := t.pathOf p
    setDirectory "OLDPWD" (t.pathOf s.here)
    setDirectory "PWD" current
    modifyShell fun s => { s with here := p }
    return if goesBack then .ofLines [current] else {}
  | _ => failWith ("can't cd to " ++ goal)
where
  /-- Gives a variable the path of a directory. -/
  setDirectory (name path : String) : Process Unit := do
    setVariable name path
    modifyShell fun s => s.withVariable name { s.variableNamed name with isExported := true }

/-- Tells the directory. -/
def tellDirectory : Builtin := fun args => do
  let _ ← optionsOf ['L', 'P'] [] args
  return .ofLines [(← tree).pathOf (← here)]

/-! ## Limits of the process -/

/-- A number of three or more digits of base eight. -/
def octal (least n : Nat) : String :=
  let ds := Nat.toDigits 8 n
  String.ofList (List.replicate (least - ds.length) '0' ++ ds)

/-- Tells or changes what is taken from the rights of new files. -/
def changeMask : Builtin := fun args => do
  let (options, args) ← optionsOf ['S'] [] args
  let s ← theShell
  match args with
  | [] =>
    if options.isEmpty then return .ofLines [octal 4 s.umask]
    else
      let rights (shift : Nat) : String :=
        let n := s.umask >>> shift
        String.ofList ((if n / 4 % 2 = 0 then ['r'] else []) ++ (if n / 2 % 2 = 0 then ['w'] else []) ++
          if n % 2 = 0 then ['x'] else [])
      return .ofLines [s!"u={rights 6},g={rights 3},o={rights 0}"]
  | arg :: _ =>
    let ds := arg.toList
    if ds.all Char.isDigit then
      if ds.all fun c => c < '8' then
        let n := ds.foldl (fun n c => n * 8 + (c.toNat - '0'.toNat)) 0
        modifyShell fun s => { s with umask := n % 512 }
        return {}
      else failWith ("Illegal number: " ++ arg)
    else return {}

/-! ## What a name means -/

/-- What a name means to the shell. -/
inductive Meaning where
  | keyword
  | alias (text : String)
  | function
  | special
  | builtin
  | program (path : String)
  | unknown

/-- The commands of the shell that may be hidden by functions. -/
def regularCommands : List String :=
  ["[", "alias", "bg", "cd", "chdir", "command", "echo", "false", "fg", "getopts", "hash", "jobs", "kill",
    "printf", "pwd", "read", "test", "true", "type", "ulimit", "umask", "unalias", "wait"]

/-- What a name means. -/
def meaning (name : String) : Process Meaning := do
  let s ← theShell
  let t ← tree
  if keywords.contains name then return .keyword
  else
    match s.aliases.lookup name with
    | some text => return .alias text
    | none =>
      if name.toList.contains '/' then
        match t.walk s.here name with
        | .ok p =>
          match t.found p with
          | .nothing => return .unknown
          | _ => return .program name
        | .error _ => return .unknown
      else if specialCommands.contains name then return .special
      else if (s.functions.lookup name).isSome then return .function
      else if regularCommands.contains name then return .builtin
      else
        match searched? t s.here ((s.value? "PATH").getD "") name with
        | some path => return .program path
        | none => return .unknown

/-- The meaning of a name in words, and a status. -/
def Meaning.described (name : String) : Meaning → String × Nat
  | .keyword => (name ++ " is a shell keyword", 0)
  | .alias text => (name ++ " is an alias for " ++ text, 0)
  | .function => (name ++ " is a shell function", 0)
  | .special => (name ++ " is a special shell builtin", 0)
  | .builtin => (name ++ " is a shell builtin", 0)
  | .program path => (name ++ " is " ++ path, 0)
  | .unknown => (name ++ ": not found", 127)

/-- Tells what names mean. -/
def tellMeanings : Builtin := fun args =>
  args.foldlM (fun (r : Reply) name => do
    let (text, code) := (← meaning name).described name
    return ⟨r.status ||| code, r.output ++ (text ++ "\n").toUTF8⟩) {}

/-- Tells what a name means, shortly or in words. -/
def tellMeaning : Builtin := fun args => do
  let (options, names) ← optionsOf ['p', 'v', 'V'] [] args
  let isShort := options.any fun x => x.1 = 'v'
  let isLong := options.any fun x => x.1 = 'V'
  match names with
  | [] => return {}
  | name :: _ =>
    let m ← meaning name
    let (text, code) := m.described name
    if isLong then return ⟨code, (text ++ "\n").toUTF8⟩
    else if isShort then
      match m with
      | .unknown => return { status := 127 }
      | .program path => return .ofLines [path]
      | .alias text => return .ofLines ["alias " ++ name ++ "=" ++ singleQuoted text]
      | _ => return .ofLines [name]
    else return {}

/-- Looks for programs. -/
def findPrograms : Builtin := fun args => do
  let (_, names) ← optionsOf ['r', 'v'] [] args
  names.foldlM (fun (r : Reply) name => do
    match ← meaning name with
    | .unknown =>
      warn (name ++ ": not found")
      return { r with status := 1 }
    | _ => return r) {}

end Autoformat.Rehearsal.Shell
