import Autoformat.Rehearsal.Shell.Jobs
import Autoformat.Rehearsal.Shell.Programs
import Autoformat.Rehearsal.Shell.Source

/-!
# Programs that run others, and wait

`env`, `printenv`, `which`, `xargs`, `timeout`, `sleep`, `yes` and `kill`.
-/

namespace Autoformat.Rehearsal.Shell

/-- Runs a program beside this one, if it is found. -/
def runChild (self : Interpreter) (words : List String) : Process (Except FileError Ending) := do
  let pid ← newPid
  let outer ← theShell
  modifyShell fun s => s.beside pid
  andThen
    (tryCatch (do
      match ← self.exec words with
      | .ok code => return .ok (.exited code)
      | .error e => return .error e) fun stop => do
      return .ok (← ending (throw stop)))
    (modifyShell fun _ => outer)

/-- The status for a program that cannot be run. -/
def missingStatus (e : FileError) : Nat :=
  match e with
  | .refused _ 2 => 127
  | _ => 126

/-! ## Variables of programs -/

/-- An assignment in an argument. -/
def assignmentIn? (arg : String) : Option (String × String) :=
  let cs := arg.toList
  let name := cs.takeWhile (· ≠ '=')
  if name.length = cs.length || name.isEmpty then none
  else some (String.ofList name, String.ofList (cs.drop (name.length + 1)))

/-- Gives a program a variable. -/
def giveVariable (name value : String) : Process Unit :=
  modifyShell fun s =>
    let v : Variable := ⟨some value, true, false⟩
    if s.bindings.any fun x => x.1 = name then
      { s with bindings := s.bindings.map fun x => if x.1 = name then (name, v) else x }
    else { s with bindings := s.bindings ++ [(name, v)] }

/-- The variables of a program, one a line. -/
def shownEnvironment (ending : String) : Process String := do
  let s ← theShell
  return String.join (s.bindings.filterMap fun x => x.2.value.map fun value => x.1 ++ "=" ++ value ++ ending)

/-- Runs a program with other variables. -/
def env (self : Interpreter) : Utility := fun name args => do
  let args :=
    match args with
    | "-S" :: text :: rest => (text.splitOn " ").filter (· ≠ "") ++ rest
    | args => args
  let o ← getOptions name
    { plain := ['i', '0', 'v'], argued := ['u', 'C', 'S']
      long := [("ignore-environment", 'i'), ("null", '0'), ("unset", 'u'), ("chdir", 'C'), ("split-string", 'S')]
      stopsAtOperand := true } 125 args
  let isMinus := o.operands.head? = some "-"
  let operands := if isMinus then o.operands.drop 1 else o.operands
  if o.has 'i' || isMinus then modifyShell fun s => { s with bindings := [] }
  for key in o.values 'u' do
    modifyShell fun s => { s with bindings := s.bindings.filter fun x => x.1 ≠ key }
  let given := operands.takeWhile fun arg => (assignmentIn? arg).isSome
  for (key, value) in given.filterMap assignmentIn? do
    giveVariable key value
  match o.value? 'C' with
  | none => pure ()
  | some path =>
    match ← placeOf path with
    | .ok p =>
      match (← tree).found p with
      | .directory => modifyShell fun s => { s with here := p }
      | _ =>
        printErr s!"{name}: cannot change directory to '{path}': No such file or directory\n"
        throw (.exit 125)
    | .error e =>
      printErr s!"{name}: cannot change directory to '{path}': {reason e}\n"
      throw (.exit 125)
  match operands.drop given.length with
  | [] =>
    emitText name (← shownEnvironment (if o.has '0' then "\x00" else "\n"))
    return 0
  | program :: rest =>
    match ← self.exec (program :: rest) with
    | .ok code => return code
    | .error e => complain s!"{name}: '{program}': {reason e}" (missingStatus e)

/-- Shows variables. -/
def printenv : Utility := fun name args => do
  if args.isEmpty then
    emitText name (← shownEnvironment "\n")
    return 0
  else
    forArguments args fun key => do
      match ((← theShell).bindings.lookup key).bind Variable.value with
      | some value =>
        emitText name (value ++ "\n")
        return 0
      | none => return 1

/-- The directories in which a program looks for others. -/
def searchPath : Process String := do
  let s ← theShell
  return ((s.bindings.lookup "PATH").bind Variable.value).getD defaultSearch

/-- Shows the paths of programs. -/
def which : Utility := fun name args => do
  let o ← getOptions name { plain := ['a', 's'] } 2 args
  let t ← tree
  let start ← here
  let search ← searchPath
  if o.operands.isEmpty then return 1
  else
    forArguments o.operands fun program => do
      let paths := if program.toList.contains '/' then [program] else candidates search program
      let found := paths.filter (isExecutable t start)
      let shown := if o.has 'a' then found else found.take 1
      emitText name (String.join (shown.map (· ++ "\n")))
      return if found.isEmpty then 1 else 0

/-! ## `xargs` -/

/-- What is read as items. -/
inductive ItemFault where
  | unmatched (kind : String)

/-- The items of a text between blanks, in lines; quotes and backslashes keep blanks. A fault leaves the
items before it. -/
def itemsFrom (lines : List (List String)) (line : List String) (item : Option (List Char)) :
    Nat → List Char → List (List String) × Option ItemFault
  | 0, _ => (lines.reverse, none)
  | _, [] =>
    let line := close item line
    ((if line.isEmpty then lines else line.reverse :: lines).reverse, none)
  | fuel + 1, c :: cs =>
    if c = '\n' then
      let done := close item line
      itemsFrom (if done.isEmpty then lines else done.reverse :: lines) [] none fuel cs
    else if c = ' ' || c = '\t' then itemsFrom lines (close item line) none fuel cs
    else if c = '\'' || c = '"' then
      let inside := cs.takeWhile fun d => d ≠ c && d ≠ '\n'
      match cs.drop inside.length with
      | d :: rest =>
        if d = c then itemsFrom lines line (some (inside.reverse ++ item.getD [])) fuel rest
        else fault lines line c
      | [] => fault lines line c
    else if c = '\\' then
      match cs with
      | d :: rest => itemsFrom lines line (some (d :: item.getD [])) fuel rest
      | [] => itemsFrom lines line (some ('\\' :: item.getD [])) fuel []
    else itemsFrom lines line (some (c :: item.getD [])) fuel cs
where
  /-- The items of a line with the one that ends. -/
  close (item : Option (List Char)) (line : List String) : List String :=
    (item.map fun cs => String.ofList cs.reverse).toList ++ line
  /-- The lines before a quote that is not closed. -/
  fault (lines : List (List String)) (line : List String) (c : Char) : List (List String) × Option ItemFault :=
    ((if line.isEmpty then lines else line.reverse :: lines).reverse,
      some (.unmatched (if c = '"' then "double" else "single")))

/-- Groups of at most so many. -/
def groupsOf {α : Type} (size : Nat) : Nat → List α → List (List α)
  | 0, _ => []
  | _, [] => []
  | fuel + 1, xs => xs.take size :: groupsOf size fuel (xs.drop size)

/-- Runs the commands that `xargs` makes, one after the other. -/
def runAll (self : Interpreter) (name : String) (tells : Bool) (code : Nat) :
    List (List String) → Process Nat
  | [] => return code
  | words :: rest => do
    let program := words.headD ""
    if tells then printErr (" ".intercalate words ++ "\n")
    match ← runChild self words with
    | .error e =>
      printErr s!"{name}: {program}: {reason e}\n"
      return missingStatus e
    | .ok (.killed signal) =>
      printErr s!"{name}: {program}: terminated by signal {signal}\n"
      return 125
    | .ok (.exited 0) => runAll self name tells code rest
    | .ok (.exited status) =>
      if status % 256 = 255 then
        printErr s!"{name}: {program}: exited with status 255; aborting\n"
        return 124
      else runAll self name tells 123 rest

/-- Runs a program with arguments from its input. -/
def xargs (self : Interpreter) : Utility := fun name args => do
  let o ← getOptions name
    { plain := ['0', 'r', 't', 'x', 'p', 'o']
      argued := ['d', 'n', 'I', 'L', 'P', 'a', 'E', 's']
      maybeArgued := ['i', 'l', 'e']
      long := [("null", '0'), ("no-run-if-empty", 'r'), ("verbose", 't'), ("delimiter", 'd'), ("max-args", 'n'),
        ("replace", 'i'), ("max-lines", 'l'), ("max-procs", 'P'), ("arg-file", 'a')]
      stopsAtOperand := true } 1 args
  let source ← match o.value? 'a' with
    | some path => readAt path
    | none => readInput
  match source with
  | .error e => complain s!"{name}: {reason e}" 1
  | .ok content =>
    let cs := (Utf8.decodeLossy content).toList
    let mark := ((o.value? 'I').or (o.value? 'i')).map fun s => if s = "" then "\x7b\x7d" else s
    let between : Option Char :=
      match o.last? ['0', 'd'] with
      | some '0' => some '\x00'
      | some _ =>
        match (o.value? 'd').map String.toList with
        | some ['\\', 'n'] => some '\n'
        | some ['\\', 't'] => some '\t'
        | some ['\\', '0'] => some '\x00'
        | some (c :: _) => some c
        | _ => none
      | none => none
    let (lines, fault) : List (List String) × Option ItemFault :=
      match between, mark with
      | some c, _ =>
        let parts := (String.ofList cs).splitOn c.toString
        let parts := if parts.getLast? = some "" then parts.dropLast else parts
        (parts.map ([·]), none)
      | none, some _ =>
        let rows := (String.ofList cs).splitOn "\n"
        let trimmed := rows.map fun s => String.ofList (s.toList.dropWhile fun c => c = ' ' || c = '\t')
        ((trimmed.filter (· ≠ "")).map ([·]), none)
      | none, none => itemsFrom [] [] none (cs.length + 1) cs
    let command := if o.operands.isEmpty then ["echo"] else o.operands
    let items := lines.flatten
    let number? (c : Char) : Option Nat := ((o.value? c).bind digits?).filter (0 < ·)
    let groups : List (List String) :=
      match mark, number? 'n', number? 'L' with
      | some _, _, _ => items.map ([·])
      | none, some n, _ => groupsOf n (items.length + 1) items
      | none, none, some n => (groupsOf n (lines.length + 1) lines).map List.flatten
      | none, none, none => if items.isEmpty then [] else [items]
    let groups := if groups.isEmpty && !o.has 'r' && mark.isNone && fault.isNone then [[]] else groups
    let commands := groups.map fun group =>
      match mark with
      | some m => command.map fun word => word.replace m (group.headD "")
      | none => command ++ group
    let input ← openFile { target := .device .null, reads := true }
    setStream 0 (some input)
    let code ← runAll self name (o.has 't') 0 commands
    match fault with
    | none => return code
    | some (.unmatched kind) =>
      printErr (s!"{name}: unmatched {kind} quote; by default quotes are special to xargs " ++
        "unless you use the -0 option\n")
      return 1

/-! ## Time -/

/-- A time in milliseconds: a number, maybe with a fraction and a unit. -/
def interval? (s : String) : Option Nat :=
  let cs := s.toList
  let whole := cs.takeWhile Char.isDigit
  let rest := cs.drop whole.length
  let fraction := if rest.head? = some '.' then (rest.drop 1).takeWhile Char.isDigit else []
  let rest := if rest.head? = some '.' then rest.drop (fraction.length + 1) else rest
  let unit : Option Nat :=
    match rest with
    | [] => some 1
    | ['s'] => some 1
    | ['m'] => some 60
    | ['h'] => some 3600
    | ['d'] => some 86400
    | _ => none
  if s = "infinity" || s = "inf" then some 1000000000000
  else if whole.isEmpty && fraction.isEmpty then none
  else
    let number (ds : List Char) : Nat := (digits? (String.ofList ds)).getD 0
    let thousandths := number (fraction.take 3 ++ List.replicate (3 - fraction.length) '0')
    unit.map fun u => (number whole * 1000 + thousandths) * u

/-- Waits. -/
def sleep (self : Interpreter) : Utility := fun name args => do
  let o ← getOptions name {} 1 args
  if o.operands.isEmpty then missingOperand name "operand"
  else
    let wrong := o.operands.filter fun s => (interval? s).isNone
    if wrong.isEmpty then
      pause self ((o.operands.filterMap interval?).foldl (· + ·) 0)
      return 0
    else
      for s in wrong do
        printErr s!"{name}: invalid time interval '{s}'\n"
      complain (tryHelp name) 1

/-- Runs a program for a limited time. -/
def timeout (self : Interpreter) : Utility := fun name args => do
  let o ← getOptions name
    { plain := ['v', 'f', 'p'], argued := ['s', 'k']
      long := [("signal", 's'), ("kill-after", 'k'), ("preserve-status", 'p'), ("foreground", 'f'), ("verbose", 'v')]
      stopsAtOperand := true } 125 args
  match o.operands with
  | [] => complain (tryHelp name) 125
  | [_] => complain (tryHelp name) 125
  | duration :: words =>
    match interval? duration, signal? ((o.value? 's').getD "TERM") with
    | none, _ => complain s!"{name}: invalid time interval '{duration}'\n{tryHelp name}" 125
    | _, none =>
      let given := (o.value? 's').getD ""
      complain s!"{name}: '{given}': invalid signal\n{tryHelp name}" 125
    | some time, some signal =>
      let before ← get
      let finish := before.elapsed + time
      let isShorter := time ≠ 0 && before.deadline.all (finish < ·)
      let isInLimit := before.limit = 0 || finish ≤ before.limit.toNat * 1000
      if isShorter then modify fun m => { m with deadline := some finish }
      let restore : Process Unit := modify fun m => { m with deadline := before.deadline }
      let ended ← andThen
        (tryCatch (do return some (← runChild self words)) fun stop =>
          match stop with
          | .cut => if isShorter then return none else throw .cut
          | .timedOut =>
            if isShorter && isInLimit && !before.world.clockRuns then return none else throw .timedOut
          | stop => throw stop)
        restore
      match ended with
      | some (.ok (.exited code)) => return code
      | some (.ok (.killed signal)) => throw (.killed signal)
      | some (.error e) =>
        let program := words.headD ""
        complain s!"{name}: failed to run command '{program}': {reason e}" (missingStatus e)
      | none =>
        modify fun m => { m with elapsed := finish, steps := before.steps }
        if signalName signal = "KILL" then throw (.killed signal)
        else return if o.has 'p' then 128 + signal else 124

/-! ## Output without an end, and signals -/

/-- Writes a line again and again. Only what may be read of it is made. -/
def yes : Utility := fun name args => do
  let line := (if args.isEmpty then "y" else " ".intercalate args) ++ "\n"
  match ← openedAt? 1 with
  | some (_, o) =>
    match o.target with
    | .buffer n =>
      if n < 2 then throw .timedOut
      else
        let bytes := line.toUTF8
        emit name ((List.range (300000 / bytes.size + 1)).foldl (fun acc _ => acc ++ bytes) .empty)
        return 141
    | _ => throw .timedOut
  | none => complain s!"{name}: standard output: Bad file descriptor" 1

/-- Sends a signal to processes. -/
def killProgram (self : Interpreter) : Utility := fun name args => do
  let (signal, targets) : Option Nat × List String :=
    match args with
    | "-s" :: s :: rest => (signal? s, rest)
    | first :: rest =>
      if Text.startsWith first "-" then (signal? (String.ofList (first.toList.drop 1)), rest) else (some 15, args)
    | [] => (some 15, [])
  match signal with
  | none => complain s!"{name}: invalid signal name or number" 1
  | some signal =>
    forArguments targets fun target => do
      match digits? target with
      | none => complain s!"{name}: failed to parse argument: '{target}'" 1
      | some pid =>
        if ← signalProcess self pid signal then return 0
        else complain s!"{name}: sending signal to {target} failed: No such process" 1

end Autoformat.Rehearsal.Shell
