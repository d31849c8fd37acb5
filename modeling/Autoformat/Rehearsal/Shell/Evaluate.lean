import Autoformat.Rehearsal.Shell.Builtins
import Autoformat.Rehearsal.Shell.Redirect

/-!
# Running commands

`evaluate` runs a command of a script; the commands inside of it are run by the interpreter it is given.
A failure ends the shell when it is told so, unless what becomes of the failure is decided by what stands
around the command.
-/

namespace Autoformat.Rehearsal.Shell

/-- The status of a command becomes the status of the shell. `ends` says that a failure may end the
shell. -/
def finishCommand (self : Interpreter) (ends : Bool) (code : Nat) : Process Nat := do
  modifyShell fun s => { s with status := code }
  if ends && code ≠ 0 && (← theShell).options.contains 'e' then throw (.exit code)
  handleSignals self
  return code

/-! ## Loops -/

/-- How a turn of a loop ended. -/
inductive Turn where
  | done (code : Nat)
  /-- The loop goes on with its next turn. -/
  | skipped
  /-- The loop is left. -/
  | left

/-- A turn of a loop. Only what is meant for this loop ends here. -/
def turn (body : Process Nat) : Process Turn :=
  tryCatch (do return .done (← body)) fun
    | .leave n => if n ≤ 1 then return .left else throw (.leave (n - 1))
    | .next n => if n ≤ 1 then return .skipped else throw (.next (n - 1))
    | stop => throw stop

/-- Runs a body in one loop more. -/
def inLoop (body : Process Nat) : Process Nat := do
  let loops := (← theShell).loops
  modifyShell fun s => { s with loops := loops + 1 }
  andThen body (modifyShell fun s => { s with loops := loops })

/-- The turns of a loop with a condition. -/
def repeatWhile (self : Interpreter) (isTested untilSuccess : Bool) (condition body : Command) :
    Nat → Nat → Process Nat
  | 0, code => return code
  | fuel + 1, code => do
    countStep
    match ← turn (self.run true condition) with
    | .left => return code
    | .skipped => repeatWhile self isTested untilSuccess condition body fuel code
    | .done decision =>
      if (decision = 0) == untilSuccess then return code
      else
        match ← turn (self.run isTested body) with
        | .left => return 0
        | .skipped => repeatWhile self isTested untilSuccess condition body fuel 0
        | .done code => repeatWhile self isTested untilSuccess condition body fuel code

/-- The turns of a loop over words. -/
def repeatEach (self : Interpreter) (isTested : Bool) (name : String) (body : Command) :
    List String → Nat → Process Nat
  | [], code => return code
  | value :: rest, _ => do
    countStep
    setVariable name value
    match ← turn (self.run isTested body) with
    | .left => return 0
    | .skipped => repeatEach self isTested name body rest 0
    | .done code => repeatEach self isTested name body rest code

/-- The body of the first case that a text belongs to. -/
def chosen (self : Interpreter) (text : String) : List (List Word × Command) → Process (Option Command)
  | [] => return none
  | (patterns, body) :: rest => do
    let accepts ← patterns.anyM fun w => do
      return Pattern.accepts (← expandPattern (spawn self) w) text.toList
    if accepts then return some body else chosen self text rest

/-! ## Simple commands -/

/-- The commands that take arguments for assignments. -/
def declaringCommands : List String := ["export", "local", "readonly"]

/-- The words of the arguments of a command that takes them for assignments. -/
def expandAssignments (self : Interpreter) : List Word → Process (List String)
  | [] => return []
  | w :: rest => do
    let words ←
      match assignment? w with
      | some (name, value) => do pure [name ++ "=" ++ (← expandValue (spawn self) value)]
      | none => expandWord (spawn self) w
    return words ++ (← expandAssignments self rest)

/-- The words of a command. -/
def expandCommand (self : Interpreter) : List Word → Process (List String)
  | [] => return []
  | w :: rest => do
    match ← expandWord (spawn self) w with
    | [] => expandCommand self rest
    | name :: more =>
      let declares := declaringCommands.contains name && ((← theShell).functions.lookup name).isNone
      let others ← if declares then expandAssignments self rest else expandWords (spawn self) rest
      return name :: more ++ others

/-- The words without a `command` in front of them, when there was one. -/
def withoutCommand (words : List String) : Option (List String) :=
  match words with
  | "command" :: rest => strip rest
  | _ => none
where
  /-- The words after options. -/
  strip : List String → Option (List String)
    | [] => none
    | "-p" :: rest => strip rest
    | "--" :: rest => if rest.isEmpty then none else some rest
    | "command" :: rest => strip rest
    | word :: rest => if Text.startsWith word "-" then none else some (word :: rest)

/-- Does assignments one after the other. -/
def assignAll (self : Interpreter) (exports : Bool) :
    List (String × Word) → Process (List (String × String))
  | [] => return []
  | (name, w) :: rest => do
    let value ← expandValue (spawn self) w
    setVariable name value
    if exports then
      modifyShell fun s => s.withVariable name { s.variableNamed name with isExported := true }
    return (name, value) :: (← assignAll self exports rest)

/-- Writes what is run, when the shell is told so, to where standard error led before. -/
def trace (streams : List (Nat × Nat)) (assigned : List (String × String)) (words : List String) :
    Process Unit := do
  let s ← theShell
  if s.options.contains 'x' then
    let shown := " ".intercalate (assigned.map (fun (name, value) => name ++ "=" ++ value) ++ words)
    modifyShell fun s => { s with streams := streams }
    printErr (((s.value? "PS4").getD "+ ") ++ shown ++ "\n")
    modifyShell fun t => { t with streams := s.streams }

/-- Runs a command of the shell. A mistake in a special one ends the shell. -/
def callBuiltin (name : String) (isSpecial : Bool) (run : Builtin) (args : List String) : Process Nat := do
  let outer := (← theShell).builtin
  modifyShell fun s => { s with builtin := some name }
  andThen
    (tryCatch (do
      let r ← run args
      match ← writeTo 1 r.output with
      | .ok () => return r.status
      | .error _ =>
        warn (name ++ ": I/O error")
        return r.status ||| 1) fun
      | .mistake => if isSpecial then throw .mistake else return 2
      | stop => throw stop)
    (modifyShell fun s => { s with builtin := outer })

/-- Runs a function. -/
def callFunction (self : Interpreter) (isTested : Bool) (body : Command) (args : List String) :
    Process Nat := do
  let s ← theShell
  if 1000 ≤ s.depth then failWith "Maximum function recursion depth (1000) reached"
  modifyShell fun s =>
    { s.withArguments args with depth := s.depth + 1, loops := 0, hidden := [] :: s.hidden }
  andThen
    (tryCatch (self.run isTested body) fun
      | .back code => return code
      | stop => throw stop)
    (modifyShell fun t =>
      let t := (t.hidden.headD []).foldl Session.withEarlier t
      { t with
        args := s.args
        depth := s.depth
        loops := s.loops
        hidden := t.hidden.drop 1
        optionIndex := s.optionIndex
        optionOffset := s.optionOffset })

/-- The reason for which a program is not found in any directory. -/
def missingProgram (t : Tree) (s : Session) (search name : String) : String :=
  let isThere (path : String) : Bool :=
    match t.walk s.here path with
    | .error _ => false
    | .ok p =>
      match t.found p with
      | .nothing => false
      | _ => true
  if (candidates search name).any isThere then "Permission denied" else "not found"

/-- Runs a program beside the shell. -/
def callProgram (self : Interpreter) (name : String) (args : List String) : Process Nat := do
  let s ← theShell
  let t ← tree
  let search := (s.value? "PATH").getD ""
  if name.toList.contains '/' || (name ≠ "" && (searched? t s.here search name).isSome) then
    let e ← runBeside do
      match ← self.exec (name :: args) with
      | .ok code => return code
      | .error e =>
        let (text, code) := programFault e
        warn s!"{name}: {text}"
        return code
    e.status
  else
    warn (name ++ ": " ++ missingProgram t s search name)
    return 127

/-- Runs a body with assignments that hold only for it. -/
def withAssignments (self : Interpreter) (assignments : List (String × Word))
    (body : List (String × String) → Process Nat) : Process Nat := do
  if assignments.isEmpty then body []
  else
    let s ← theShell
    let earlier := assignments.map fun x => (x.1, s.bindings.lookup x.1)
    andThen (do body (← assignAll self true assignments))
      (modifyShell fun t => earlier.foldl Session.withEarlier t)

/-- Runs a simple command. -/
def runSimple (self : Interpreter) (isTested : Bool) (line : Nat) (assignments : List (String × Word))
    (words : List Word) (redirects : List (Redirect Word)) : Process Nat := do
  countStep
  modifyShell fun s => { s with line := line, outputStatus := 0 }
  let shown ← expandCommand self words
  let plans ← planAll (spawn self) redirects
  let streams := (← theShell).streams
  let bare := withoutCommand shown
  match bare.getD shown with
  | [] =>
    redirected plans (pure 2) do
      let assigned ← assignAll self false assignments
      trace streams assigned []
      return (← theShell).outputStatus
  | name :: args =>
    let isSpecial := bare.isNone && specialCommands.contains name
    let failed : Process Nat := if isSpecial then throw .mistake else pure 2
    let functions := (← theShell).functions
    match if isSpecial || bare.isSome then none else functions.lookup name, builtin? self isTested name with
    | some body, _ =>
      redirected plans failed <| withAssignments self assignments fun assigned => do
        trace streams assigned shown
        callFunction self isTested body args
    | none, some run =>
      let call (assigned : List (String × String)) : Process Nat := do
        trace streams assigned shown
        callBuiltin name isSpecial run args
      if name = "exec" && args.isEmpty then
        if ← redirectAll plans then call (← assignAll self true assignments) else failed
      else if isSpecial then
        redirected plans failed do call (← assignAll self (name = "exec") assignments)
      else redirected plans failed (withAssignments self assignments call)
    | none, none =>
      redirected plans failed <| withAssignments self assignments fun assigned => do
        trace streams assigned shown
        callProgram self name args

/-! ## Commands -/

/-- Runs a command. -/
def evaluate (self : Interpreter) (isTested : Bool) (c : Command) : Process Nat := do
  handleSignals self
  let atLine (line : Nat) : Process Unit := modifyShell fun s => { s with line := line }
  if (← theShell).options.contains 'n' then return 0
  match c with
  | .nothing => finishCommand self false 0
  | .simple line assignments words redirects =>
    finishCommand self (!isTested) (← runSimple self isTested line assignments words redirects)
  | .sequence a b =>
    let _ ← self.run isTested a
    self.run isTested b
  | .both a b =>
    let code ← self.run true a
    if code = 0 then self.run isTested b else return code
  | .either a b =>
    let code ← self.run true a
    if code = 0 then return code else self.run isTested b
  | .negation a =>
    let code ← self.run true a
    finishCommand self false (if code = 0 then 1 else 0)
  | .pipeline commands =>
    let start := (← get).elapsed
    let streams := (← theShell).streams
    let code ← andThen (runPipeline self isTested start start commands)
      (modifyShell fun s => { s with streams := streams })
    finishCommand self (!isTested) code
  | .background body =>
    startJob body
    finishCommand self false 0
  | .subshell line body redirects =>
    atLine line
    let plans ← planAll (spawn self) redirects
    let e ← runBeside (asShell self do
      if ← redirectAll plans then self.run isTested body else throw .mistake)
    finishCommand self (!isTested) (← e.status)
  | .redirected line body redirects =>
    atLine line
    let plans ← planAll (spawn self) redirects
    finishCommand self false (← redirected plans (pure 2) (self.run isTested body))
  | .branch condition yes no =>
    if (← self.run true condition) = 0 then self.run isTested yes else self.run isTested no
  | .each line name words body =>
    atLine line
    let values ← expandWords (spawn self) words
    finishCommand self false (← inLoop (repeatEach self isTested name body values 0))
  | .loop untilSuccess condition body =>
    finishCommand self false
      (← inLoop (repeatWhile self isTested untilSuccess condition body 1000000 0))
  | .choice line word cases =>
    atLine line
    match ← chosen self (← expandText (spawn self) word) cases with
    | some body => self.run isTested body
    | none => finishCommand self false 0
  | .define name body =>
    modifyShell fun s =>
      { s with functions := (name, body) :: s.functions.filter fun x => x.1 ≠ name }
    finishCommand self false 0

/-- Runs what is left of a script, after a command with a status. -/
def runScript (self : Interpreter) (isTested : Bool) : Nat → Source → Nat → Process Nat
  | 0, _, code => return code
  | fuel + 1, source, code => do
    match nextCommand { source with documents := (← get).documents } with
    | .error fault =>
      modifyShell fun s => { s with line := fault.line }
      failWith fault.message
    | .ok (next, source) =>
      modify fun m => { m with documents := source.documents }
      match next with
      | none => return code
      | some .nothing => runScript self isTested fuel source code
      | some c =>
        let code ← self.run isTested c
        runScript self isTested fuel source code

/-- Runs a text as a script. -/
def runText (self : Interpreter) (isTested : Bool) (text : String) : Process Nat :=
  runScript self isTested (text.length + 2) (.ofText text) 0

end Autoformat.Rehearsal.Shell
