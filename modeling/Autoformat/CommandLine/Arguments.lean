import Autoformat.CommandLine.Parameter
import Autoformat.Config.Environment

/-!
# Reading a command line

`Invocation.ofArguments` reads the words of a command line. A parameter is set at most once before the
command and at most once after it; the value after the command counts, then the one before it, then the
variable of the environment, then what goes without saying. The words are read from left to right, and
the first that is wrong, or that asks for help or the version, ends the reading.
-/

namespace Autoformat.CommandLine

/-- What is wrong with a command line. -/
inductive Misuse where
  | noCommand
  | unknownCommand (name : String)
  /-- A word that is no parameter here, and no value of one. -/
  | unexpected (word : String)
  /-- A parameter is set twice at one place. -/
  | repeated (p : Parameter)
  /-- A flag with a value. -/
  | valueOfFlag (f : Flag)
  /-- A parameter without its value. -/
  | noValue (p : Parameter)
  | badValue (p : Parameter) (value : String)
  /-- A parameter that the command needs is not set. -/
  | missing (p : Parameter)
  deriving DecidableEq, Repr

/-- The wording of a misuse. -/
def Misuse.message : Misuse → String
  | .noCommand => "a command is required"
  | .unknownCommand name => "unknown command " ++ Text.quoted name
  | .unexpected word => "unexpected argument " ++ Text.quoted word
  | .repeated p => "--" ++ p.name ++ " is set more than once"
  | .valueOfFlag f => "--" ++ f.name ++ " takes no value"
  | .noValue p => "--" ++ p.name ++ " needs a value"
  | .badValue p value => "invalid value " ++ Text.quoted value ++ " for --" ++ p.name
  | .missing p => "--" ++ p.name ++ " is required"

/-- Why a command line is not carried out. -/
inductive Stop where
  | help
  | version
  | misuse (m : Misuse)
  deriving DecidableEq, Repr

/-- What is set at one place of a command line. -/
structure Given where
  flags : List Flag := []
  fields : List (Field × String) := []
  pull : Option UInt64 := none
  verdict : Option Verdict := none
  deriving DecidableEq, Repr

/-- A command with all that it is told. -/
inductive Task where
  | evaluate (event : String)
  | route (pull : UInt64)
  | run (event workdir remote : String) (push mergeBase : Bool)
  | report (sha : String) (verdict : Verdict) (outcome : Option String)
  deriving DecidableEq, Repr

/-- What every command is told. -/
structure Settings where
  verbose : Bool
  /-- The log is written as JSON. -/
  json : Bool
  /-- The path of the configuration file. -/
  config : Option String
  token : Option String
  repository : Option String
  apiUrl : String
  serverUrl : String
  runId : Option String
  /-- The path of the file for step outputs. -/
  output : Option String
  deriving DecidableEq, Repr

/-- A task and its settings. -/
structure Invocation where
  settings : Settings
  task : Task
  deriving DecidableEq, Repr

/-! ## Words -/

/-- A word of a command line by its form. -/
inductive Word where
  /-- Two dashes alone: no parameter follows. -/
  | separator
  /-- A parameter by its name, with a value behind an equals sign. -/
  | long (name : String) (value : Option String)
  /-- Flags by their letters. -/
  | short (letters : List Char)
  | plain (text : String)
  deriving DecidableEq, Repr

/-- The name before the first equals sign, and the value behind it. -/
def splitValue (cs : List Char) : String × Option String :=
  let name := String.ofList (cs.takeWhile (· ≠ '='))
  match cs.dropWhile (· ≠ '=') with
  | [] => (name, none)
  | _ :: value => (name, some (String.ofList value))

/-- The form of a word. -/
def Word.ofText (text : String) : Word :=
  match text.toList with
  | ['-', '-'] => .separator
  | '-' :: '-' :: cs => .long (splitValue cs).1 (splitValue cs).2
  | ['-'] => .plain text
  | '-' :: cs => .short cs
  | _ => .plain text

/-! ## One place -/

/-- A place of a command line: before the command, or after it. -/
abbrev Position := Option Command

/-- The parameters that may be set at a place. -/
def parametersAt : Position → List Parameter
  | none => shared
  | some c => shared ++ c.own

/-- The parameter of this name at a place. -/
def parameter? (here : Position) (name : String) : Option Parameter :=
  (parametersAt here).find? (·.name = name)

namespace Given

/-- Sets a flag. -/
def setFlag (g : Given) (f : Flag) : Except Stop Given :=
  if g.flags.contains f then .error (.misuse (.repeated (.flag f)))
  else .ok { g with flags := f :: g.flags }

/-- Sets a field. -/
def setField (g : Given) (f : Field) (value : String) : Except Stop Given :=
  if (g.fields.lookup f).isSome then .error (.misuse (.repeated (.field f)))
  else if f.accepts value then .ok { g with fields := (f, value) :: g.fields }
  else .error (.misuse (.badValue (.field f) value))

/-- Sets the number of the pull request. -/
def setPull (g : Given) (value : String) : Except Stop Given :=
  match g.pull, Decimal.word? value.toList with
  | some _, _ => .error (.misuse (.repeated .pull))
  | none, some n => .ok { g with pull := some n }
  | none, none => .error (.misuse (.badValue .pull value))

/-- Sets the verdict. -/
def setVerdict (g : Given) (value : String) : Except Stop Given :=
  match g.verdict, verdictNames.lookup value with
  | some _, _ => .error (.misuse (.repeated .verdict))
  | none, some v => .ok { g with verdict := some v }
  | none, none => .error (.misuse (.badValue .verdict value))

/-- Sets a parameter to a value. -/
def set (g : Given) (p : Parameter) (value : String) : Except Stop Given :=
  match p with
  | .flag f => .error (.misuse (.valueOfFlag f))
  | .field f => g.setField f value
  | .pull => g.setPull value
  | .verdict => g.setVerdict value

/-- Sets a flag by its letter. -/
def setLetter (here : Position) (g : Given) (letter : Char) : Except Stop Given :=
  match letter with
  | 'v' => g.setFlag .verbose
  | 'h' => .error .help
  | 'V' => if here = none then .error .version else .error (.misuse (.unexpected "-V"))
  | c => .error (.misuse (.unexpected ("-" ++ String.singleton c)))

/-- Sets the parameters of the words at a place, up to the first word that is none; returns that word and
all after it. -/
def read (here : Position) (g : Given) : List String → Except Stop (Given × List String)
  | [] => .ok (g, [])
  | word :: rest =>
    match Word.ofText word with
    | .plain _ => .ok (g, word :: rest)
    | .separator =>
      match rest with
      | [] => .ok (g, [])
      | next :: _ => .error (.misuse (.unexpected next))
    | .short letters => do read here (← letters.foldlM (setLetter here) g) rest
    | .long name value =>
      match parameter? here name, value with
      | some (.flag f), none => do read here (← g.setFlag f) rest
      | some p, some value => do read here (← g.set p value) rest
      | some p, none =>
        match rest with
        | [] => .error (.misuse (.noValue p))
        | next :: rest =>
          match Word.ofText next with
          | .plain value => do read here (← g.set p value) rest
          | _ => .error (.misuse (.noValue p))
      | none, some _ => .error (.misuse (.unexpected word))
      | none, none =>
        if name = "help" then .error .help
        else if name = "version" && here = none then .error .version
        else .error (.misuse (.unexpected word))

end Given

/-! ## All places -/

/-- The variables that a command line looks at. -/
def variableNames : List String := (.event :: sharedFields).filterMap Field.variableName

/-- What is set before the command and after it, and by the environment. -/
structure Source where
  outer : Given
  inner : Given
  env : Environment

namespace Source

/-- A flag is set. -/
def has (s : Source) (f : Flag) : Bool := s.outer.flags.contains f || s.inner.flags.contains f

/-- The value of a field, if anything sets it. -/
def field? (s : Source) (f : Field) : Option String :=
  s.inner.fields.lookup f <|> s.outer.fields.lookup f <|> f.variableName >>= s.env

/-- The value of a field that has to be set. -/
def need (s : Source) (f : Field) : Except Stop String :=
  match s.field? f with
  | some value => .ok value
  | none => .error (.misuse (.missing (.field f)))

/-- A variable that the environment sets has a value that its field accepts, at each place where the
command line does not set the field. -/
def checkVariables (s : Source) (here : Position) (g : Given) : Except Stop Unit :=
  (parametersAt here).forM fun
    | .field f =>
      match g.fields.lookup f, f.variableName >>= s.env with
      | none, some value =>
        if f.accepts value then .ok () else .error (.misuse (.badValue (.field f) value))
      | _, _ => .ok ()
    | _ => .ok ()

/-- What every command is told. -/
def settings (s : Source) : Settings where
  verbose := s.has .verbose
  json := s.has .json
  config := s.field? .config
  token := s.field? .token
  repository := s.field? .repository
  apiUrl := (s.field? .apiUrl).getD "https://api.github.com"
  serverUrl := (s.field? .serverUrl).getD "https://github.com"
  runId := s.field? .runId
  output := s.field? .output

/-- The task of a command. -/
def task (s : Source) : Command → Except Stop Task
  | .evaluate => return .evaluate (← s.need .event)
  | .route =>
    match s.inner.pull with
    | some n => .ok (.route n)
    | none => .error (.misuse (.missing .pull))
  | .run => do
    let event ← s.need .event
    return .run event ((s.field? .workdir).getD ".") ((s.field? .remote).getD "origin")
      (!s.has .noPush) (!s.has .noMerge)
  | .report => do
    let sha ← s.need .sha
    match s.inner.verdict with
    | some v => .ok (.report sha v (s.field? .outcome))
    | none => .error (.misuse (.missing .verdict))

end Source

/-- The words after `help` name at most one command. -/
def helpOn : List String → Stop
  | [] => .help
  | [name] =>
    if name = "help" || (Named.ofName? (α := Command) name).isSome then .help
    else .misuse (.unknownCommand name)
  | _ :: word :: _ => .misuse (.unexpected word)

/-- What the words of a command line ask for. -/
def Invocation.ofArguments (env : Environment) (args : List String) : Except Stop Invocation := do
  let (outer, rest) ← Given.read none {} args
  match rest with
  | [] => throw (.misuse .noCommand)
  | name :: rest =>
    match Named.ofName? (α := Command) name with
    | none => if name = "help" then throw (helpOn rest) else throw (.misuse (.unknownCommand name))
    | some c =>
      let (inner, rest) ← Given.read (some c) {} rest
      match rest with
      | word :: _ => throw (.misuse (.unexpected word))
      | [] =>
        let source : Source := ⟨outer, inner, env⟩
        source.checkVariables (some c) inner
        let task ← source.task c
        source.checkVariables none outer
        return ⟨source.settings, task⟩

end Autoformat.CommandLine
