import Autoformat.Rehearsal.Shell.Reply

/-!
# Commands for variables and options

The commands of the shell that set, mark, show and take away variables, positional parameters and
options, and those that read values from input or from arguments.
-/

namespace Autoformat.Rehearsal.Shell

/-! ## Variables -/

/-- The variables in the order of their names. -/
def Session.sortedBindings (s : Session) : List (String × Variable) :=
  s.bindings.mergeSort fun a b => decide (¬Utf8.Before b.1 a.1)

/-- A variable as a command that sets it. -/
def shownVariable (start : String) (x : String × Variable) : String :=
  match x.2.value with
  | some value => start ++ x.1 ++ "=" ++ singleQuoted value
  | none => start ++ x.1

/-- The variables that pass a test. -/
def showVariables (start : String) (test : Variable → Bool) : Process Reply := do
  let shown := (← theShell).sortedBindings.filter fun x => test x.2
  return .ofLines (shown.map (shownVariable start))

/-- An argument as a name and maybe a value. -/
def nameAndValue (arg : String) : String × Option String :=
  let cs := arg.toList
  let name := cs.takeWhile (· ≠ '=')
  (String.ofList name, if name.length = cs.length then none else some (String.ofList (cs.drop (name.length + 1))))

/-- A name has to be one of a variable. -/
def requireName (name : String) : Process Unit := do
  if !isName name then failWith (name ++ ": bad variable name")

/-- Gives variables a mark, and maybe values. -/
def mark (start : String) (isMarked : Variable → Bool) (marked : Variable → Variable) : Builtin :=
  fun args => do
    let (options, operands) ← optionsOf ['p'] [] args
    if operands.isEmpty || !options.isEmpty then showVariables start isMarked
    else
      for arg in operands do
        let (name, value) := nameAndValue arg
        requireName name
        match value with
        | some value => setVariable name value
        | none => pure ()
        modifyShell fun s => s.withVariable name (marked (s.variableNamed name))
      return {}

/-- Variables that programs get. -/
def exportVariables : Builtin := mark "export " Variable.isExported fun v => { v with isExported := true }

/-- Variables that keep their values. -/
def makeReadOnly : Builtin := mark "readonly " Variable.isReadOnly fun v => { v with isReadOnly := true }

/-- The shell without a variable. -/
def Session.withoutVariable (s : Session) (name : String) : Session :=
  { s with bindings := s.bindings.filter fun x => x.1 ≠ name }

/-- Takes away variables or functions. -/
def dropNames : Builtin := fun args => do
  let (options, operands) ← optionsOf ['v', 'f'] [] args
  let isFunction := (options.getLast?.map Prod.fst) = some 'f'
  for name in operands do
    if isFunction then
      modifyShell fun s => { s with functions := s.functions.filter fun x => x.1 ≠ name }
    else
      requireName name
      if ((← theShell).variableNamed name).isReadOnly then failWith (name ++ ": is read only")
      modifyShell fun s => s.withoutVariable name
  return {}

/-- Variables that a function has for itself. -/
def makeLocal : Builtin := fun args => do
  if (← theShell).depth = 0 then failWith "not in a function"
  for arg in args do
    let (name, value) := nameAndValue arg
    requireName name
    modifyShell fun s =>
      match s.hidden with
      | frame :: rest =>
        if frame.any fun x => x.1 = name then s
        else { s with hidden := ((name, s.bindings.lookup name) :: frame) :: rest }
      | [] => s
    match value with
    | some value => setVariable name value
    | none => pure ()
  return {}

/-- The shell with a variable as it was before. -/
def Session.withEarlier (s : Session) (x : String × Option Variable) : Session :=
  match x.2 with
  | some v => s.withVariable x.1 v
  | none => s.withoutVariable x.1

/-! ## Options and positional parameters -/

/-- The options by their letters and names. -/
def shellOptions : List (Char × String) := [
  ('e', "errexit"), ('f', "noglob"), ('I', "ignoreeof"), ('i', "interactive"), ('m', "monitor"),
  ('n', "noexec"), ('s', "stdin"), ('x', "xtrace"), ('v', "verbose"), ('V', "vi"), ('E', "emacs"),
  ('C', "noclobber"), ('a', "allexport"), ('b', "notify"), ('u', "nounset"), ('p', "privileged"),
  ('L', "nolog"), ('D', "debug")]

/-- The letters that may be given. -/
def optionLetters : List Char := ['e', 'f', 'I', 'i', 'm', 'n', 's', 'x', 'v', 'V', 'E', 'C', 'a', 'b', 'u', 'p']

/-- Sets or clears an option. -/
def setOption (isOn : Bool) (c : Char) : Process Unit :=
  modifyShell fun s =>
    let others := s.options.filter (· ≠ c)
    { s with options := if isOn then c :: others else others }

/-- Sets or clears the options of letters. -/
def setLetters (isOn : Bool) : List Char → Process Unit
  | [] => pure ()
  | c :: cs => do
    if optionLetters.contains c then setOption isOn c
    else failWith s!"Illegal option -{c}"
    setLetters isOn cs

/-- Sets or clears the option of a name. -/
def setNamed (isOn : Bool) (name : String) : Process Unit := do
  match shellOptions.find? fun x => x.2 = name with
  | some (c, _) => setOption isOn c
  | none => failWith ("Illegal option -o " ++ name)

/-- All options. -/
def shownOptions (asCommands : Bool) : Process Reply := do
  let s ← theShell
  let isOn (c : Char) : Bool := s.options.contains c
  if asCommands then
    return .ofLines (shellOptions.map fun (c, name) => "set " ++ (if isOn c then "-o " else "+o ") ++ name)
  else
    let pad (name : String) : String := name ++ String.ofList (List.replicate (16 - name.length) ' ')
    return .ofLines ("Current option settings" ::
      shellOptions.map fun (c, name) => pad name ++ if isOn c then "on" else "off")

/-- The shell with other positional parameters. -/
def Session.withArguments (s : Session) (args : List String) : Session :=
  { s with args := args, optionIndex := 1, optionOffset := none }

/-- Sets options and positional parameters. -/
def setFrom (reply : Reply) : List String → Process Reply
  | [] => return reply
  | word :: rest =>
    match word.toList with
    | ['-', '-'] => do
      modifyShell (Session.withArguments · rest)
      return reply
    | ['-'] => do
      setOption false 'x'
      setOption false 'v'
      unless rest.isEmpty do modifyShell (Session.withArguments · rest)
      return reply
    | sign :: letters => do
      if sign = '-' || sign = '+' then
        let isOn := sign = '-'
        if letters.getLast? = some 'o' then
          setLetters isOn letters.dropLast
          match rest with
          | [] => shownOptions (!isOn)
          | name :: rest =>
            setNamed isOn name
            setFrom reply rest
        else
          setLetters isOn letters
          setFrom reply rest
      else
        modifyShell (Session.withArguments · (word :: rest))
        return reply
    | [] => do
      modifyShell (Session.withArguments · (word :: rest))
      return reply

/-- Sets options and positional parameters, or shows the variables. -/
def changeSettings : Builtin := fun args =>
  if args.isEmpty then showVariables "" fun v => v.value.isSome else setFrom {} args

/-- Drops positional parameters. -/
def dropArguments : Builtin := fun args => do
  let n ← numberOf (args.headD "1")
  let s ← theShell
  if s.args.length < n then failWith "can't shift that many"
  modifyShell (Session.withArguments · (s.args.drop n))
  return {}

/-! ## Options in arguments -/

/-- The option that `getopts` has found. -/
structure FoundOption where
  name : Char
  argument : Option String := none
  message : String := ""
  /-- Where reading goes on. -/
  index : Nat
  offset : Option Nat := none
  isEnd : Bool := false

/-- What `getopts` takes a letter for; `word` is the argument in which it was found. -/
def letterFound (spec : List Char) (args : List String) (index : Nat) (word : String) (offset : Nat) :
    FoundOption :=
  let isQuiet := spec.head? = some ':'
  let letters := if isQuiet then spec.drop 1 else spec
  let c := (word.toList.drop offset).headD '?'
  let rest := word.toList.drop (offset + 1)
  let after : Option Nat := if rest.isEmpty then none else some (offset + 1)
  match if c = ':' then none else (letters.dropWhile (· ≠ c)).head? with
  | none =>
    if isQuiet then ⟨'?', some c.toString, "", index, after, false⟩
    else ⟨'?', none, s!"Illegal option -{c}\n", index, after, false⟩
  | some _ =>
    if ((letters.dropWhile (· ≠ c)).drop 1).head? ≠ some ':' then ⟨c, some "", "", index, after, false⟩
    else if !rest.isEmpty then ⟨c, some (String.ofList rest), "", index, none, false⟩
    else
      match args[index - 1]? with
      | some argument => ⟨c, some argument, "", index + 1, none, false⟩
      | none =>
        if isQuiet then ⟨':', some c.toString, "", index, none, false⟩
        else ⟨'?', none, s!"No arg for -{c} option\n", index, none, false⟩

/-- The next option. -/
def nextOption (spec : List Char) (args : List String) (index : Nat) (offset : Option Nat) : FoundOption :=
  let current := if 1 < index then args[index - 2]? else none
  match current, offset with
  | some word, some offset =>
    if offset < word.length then letterFound spec args index word offset else start index
  | _, _ => start index
where
  /-- The first option of the next argument. -/
  start (index : Nat) : FoundOption :=
    match args[index - 1]? with
    | none => ⟨'?', none, "", index, none, true⟩
    | some word =>
      match word.toList with
      | ['-', '-'] => ⟨'?', none, "", index + 1, none, true⟩
      | '-' :: _ :: _ => letterFound spec args (index + 1) word 1
      | _ => ⟨'?', none, "", index, none, true⟩

/-- Reads the next option from arguments. -/
def getOption : Builtin := fun args => do
  match args with
  | spec :: name :: rest =>
    let s ← theShell
    let found :=
      nextOption spec.toList (if rest.isEmpty then s.args else rest) (max 1 s.optionIndex) s.optionOffset
    printErr found.message
    unless found.isEnd do
      match found.argument with
      | some argument => setVariable "OPTARG" argument
      | none => modifyShell fun s => s.withoutVariable "OPTARG"
    setVariable "OPTIND" (toString found.index)
    modifyShell fun s => { s with optionIndex := found.index, optionOffset := found.offset }
    requireName name
    setVariable name found.name.toString
    return { status := if found.isEnd then 1 else 0 }
  | _ => failWith "Usage: getopts optstring var [arg...]"

/-! ## Reading lines -/

/-- Characters without their backslashes; a backslash at the end is told. -/
def unescaped : List Char → Pattern × Bool
  | [] => ([], false)
  | ['\\'] => ([], true)
  | '\\' :: c :: cs =>
    let (rest, isJoined) := unescaped cs
    ((c, true) :: rest, isJoined)
  | c :: cs =>
    let (rest, isJoined) := unescaped cs
    ((c, false) :: rest, isJoined)

/-- A line from an offset on, whether it is whole, and the offset after it. -/
def takeLine (isRaw : Bool) (content : ByteArray) : Nat → Nat → (Pattern × Bool) × Nat
  | 0, offset => (([], false), offset)
  | fuel + 1, offset =>
    let finish := (content.findIdx? (· = 10) offset).getD content.size
    let isWhole := decide (finish < content.size)
    let line := (Utf8.decodeLossy (content.extract offset finish)).toList.filter (· ≠ '\x00')
    let after := if isWhole then finish + 1 else finish
    if isRaw then ((Pattern.ofString (String.ofList line), isWhole), after)
    else
      let (chars, isJoined) := unescaped line
      if isJoined && isWhole then
        let ((more, isWhole), after) := takeLine isRaw content fuel after
        ((chars ++ more, isWhole), after)
      else ((chars, isWhole), after)

/-- The blanks among the separators. -/
def isBlankSeparator (separators : List Char) (c : Char × Bool) : Bool :=
  !c.2 && separators.contains c.1 && (c.1 = ' ' || c.1 = '\t' || c.1 = '\n')

/-- A character that divides words. -/
def isSeparator (separators : List Char) (c : Char × Bool) : Bool := !c.2 && separators.contains c.1

/-- The last of the words that a line is cut into: all that is left, without blanks at its end, and
without a separator that only ends it. -/
def lastWord (separators : List Char) (cs : Pattern) : Pattern :=
  let trim (cs : Pattern) : Pattern := (cs.reverse.dropWhile (isBlankSeparator separators)).reverse
  let cs := trim cs
  let word := cs.takeWhile fun c => !isSeparator separators c
  let rest := cs.drop word.length
  if rest.all (isSeparator separators) && (rest.filter fun c => !isBlankSeparator separators c).length ≤ 1 then
    word
  else cs

/-- The words of a line for some variables. -/
def cutWords (separators : List Char) : Nat → Pattern → List String
  | 0, _ => []
  | 1, cs => [Pattern.text (lastWord separators cs)]
  | count + 1, cs =>
    let word := cs.takeWhile fun c => !isSeparator separators c
    let rest := (cs.drop word.length).dropWhile (isBlankSeparator separators)
    let rest :=
      match rest with
      | c :: more =>
        if isSeparator separators c then more.dropWhile (isBlankSeparator separators) else rest
      | [] => []
    Pattern.text word :: cutWords separators count rest

/-- Reads a line into variables. -/
def readVariables : Builtin := fun args => do
  let (options, names) ← optionsOf ['r'] ['p'] args
  if names.isEmpty then failWith "arg count"
  let isRaw := options.any fun x => x.1 = 'r'
  match ← takeFrom 0 fun content offset => takeLine isRaw content (content.size + 1) offset with
  | .error _ =>
    assign names []
    return { status := 1 }
  | .ok (line, isWhole) =>
    let separators := (← theShell).separators
    assign names (cutWords separators names.length (line.dropWhile (isBlankSeparator separators)))
    return { status := if isWhole then 0 else 1 }
where
  /-- Gives the variables their values. -/
  assign : List String → List String → Process Unit
    | [], _ => pure ()
    | name :: names, words => do
      requireName name
      setVariable name (words.headD "")
      assign names (words.drop 1)

/-! ## Other names -/

/-- Gives words other meanings, or shows them. -/
def setAliases : Builtin := fun args => do
  let s ← theShell
  if args.isEmpty then return .ofLines (s.aliases.map shown)
  else
    args.foldlM (fun (r : Reply) arg => do
      match nameAndValue arg with
      | (name, some value) =>
        modifyShell fun s => { s with aliases := s.aliases.filter (·.1 ≠ name) ++ [(name, value)] }
        return r
      | (name, none) =>
        match (← theShell).aliases.lookup name with
        | some value => return { r with output := r.output ++ (shown (name, value) ++ "\n").toUTF8 }
        | none =>
          printErr s!"alias: {name} not found\n"
          return { r with status := 1 }) {}
where
  /-- A word and its meaning. -/
  shown (x : String × String) : String := x.1 ++ "=" ++ singleQuoted x.2

/-- Takes meanings of words away. -/
def dropAliases : Builtin := fun args => do
  let (options, names) ← optionsOf ['a'] [] args
  if !options.isEmpty then modifyShell fun s => { s with aliases := [] }
  names.foldlM (fun (r : Reply) name => do
    if ((← theShell).aliases.lookup name).isSome then
      modifyShell fun s => { s with aliases := s.aliases.filter (·.1 ≠ name) }
      return r
    else
      printErr s!"unalias: {name} not found\n"
      return { r with status := 1 }) {}

end Autoformat.Rehearsal.Shell
