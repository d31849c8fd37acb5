import Autoformat.Rehearsal.Shell.Arithmetic
import Autoformat.Rehearsal.Shell.Options

/-!
# Conditions

`test` decides about texts, numbers and files. Its arguments are operands and operators in a row; what
stands where tells which they are.
-/

namespace Autoformat.Rehearsal.Shell.Conditions

/-- What an argument may be besides an operand. -/
inductive Operator where
  | unary (letter : Char)
  | binary (name : String)
  | negation
  | both
  | either
  | opening
  | closing
  deriving DecidableEq, Repr

/-- Operators of two operands. -/
def binaryOperators : List String :=
  ["=", "!=", "<", ">", "-eq", "-ne", "-lt", "-le", "-gt", "-ge", "-nt", "-ot", "-ef"]

/-- The operator that an argument may be. -/
def operator? (s : String) : Option Operator :=
  if binaryOperators.contains s then some (.binary s)
  else
    match s.toList with
    | ['!'] => some .negation
    | ['('] => some .opening
    | [')'] => some .closing
    | ['-', 'a'] => some .both
    | ['-', 'o'] => some .either
    | ['-', c] => if "rwxefdcbpugkstznhOGLS".toList.contains c then some (.unary c) else none
    | _ => none

/-- The argument is an operator of two operands. -/
def isBinary (s : String) : Bool :=
  match operator? s with
  | some (.binary _) => true
  | _ => false

/-- What the first of some arguments is. An operator of one operand is itself an operand where nothing, or
an operator of two, follows it. -/
def lex (args : List String) : Option Operator :=
  match args with
  | [] => none
  | s :: rest =>
    match operator? s, rest with
    | some (.unary _), [] => none
    | some (.unary c), [_] => some (.unary c)
    | some (.unary c), next :: _ => if isBinary next then none else some (.unary c)
    | some .opening, [] => none
    | o, _ => o

/-- A decision, or what is wrong with the arguments. -/
abbrev Decision (α : Type) := ExceptT String Process α

/-- A whole number. -/
def numberOf (s : String) : Decision Int :=
  match Arithmetic.number? false s with
  | some n => return n
  | none => throw ("Illegal number: " ++ s)

/-- The decision of an operator about a file, or a text. -/
def unary (c : Char) (s : String) : Decision Bool := do
  if c = 'z' then return s = ""
  else if c = 'n' then return s ≠ ""
  else if c = 't' then
    let _ ← numberOf s
    return false
  else
    let found ← foundAt s
    match found, c with
    | .nothing, _ => return false
    | .directory, 'd' => return true
    | .directory, 's' => return true
    | .directory, 'x' => return true
    | .file .., 'f' => return true
    | .file content _, 's' => return content.size ≠ 0
    | .file _ executable, 'x' => return executable
    | .program _, 'f' => return true
    | .program _, 's' => return true
    | .program _, 'x' => return true
    | .device _, 'c' => return true
    | _, c => return ['e', 'r', 'w', 'O', 'G'].contains c

/-- The decision of an operator about two operands. -/
def binary (op a b : String) : Decision Bool := do
  match op with
  | "=" => return a = b
  | "!=" => return a ≠ b
  | "<" => return decide (Utf8.Before a b)
  | ">" => return decide (Utf8.Before b a)
  | "-nt" | "-ot" =>
    let isThere (f : Found) : Bool :=
      match f with
      | .nothing => false
      | _ => true
    let x := isThere (← foundAt a)
    let y := isThere (← foundAt b)
    return if op = "-nt" then x && !y else y && !x
  | "-ef" =>
    match ← placeOf a, ← placeOf b with
    | .ok p, .ok q => return p = q
    | _, _ => return false
  | op =>
    let x ← numberOf a
    let y ← numberOf b
    return match op with
      | "-eq" => x = y
      | "-ne" => x ≠ y
      | "-lt" => x < y
      | "-le" => x ≤ y
      | "-gt" => y < x
      | _ => y ≤ x

mutual

/-- Decides about arguments of which one group has to hold; the arguments from the last one read on are
left. -/
def anyOf (o : Option Operator) (args : List String) : Nat → Decision (Bool × List String)
  | 0 => return (false, args)
  | fuel + 1 => do
    let (b, args) ← allOf o args fuel
    if lex (args.drop 1) = some .either then
      let args := args.drop 2
      let (c, args) ← anyOf (lex args) args fuel
      return (b || c, args)
    else return (b, args)

/-- Decides about arguments that all have to hold. -/
def allOf (o : Option Operator) (args : List String) : Nat → Decision (Bool × List String)
  | 0 => return (false, args)
  | fuel + 1 => do
    let (b, args) ← negated o args fuel
    if lex (args.drop 1) = some .both then
      let args := args.drop 2
      let (c, args) ← allOf (lex args) args fuel
      return (b && c, args)
    else return (b, args)

/-- Decides about arguments behind signs of negation. -/
def negated (o : Option Operator) (args : List String) : Nat → Decision (Bool × List String)
  | 0 => return (false, args)
  | fuel + 1 => do
    if o = some .negation then
      let rest := args.drop 1
      if rest.isEmpty then
        return (true, args)
      else
        let (b, args) ← negated (lex rest) rest fuel
        return (!b, args)
    else single o args fuel

/-- Decides about one operator with its operands. -/
def single (o : Option Operator) (args : List String) : Nat → Decision (Bool × List String)
  | 0 => return (false, args)
  | fuel + 1 => do
    match o, args with
    | _, [] => return (false, [])
    | some .opening, _ :: rest =>
      if lex rest = some .closing then return (false, rest)
      else
        let (b, rest) ← anyOf (lex rest) rest fuel
        if lex (rest.drop 1) ≠ some .closing then throw "closing paren expected"
        return (b, rest.drop 1)
    | some (.unary c), _ :: s :: rest => return (← unary c s, s :: rest)
    | some (.unary _), [s] => throw (s ++ ": argument expected")
    | _, a :: rest =>
      match lex rest, rest with
      | some (.binary op), [_] => throw (op ++ ": argument expected")
      | some (.binary op), _ :: b :: rest => return (← binary op a b, b :: rest)
      | _, _ => return (a ≠ "", a :: rest)

end

/-- The decision about arguments, except for the special rules for a few of them. -/
def general (o : Option Operator) (args : List String) : Decision Bool := do
  let (b, rest) ← anyOf o args (4 * args.length + 8)
  match rest with
  | a :: _ :: _ => throw (if a = "" then "unexpected operator" else a ++ ": unexpected operator")
  | _ => return b

/-- The decision about arguments. Three of them with an operator in the middle, and arguments in brackets
or behind a sign of negation, are told from others first. -/
def decideAbout (args : List String) : Nat → Decision Bool
  | 0 => return false
  | fuel + 1 => do
    let inBrackets := args.head? = some "(" && args.getLast? = some ")"
    match args with
    | [] => return false
    | [_, op, _] =>
      if isBinary op then general none args
      else if inBrackets then general (lex (args.drop 1).dropLast) (args.drop 1).dropLast
      else if args.head? = some "!" then return !(← decideAbout (args.drop 1) fuel)
      else general (lex args) args
    | [_, _, _, _] =>
      if inBrackets then general (lex (args.drop 1).dropLast) (args.drop 1).dropLast
      else if args.head? = some "!" then return !(← decideAbout (args.drop 1) fuel)
      else general (lex args) args
    | args => general (lex args) args

/-- The decision of `test`, or of `[`, which needs a closing bracket. -/
def decideFor (isBracket : Bool) (args : List String) : Decision Bool := do
  if isBracket && args.getLast? ≠ some "]" then throw "missing ]"
  else decideAbout (if isBracket then args.dropLast else args) (args.length + 1)

/-- The wording that the program has for what is wrong. -/
def programWording (args : List String) (message : String) : String :=
  if message = "missing ]" then "missing ']'"
  else if Text.startsWith message "Illegal number: " then
    "invalid integer '" ++ String.ofList (message.toList.drop 16) ++ "'"
  else
    match args with
    | [a, _] => "'" ++ a ++ "': unary operator expected"
    | [_, op, _] => "'" ++ op ++ "': binary operator expected"
    | args => "extra argument '" ++ (args[3]?).getD "" ++ "'"

/-- The program `test`, or `[`. -/
def utility : Utility := fun name args => do
  match ← (decideFor (baseName name = "[") args).run with
  | .ok b => return if b then 0 else 1
  | .error message => complain s!"{name}: {programWording args message}" 2

end Autoformat.Rehearsal.Shell.Conditions
