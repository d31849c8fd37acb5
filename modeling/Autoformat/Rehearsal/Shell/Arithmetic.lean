import Autoformat.Decimal.Digits

/-!
# Arithmetic in scripts

`Arithmetic.evaluate` computes a whole-number expression of 64 bits, with assignments to variables. What
it does not understand is a fault with its own wording.
-/

namespace Autoformat.Rehearsal.Shell.Arithmetic

/-- What is wrong with an expression. -/
inductive Fault where
  /-- The grammar does not allow it. -/
  | expected (what : String)
  | divisionByZero
  /-- The value of a variable is no number. -/
  | notANumber (s : String)
  deriving DecidableEq, Repr

/-- The wording of a fault in an expression. -/
def Fault.message (expression : String) : Fault → String
  | .expected what => "arithmetic expression: expecting " ++ what ++ ": \"" ++ expression ++ "\""
  | .divisionByZero => "arithmetic expression: division by zero: \"" ++ expression ++ "\""
  | .notANumber s => "Illegal number: " ++ s

/-- A piece of an expression. -/
inductive Token where
  | number (n : Int)
  | variable (name : String)
  | operator (s : String)
  /-- A character without a meaning. -/
  | unknown
  | ending
  deriving DecidableEq, Repr

/-- The number of 64 bits that a whole number wraps around to. -/
def wrap (n : Int) : Int := Int.bmod n 0x10000000000000000

/-- The greatest number. -/
def greatest : Int := 0x7fffffffffffffff

/-- A number that is too great becomes the greatest one. -/
def clamp (n : Int) : Int := max (-greatest - 1) (min greatest n)

/-- The value of a digit in bases up to sixteen. -/
def digit? (c : Char) : Option Nat :=
  if c.isDigit then some (c.toNat - '0'.toNat)
  else if 'a' ≤ c.toLower && c.toLower ≤ 'f' then some (c.toLower.toNat - 'a'.toNat + 10)
  else none

/-- The digits of a base at the start of a text, as a number, and what follows them. -/
def digits (base : Nat) (cs : List Char) : Nat × List Char :=
  let isDigit (c : Char) : Bool := (digit? c).any (· < base)
  ((cs.takeWhile isDigit).foldl (fun n c => base * n + (digit? c).getD 0) 0, cs.dropWhile isDigit)

/-- The number at the start of a text, which tells its base, and what follows it. -/
def leadingNumber (cs : List Char) : Nat × List Char :=
  match cs with
  | '0' :: x :: d :: rest =>
    if (x = 'x' || x = 'X') && (digit? d).isSome then digits 16 (d :: rest) else digits 8 (x :: d :: rest)
  | '0' :: rest => digits 8 rest
  | cs => digits 10 cs

/-- Blanks between pieces. -/
def isBlank (c : Char) : Bool := c = ' ' || c = '\t' || c = '\n'

/-- The number that a whole text writes, with a sign and blanks around it. Where the text may tell its
base, a blank text is zero. -/
def number? (tellsBase : Bool) (s : String) : Option Int :=
  let isSpace (c : Char) : Bool := c = ' ' || (9 ≤ c.toNat && c.toNat ≤ 13)
  let cs := s.toList.dropWhile isSpace
  let (isNegative, ds) : Bool × List Char :=
    match cs with
    | '-' :: cs => (true, cs)
    | '+' :: cs => (false, cs)
    | cs => (false, cs)
  let (n, rest) := if tellsBase then leadingNumber ds else digits 10 ds
  let value : Int := if isNegative then -n else n
  if cs.isEmpty && tellsBase then some 0
  else if (ds.head?.any Char.isDigit) && (rest.all isSpace) && clamp value = value then some value
  else none

/-- The operators, those before others that they begin with. -/
def operators : List String :=
  ["<<=", ">>=", "<<", ">>", "<=", ">=", "==", "!=", "&&", "||", "+=", "-=", "*=", "/=", "%=", "&=", "|=",
    "^=", "<", ">", "=", "!", "&", "|", "+", "-", "*", "/", "%", "^", "~", "?", ":", "(", ")"]

/-- The first piece of an expression, and what follows it. -/
def nextToken (cs : List Char) : Token × List Char :=
  match cs.dropWhile isBlank with
  | [] => (.ending, [])
  | c :: cs =>
    let isWord (c : Char) : Bool := c.isAlphanum || c = '_'
    if c.isDigit then
      let (n, rest) := leadingNumber (c :: cs)
      (.number (clamp n), rest)
    else if isWord c then
      (.variable (String.ofList ((c :: cs).takeWhile isWord)), (c :: cs).dropWhile isWord)
    else
      match operators.find? fun s => s.toList.isPrefixOf (c :: cs) with
      | some s => (.operator s, (c :: cs).drop s.length)
      | none => (.unknown, c :: cs)

/-- A state of the computation. -/
structure State where
  /-- The piece that comes next. -/
  token : Token
  rest : List Char
  /-- The variables that were assigned. -/
  assigned : List (String × Int) := []

/-- A part of the computation. -/
abbrev Part (α : Type) := StateT State (Except Fault) α

/-- Goes on to the next piece. -/
def advance : Part Unit :=
  modify fun s =>
    let (token, rest) := nextToken s.rest
    { s with token := token, rest := rest }

/-- How loosely an operator of two operands binds. -/
def level? : Token → Option Nat
  | .operator s =>
    if ["*", "/", "%"].contains s then some 0
    else if ["+", "-"].contains s then some 1
    else if ["<<", ">>"].contains s then some 2
    else if ["<", "<=", ">", ">="].contains s then some 3
    else if ["==", "!="].contains s then some 4
    else if s = "&" then some 5
    else if s = "^" then some 6
    else if s = "|" then some 7
    else none
  | _ => none

/-- A truth value as a number. -/
def truth (b : Bool) : Int := if b then 1 else 0

/-- The bits of a number of 64 bits. -/
def word (n : Int) : UInt64 := UInt64.ofInt n

/-- The number that bits stand for. -/
def ofWord (w : UInt64) : Int := wrap w.toNat

/-- The result of an operator. -/
def apply (op : String) (a b : Int) : Except Fault Int :=
  match op with
  | "*" => .ok (wrap (a * b))
  | "/" => if b = 0 then .error .divisionByZero else .ok (wrap (Int.tdiv a b))
  | "%" => if b = 0 then .error .divisionByZero else .ok (Int.tmod a b)
  | "+" => .ok (wrap (a + b))
  | "-" => .ok (wrap (a - b))
  | "<<" => .ok (ofWord (word a <<< word b))
  | ">>" => .ok (Int.fdiv a (Nat.pow 2 (Int.emod b 64).toNat))
  | "<" => .ok (truth (a < b))
  | "<=" => .ok (truth (a ≤ b))
  | ">" => .ok (truth (b < a))
  | ">=" => .ok (truth (b ≤ a))
  | "==" => .ok (truth (a = b))
  | "!=" => .ok (truth (a ≠ b))
  | "&" => .ok (ofWord (word a &&& word b))
  | "^" => .ok (ofWord (word a ^^^ word b))
  | _ => .ok (ofWord (word a ||| word b))

/-- The value of a variable. -/
def valueOf (value : String → String) (name : String) : Part Int := do
  match (← get).assigned.lookup name with
  | some n => return n
  | none =>
    match number? true (value name) with
    | some n => return n
    | none => throw (.notANumber (value name))

/-- The operator with which an assignment computes its value. -/
def assignment? (t : Token) : Option String :=
  match t with
  | .operator "=" => some ""
  | .operator s =>
    if ["<<=", ">>=", "+=", "-=", "*=", "/=", "%=", "&=", "|=", "^="].contains s then
      some (String.ofList s.toList.dropLast)
    else none
  | _ => none

mutual

/-- An expression. What is `idle` is read and not computed. -/
def assignment (value : String → String) (idle : Bool) : Nat → Part Int
  | 0 => throw (.expected "primary")
  | fuel + 1 => do
    let s ← get
    match s.token, assignment? (nextToken s.rest).1 with
    | .variable name, some op =>
      advance
      advance
      let n ← assignment value idle fuel
      if idle then return n
      else
        let n ← if op = "" then pure n else do apply op (← valueOf value name) n
        modify fun s => { s with assigned := (name, n) :: s.assigned }
        return n
    | _, _ => choice value idle fuel

/-- A condition with two results, or less. -/
def choice (value : String → String) (idle : Bool) : Nat → Part Int
  | 0 => throw (.expected "primary")
  | fuel + 1 => do
    let a ← either value idle fuel
    if (← get).token ≠ .operator "?" then return a
    else
      advance
      let b ← assignment value (idle || a = 0) fuel
      if (← get).token ≠ .operator ":" then throw (.expected "':'")
      advance
      let c ← choice value (idle || a ≠ 0) fuel
      return if a ≠ 0 then b else c

/-- Operands of which one has to hold, or less. -/
def either (value : String → String) (idle : Bool) : Nat → Part Int
  | 0 => throw (.expected "primary")
  | fuel + 1 => do
    let a ← both value idle fuel
    if (← get).token ≠ .operator "||" then return a
    else
      advance
      let b ← either value (idle || a ≠ 0) fuel
      return truth (a ≠ 0 || b ≠ 0)

/-- Operands that both have to hold, or less. -/
def both (value : String → String) (idle : Bool) : Nat → Part Int
  | 0 => throw (.expected "primary")
  | fuel + 1 => do
    let a ← operand value idle fuel >>= fun a => chain value idle a 8 fuel
    if (← get).token ≠ .operator "&&" then return a
    else
      advance
      let b ← both value (idle || a = 0) fuel
      return truth (a ≠ 0 && b ≠ 0)

/-- The operators after an operand that bind tighter than a level. -/
def chain (value : String → String) (idle : Bool) (a : Int) (limit : Nat) : Nat → Part Int
  | 0 => throw (.expected "primary")
  | fuel + 1 => do
    let t := (← get).token
    match t, level? t with
    | .operator op, some n =>
      if limit ≤ n then return a
      else
        advance
        let b ← operand value idle fuel >>= fun b => chain value idle b n fuel
        let c ← if idle then pure b else apply op a b
        chain value idle c limit fuel
    | _, _ => return a

/-- A number, a variable, an expression in brackets, or one of them with a sign. -/
def operand (value : String → String) (idle : Bool) : Nat → Part Int
  | 0 => throw (.expected "primary")
  | fuel + 1 => do
    match (← get).token with
    | .number n =>
      advance
      return n
    | .variable name =>
      advance
      if idle then return 0 else valueOf value name
    | .operator "(" =>
      advance
      let n ← assignment value idle fuel
      if (← get).token ≠ .operator ")" then throw (.expected "')'")
      advance
      return n
    | .operator "+" =>
      advance
      operand value idle fuel
    | .operator "-" =>
      advance
      return wrap (-(← operand value idle fuel))
    | .operator "!" =>
      advance
      return truth ((← operand value idle fuel) = 0)
    | .operator "~" =>
      advance
      return -(← operand value idle fuel) - 1
    | _ => throw (.expected "primary")

end

/-- The value of an expression, with the given values of variables, and the variables it assigns, the last
one first. -/
def evaluate (value : String → String) (expression : String) :
    Except Fault (Int × List (String × Int)) :=
  let cs := expression.toList
  let (token, rest) := nextToken cs
  match (assignment value false (8 * cs.length + 16)).run ⟨token, rest, []⟩ with
  | .error e => .error e
  | .ok (n, s) => if s.token = .ending then .ok (n, s.assigned) else .error (.expected "EOF")

end Autoformat.Rehearsal.Shell.Arithmetic
