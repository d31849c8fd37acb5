import Autoformat.Rehearsal.Shell.Format
import Autoformat.Rehearsal.Shell.Regex
import Autoformat.Rehearsal.Shell.Utilities.Texts

/-!
# Programs that count and compute

`seq` and `expr`.
-/

namespace Autoformat.Rehearsal.Shell

/-! ## `seq` -/

/-- A decimal number: so many units of a power of ten. -/
structure DecimalNumber where
  units : Int
  places : Nat

/-- Reads a decimal number. -/
def decimalNumber? (s : String) : Option DecimalNumber :=
  let cs := s.toList
  let isNegative := cs.head? = some '-'
  let cs := if isNegative || cs.head? = some '+' then cs.drop 1 else cs
  let whole := cs.takeWhile Char.isDigit
  let rest := cs.drop whole.length
  let fraction := if rest.head? = some '.' then (rest.drop 1).takeWhile Char.isDigit else []
  let rest := if rest.head? = some '.' then rest.drop (fraction.length + 1) else rest
  if !rest.isEmpty || (whole.isEmpty && fraction.isEmpty) then none
  else
    let n : Int := (digits? (String.ofList (whole ++ fraction))).getD 0
    some ⟨if isNegative then -n else n, fraction.length⟩

/-- The number in units of a finer power of ten. -/
def DecimalNumber.inPlaces (d : DecimalNumber) (places : Nat) : Int :=
  d.units * ((Nat.pow 10 (places - d.places) : Nat) : Int)

/-- A number of units as a decimal number. -/
def decimalText (places : Nat) (n : Int) : String :=
  let ds := (toString n.natAbs).toList
  let ds := List.replicate (places + 1 - ds.length) '0' ++ ds
  let whole := ds.take (ds.length - places)
  let fraction := ds.drop (ds.length - places)
  String.ofList ((if n < 0 then ['-'] else []) ++ whole ++ if places = 0 then [] else '.' :: fraction)

/-- Zeros after the sign of a number that is shorter than a width. -/
def padZeros (width : Nat) (s : String) : String :=
  match s.toList with
  | '-' :: cs => String.ofList ('-' :: List.replicate (width - s.length) '0' ++ cs)
  | cs => String.ofList (List.replicate (width - s.length) '0' ++ cs)

/-- The numbers from one to another. -/
def numbersFrom (first step last : Int) : List Int :=
  let count : Int := if step = 0 then 0 else (last - first) / step
  if (0 < step && last < first) || (step < 0 && first < last) then []
  else (List.range (min (count.toNat + 1) 2000000)).map fun (i : Nat) => first + step * (i : Int)

/-- Shows numbers in a row. -/
def seq : Utility := fun name args => do
  let isNumber (s : String) : Bool :=
    match s.toList with
    | '-' :: c :: _ => c.isDigit || c = '.'
    | _ => false
  -- a negative number is no option
  let leading := args.takeWhile fun s => !isNumber s
  let o ← getOptions name
    { plain := ['w'], argued := ['s', 'f']
      long := [("separator", 's'), ("equal-width", 'w'), ("format", 'f')], stopsAtOperand := true } 1 leading
  let o := { o with operands := o.operands ++ args.drop leading.length }
  let wrong (s : String) : Process Nat := complain s!"{name}: {s}\n{tryHelp name}" 1
  match o.operands with
  | [] => wrong "missing operand"
  | _ :: _ :: _ :: d :: _ => wrong s!"extra operand '{d}'"
  | operands =>
    match operands.find? fun s => (decimalNumber? s).isNone with
    | some s => wrong s!"invalid floating point argument: '{s}'"
    | none =>
      let one : DecimalNumber := ⟨1, 0⟩
      let (first, step, last) : DecimalNumber × DecimalNumber × DecimalNumber :=
        match operands.filterMap decimalNumber? with
        | [a] => (one, one, a)
        | [a, b] => (a, one, b)
        | a :: b :: c :: _ => (a, b, c)
        | [] => (one, one, one)
      if step.units = 0 then
        let given := (operands[1]?).getD ""
        wrong s!"invalid Zero increment value: '{given}'"
      else
        let places := max first.places step.places
        let fine := max places last.places
        let shift : Int := ((Nat.pow 10 (fine - places) : Nat) : Int)
        let numbers := numbersFrom (first.inPlaces fine) (step.inPlaces fine) (last.inPlaces fine)
        let texts := numbers.map fun n => decimalText places (n / shift)
        let bounds := [first, last].map fun d => (decimalText places (d.inPlaces fine / shift)).length
        let width := if o.has 'w' then bounds.foldl max 0 else 0
        let shown : List String :=
          match o.value? 'f' with
          | some format => texts.map fun s => Utf8.decodeLossy (Format.run .program format [s]).output
          | none => if width = 0 then texts else texts.map (padZeros width)
        unless shown.isEmpty do
          emitText name (((o.value? 's').getD "\n").intercalate shown ++ "\n")
        return 0

/-! ## `expr` -/

/-- What is wrong with an expression. -/
structure ExprFault where
  message : String
  status : Nat := 2

/-- A part of an expression. -/
abbrev Expr (α : Type) := StateT (List String) (Except ExprFault) α

/-- The whole number that a value is. -/
def wholeOf? (s : String) : Option Int :=
  match s.toList with
  | '-' :: cs => (digits? (String.ofList cs)).map fun n => -(n : Int)
  | cs => if cs.isEmpty then none else (digits? s).map fun n => (n : Int)

/-- The value counts as false. -/
def isNull (s : String) : Bool := s = "" || (wholeOf? s) = some 0

/-- The value of a match: its first group, or how long it is. -/
def matchValue (s pattern : String) : Except ExprFault String :=
  match Regex.parse ⟨false, true⟩ (argumentChars pattern) with
  | .error e => .error { message := e.message }
  | .ok ⟨r, _, _⟩ =>
    let subject : Regex.Subject := { text := (argumentChars s).toArray, ignoresCase := false }
    let hasGroup := Text.contains pattern "\\("
    match ((Regex.longestAt subject r 0).run Regex.stepLimit).1 with
    | none => .ok (if hasGroup then "" else "0")
    | some m =>
      if hasGroup then
        match m.groups.lookup 1 with
        | some (a, b) => .ok (textOfChars (((argumentChars s).drop a).take (b - a)))
        | none => .ok ""
      else .ok (toString m.finish)

/-- The next argument is one of these. -/
def nextOf (ops : List String) : Expr (Option String) := do
  match ← get with
  | op :: rest =>
    if ops.contains op then
      set rest
      return some op
    else return none
  | [] => return none

/-- An argument that has to be there, after another one. -/
def needArgument (before : String) : Expr String := do
  match ← get with
  | arg :: rest =>
    set rest
    return arg
  | [] => throw { message := s!"syntax error: missing argument after '{before}'" }

/-- The result of an operation on numbers. -/
def computeExpr (op a b : String) : Except ExprFault String :=
  match wholeOf? a, wholeOf? b with
  | some x, some y =>
    if op = "+" then .ok (toString (x + y))
    else if op = "-" then .ok (toString (x - y))
    else if op = "*" then .ok (toString (x * y))
    else if y = 0 then .error { message := "division by zero" }
    else .ok (toString (if op = "/" then Int.tdiv x y else Int.tmod x y))
  | _, _ => .error { message := "non-integer argument" }

/-- The result of a comparison. -/
def compareExpr (op a b : String) : String :=
  let o : Ordering :=
    match wholeOf? a, wholeOf? b with
    | some x, some y => compare x y
    | _, _ =>
      let x := argumentChars a
      let y := argumentChars b
      if isBefore x y then .lt else if isBefore y x then .gt else .eq
  let holds : Bool :=
    match op with
    | "<" => o = .lt
    | "<=" => o ≠ .gt
    | "=" => o = .eq
    | "==" => o = .eq
    | "!=" => o ≠ .eq
    | ">=" => o ≠ .lt
    | _ => o = .gt
  if holds then "1" else "0"

mutual

/-- A choice between values. -/
def exprEither : Nat → Expr String
  | 0 => return ""
  | fuel + 1 => do exprEitherAfter (← exprBoth fuel) fuel

/-- More of a choice. -/
def exprEitherAfter (a : String) : Nat → Expr String
  | 0 => return a
  | fuel + 1 => do
    match ← nextOf ["|"] with
    | none => return a
    | some _ =>
      let b ← exprBoth fuel
      exprEitherAfter (if !isNull a then a else if isNull b then "0" else b) fuel

/-- Values that all have to count. -/
def exprBoth : Nat → Expr String
  | 0 => return ""
  | fuel + 1 => do exprBothAfter (← exprCompare fuel) fuel

/-- More such values. -/
def exprBothAfter (a : String) : Nat → Expr String
  | 0 => return a
  | fuel + 1 => do
    match ← nextOf ["&"] with
    | none => return a
    | some _ =>
      let b ← exprCompare fuel
      exprBothAfter (if isNull a || isNull b then "0" else a) fuel

/-- A comparison. -/
def exprCompare : Nat → Expr String
  | 0 => return ""
  | fuel + 1 => do exprOperators ["<", "<=", "=", "==", "!=", ">=", ">"] 3 fuel

/-- Operators of one rank, from the left to the right. -/
def exprOperators (ops : List String) (rank : Nat) : Nat → Expr String
  | 0 => return ""
  | fuel + 1 => do exprOperatorsAfter ops rank (← exprLower rank fuel) fuel

/-- More operators of one rank. -/
def exprOperatorsAfter (ops : List String) (rank : Nat) (a : String) : Nat → Expr String
  | 0 => return a
  | fuel + 1 => do
    match ← nextOf ops with
    | none => return a
    | some op =>
      if (← get).isEmpty then throw { message := s!"syntax error: missing argument after '{op}'" }
      let b ← exprLower rank fuel
      let c ←
        if rank = 3 then pure (compareExpr op a b)
        else if rank = 0 then matchValue a b
        else computeExpr op a b
      exprOperatorsAfter ops rank c fuel

/-- An operand of a rank. -/
def exprLower (rank : Nat) : Nat → Expr String
  | 0 => return ""
  | fuel + 1 =>
    match rank with
    | 3 => exprOperators ["+", "-"] 2 fuel
    | 2 => exprOperators ["*", "/", "%"] 1 fuel
    | 1 => exprOperators [":"] 0 fuel
    | _ => exprSingle fuel

/-- A single value, or a word that makes one from others. -/
def exprSingle : Nat → Expr String
  | 0 => return ""
  | fuel + 1 => do
    match ← get with
    | [] => throw { message := "syntax error: missing argument" }
    | word :: rest =>
      set rest
      match word with
      | "(" =>
        let a ← exprEither fuel
        match ← nextOf [")"] with
        | some _ => return a
        | none => throw { message := s!"syntax error: expecting ')' after '{a}'" }
      | ")" => throw { message := "syntax error: unexpected ')'" }
      | "length" => do return toString (← needArgument word).utf8ByteSize
      | "match" => do
        let a ← exprSingle fuel
        matchValue a (← exprSingle fuel)
      | "index" => do
        let a := argumentChars (← exprSingle fuel)
        let set := argumentChars (← exprSingle fuel)
        return toString (((a.findIdx? set.contains).map (· + 1)).getD 0)
      | "substr" => do
        let a := argumentChars (← exprSingle fuel)
        let start := wholeOf? (← exprSingle fuel)
        let count := wholeOf? (← exprSingle fuel)
        match start, count with
        | some i, some n =>
          return if i ≤ 0 || n ≤ 0 then "" else textOfChars ((a.drop (i.toNat - 1)).take n.toNat)
        | _, _ => return ""
      | "+" => needArgument word
      | word => return word

end

/-- Computes the value of an expression. -/
def expr : Utility := fun name args => do
  if args.isEmpty then missingOperand name "operand" |>.map fun _ => 2
  else
    match (exprEither (20 * args.length + 40)).run args with
    | .error e => complain s!"{name}: {e.message}" e.status
    | .ok (_, extra :: _) => complain s!"{name}: syntax error: unexpected argument '{extra}'" 2
    | .ok (value, []) =>
      emitText name (value ++ "\n")
      return if isNull value then 1 else 0

end Autoformat.Rehearsal.Shell
