import Autoformat.Decimal.Digits
import Autoformat.Decimal.Shortest
import Autoformat.Json.Error

/-!
# Numbers as they are written

A `Numeral` is a number of a JSON text: its sign, its digits before and after the point and its power of
ten. `Numeral.value` says which number that is: a whole one while it fits 64 bits, and otherwise the
floating-point number that its leading digits give.
-/

namespace Autoformat.Json

/-- A number as written. -/
structure Numeral where
  negative : Bool
  /-- The digits before the point. -/
  whole : List Char
  /-- The digits after the point; empty when there is none. -/
  fraction : List Char
  /-- The power of ten, when one is written. -/
  power : Option Int
  deriving DecidableEq, Repr

/-- What a number stands for. -/
inductive Number where
  /-- A whole number that is not negative, below `2 ^ 64`. -/
  | unsigned (n : UInt64)
  /-- A whole number below zero, at least `-2 ^ 63`. -/
  | signed (n : Int)
  | float (negative : Bool) (x : Decimal.Binary64)

/-- Takes digits into a significand while it stays below `2 ^ 64`, and returns it with the number of
digits taken. -/
def gather (significand taken : Nat) : List Char → Nat × Nat
  | [] => (significand, taken)
  | c :: cs =>
    let next := 10 * significand + Decimal.digitValue c
    if next < UInt64.size then gather next (taken + 1) cs else (significand, taken)

/-- A power of ten as written fits 32 bits. -/
def Numeral.powerFits (n : Numeral) : Bool :=
  match n.power with
  | none => true
  | some p => -0x80000000 < p && p < 0x80000000

/-- The floating-point reading: digits beyond the first `2 ^ 64` count only by their place. -/
def Numeral.float (n : Numeral) : Except SyntaxError Number :=
  let whole := gather 0 0 n.whole
  let fraction := gather whole.1 0 n.fraction
  let exponent : Int := (n.whole.length - whole.2 : Nat) - (fraction.2 : Int)
  let finish (x : Option Decimal.Binary64) : Except SyntaxError Number :=
    match x with
    | some x => .ok (.float n.negative x)
    | none => .error .numberOutOfRange
  if n.powerFits then
    finish (Decimal.Binary64.ofParts fraction.1 (exponent + n.power.getD 0))
  else if fraction.1 ≠ 0 ∧ 0 < n.power.getD 0 then .error .numberOutOfRange
  else finish (some Decimal.Binary64.zero)

/-- The number that is written. -/
def Numeral.value (n : Numeral) : Except SyntaxError Number :=
  let size := Decimal.ofDigits n.whole
  if n.fraction.isEmpty ∧ n.power.isNone then
    if n.negative then
      if 0 < size ∧ size ≤ 0x8000000000000000 then .ok (.signed (-size)) else n.float
    else if size < UInt64.size then .ok (.unsigned (UInt64.ofNat size))
    else n.float
  else n.float

/-- The words for a number found in place of something else. -/
def Number.found : Number → Found
  | .unsigned n => .integer n.toNat
  | .signed n => .integer n
  | .float sign x => .float (x.text sign)

end Autoformat.Json
