/-!
# Binary floating-point values in exact arithmetic

A finite value of the 64-bit binary format is a whole number times a power of two. `Binary64.ofRatio`
rounds a ratio to the nearest such value, and `mul` and `div` are exact products and quotients rounded
once, so that reading a decimal number needs no machine arithmetic.
-/

namespace Autoformat.Decimal

/-- A finite value that is not negative: `mantissa * 2 ^ exponent`, with a mantissa below `2 ^ 53` and
an exponent between `-1074` and `971`. -/
structure Binary64 where
  mantissa : Nat
  exponent : Int
  deriving DecidableEq, Repr

namespace Binary64

/-- Zero. -/
def zero : Binary64 := ⟨0, -1074⟩

/-- The value as a numerator and a denominator. -/
def toRatio (x : Binary64) : Nat × Nat :=
  if 0 ≤ x.exponent then (x.mantissa * Nat.pow 2 x.exponent.toNat, 1)
  else (x.mantissa, Nat.pow 2 (-x.exponent).toNat)

/-- `num / den`, to the nearest whole number; a half goes to the even neighbour. -/
def roundHalfEven (num den : Nat) : Nat :=
  let q := num / den
  let r := num % den
  if 2 * r < den then q
  else if den < 2 * r then q + 1
  else if q % 2 = 0 then q else q + 1

/-- The ratio `num / den` in units of `2 ^ e`, again as a ratio. -/
def inUnits (num den : Nat) (e : Int) : Nat × Nat :=
  if 0 ≤ e then (num, den * Nat.pow 2 e.toNat) else (num * Nat.pow 2 (-e).toNat, den)

/-- The nearest value, ties to the even mantissa; `none` when it is too large to be finite. -/
def ofRatio (num den : Nat) : Option Binary64 :=
  if num = 0 then some zero
  else
    let estimate : Int := (Nat.log2 num : Int) - (Nat.log2 den : Int) - 52
    let scaled := inUnits num den estimate
    let e := if scaled.1 / scaled.2 < Nat.pow 2 52 then estimate - 1 else estimate
    let e := max e (-1074)
    let scaled := inUnits num den e
    let m := roundHalfEven scaled.1 scaled.2
    let x : Binary64 := if m = Nat.pow 2 53 then ⟨Nat.pow 2 52, e + 1⟩ else ⟨m, e⟩
    if 971 < x.exponent then none else some x

/-- The rounded product. -/
def mul (x y : Binary64) : Option Binary64 :=
  let a := x.toRatio
  let b := y.toRatio
  ofRatio (a.1 * b.1) (a.2 * b.2)

/-- The rounded quotient. -/
def div (x y : Binary64) : Option Binary64 :=
  let a := x.toRatio
  let b := y.toRatio
  ofRatio (a.1 * b.2) (a.2 * b.1)

/-- `10 ^ k`, rounded. -/
def powerOfTen (k : Nat) : Binary64 := (ofRatio (Nat.pow 10 k) 1).getD zero

/-- Divides by `10 ^ k`, in steps of at most `10 ^ 308`, and stops once the value is zero. -/
def divPower : Nat → Binary64 → Nat → Option Binary64
  | 0, x, _ => some x
  | steps + 1, x, k =>
    if k ≤ 308 then div x (powerOfTen k)
    else if x.mantissa = 0 then some x
    else (div x (powerOfTen 308)).bind fun y => divPower steps y (k - 308)

/-- `significand * 10 ^ exponent`, rounded after each operation: first the significand, then the
product or quotient with a rounded power of ten. `none` when it is too large. -/
def ofParts (significand : Nat) (exponent : Int) : Option Binary64 := do
  let x ← ofRatio significand 1
  if exponent < 0 then divPower 4 x (-exponent).toNat
  else if exponent ≤ 308 then mul x (powerOfTen exponent.toNat)
  else if x.mantissa = 0 then some x
  else none

end Binary64

end Autoformat.Decimal
