/-!
# Decimal digits

`ofDigits` is the number that decimal digits write, and `word?` reads a whole number of 64 bits.
-/

namespace Autoformat.Decimal

/-- The value of a decimal digit. -/
def digitValue (c : Char) : Nat := c.toNat - '0'.toNat

/-- Decimal digits as a number. -/
def ofDigits (ds : List Char) : Nat := ds.foldl (fun n c => 10 * n + digitValue c) 0

/-- A number without its plus sign, if it has one. -/
def dropPlus : List Char → List Char
  | '+' :: cs => cs
  | cs => cs

/-- A whole number below `2 ^ 64`: decimal digits, with or without a plus sign. -/
def word? (cs : List Char) : Option UInt64 :=
  let ds := dropPlus cs
  let n := ofDigits ds
  if !ds.isEmpty && ds.all Char.isDigit && n < UInt64.size then some (UInt64.ofNat n) else none

end Autoformat.Decimal
