import Autoformat.Decimal.Binary64

/-!
# The shortest decimal that reads back

`Binary64.shortest` finds, for a value above zero, the fewest digits whose decimal rounds to that
value, and of those the nearest. `Binary64.text` writes it: positional while the leading digit stands
between the fifth place after the point and the sixteenth before it, with an exponent otherwise.
-/

namespace Autoformat.Decimal

/-- `digits * 10 ^ exponent`. -/
structure Scientific where
  digits : Nat
  exponent : Int
  deriving DecidableEq, Repr

/-- The same number without zeros at the end of its digits. -/
def Scientific.trimZeros : Nat → Scientific → Scientific
  | 0, x => x
  | n + 1, x =>
    if x.digits % 10 = 0 ∧ x.digits ≠ 0 then trimZeros n ⟨x.digits / 10, x.exponent + 1⟩ else x

namespace Binary64

/-- The ratio `num / den` in units of `10 ^ e`, again as a ratio. -/
def inTens (num den : Nat) (e : Int) : Nat × Nat :=
  if 0 ≤ e then (num, den * Nat.pow 10 e.toNat) else (num * Nat.pow 10 (-e).toNat, den)

/-- The place of the leading decimal digit of `num / den`, searched downwards from `e`. -/
def leadingPlace (num den : Nat) : Nat → Int → Int
  | 0, e => e
  | n + 1, e =>
    let r := inTens num den e
    if r.2 ≤ r.1 then e else leadingPlace num den n (e - 1)

/-- Twice the distances to the two neighbours bound the decimals that round to the value: the bounds
in quarters of a unit of the mantissa. -/
def bounds (x : Binary64) : Nat × Nat :=
  let low := if x.mantissa = Nat.pow 2 52 ∧ -1074 < x.exponent then 1 else 2
  (4 * x.mantissa - low, 4 * x.mantissa + 2)

/-- The decimal `digits * 10 ^ place` rounds to the value. -/
def readsBack (x : Binary64) (digits : Nat) (place : Int) : Bool :=
  let b := x.bounds
  let unit : Binary64 := ⟨1, x.exponent - 2⟩
  let u := unit.toRatio
  -- `digits * 10 ^ place` over the unit, as a ratio
  let num := if 0 ≤ place then digits * Nat.pow 10 place.toNat * u.2 else digits * u.2
  let den := if 0 ≤ place then u.1 else u.1 * Nat.pow 10 (-place).toNat
  if x.mantissa % 2 = 0 then b.1 * den ≤ num && num ≤ b.2 * den
  else b.1 * den < num && num < b.2 * den

/-- Tries decimals of more and more digits; on each grid only the two neighbours of the value can be
nearest. -/
def searchShortest (x : Binary64) (lead : Int) : Nat → Nat → Scientific
  | 0, _ => ⟨0, 0⟩
  | tries + 1, count =>
    let place := lead + 1 - count
    let r := x.toRatio
    let s := inTens r.1 r.2 place
    let below := s.1 / s.2
    let distance := s.1 % s.2
    let lower := readsBack x below place
    let upper := readsBack x (below + 1) place
    if lower && upper then
      let takeLower := 2 * distance < s.2 || (2 * distance = s.2 && below % 2 = 0)
      ⟨if takeLower then below else below + 1, place⟩
    else if lower then ⟨below, place⟩
    else if upper then ⟨below + 1, place⟩
    else searchShortest x lead tries (count + 1)

/-- The fewest digits that read back as the value, which is not zero. -/
def shortest (x : Binary64) : Scientific :=
  let r := x.toRatio
  let lead := leadingPlace r.1 r.2 640 310
  Scientific.trimZeros 20 (searchShortest x lead 17 1)

/-- The value in decimal. -/
def text (negative : Bool) (x : Binary64) : String :=
  let sign := if negative then "-" else ""
  if x.mantissa = 0 then sign ++ "0.0"
  else
    let d := shortest x
    let ds := Nat.toDigits 10 d.digits
    let lead := (ds.length : Int) + d.exponent - 1
    let zeros (n : Int) : List Char := List.replicate n.toNat '0'
    let body : List Char :=
      if -5 ≤ lead ∧ lead ≤ 15 then
        if lead < 0 then ['0', '.'] ++ zeros (-lead - 1) ++ ds
        else if 0 ≤ d.exponent then ds ++ zeros d.exponent ++ ['.', '0']
        else ds.take (lead + 1).toNat ++ ['.'] ++ ds.drop (lead + 1).toNat
      else
        let fraction := if ds.length = 1 then [] else '.' :: ds.drop 1
        let size := Nat.toDigits 10 lead.natAbs
        ds.take 1 ++ fraction ++ ['e', if lead < 0 then '-' else '+'] ++ size
    sign ++ String.ofList body

end Binary64

end Autoformat.Decimal
