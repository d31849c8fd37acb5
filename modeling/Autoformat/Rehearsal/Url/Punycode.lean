/-!
# Punycode

`Punycode.encode` writes a text in ASCII letters, digits and hyphens, as names of hosts need it: the ASCII
characters come first, and the others follow in the order of their code points, each as the number of
places that a cursor passes over before it meets the character. The numbers are written in digits of base
36 whose weights follow the size of the numbers before. `Punycode.decode?` reads such a text, and puts the
characters back into their places.
-/

namespace Autoformat.Punycode

/-- The digits are the letters, and after them the decimal digits. -/
def digitChar (d : Nat) : Char :=
  if d < 26 then Char.ofNat ('a'.toNat + d) else Char.ofNat ('0'.toNat + (d - 26))

/-- The least value of the digit at a position that another digit follows. -/
def threshold (bias position : Nat) : Nat :=
  if position ≤ bias then 1 else if bias + 26 ≤ position then 26 else position - bias

theorem threshold_pos (bias position : Nat) : 0 < threshold bias position := by
  unfold threshold
  split
  · exact Nat.zero_lt_one
  · split <;> omega

/-- The digits of a number from a position on. -/
def digits (bias position n : Nat) : List Char :=
  let t := threshold bias position
  if h : n < t then [digitChar n]
  else
    have : (n - t) / (36 - t) < n := by
      have := threshold_pos bias position
      exact Nat.lt_of_le_of_lt (Nat.div_le_self _ _) (by omega)
    digitChar (t + (n - t) % (36 - t)) :: digits bias (position + 36) ((n - t) / (36 - t))
termination_by n

/-- The bias for numbers of a size. -/
def biasOf (size : Nat) : Nat :=
  if h : 455 < size then 36 + biasOf (size / 35) else 36 * size / (size + 38)
termination_by size

/-- Where the cursor stands. -/
structure Cursor where
  /-- The places passed over since the last character that was written. -/
  passed : Nat
  bias : Nat
  /-- The characters written. -/
  count : Nat
  out : List Char

/-- The bias after a number is written. The first number says little about the next ones. -/
def Cursor.nextBias (k : Cursor) (plain : Nat) : Nat :=
  let size := if k.count = plain then k.passed / 700 else k.passed / 2
  biasOf (size + size / (k.count + 1))

/-- The cursor meets a character on its round for the code point `m`. -/
def Cursor.meet (plain m : Nat) (k : Cursor) (c : Char) : Cursor :=
  if c.toNat < m then { k with passed := k.passed + 1 }
  else if c.toNat = m then
    ⟨0, k.nextBias plain, k.count + 1, k.out ++ digits k.bias 36 k.passed⟩
  else k

/-- The rounds of the cursor for code points in rising order, the first of them at least `n`. -/
def Cursor.rounds (cs : List Char) (plain : Nat) : Nat → Cursor → List Nat → Cursor
  | _, k, [] => k
  | n, k, m :: ms =>
    let k := { k with passed := k.passed + (m - n) * (k.count + 1) }
    let k := cs.foldl (Cursor.meet plain m) k
    Cursor.rounds cs plain (m + 1) { k with passed := k.passed + 1 } ms

/-- A character of ASCII. -/
def isPlain (c : Char) : Bool := c.toNat < 0x80

/-- A text in ASCII. -/
def encode (cs : List Char) : List Char :=
  let plain := cs.filter isPlain
  let others := ((cs.filter fun c => !isPlain c).map Char.toNat).mergeSort
  let k := Cursor.rounds cs plain.length 0x80 ⟨0, 72, plain.length, []⟩ others.eraseReps
  plain ++ (if plain.isEmpty then [] else ['-']) ++ k.out

/-! ## Reading -/

/-- The value of a digit; letters may be capitals. -/
def digit? (c : Char) : Option Nat :=
  if 'a' ≤ c ∧ c ≤ 'z' then some (c.toNat - 'a'.toNat)
  else if 'A' ≤ c ∧ c ≤ 'Z' then some (c.toNat - 'A'.toNat)
  else if c.isDigit then some (c.toNat - '0'.toNat + 26)
  else none

/-- How far a text has been read. -/
structure Reader where
  text : List Char
  /-- The code point of the round. -/
  code : Nat := 0x80
  /-- The place of the cursor in the text. -/
  place : Nat := 0
  bias : Nat := 72
  isFirst : Bool := true
  /-- The number whose digits are read, and the position and the weight of the next one. -/
  number : Nat := 0
  position : Nat := 36
  weight : Nat := 1

/-- The number is complete: the cursor passes over its places, and a character is put in where it stands. -/
def Reader.insert (r : Reader) : Option Reader :=
  let count := r.text.length + 1
  let place := r.place + r.number
  let code := r.code + place / count
  let place := place % count
  let size := if r.isFirst then r.number / 700 else r.number / 2
  if code < 0xD800 ∨ 0xDFFF < code ∧ code < 0x110000 then
    some {
      text := r.text.take place ++ Char.ofNat code :: r.text.drop place
      code := code
      place := place + 1
      bias := biasOf (size + size / count)
      isFirst := false }
  else none

/-- Reads a digit. -/
def Reader.add (r : Reader) (c : Char) : Option Reader := do
  let d ← digit? c
  let t := threshold r.bias r.position
  let r := { r with number := r.number + d * r.weight }
  if d < t then r.insert
  else some { r with position := r.position + 36, weight := r.weight * (36 - t) }

/-- The text that another one in ASCII stands for. -/
def decode? (cs : List Char) : Option (List Char) := do
  let digits := (cs.reverse.takeWhile (· ≠ '-')).reverse
  let plain := cs.take (cs.length - digits.length - 1)
  let r ← (if plain.isEmpty then cs else digits).foldlM Reader.add { text := plain }
  if r.position = 36 then some r.text else none

end Autoformat.Punycode
