import Autoformat.Rehearsal.Url.Composite

/-!
# Composition

Many characters can be written in more than one way: as one character, or as a base with marks, whose order
may not matter. `Text.compose` brings a text into Normalization Form C of the Unicode standard: all
characters are taken apart, marks are put in order, and what can be one character becomes one.
-/

namespace Autoformat.Text

/-! ## Hangul -/

/-- The syllable of a leading consonant and a vowel, or of such a syllable and a trailing consonant. -/
def syllable? (a b : Char) : Option Char :=
  let (m, n) := (a.toNat, b.toNat)
  if 0x1100 ≤ m && m < 0x1113 && 0x1161 ≤ n && n < 0x1176 then
    some (Char.ofNat (0xAC00 + ((m - 0x1100) * 21 + (n - 0x1161)) * 28))
  else if 0xAC00 ≤ m && m < 0xD7A4 && (m - 0xAC00) % 28 = 0 && 0x11A7 < n && n < 0x11C3 then
    some (Char.ofNat (m + (n - 0x11A7)))
  else none

/-- The consonants and the vowel of a syllable. -/
def jamo? (c : Char) : Option (List Char) :=
  let n := c.toNat - 0xAC00
  if 0xAC00 ≤ c.toNat && c.toNat < 0xD7A4 then
    let start := [Char.ofNat (0x1100 + n / 588), Char.ofNat (0x1161 + n % 588 / 28)]
    some (if n % 28 = 0 then start else start ++ [Char.ofNat (0x11A7 + n % 28)])
  else none

/-! ## Taking apart -/

/-- The parts of a character. -/
def decompose (c : Char) : List Char :=
  if c.toNat < 0x80 then [c] else ((jamo? c).orElse fun _ => composites.find? c).getD [c]

/-- A character at the end of a reversed text. It passes marks of greater classes. -/
def insertMark (c : Char) : List Char → List Char
  | [] => [c]
  | d :: ds =>
    if orderClass c ≠ 0 && orderClass c < orderClass d then d :: insertMark c ds else c :: d :: ds

/-- A text whose characters are taken apart and whose marks are in order. -/
def decomposed (cs : List Char) : List Char :=
  ((cs.flatMap decompose).foldl (fun done c => insertMark c done) []).reverse

/-! ## Putting together -/

/-- The character that two characters become. -/
def pair? (a b : Char) : Option Char :=
  if b.toNat < 0x80 then none
  else (syllable? a b).orElse fun _ => composites.source? (decompose a ++ [b])

/-- A text that is put together. -/
structure Composing where
  /-- What stands before the base, the last character first. -/
  done : List Char := []
  base : Option Char := none
  /-- The marks behind the base that it could not take, the last one first. -/
  marks : List Char := []

/-- The text so far, the last character first. -/
def Composing.all (k : Composing) : List Char := k.marks ++ k.base.toList ++ k.done

/-- The next character: the base takes it, unless a mark between them is in its way. -/
def Composing.add (k : Composing) (c : Char) : Composing :=
  let isFree := k.marks.head?.all fun m => orderClass m < orderClass c
  match if isFree then k.base.bind fun b => pair? b c else none with
  | some b => { k with base := some b }
  | none => if orderClass c = 0 then ⟨k.all, some c, []⟩ else { k with marks := c :: k.marks }

/-- A text in Normalization Form C. -/
def compose (cs : List Char) : List Char :=
  if cs.all fun c => c.toNat < 0x300 then cs
  else ((decomposed cs).foldl Composing.add {}).all.reverse

end Autoformat.Text
