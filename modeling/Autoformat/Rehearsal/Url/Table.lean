/-!
# Tables of characters

A `Table` gives characters texts of their own, as standards do for the other forms of a letter or for the
parts of a composite one. A table is written down in words, and `Table.ofLines` reads them: `@C0` goes to
the character U+00C0, and each word after it gives the next character a text, `61` the text `a` and
`41+300` a text of two characters. `61*26` gives 26 characters the letters from `a` on, `101~24` gives the
first of each of 24 pairs its second one, when the first of these is U+0101, and `-` passes over a
character that has no text.
-/

namespace Autoformat.Text

/-- Characters at equal distances, with texts. -/
structure Run where
  first : Nat
  count : Nat
  step : Nat
  /-- The text of the first character. When there are more of them, the texts of the others lie at the same
  distances. -/
  text : List Nat
  deriving DecidableEq, Repr

/-- The text that a run gives a character. -/
def Run.find? (r : Run) (c : Char) : Option (List Char) :=
  let distance := c.toNat - r.first
  if r.first ≤ c.toNat && distance < r.count * r.step && distance % r.step = 0 then
    some (r.text.map fun n => Char.ofNat (n + distance))
  else none

/-- The character to which a run gives a text. -/
def Run.source? (r : Run) (text : List Char) : Option Char :=
  match text, r.text with
  | c :: _, n :: _ =>
    let source := Char.ofNat (r.first + (c.toNat - n))
    if r.find? source = some text then some source else none
  | _, _ => none

/-- Texts for characters. -/
structure Table where
  runs : List Run
  deriving DecidableEq, Repr

namespace Table

/-- The text of a character. -/
def find? (t : Table) (c : Char) : Option (List Char) := t.runs.findSome? fun r => r.find? c

/-- The character that has a text. -/
def source? (t : Table) (text : List Char) : Option Char := t.runs.findSome? fun r => r.source? text

/-! ## Reading -/

/-- The number that digits of a base write. Hexadecimal digits are capitals. -/
def numberIn (base : Nat) (ds : List Char) : Nat :=
  ds.foldl (fun n d => base * n + if d.isDigit then d.toNat - '0'.toNat else d.toNat - 'A'.toNat + 10) 0

/-- How far a table has been read. -/
structure Reading where
  /-- The character that the next word is about. -/
  next : Nat := 0
  /-- The runs that were read, the last one first. -/
  runs : List Run := []

/-- Adds a run, and goes on behind it. -/
def Reading.add (r : Reading) (count step : Nat) (text : List Nat) : Reading :=
  ⟨r.next + count * step, ⟨r.next, count, step, text⟩ :: r.runs⟩

/-- Reads a word. -/
def Reading.read (r : Reading) (word : List Char) : Reading :=
  match word with
  | ['-'] => { r with next := r.next + 1 }
  | '@' :: ds => { r with next := numberIn 16 ds }
  | ds =>
    let first := ds.takeWhile Char.isAlphanum
    match ds.drop first.length with
    | '*' :: count => r.add (numberIn 10 count) 1 [numberIn 16 first]
    | '~' :: count => r.add (numberIn 10 count) 2 [numberIn 16 first]
    | _ => r.add 1 1 (((String.ofList ds).splitOn "+").map fun part => numberIn 16 part.toList)

/-- The table that lines of words write down. -/
def ofLines (lines : List String) : Table :=
  let words := lines.flatMap fun line => (line.splitOn " ").map String.toList
  ⟨(words.foldl Reading.read {}).runs.reverse⟩

end Table

end Autoformat.Text
