import Autoformat.Rehearsal.Url.Folds
import Autoformat.Rehearsal.Url.Composition
import Autoformat.Rehearsal.Url.Joining
import Autoformat.Rehearsal.Url.Punycode

/-!
# Parts of names

A name of a host consists of labels between dots. `Host.fold?` gives a character the form that it has in
names, `Host.label?` reads a label, which may be written in Punycode, and says whether it is one, and
`Host.labelText` writes a label in ASCII.
-/

namespace Autoformat.Host

/-! ## Characters -/

/-- Code points that are left out of a name. -/
def ignoredRanges : List (Nat × Nat) := [
    (0xAD, 0xAD), (0x34F, 0x34F), (0x115F, 0x1160), (0x17B4, 0x17B5), (0x180B, 0x180F),
    (0x200B, 0x200B), (0x2060, 0x2064), (0x206A, 0x206F), (0x3164, 0x3164), (0xFE00, 0xFE0F),
    (0xFEFF, 0xFEFF), (0xFFA0, 0xFFA0), (0x1BCA0, 0x1BCA3), (0x1D173, 0x1D17A), (0xE0100, 0xE01EF)]

/-- Code points with a glyph that no name may hold: forms that would bring in dots, descriptions of
ideographs, and replacement characters. -/
def refusedRanges : List (Nat × Nat) := [
    (0x2024, 0x2026), (0x2488, 0x249B), (0x2FF0, 0x2FFF), (0x31EF, 0x31EF), (0x33C2, 0x33C2),
    (0x33C7, 0x33C7), (0x33D8, 0x33D8), (0xFE12, 0xFE12), (0xFE19, 0xFE19), (0xFE30, 0xFE30),
    (0xFE52, 0xFE52), (0xFFFC, 0xFFFD), (0x1F100, 0x1F100)]

/-- Joins the characters beside it, or keeps them apart. -/
def isJoiner (c : Char) : Bool := c.toNat = 0x200C || c.toNat = 0x200D

/-- What a character becomes in a name; some may not stand in one. -/
def fold? (c : Char) : Option (List Char) :=
  if c.toNat < 0x80 then some [c.toLower]
  else if Text.inRanges ignoredRanges c.toNat then some []
  else
    match folds.find? c with
    | some cs => some cs
    | none =>
      if isJoiner c || (Text.isPrintable c && !Text.inRanges refusedRanges c.toNat) then some [c] else none

/-- A text that folding and composing leave as it is. -/
def isFolded (cs : List Char) : Bool :=
  cs.all (fun c => fold? c = some [c]) && Text.compose cs = cs

/-! ## Labels -/

/-- The start of labels that are written in Punycode. -/
def codeMark : List Char := ['x', 'n', '-', '-']

/-- A joiner fits between what stands before it, the last character first, and what stands after it. Both
joiners follow signs that take away a vowel; the one that keeps letters apart may stand between letters
that would be joined. -/
def joinerFits (joiner : Char) (before after : List Char) : Bool :=
  before.head?.any (fun c => Text.orderClass c = 9) ||
    (joiner.toNat = 0x200C && (before.find? fun c => !Text.isTransparent c).any Text.joinsNext &&
      (after.find? fun c => !Text.isTransparent c).any Text.joinsPrevious)

/-- All joiners fit where they stand. -/
def joinersFit (before : List Char) : List Char → Bool
  | [] => true
  | c :: cs => (!isJoiner c || joinerFits c before cs) && joinersFit (c :: before) cs

/-- A text that stands in Punycode: it has characters outside of ASCII, and could not be written in another
way. -/
def decodedLabel? (cs : List Char) : Option (List Char) := do
  guard (cs.length ≤ 2000)
  let label ← Punycode.decode? cs
  guard (!label.all Punycode.isPlain && !codeMark.isPrefixOf label && isFolded label)
  pure label

/-- The label that folded characters write. A label outside of ASCII does not begin with a mark, has its
joiners in place, and has at most a thousand characters. -/
def label? (cs : List Char) : Option (List Char) := do
  let label ←
    if !codeMark.isPrefixOf cs then some cs
    else if cs.all Punycode.isPlain then decodedLabel? (cs.drop codeMark.length)
    else none
  guard (label.all Punycode.isPlain ||
    (!label.head?.any Text.isMark && joinersFit [] label && label.length ≤ 1000))
  pure label

/-- A label in ASCII. -/
def labelText (label : List Char) : List Char :=
  if label.all Punycode.isPlain then label else codeMark ++ Punycode.encode label

end Autoformat.Host
