import Autoformat.Rehearsal.Url.Mark

/-!
# Directions of writing

Each character has a `Direction`, its class in the bidirectional algorithm of the Unicode standard.
`Direction.isSteady` is the rule for parts of names: a part goes from left to right or from right to left,
begins and ends with characters of its direction, and holds none of the other.
-/

namespace Autoformat.Text

/-- What a character means for the direction of a text. -/
inductive Direction where
  | left
  | right
  /-- Goes from right to left, and is Arabic. -/
  | arabic
  | digit
  | arabicDigit
  /-- A plus or minus sign. -/
  | sign
  /-- Stands between digits. -/
  | separator
  /-- Stands beside a number, as currencies do. -/
  | unit
  /-- Goes with the character before it. -/
  | mark
  | neutral
  | boundary
  deriving DecidableEq, Repr

namespace Direction

/-- Directions of code points outside of ASCII that go from left to right by no rule. Ranges reach over
marks and over characters that names never hold. -/
def ranges : List (Nat × Nat × Direction) := [
    (0xA1, 0xA1, .neutral), (0xA2, 0xA5, .unit), (0xA6, 0xAE, .neutral), (0xB0, 0xB1, .unit),
    (0xB6, 0xD7, .neutral), (0xF7, 0xF7, .neutral), (0x2B9, 0x2BA, .neutral),
    (0x2C2, 0x2CF, .neutral), (0x2D2, 0x2ED, .neutral), (0x2EF, 0x2FF, .neutral),
    (0x375, 0x375, .neutral), (0x3F6, 0x3F6, .neutral), (0x58A, 0x58E, .neutral),
    (0x58F, 0x58F, .unit), (0x5BE, 0x5F4, .right), (0x606, 0x607, .neutral),
    (0x608, 0x608, .arabic), (0x609, 0x60A, .unit), (0x60B, 0x60B, .arabic),
    (0x60C, 0x60C, .separator), (0x60D, 0x60D, .arabic), (0x60E, 0x60F, .neutral),
    (0x61B, 0x64A, .arabic), (0x660, 0x669, .arabicDigit), (0x66A, 0x66A, .unit),
    (0x66B, 0x66C, .arabicDigit), (0x66D, 0x6D5, .arabic), (0x6DE, 0x6DE, .neutral),
    (0x6E5, 0x6E6, .arabic), (0x6E9, 0x6E9, .neutral), (0x6EE, 0x6EF, .arabic),
    (0x6F0, 0x6F9, .digit), (0x6FA, 0x7B1, .arabic), (0x7C0, 0x7F5, .right),
    (0x7F6, 0x7F9, .neutral), (0x7FA, 0x85E, .right), (0x860, 0x8C9, .arabic),
    (0x9F2, 0x9F3, .unit), (0x9FB, 0x9FB, .unit), (0xAF1, 0xAF1, .unit), (0xBF3, 0xBF8, .neutral),
    (0xBF9, 0xBF9, .unit), (0xBFA, 0xBFA, .neutral), (0xC78, 0xC7E, .neutral),
    (0xE3F, 0xE3F, .unit), (0xF3A, 0xF3D, .neutral), (0x1390, 0x1399, .neutral),
    (0x1400, 0x1400, .neutral), (0x169B, 0x169C, .neutral), (0x17DB, 0x17DB, .unit),
    (0x17F0, 0x180A, .neutral), (0x1940, 0x1945, .neutral), (0x19DE, 0x19FF, .neutral),
    (0x200C, 0x200D, .boundary), (0x2010, 0x2027, .neutral), (0x2030, 0x2032, .unit),
    (0x2035, 0x2043, .neutral), (0x2044, 0x2044, .separator), (0x2045, 0x205E, .neutral),
    (0x20A0, 0x20C1, .unit), (0x2104, 0x2129, .neutral), (0x212E, 0x212E, .unit),
    (0x213A, 0x214D, .neutral), (0x218A, 0x2211, .neutral), (0x2212, 0x2212, .sign),
    (0x2213, 0x2213, .unit), (0x2214, 0x2335, .neutral), (0x237B, 0x2394, .neutral),
    (0x2396, 0x26AB, .neutral), (0x26AD, 0x27FF, .neutral), (0x2900, 0x2BFF, .neutral),
    (0x2CE5, 0x2CEA, .neutral), (0x2CF9, 0x2CFF, .neutral), (0x2E00, 0x3004, .neutral),
    (0x3008, 0x3020, .neutral), (0x3030, 0x3030, .neutral), (0x3037, 0x3037, .neutral),
    (0x303D, 0x303F, .neutral), (0x30A0, 0x30A0, .neutral), (0x30FB, 0x30FB, .neutral),
    (0x31C0, 0x31E5, .neutral), (0x4DC0, 0x4DFF, .neutral), (0xA490, 0xA4C6, .neutral),
    (0xA60D, 0xA60F, .neutral), (0xA673, 0xA67F, .neutral), (0xA700, 0xA721, .neutral),
    (0xA788, 0xA788, .neutral), (0xA828, 0xA82B, .neutral), (0xA838, 0xA839, .unit),
    (0xA874, 0xA877, .neutral), (0xAB6A, 0xAB6B, .neutral), (0xFBB2, 0xFBC2, .arabic),
    (0xFBC3, 0xFE46, .neutral), (0xFE73, 0xFE73, .arabic), (0x10101, 0x10101, .neutral),
    (0x10140, 0x1018C, .neutral), (0x10190, 0x101A0, .neutral), (0x102E1, 0x102FB, .digit),
    (0x10800, 0x1091B, .right), (0x1091F, 0x1091F, .neutral), (0x10920, 0x10B35, .right),
    (0x10B39, 0x10B3F, .neutral), (0x10B40, 0x10CFF, .right), (0x10D00, 0x10D23, .arabic),
    (0x10D30, 0x10D39, .arabicDigit), (0x10D40, 0x10D4F, .right), (0x10D6E, 0x10D6E, .neutral),
    (0x10D6F, 0x10D8F, .right), (0x10E60, 0x10E7E, .arabicDigit), (0x10E80, 0x10EB1, .right),
    (0x10EC2, 0x10EC7, .arabic), (0x10ED0, 0x10ED8, .neutral), (0x10F00, 0x10F27, .right),
    (0x10F30, 0x10F59, .arabic), (0x10F70, 0x10FF6, .right), (0x11052, 0x11065, .neutral),
    (0x11660, 0x1166C, .neutral), (0x11FD5, 0x11FDC, .neutral), (0x11FDD, 0x11FE0, .unit),
    (0x11FE1, 0x11FF1, .neutral), (0x16FE2, 0x16FE2, .neutral), (0x1CC00, 0x1CEF0, .neutral),
    (0x1D1E9, 0x1D245, .neutral), (0x1D300, 0x1D356, .neutral), (0x1E2FF, 0x1E2FF, .unit),
    (0x1E800, 0x1E95F, .right), (0x1EC71, 0x1ED3D, .arabic), (0x1EEF0, 0x1F12F, .neutral),
    (0x1F16D, 0x1F16F, .neutral), (0x1F1AD, 0x1F1AD, .neutral), (0x1F260, 0x1FBFA, .neutral)]

/-- The marks that take no room and yet go from left to right. -/
def leftMarks : List Nat := [0xCBF, 0xCC6, 0x11A07, 0x11A08, 0x11C3F]

/-- The direction of a character of ASCII. -/
def ofPlain (c : Char) : Direction :=
  if c.isAlpha then .left
  else if c.isDigit then .digit
  else if c = '+' || c = '-' then .sign
  else if [',', '.', '/', ':'].contains c then .separator
  else if ['#', '$', '%'].contains c then .unit
  else .neutral

/-- The direction of a character. -/
def of (c : Char) : Direction :=
  if c.toNat < 0x80 then ofPlain c
  else if leftMarks.contains c.toNat then .left
  else if isNonspacing c then .mark
  else ((ranges.find? fun r => r.1 ≤ c.toNat && c.toNat ≤ r.2.1).map fun r => r.2.2).getD .left

/-- Goes from right to left. -/
def isRight : Direction → Bool
  | .right | .arabic => true
  | _ => false

/-- Only texts with a part from right to left have it. -/
def turns : Direction → Bool
  | .right | .arabic | .arabicDigit => true
  | _ => false

/-- The characters of a part have directions that go together. An empty part is fine. -/
def isSteady (cs : List Char) : Bool :=
  let ds := cs.map of
  match ds, (ds.reverse.dropWhile (· = .mark)).head? with
  | [], _ => true
  | .left :: _, last => !ds.any turns && (last = some .left || last = some .digit)
  | first :: _, last =>
    first.isRight && ds.all (· ≠ .left) && !(ds.contains .digit && ds.contains .arabicDigit) &&
      last.any fun d => d.turns || d = .digit

end Direction

end Autoformat.Text
