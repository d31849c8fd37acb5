/-!
# Blank characters

`Text.isBlank` is the Unicode property `White_Space`, and `Text.trim` takes such characters off both
ends of a text.
-/

namespace Autoformat.Text

/-- The characters with the Unicode property `White_Space`. -/
def isBlank (c : Char) : Bool :=
  let n := c.toNat
  (9 ≤ n && n ≤ 13) || n == 0x20 || n == 0x85 || n == 0xA0 || n == 0x1680 ||
    (0x2000 ≤ n && n ≤ 0x200A) || n == 0x2028 || n == 0x2029 || n == 0x202F || n == 0x205F ||
    n == 0x3000

/-- A list of characters without the blank ones at its ends. -/
def trimChars (cs : List Char) : List Char :=
  (((cs.dropWhile isBlank).reverse).dropWhile isBlank).reverse

/-- A text without the blank characters at its ends. -/
def trim (s : String) : String := String.ofList (trimChars s.toList)

end Autoformat.Text
