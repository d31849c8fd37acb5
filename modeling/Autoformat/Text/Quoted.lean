import Autoformat.Text.Printable

/-!
# Quoted text

`Text.quoted` writes a text between double quotes for a message: the usual short escapes, and
`\u{..}` for what would not be seen.
-/

namespace Autoformat.Text

/-- `\u{..}` with the code point in lower-case hexadecimal. -/
def unicodeEscape (c : Char) : List Char :=
  ['\\', 'u', '\x7b'] ++ Nat.toDigits 16 c.toNat ++ ['\x7d']

/-- How one character stands in a quoted text. -/
def quotedChar (c : Char) : List Char :=
  match c with
  | '\x00' => ['\\', '0']
  | '\t' => ['\\', 't']
  | '\n' => ['\\', 'n']
  | '\r' => ['\\', 'r']
  | '"' => ['\\', '"']
  | '\\' => ['\\', '\\']
  | c => if isGraphemeExtend c || !isPrintable c then unicodeEscape c else [c]

/-- A text in double quotes, with escapes. -/
def quoted (s : String) : String :=
  String.ofList (['"'] ++ s.toList.flatMap quotedChar ++ ['"'])

end Autoformat.Text
