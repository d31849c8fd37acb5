/-!
# Looking into and cutting texts

Plain, case-sensitive tests for one text at the start, at the end or anywhere inside another, and the
two ways the bot shortens a text.
-/

namespace Autoformat.Text

/-- `needle` stands somewhere in the list, without gaps. -/
def occursIn (needle : List Char) : List Char → Bool
  | [] => needle.isEmpty
  | c :: cs => needle.isPrefixOf (c :: cs) || occursIn needle cs

/-- `needle` stands somewhere in the text, without gaps. -/
def contains (text needle : String) : Bool := occursIn needle.toList text.toList

/-- The text begins with `start`. -/
def startsWith (text start : String) : Bool := start.toList.isPrefixOf text.toList

/-- The text ends with `ending`. -/
def endsWith (text ending : String) : Bool := ending.toList.isSuffixOf text.toList

/-- A text of at most `limit` characters is kept; of a longer one, the first `kept` characters and an
ellipsis remain. -/
def shorten (limit kept : Nat) (s : String) : String :=
  if s.toList.length ≤ limit then s else String.ofList (s.toList.take kept ++ ['.', '.', '.'])

/-- A text without the given character at its end, however often it stands there. -/
def dropTrailing (c : Char) (s : String) : String :=
  String.ofList (s.toList.reverse.dropWhile (· == c)).reverse

end Autoformat.Text
