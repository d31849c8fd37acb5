/-!
# JSON values and how they are written

`Json` is what the bot writes: whole numbers only, and objects as lists of members, in the order in
which they are written.

`Json.render` writes a value without any blank, and `Json.pretty` over several lines with two more
blanks for each level. Both write a text in the same way (`Json.quote`): short escapes where JSON has
them, `\u00xx` for the other control characters, and every other character as it is.
-/

namespace Autoformat

/-- A JSON value. -/
inductive Json where
  | null
  | bool (b : Bool)
  | number (n : Int)
  | string (s : String)
  | array (items : List Json)
  | object (members : List (String × Json))
  deriving Inhabited, Repr

namespace Json

/-- A whole number that is not negative. -/
def nat (n : Nat) : Json := .number n

/-- A 64-bit number. -/
def word (n : UInt64) : Json := .number n.toNat

/-- `null` for nothing. -/
def optional {α : Type} (encode : α → Json) : Option α → Json
  | none => .null
  | some a => encode a

/-- How one character stands in a quoted text. -/
def escape (c : Char) : List Char :=
  match c with
  | '"' => ['\\', '"']
  | '\\' => ['\\', '\\']
  | '\x08' => ['\\', 'b']
  | '\x0c' => ['\\', 'f']
  | '\n' => ['\\', 'n']
  | '\r' => ['\\', 'r']
  | '\t' => ['\\', 't']
  | c =>
    if c.toNat < 0x20 then
      ['\\', 'u', '0', '0', Nat.digitChar (c.toNat / 0x10), Nat.digitChar (c.toNat % 0x10)]
    else [c]

/-- A text between quotes. -/
def quote (s : String) : List Char := '"' :: (s.toList.flatMap escape ++ ['"'])

/-- A whole number in decimal. -/
def digits (n : Int) : List Char :=
  match n with
  | .ofNat n => Nat.toDigits 10 n
  | .negSucc n => '-' :: Nat.toDigits 10 (n + 1)

mutual

/-- The characters of a value, without blanks. -/
def render : Json → List Char
  | .null => ['n', 'u', 'l', 'l']
  | .bool true => ['t', 'r', 'u', 'e']
  | .bool false => ['f', 'a', 'l', 's', 'e']
  | .number n => digits n
  | .string s => quote s
  | .array items => '[' :: (renderItems items ++ [']'])
  | .object members => '\x7b' :: (renderMembers members ++ ['\x7d'])

/-- Items with commas between them. -/
def renderItems : List Json → List Char
  | [] => []
  | [x] => render x
  | x :: y :: rest => render x ++ ',' :: renderItems (y :: rest)

/-- Members with commas between them. -/
def renderMembers : List (String × Json) → List Char
  | [] => []
  | [(key, x)] => quote key ++ ':' :: render x
  | (key, x) :: y :: rest => quote key ++ ':' :: (render x ++ ',' :: renderMembers (y :: rest))

end

/-- The text of a value, without blanks. -/
def compact (j : Json) : String := String.ofList j.render

/-- A line break and the blanks of a level. -/
def newline (level : Nat) : List Char := '\n' :: List.replicate (2 * level) ' '

mutual

/-- The characters of a value whose first line stands at the given level. -/
def renderLines (level : Nat) : Json → List Char
  | .array (x :: rest) =>
    '[' :: (itemLines (level + 1) (x :: rest) ++ newline level ++ [']'])
  | .object (x :: rest) =>
    '\x7b' :: (memberLines (level + 1) (x :: rest) ++ newline level ++ ['\x7d'])
  | .array [] => ['[', ']']
  | .object [] => ['\x7b', '\x7d']
  | .null => ['n', 'u', 'l', 'l']
  | .bool true => ['t', 'r', 'u', 'e']
  | .bool false => ['f', 'a', 'l', 's', 'e']
  | .number n => digits n
  | .string s => quote s

/-- Items, each on a line of its own. -/
def itemLines (level : Nat) : List Json → List Char
  | [] => []
  | [x] => newline level ++ renderLines level x
  | x :: y :: rest => newline level ++ renderLines level x ++ ',' :: itemLines level (y :: rest)

/-- Members, each on a line of its own. -/
def memberLines (level : Nat) : List (String × Json) → List Char
  | [] => []
  | [(key, x)] => newline level ++ quote key ++ [':', ' '] ++ renderLines level x
  | (key, x) :: y :: rest =>
    newline level ++ quote key ++ [':', ' '] ++ renderLines level x ++
      ',' :: memberLines level (y :: rest)

end

/-- The text of a value over several lines. -/
def pretty (j : Json) : String := String.ofList (renderLines 0 j)

end Json

end Autoformat
