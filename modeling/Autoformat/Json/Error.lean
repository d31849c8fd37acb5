import Autoformat.Text.Quoted

/-!
# What can be wrong with a JSON text

`SyntaxError` names the ways in which a text is not JSON, and `DecodeError` adds the ways in which JSON
is not the value that was asked for. The wording is in `DecodeError.message`. The line and the column at
which an error was found are left out of it: no decoder keeps track of its place in the text.
-/

namespace Autoformat.Json

/-- A text is not JSON. -/
inductive SyntaxError where
  | endInValue
  | endInList
  | endInObject
  | endInString
  | expectedColon
  | expectedListEnd
  | expectedObjectEnd
  | expectedIdent
  | expectedValue
  | invalidEscape
  | invalidNumber
  | numberOutOfRange
  | controlCharacter
  | keyMustBeString
  | loneSurrogate
  | trailingComma
  | trailingCharacters
  | unexpectedEndOfHexEscape
  | nestedTooDeep
  deriving DecidableEq, Repr

/-- The wording of a syntax error. -/
def SyntaxError.message : SyntaxError → String
  | .endInValue => "EOF while parsing a value"
  | .endInList => "EOF while parsing a list"
  | .endInObject => "EOF while parsing an object"
  | .endInString => "EOF while parsing a string"
  | .expectedColon => "expected `:`"
  | .expectedListEnd => "expected `,` or `]`"
  | .expectedObjectEnd => "expected `,` or `\x7d`"
  | .expectedIdent => "expected ident"
  | .expectedValue => "expected value"
  | .invalidEscape => "invalid escape"
  | .invalidNumber => "invalid number"
  | .numberOutOfRange => "number out of range"
  | .controlCharacter =>
    "control character (\\u0000-\\u001F) found while parsing a string"
  | .keyMustBeString => "key must be a string"
  | .loneSurrogate => "lone leading surrogate in hex escape"
  | .trailingComma => "trailing comma"
  | .trailingCharacters => "trailing characters"
  | .unexpectedEndOfHexEscape => "unexpected end of hex escape"
  | .nestedTooDeep => "recursion limit exceeded"

/-- What was found in place of the value that was asked for. -/
inductive Found where
  | null
  | bool (b : Bool)
  | integer (n : Int)
  | float (text : String)
  | string (s : String)
  | list
  | object
  deriving DecidableEq, Repr

/-- The words for what was found. -/
def Found.text : Found → String
  | .null => "null"
  | .bool true => "boolean `true`"
  | .bool false => "boolean `false`"
  | .integer n => s!"integer `{n}`"
  | .float text => s!"floating point `{text}`"
  | .string s => s!"string {Text.quoted s}"
  | .list => "sequence"
  | .object => "map"

/-- A text is not the value that was asked for. -/
inductive DecodeError where
  /-- The text is not JSON. -/
  | malformed (e : SyntaxError)
  /-- A member without a default is absent. -/
  | missingField (name : String)
  /-- A member stands twice in an object. -/
  | duplicateField (name : String)
  /-- A word is none of those allowed. -/
  | unknownVariant (found : String) (allowed : List String)
  /-- A value of another kind was found. -/
  | invalidType (found : Found) (expected : String)
  /-- A value of the right kind lies outside the range. -/
  | invalidValue (found : Found) (expected : String)
  /-- A list that stands for a record stops after so many of its fields. -/
  | invalidLength (found : Nat) (record : String) (size : Nat)
  /-- The value itself refuses what was read. -/
  | refused (reason : String)
  deriving DecidableEq, Repr

/-- The words allowed, for a message. -/
def allowedText : List String → String
  | [] => "there are no variants"
  | [a] => s!"expected `{a}`"
  | [a, b] => s!"expected `{a}` or `{b}`"
  | words => "expected one of " ++ ", ".intercalate (words.map fun w => s!"`{w}`")

/-- The wording of a decoding error. -/
def DecodeError.message : DecodeError → String
  | .malformed e => e.message
  | .missingField name => s!"missing field `{name}`"
  | .duplicateField name => s!"duplicate field `{name}`"
  | .unknownVariant found allowed => s!"unknown variant `{found}`, {allowedText allowed}"
  | .invalidType found expected => s!"invalid type: {found.text}, expected {expected}"
  | .invalidValue found expected => s!"invalid value: {found.text}, expected {expected}"
  | .invalidLength found record size =>
    s!"invalid length {found}, expected struct {record} with {size} element" ++
      (if size = 1 then "" else "s")
  | .refused reason => reason

end Autoformat.Json
