import Autoformat.Json.Numeral

/-!
# JSON texts, sound or not

A `Doc` is what a text holds from some place on, up to the first fault, if there is one. Keeping the
faults in the tree lets a decoder look at the values in the order of the text and report whichever comes
first, a value of the wrong kind or a fault of the text.

A value that nobody asks for is passed over, and some faults are worded differently then: a `Fault`
holds both. A text with half of a surrogate pair is no fault for one who passes it over.
-/

namespace Autoformat.Json

/-- A fault of the text, worded for one who reads the value and for one who passes over it. -/
structure Fault where
  read : SyntaxError
  skip : SyntaxError
  deriving DecidableEq, Repr

/-- A fault with one wording. -/
def Fault.plain (e : SyntaxError) : Fault := ⟨e, e⟩

mutual

/-- What a text holds where a value is due. -/
inductive Doc where
  | null
  | bool (b : Bool)
  | number (n : Numeral)
  /-- A text, or the way in which its surrogates do not match. -/
  | string (s : Except SyntaxError String)
  | list (items : Items)
  | object (members : Members)
  /-- The text ends here. -/
  | absent
  /-- A text that begins and does not end well. -/
  | badString (f : Fault)
  /-- A number or a word that begins and does not end well. -/
  | badWord (f : Fault)
  /-- Nothing that begins a value. -/
  | stray

/-- The rest of a list. -/
inductive Items where
  /-- The closing bracket. -/
  | done
  | fault (f : Fault)
  | item (x : Doc) (rest : Items)

/-- The rest of an object. -/
inductive Members where
  /-- The closing brace. -/
  | done
  | fault (f : Fault)
  /-- A key begins and does not end well. -/
  | badKey (f : Fault)
  /-- A key is not followed by a colon. -/
  | noColon (key : Except SyntaxError String) (e : SyntaxError)
  | member (key : Except SyntaxError String) (x : Doc) (rest : Members)

end

end Autoformat.Json
