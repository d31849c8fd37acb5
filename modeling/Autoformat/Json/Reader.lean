import Autoformat.Json.Document

/-!
# Reading JSON texts

`Doc.ofChars` reads a text as a `Doc` and gives what follows the value, when the value ends well.

The reader looks at no more of the text than the value needs. Its recursion is bounded by the length of
the text: every call takes a character or hands the same characters to a reader of a smaller part.
-/

namespace Autoformat.Json

/-- The blanks of JSON. -/
def isBlank (c : Char) : Bool := c = ' ' || c = '\n' || c = '\t' || c = '\r'

/-- The text from its first character that is not blank. -/
def skipBlanks (cs : List Char) : List Char := cs.dropWhile isBlank

/-- The value of a hexadecimal digit. -/
def hexValue (c : Char) : Option Nat :=
  if '0' ≤ c ∧ c ≤ '9' then some (c.toNat - '0'.toNat)
  else if 'a' ≤ c ∧ c ≤ 'f' then some (c.toNat - 'a'.toNat + 10)
  else if 'A' ≤ c ∧ c ≤ 'F' then some (c.toNat - 'A'.toNat + 10)
  else none

/-- The value of four hexadecimal digits. -/
def hexUnit (a b c d : Char) : Option Nat := do
  let a ← hexValue a
  let b ← hexValue b
  let c ← hexValue c
  let d ← hexValue d
  pure (((a * 16 + b) * 16 + c) * 16 + d)

/-- The character that a short escape stands for. -/
def unescape (c : Char) : Option Char :=
  match c with
  | '"' => some '"'
  | '\\' => some '\\'
  | '/' => some '/'
  | 'b' => some '\x08'
  | 'f' => some '\x0c'
  | 'n' => some '\n'
  | 'r' => some '\r'
  | 't' => some '\t'
  | _ => none

/-- A 16-bit unit that opens a surrogate pair. -/
def isHighSurrogate (n : Nat) : Bool := 0xD800 ≤ n && n ≤ 0xDBFF

/-- A 16-bit unit that closes a surrogate pair. -/
def isLowSurrogate (n : Nat) : Bool := 0xDC00 ≤ n && n ≤ 0xDFFF

/-- The character of a surrogate pair. -/
def pairChar (high low : Nat) : Char :=
  Char.ofNat (0x10000 + (high - 0xD800) * 0x400 + (low - 0xDC00))

/-- A text while it is read: the characters so far, in reverse, the first half of a surrogate pair that
still waits for the second, and the first mismatch of surrogates. -/
structure TextState where
  chars : List Char := []
  high : Option Nat := none
  mismatch : Option SyntaxError := none

namespace TextState

/-- A half that waits for its second half does not get it. -/
def unpaired (s : TextState) : TextState :=
  match s.high with
  | none => s
  | some _ => ⟨s.chars, none, s.mismatch.or (some .unexpectedEndOfHexEscape)⟩

/-- One more character. -/
def push (s : TextState) (c : Char) : TextState :=
  let s := s.unpaired
  { s with chars := c :: s.chars }

/-- One more 16-bit unit. -/
def pushUnit (s : TextState) (n : Nat) : TextState :=
  match s.high with
  | some high =>
    if isLowSurrogate n then ⟨pairChar high n :: s.chars, none, s.mismatch⟩
    else ⟨s.chars, none, s.mismatch.or (some .loneSurrogate)⟩
  | none =>
    if isLowSurrogate n then { s with mismatch := s.mismatch.or (some .loneSurrogate) }
    else if isHighSurrogate n then { s with high := some n }
    else { s with chars := Char.ofNat n :: s.chars }

/-- The text at its closing quote. -/
def close (s : TextState) : Except SyntaxError String :=
  let s := s.unpaired
  match s.mismatch with
  | some e => .error e
  | none => .ok (String.ofList s.chars.reverse)

/-- A fault inside the text; a mismatch before it comes first for the one who reads. -/
def fault (s : TextState) (e : SyntaxError) : Fault := ⟨s.mismatch.getD e, e⟩

end TextState

/-- The end of a text cut off in an escape: four more bytes hold something that is not a digit, fewer
are too few. -/
def cutEscape (cs : List Char) : SyntaxError :=
  if 4 ≤ (String.ofList cs).utf8ByteSize then .invalidEscape else .endInString

/-- Reads a text after its opening quote. -/
def readText (s : TextState) : List Char → Except Fault (Except SyntaxError String × List Char)
  | [] => .error (s.fault .endInString)
  | c :: cs =>
    if c = '"' then .ok (s.close, cs)
    else if c = '\\' then
      match cs with
      | [] => .error (s.fault .endInString)
      | e :: cs =>
        if e = 'u' then
          match cs with
          | a :: b :: c :: d :: cs =>
            match hexUnit a b c d with
            | some n => readText (s.pushUnit n) cs
            | none => .error (s.fault .invalidEscape)
          | cs => .error (s.fault (cutEscape cs))
        else
          match unescape e with
          | some c => readText (s.push c) cs
          | none => .error (s.unpaired.fault .invalidEscape)
    else if c.toNat < 0x20 then .error (s.unpaired.fault .controlCharacter)
    else readText (s.push c) cs

/-- The fault of a number that breaks off: before the end of the text, or at it. -/
def cutNumber : List Char → Fault
  | [] => ⟨.endInValue, .invalidNumber⟩
  | _ :: _ => .plain .invalidNumber

/-- Reads digits, at least one. -/
def readDigits (cs : List Char) : Except Fault (List Char × List Char) :=
  match cs.takeWhile Char.isDigit with
  | [] => .error (cutNumber cs)
  | d :: ds => .ok (d :: ds, cs.dropWhile Char.isDigit)

/-- Reads the digits before the point; a zero stands alone. -/
def readWhole (cs : List Char) : Except Fault (List Char × List Char) := do
  let (ds, rest) ← readDigits cs
  match ds with
  | '0' :: _ :: _ => .error (.plain .invalidNumber)
  | _ => pure (ds, rest)

/-- Reads a point and the digits after it, when there is a point. -/
def readFraction : List Char → Except Fault (List Char × List Char)
  | '.' :: cs => readDigits cs
  | cs => pure ([], cs)

/-- Reads the digits of a power of ten with the given sign. -/
def readPowerDigits (sign : Int) (cs : List Char) : Except Fault (Option Int × List Char) := do
  let (ds, rest) ← readDigits cs
  pure (some (sign * Decimal.ofDigits ds), rest)

/-- Reads a power of ten, when one is written. -/
def readPower : List Char → Except Fault (Option Int × List Char)
  | [] => pure (none, [])
  | c :: cs =>
    if c = 'e' ∨ c = 'E' then
      match cs with
      | '+' :: cs => readPowerDigits 1 cs
      | '-' :: cs => readPowerDigits (-1) cs
      | cs => readPowerDigits 1 cs
    else pure (none, c :: cs)

/-- Reads a number after its sign. -/
def readNumeral (negative : Bool) (cs : List Char) : Except Fault (Numeral × List Char) := do
  let (whole, cs) ← readWhole cs
  let (fraction, cs) ← readFraction cs
  let (power, cs) ← readPower cs
  pure (⟨negative, whole, fraction, power⟩, cs)

/-- Reads the rest of a word whose first character is known. -/
def readWord : List Char → List Char → Except Fault (List Char)
  | [], cs => pure cs
  | _ :: _, [] => .error (.plain .endInValue)
  | w :: ws, c :: cs => if w = c then readWord ws cs else .error (.plain .expectedIdent)

/-- A word that ended well, or the fault in it. -/
def wordDoc (d : Doc) : Except Fault (List Char) → Doc × Option (List Char)
  | .ok rest => (d, some rest)
  | .error f => (.badWord f, none)

/-- A number that ended well, or the fault in it. -/
def numeralDoc : Except Fault (Numeral × List Char) → Doc × Option (List Char)
  | .ok (n, rest) => (.number n, some rest)
  | .error f => (.badWord f, none)

/-- A text that ended well, or the fault in it. -/
def textDoc : Except Fault (Except SyntaxError String × List Char) → Doc × Option (List Char)
  | .ok (s, rest) => (.string s, some rest)
  | .error f => (.badString f, none)

mutual

/-- Reads a value after the blanks in front of it. -/
def readValue : Nat → List Char → Doc × Option (List Char)
  | 0, _ => (.absent, none)
  | fuel + 1, cs =>
    match skipBlanks cs with
    | [] => (.absent, none)
    | c :: cs =>
      if c = '"' then textDoc (readText {} cs)
      else if c = '\x7b' then
        let r := readMembers fuel true cs
        (.object r.1, r.2)
      else if c = '[' then
        let r := readItems fuel true cs
        (.list r.1, r.2)
      else if c = '-' then numeralDoc (readNumeral true cs)
      else if c.isDigit then numeralDoc (readNumeral false (c :: cs))
      else if c = 't' then wordDoc (.bool true) (readWord ['r', 'u', 'e'] cs)
      else if c = 'f' then wordDoc (.bool false) (readWord ['a', 'l', 's', 'e'] cs)
      else if c = 'n' then wordDoc .null (readWord ['u', 'l', 'l'] cs)
      else (.stray, none)

/-- Reads the rest of a list; the first item has no comma in front of it. -/
def readItems : Nat → Bool → List Char → Items × Option (List Char)
  | 0, _, _ => (.fault (.plain .endInList), none)
  | fuel + 1, first, cs =>
    match skipBlanks cs with
    | [] => (.fault (.plain .endInList), none)
    | c :: cs =>
      if c = ']' then (.done, some cs)
      else if first then readItem fuel (c :: cs)
      else if c = ',' then
        match skipBlanks cs with
        | [] => (.fault (.plain .endInValue), none)
        | c :: cs =>
          if c = ']' then (.fault ⟨.trailingComma, .expectedValue⟩, none)
          else readItem fuel (c :: cs)
      else (.fault (.plain .expectedListEnd), none)

/-- Reads an item and the rest of the list. -/
def readItem : Nat → List Char → Items × Option (List Char)
  | 0, _ => (.fault (.plain .endInList), none)
  | fuel + 1, cs =>
    match readValue fuel cs with
    | (x, some rest) =>
      let r := readItems fuel false rest
      (.item x r.1, r.2)
    | (x, none) => (.item x .done, none)

/-- Reads the rest of an object; the first member has no comma in front of it. -/
def readMembers : Nat → Bool → List Char → Members × Option (List Char)
  | 0, _, _ => (.fault (.plain .endInObject), none)
  | fuel + 1, first, cs =>
    match skipBlanks cs with
    | [] => (.fault (.plain .endInObject), none)
    | c :: cs =>
      if c = '\x7d' then (.done, some cs)
      else if first then
        if c = '"' then readMember fuel cs
        else (.fault (.plain .keyMustBeString), none)
      else if c = ',' then
        match skipBlanks cs with
        | [] => (.fault ⟨.endInValue, .endInObject⟩, none)
        | c :: cs =>
          if c = '"' then readMember fuel cs
          else if c = '\x7d' then (.fault ⟨.trailingComma, .keyMustBeString⟩, none)
          else (.fault (.plain .keyMustBeString), none)
      else (.fault (.plain .expectedObjectEnd), none)

/-- Reads a member, after the opening quote of its key, and the rest of the object. -/
def readMember : Nat → List Char → Members × Option (List Char)
  | 0, _ => (.fault (.plain .endInObject), none)
  | fuel + 1, cs =>
    match readText {} cs with
    | .error f => (.badKey f, none)
    | .ok (key, rest) =>
      match skipBlanks rest with
      | [] => (.noColon key .endInObject, none)
      | c :: cs =>
        if c = ':' then
          match readValue fuel cs with
          | (x, some rest) =>
            let r := readMembers fuel false rest
            (.member key x r.1, r.2)
          | (x, none) => (.member key x .done, none)
        else (.noColon key .expectedColon, none)

end

/-- The value that a text begins with, and what follows it when it ends well. -/
def Doc.ofChars (cs : List Char) : Doc × Option (List Char) := readValue (3 * cs.length + 3) cs

end Autoformat.Json
