import Autoformat.Json.Reader
import Autoformat.Json.Value

/-!
# Taking values out of JSON texts

A `Decoder` looks at a `Doc` in the order of the text and stops at the first thing that is wrong, a value
of another kind or a fault of the text.

`Wire` joins a decoder with the way the value is written. `Json.parse` reads a whole text.
-/

namespace Autoformat.Json

/-- What a value turns out to be. -/
abbrev Decoded (α : Type) := Except DecodeError α

/-- Takes a value out of what a text holds. -/
abbrev Decoder (α : Type) := Doc → Decoded α

/-- The text is not JSON. -/
def malformed {α : Type} (e : SyntaxError) : Decoded α := .error (.malformed e)

/-- A text, once its surrogates match. -/
def decodedText : Except SyntaxError String → Decoded String
  | .ok s => .ok s
  | .error e => malformed e

namespace Doc

/-- What is wrong with a value that is not of the kind that was asked for. -/
def mistyped {α : Type} (expected : String) : Doc → Decoded α
  | .null => .error (.invalidType .null expected)
  | .bool b => .error (.invalidType (.bool b) expected)
  | .number n =>
    match n.value with
    | .ok v => .error (.invalidType v.found expected)
    | .error e => malformed e
  | .string (.ok s) => .error (.invalidType (.string s) expected)
  | .string (.error e) => malformed e
  | .list _ => .error (.invalidType .list expected)
  | .object _ => .error (.invalidType .object expected)
  | .absent => malformed .endInValue
  | .badString f => malformed f.read
  | .badWord f => malformed f.read
  | .stray => malformed .expectedValue

mutual

/-- The fault met in passing over a value. -/
def skip : Doc → Decoded Unit
  | .null => .ok ()
  | .bool _ => .ok ()
  | .number _ => .ok ()
  | .string _ => .ok ()
  | .list items => skipItems items
  | .object members => skipMembers members
  | .absent => malformed .endInValue
  | .badString f => malformed f.skip
  | .badWord f => malformed f.skip
  | .stray => malformed .expectedValue

/-- The fault met in passing over the rest of a list. -/
def skipItems : Items → Decoded Unit
  | .done => .ok ()
  | .fault f => malformed f.skip
  | .item x rest => do
    skip x
    skipItems rest

/-- The fault met in passing over the rest of an object. -/
def skipMembers : Members → Decoded Unit
  | .done => .ok ()
  | .fault f => malformed f.skip
  | .badKey f => malformed f.skip
  | .noColon _ e => malformed e
  | .member _ x rest => do
    skip x
    skipMembers rest

end

mutual

/-- What is wrong with a value of any kind, with at most `depth` levels of lists and objects. -/
def check (depth : Nat) : Doc → Decoded Unit
  | .null => .ok ()
  | .bool _ => .ok ()
  | .number n =>
    match n.value with
    | .ok _ => .ok ()
    | .error e => malformed e
  | .string s => do
    let _ ← decodedText s
  | .list items => if depth = 0 then malformed .nestedTooDeep else checkItems (depth - 1) items
  | .object members =>
    if depth = 0 then malformed .nestedTooDeep else checkMembers (depth - 1) members
  | .absent => malformed .endInValue
  | .badString f => malformed f.read
  | .badWord f => malformed f.read
  | .stray => malformed .expectedValue

/-- What is wrong with the rest of a list of any values. -/
def checkItems (depth : Nat) : Items → Decoded Unit
  | .done => .ok ()
  | .fault f => malformed f.read
  | .item x rest => do
    check depth x
    checkItems depth rest

/-- What is wrong with the rest of an object with any members. -/
def checkMembers (depth : Nat) : Members → Decoded Unit
  | .done => .ok ()
  | .fault f => malformed f.read
  | .badKey f => malformed f.read
  | .noColon key e => do
    let _ ← decodedText key
    malformed e
  | .member key x rest => do
    let _ ← decodedText key
    check depth x
    checkMembers depth rest

end

/-- A text, where the given words name what is expected. -/
def asTextNamed (expected : String) : Decoder String
  | .string s => decodedText s
  | d => d.mistyped expected

/-- A text. -/
def asText : Decoder String := asTextNamed "a string"

/-- A path. -/
def asPath : Decoder String := asTextNamed "path string"

/-- A truth value. -/
def asBool : Decoder Bool
  | .bool b => .ok b
  | d => d.mistyped "a boolean"

/-- A whole number of 64 bits. -/
def asWord : Decoder UInt64
  | .number n =>
    match n.value with
    | .ok (.unsigned n) => .ok n
    | .ok (.signed n) => .error (.invalidValue (.integer n) "u64")
    | .ok v => .error (.invalidType v.found "u64")
    | .error e => malformed e
  | d => d.mistyped "u64"

/-- Nothing at all. -/
def asUnit : Decoder Unit
  | .null => .ok ()
  | d => d.mistyped "unit"

/-- The rest of a list. -/
def itemsAs {α : Type} (decode : Decoder α) : Items → Decoded (List α)
  | .done => .ok []
  | .fault f => malformed f.read
  | .item x rest => do
    let a ← decode x
    let as ← itemsAs decode rest
    pure (a :: as)

/-- A list. -/
def asList {α : Type} (decode : Decoder α) : Decoder (List α)
  | .list items => itemsAs decode items
  | d => d.mistyped "a sequence"

/-- A value, or `null` for none. -/
def asOptional {α : Type} (decode : Decoder α) : Decoder (Option α)
  | .null => .ok none
  | d => some <$> decode d

/-- One of several words; without a `fallback`, no other word is allowed. -/
def wordAs {α : Type} (words : List (String × α)) (fallback : Option α)
    (word : Except SyntaxError String) : Decoded α := do
  let word ← decodedText word
  match (words.lookup word).or fallback with
  | some a => pure a
  | none => .error (.unknownVariant word (words.map Prod.fst))

/-- What follows the only member of an object that stands for a word. -/
def closeWord : Members → Decoded Unit
  | .done => .ok ()
  | .fault f => malformed (if f.read = .endInObject then .endInObject else .expectedValue)
  | _ => malformed .expectedValue

/-- One of several words, as a text or as the key of an object whose only member is `null`. -/
def asWordOf {α : Type} (words : List (String × α)) (fallback : Option α) : Decoder α
  | .string s => wordAs words fallback s
  | .object .done => malformed .expectedValue
  | .object (.fault f) => malformed f.read
  | .object (.badKey f) => malformed f.read
  | .object (.noColon key e) => do
    let _ ← wordAs words fallback key
    malformed e
  | .object (.member key x rest) => do
    let a ← wordAs words fallback key
    asUnit x
    closeWord rest
    pure a
  | .absent => malformed .endInValue
  | .badString f => malformed f.read
  | _ => malformed .expectedValue

end Doc

/-- A value that is written and read as JSON. -/
class Wire (α : Type) where
  encode : α → Json
  decode : Decoder α

export Wire (encode decode)

instance : Wire String := ⟨.string, Doc.asText⟩

instance : Wire Bool := ⟨.bool, Doc.asBool⟩

instance : Wire UInt64 := ⟨word, Doc.asWord⟩

instance {α : Type} [Wire α] : Wire (List α) :=
  ⟨fun as => .array (as.map encode), Doc.asList decode⟩

instance {α : Type} [Wire α] : Wire (Option α) := ⟨optional encode, Doc.asOptional decode⟩

/-- A whole text read by a decoder: nothing but blanks may follow the value. -/
def parseWith {α : Type} (decode : Decoder α) (text : String) : Decoded α := do
  let (doc, rest) := Doc.ofChars text.toList
  let a ← decode doc
  match rest with
  | none => malformed .endInValue
  | some rest => if (skipBlanks rest).isEmpty then pure a else malformed .trailingCharacters

/-- A whole text read as a value. -/
def parse (α : Type) [Wire α] (text : String) : Decoded α := parseWith decode text

/-- A value as a text without blanks. -/
def print {α : Type} [Wire α] (a : α) : String := (encode a).compact

end Autoformat.Json
