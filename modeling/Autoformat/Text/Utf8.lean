/-!
# UTF-8 text as bytes

`Utf8.bytes` is the encoding of a text and `Utf8.Before` the order of texts by those bytes, the order
in which outcome tables list their jobs.

`Utf8.decodeFrom` reads any bytes as text: something stands in for each maximal start of a character that
does not go on as UTF-8 requires. In `Utf8.decodeLossy` that is U+FFFD. Output of programs and the bodies that
errors quote are read this way.
-/

namespace Autoformat.Utf8

/-- The UTF-8 encoding of a text, as a list of bytes. -/
def bytes (s : String) : List UInt8 := s.toUTF8.data.toList

/-- A text comes before another when its bytes do, compared one by one. -/
def Before (a b : String) : Prop := bytes a < bytes b

instance (a b : String) : Decidable (Before a b) :=
  inferInstanceAs (Decidable (bytes a < bytes b))

theorem bytes_inj {a b : String} : bytes a = bytes b ↔ a = b := by
  refine ⟨fun h => ?_, fun h => h ▸ rfl⟩
  exact String.toByteArray_inj.1 (ByteArray.ext (Array.toList_inj.1 h))

theorem Before.irrefl (a : String) : ¬Before a a := List.lt_irrefl _

theorem Before.trans {a b c : String} (h : Before a b) (h' : Before b c) : Before a c :=
  List.lt_trans h h'

/-- Of two different texts, one comes before the other. -/
theorem Before.of_ne {a b : String} (hne : a ≠ b) (h : ¬Before a b) : Before b a := by
  rcases Decidable.em (Before b a) with hba | hba
  · exact hba
  · exact absurd (bytes_inj.1 (List.le_antisymm (List.not_lt.1 hba) (List.not_lt.1 h))) hne

/-- The character that stands for bytes that are not UTF-8. -/
def replacement : Char := '\uFFFD'

/-- A character begun but not finished: how many bytes it still needs, the bits collected so far, and
the range of its next byte. -/
structure Partial where
  need : Nat
  bits : Nat
  low : UInt8
  high : UInt8

/-- What the first byte of a character settles: the whole character, a character begun, or that there is
none. -/
inductive Lead where
  | whole (c : Char)
  | begun (p : Partial)
  | stray

/-- Reads the first byte of a character. -/
def lead (b : UInt8) : Lead :=
  if b < 0x80 then .whole (Char.ofNat b.toNat)
  else if 0xC2 ≤ b ∧ b ≤ 0xDF then .begun ⟨1, b.toNat % 0x20, 0x80, 0xBF⟩
  else if b = 0xE0 then .begun ⟨2, 0, 0xA0, 0xBF⟩
  else if b = 0xED then .begun ⟨2, 0xD, 0x80, 0x9F⟩
  else if 0xE1 ≤ b ∧ b ≤ 0xEF then .begun ⟨2, b.toNat % 0x10, 0x80, 0xBF⟩
  else if b = 0xF0 then .begun ⟨3, 0, 0x90, 0xBF⟩
  else if 0xF1 ≤ b ∧ b ≤ 0xF3 then .begun ⟨3, b.toNat % 0x8, 0x80, 0xBF⟩
  else if b = 0xF4 then .begun ⟨3, 4, 0x80, 0x8F⟩
  else .stray

/-- Decodes the bytes that follow a character begun (`some`) or a finished one (`none`). -/
def decodeFrom (standIn : List Char) : Option Partial → List UInt8 → List Char
  | none, [] => []
  | some _, [] => standIn
  | none, b :: rest =>
    match lead b with
    | .whole c => c :: decodeFrom standIn none rest
    | .begun p => decodeFrom standIn (some p) rest
    | .stray => standIn ++ decodeFrom standIn none rest
  | some p, b :: rest =>
    if p.low ≤ b ∧ b ≤ p.high then
      let bits := p.bits * 0x40 + b.toNat % 0x40
      if p.need = 1 then Char.ofNat bits :: decodeFrom standIn none rest
      else decodeFrom standIn (some ⟨p.need - 1, bits, 0x80, 0xBF⟩) rest
    else
      match lead b with
      | .whole c => standIn ++ c :: decodeFrom standIn none rest
      | .begun q => standIn ++ decodeFrom standIn (some q) rest
      | .stray => standIn ++ (standIn ++ decodeFrom standIn none rest)

/-- Bytes read as text, with something that stands in for what is not UTF-8. -/
def decodeWith (standIn : List Char) (data : ByteArray) : String :=
  String.ofList (decodeFrom standIn none data.data.toList)

/-- Bytes read as text, with U+FFFD in place of what is not UTF-8. -/
def decodeLossy (data : ByteArray) : String := decodeWith [replacement] data

end Autoformat.Utf8
