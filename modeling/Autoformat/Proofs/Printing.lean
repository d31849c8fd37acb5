import Autoformat.Json.Word
import Autoformat.Proofs.Spelling

/-!
# Printed JSON is JSON

`Doc.ofJson` is a value as the reader finds it. The text that is printed for a value stands for just that
(`spells_compact`), so a printed text is read back as the value, and a decoder may be carried out on the value
itself (`parseWith_compact`).

`LawfulWire` says of a type that its values are read as what they were written for. A value of such a type that is
printed is read as itself (`parse_print`).
-/

namespace Autoformat.Json

/-! ## Values as they are found -/

/-- A whole number in its decimal digits. -/
def Numeral.ofInt : Int → Numeral
  | .ofNat n => ⟨false, Nat.toDigits 10 n, [], none⟩
  | .negSucc n => ⟨true, Nat.toDigits 10 (n + 1), [], none⟩

mutual

/-- A value as the reader finds it. -/
def Doc.ofJson : Json → Doc
  | .null => .null
  | .bool b => .bool b
  | .number n => .number (.ofInt n)
  | .string s => .string (.ok s)
  | .array items => .list (Items.ofList items)
  | .object members => .object (Members.ofList members)

/-- Items as the reader finds them. -/
def Items.ofList : List Json → Items
  | [] => .done
  | x :: rest => .item (Doc.ofJson x) (Items.ofList rest)

/-- Members as the reader finds them. -/
def Members.ofList : List (String × Json) → Members
  | [] => .done
  | (key, x) :: rest => .member (.ok key) (Doc.ofJson x) (Members.ofList rest)

end

/-! ## Leaves -/

/-- A digit of base sixteen is read as its value. -/
theorem hexValue_digitChar : ∀ n < 0x10, hexValue (Nat.digitChar n) = some n := by decide

/-- A control character is printed by the two digits that it needs. -/
theorem hexUnit_of_control {n : Nat} (h : n < 0x20) :
    hexUnit '0' '0' (Nat.digitChar (n / 0x10)) (Nat.digitChar (n % 0x10)) = some n := by
  have hzero : hexValue '0' = some 0 := by decide
  have hunit : ((0 * 16 + 0) * 16 + n / 0x10) * 16 + n % 0x10 = n := by omega
  simp only [hexUnit, hzero, hexValue_digitChar (n / 0x10) (by omega),
    hexValue_digitChar (n % 0x10) (by omega), Option.bind_eq_bind, Option.bind_some, hunit]
  rfl

/-- A character as it is printed stands for itself. -/
theorem SpellsText.escape {s cs : List Char} (c : Char) (rest : SpellsText s cs) :
    SpellsText (c :: s) (Json.escape c ++ cs) := by
  unfold Json.escape
  split
  · exact .short rfl rest
  · exact .short rfl rest
  · exact .short rfl rest
  · exact .short rfl rest
  · exact .short rfl rest
  · exact .short rfl rest
  · exact .short rfl rest
  · next hquote hbackslash _ _ _ _ _ =>
    split
    · next hcontrol =>
      have hsurrogate : isHighSurrogate c.toNat = false ∧ isLowSurrogate c.toNat = false := by
        simp only [isHighSurrogate, isLowSurrogate, Bool.and_eq_false_iff, decide_eq_false_iff_not]
        omega
      have hunit := SpellsText.unit (hexUnit_of_control hcontrol) hsurrogate.1 hsurrogate.2 rest
      rw [Char.ofNat_toNat] at hunit
      exact hunit
    · next hvisible => exact .plain hquote hbackslash (by omega) rest

/-- An escaped text is a spelling of the text. -/
theorem spellsText_escape (s : List Char) : SpellsText s (s.flatMap Json.escape) := by
  induction s with
  | nil => exact .nil
  | cons c s ih => exact .escape c ih

/-- A quoted text is a spelling of the string. -/
theorem spelled_quote (s : String) : Spelled (.string (.ok s)) (quote s) :=
  .string (spellsText_escape s.toList)

/-- The digits of a number are digits. -/
theorem digits_toDigits (n : Nat) : Digits (Nat.toDigits 10 n) :=
  ⟨Nat.toDigits_ne_nil, fun _ => Nat.isDigit_of_mem_toDigits (by omega) (by omega)⟩

/-- No zero leads the digits of a number. -/
theorem toDigits_ne_zero_cons (n : Nat) (d : Char) (ds : List Char) :
    Nat.toDigits 10 n ≠ '0' :: d :: ds := by
  induction n using Nat.strongRecOn generalizing d ds with
  | ind n ih =>
    rw [Nat.toDigits_eq_if (by omega)]
    split
    · simp
    · next hlarge =>
      intro heq
      cases hfront : Nat.toDigits 10 (n / 10) with
      | nil => exact Nat.toDigits_ne_nil hfront
      | cons a as =>
        rw [hfront] at heq
        obtain ⟨rfl, htail⟩ := List.cons.inj heq
        cases as with
        | nil =>
          -- a zero alone in front of the last digit would make the number smaller than the base
          have hzero := Nat.ofDigitChars_ten_toDigits (n := n / 10)
          rw [hfront] at hzero
          have hsmall : n / 10 = 0 := hzero.symm
          omega
        | cons b bs => exact ih (n / 10) (by omega) b bs hfront

/-- The digits of a number spell its size. -/
theorem spellsSize_toDigits (n : Nat) (negative : Bool) :
    SpellsSize ⟨negative, Nat.toDigits 10 n, [], none⟩ (Nat.toDigits 10 n) := by
  have h : SpellsSize ⟨negative, Nat.toDigits 10 n, [], none⟩
      (Nat.toDigits 10 n ++ pointed [] ++ []) :=
    .mk (digits_toDigits n) (toDigits_ne_zero_cons n) (by simp) .none
  simpa [pointed] using h

/-- The digits of an integer spell it, with its sign. -/
theorem spelled_digits (n : Int) : Spelled (.number (.ofInt n)) (digits n) := by
  cases n with
  | ofNat n => exact .positive rfl (spellsSize_toDigits n false)
  | negSucc n => exact .negative rfl (spellsSize_toDigits (n + 1) true)

/-! ## Values -/

/-- Items that come after others have a comma in front of them. -/
theorem SpelledItems.comma {x : Doc} {rest : Items} {cs : List Char}
    (h : SpelledItems true (.item x rest) cs) : SpelledItems false (.item x rest) (',' :: cs) := by
  cases h with
  | item separated value more =>
    obtain ⟨blank⟩ := separated
    exact .item (.comma blanks_nil blank) value more

/-- A comma makes first members into further ones. -/
theorem SpelledMembers.comma {key : Except SyntaxError String} {x : Doc} {rest : Members}
    {cs : List Char} (h : SpelledMembers true (.member key x rest) cs) :
    SpelledMembers false (.member key x rest) (',' :: cs) := by
  cases h with
  | member separated text blank blank' value more =>
    obtain ⟨blank₀⟩ := separated
    exact .member (.comma blanks_nil blank₀) text blank blank' value more

mutual

/-- A printed value stands for the value. -/
theorem spelled_render (j : Json) : Spelled (Doc.ofJson j) (render j) := by
  match j with
  | .null => rw [Doc.ofJson, render]; exact .null
  | .bool true => rw [Doc.ofJson, render]; exact .yes
  | .bool false => rw [Doc.ofJson, render]; exact .no
  | .number n => rw [Doc.ofJson, render]; exact spelled_digits n
  | .string s => rw [Doc.ofJson, render]; exact spelled_quote s
  | .array items => rw [Doc.ofJson, render]; exact .list (spelledItems_render items)
  | .object members => rw [Doc.ofJson, render]; exact .object (spelledMembers_render members)

/-- A printed list is a spelling of its items. -/
theorem spelledItems_render (items : List Json) :
    SpelledItems true (Items.ofList items) (renderItems items ++ [']']) := by
  match items with
  | [] => exact .done blanks_nil
  | [x] =>
    have hx := spelled_render x
    exact .item (.first blanks_nil) hx (.done blanks_nil)
  | x :: y :: rest =>
    have hx := spelled_render x
    have hrest := spelledItems_render (y :: rest)
    rw [Items.ofList] at hrest
    have h := SpelledItems.item (.first blanks_nil) hx hrest.comma
    simpa [Items.ofList, renderItems] using h

/-- A printed object is a spelling of its members. -/
theorem spelledMembers_render (members : List (String × Json)) :
    SpelledMembers true (Members.ofList members) (renderMembers members ++ ['\x7d']) := by
  match members with
  | [] => exact .done blanks_nil
  | [(key, x)] =>
    have hx := spelled_render x
    have h := SpelledMembers.member (.first blanks_nil) (spellsText_escape key.toList)
      blanks_nil blanks_nil hx (.done blanks_nil)
    simpa [Members.ofList, renderMembers, quote] using h
  | (key, x) :: (key', y) :: rest =>
    have hx := spelled_render x
    have hrest := spelledMembers_render ((key', y) :: rest)
    rw [Members.ofList] at hrest
    have h := SpelledMembers.member (.first blanks_nil) (spellsText_escape key.toList)
      blanks_nil blanks_nil hx hrest.comma
    simpa [Members.ofList, renderMembers, quote] using h

end

/-- The text that is printed for a value stands for it. -/
theorem spells_compact (j : Json) : (Doc.ofJson j).Spells j.compact :=
  .mk blanks_nil (spelled_render j) blanks_nil (by simp [compact])

/-- What a decoder makes of a printed value is what it makes of the value. -/
theorem parseWith_compact {α : Type} (decode : Decoder α) (j : Json) :
    parseWith decode j.compact = decode (Doc.ofJson j) :=
  parseWith_of_spells (spells_compact j)

/-! ## Values that are read as what they were written for -/

/-- A value that is written is read as itself. -/
class LawfulWire (α : Type) [Wire α] : Prop where
  decode_encode (a : α) : (decode (Doc.ofJson (encode a)) : Decoded α) = .ok a

export LawfulWire (decode_encode)

/-- A value that is printed is read as itself. -/
theorem parse_print {α : Type} [Wire α] [LawfulWire α] (a : α) : parse α (print a) = .ok a :=
  (parseWith_compact decode (encode a)).trans (decode_encode a)

instance : LawfulWire String := ⟨fun _ => rfl⟩

instance : LawfulWire Bool := ⟨fun _ => rfl⟩

instance : LawfulWire (Option String) where
  decode_encode a := by cases a <;> rfl

/-- The digits of a number write the number. -/
theorem ofDigits_toDigits (n : Nat) : Decimal.ofDigits (Nat.toDigits 10 n) = n :=
  Nat.ofDigitChars_ten_toDigits

/-- A whole number of 64 bits stands for itself. -/
theorem value_ofInt (n : UInt64) : (Numeral.ofInt n.toNat).value = .ok (.unsigned n) := by
  show Numeral.value ⟨false, Nat.toDigits 10 n.toNat, [], none⟩ = _
  simp [Numeral.value, ofDigits_toDigits, n.toNat_lt_size]

instance : LawfulWire UInt64 where
  decode_encode n := by
    show Doc.asWord (Doc.ofJson (word n)) = _
    rw [word, Doc.ofJson, Doc.asWord, value_ofInt]

instance {α : Type} [Wire α] [LawfulWire α] : LawfulWire (List α) where
  decode_encode as := by
    show Doc.asList decode (Doc.ofJson (.array (as.map encode))) = _
    rw [Doc.ofJson, Doc.asList]
    induction as with
    | nil => rfl
    | cons a as ih =>
      rw [List.map_cons, Items.ofList, Doc.itemsAs, decode_encode a, ih]
      rfl

end Autoformat.Json

namespace Autoformat.Named

open Json

variable {α : Type} [Named α] {fallback : Option α} {a : α}

/-- A value that its name gives back is read as itself. -/
theorem decode_encode (h : ofName? (name a) = some a) :
    (wire fallback).decode (Doc.ofJson ((wire fallback).encode a)) = .ok a := by
  show Doc.wordAs words fallback (.ok (name a)) = _
  rw [ofName?] at h
  rw [Doc.wordAs, decodedText, ok_bind, h]
  rfl

end Autoformat.Named
