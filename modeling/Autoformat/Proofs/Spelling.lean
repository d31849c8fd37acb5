import Autoformat.Json.Decoder

/-!
# How JSON is spelled

`Doc.Spells d text` says that a text is one way to write a value: with any blanks between its parts, any
escapes in its texts and any digits in its numbers. The grammar is that of JSON; what the reader makes of a
text that is not in it plays no part here.

`parseWith_of_spells` says that the reader finds the value, whichever way it is written. The proof follows
the grammar from its leaves: texts (`readText_of_spells`), numbers (`readNumeral_of_spells`) and values
(`readValue_of_spelled`).
-/

namespace Autoformat.Json

/-! ## The grammar -/

/-- Nothing but blanks. -/
def Blanks (cs : List Char) : Prop := ∀ c ∈ cs, isBlank c = true

theorem blanks_nil : Blanks [] := by simp [Blanks]

/-- Digits, at least one. -/
def Digits (cs : List Char) : Prop := cs ≠ [] ∧ ∀ c ∈ cs, c.isDigit = true

/-- Characters, and what may stand for them between quotes. -/
inductive SpellsText : List Char → List Char → Prop where
  | nil : SpellsText [] []
  /-- The character itself, unless it is a quote, a backslash or a control character. -/
  | plain {c : Char} {s cs : List Char} (quote : c ≠ '"') (backslash : c ≠ '\\')
    (visible : 0x20 ≤ c.toNat) (rest : SpellsText s cs) : SpellsText (c :: s) (c :: cs)
  /-- A short escape. -/
  | short {e c : Char} {s cs : List Char} (escape : unescape e = some c) (rest : SpellsText s cs) :
    SpellsText (c :: s) ('\\' :: e :: cs)
  /-- A 16-bit unit that is no half of a pair. -/
  | unit {a b c d : Char} {n : Nat} {s cs : List Char} (digits : hexUnit a b c d = some n)
    (high : isHighSurrogate n = false) (low : isLowSurrogate n = false) (rest : SpellsText s cs) :
    SpellsText (Char.ofNat n :: s) ('\\' :: 'u' :: a :: b :: c :: d :: cs)
  /-- The two halves of a pair. -/
  | pair {a b c d a' b' c' d' : Char} {n n' : Nat} {s cs : List Char}
    (digits : hexUnit a b c d = some n) (high : isHighSurrogate n = true)
    (digits' : hexUnit a' b' c' d' = some n') (low : isLowSurrogate n' = true)
    (rest : SpellsText s cs) : SpellsText (pairChar n n' :: s)
      ('\\' :: 'u' :: a :: b :: c :: d :: '\\' :: 'u' :: a' :: b' :: c' :: d' :: cs)

/-- A power of ten, and what may stand for it. -/
inductive SpellsPower : Option Int → List Char → Prop where
  | none : SpellsPower none []
  | plain {e : Char} {ds : List Char} (letter : e = 'e' ∨ e = 'E') (digits : Digits ds) :
    SpellsPower (some (Decimal.ofDigits ds)) (e :: ds)
  | plus {e : Char} {ds : List Char} (letter : e = 'e' ∨ e = 'E') (digits : Digits ds) :
    SpellsPower (some (Decimal.ofDigits ds)) (e :: '+' :: ds)
  | minus {e : Char} {ds : List Char} (letter : e = 'e' ∨ e = 'E') (digits : Digits ds) :
    SpellsPower (some (-Decimal.ofDigits ds)) (e :: '-' :: ds)

/-- A point and the digits after it, when there are any. -/
def pointed (fraction : List Char) : List Char :=
  match fraction with
  | [] => []
  | _ :: _ => '.' :: fraction

/-- A number, and what may stand for it after its sign. -/
inductive SpellsSize (n : Numeral) : List Char → Prop where
  | mk {power : List Char} (whole : Digits n.whole) (leading : ∀ d ds, n.whole ≠ '0' :: d :: ds)
    (fraction : ∀ c ∈ n.fraction, c.isDigit = true) (powered : SpellsPower n.power power) :
    SpellsSize n (n.whole ++ pointed n.fraction ++ power)

/-- What stands between two items; in front of the first there is no comma. -/
inductive Separates : Bool → List Char → Prop where
  | first {bs : List Char} (blank : Blanks bs) : Separates true bs
  | comma {bs bs' : List Char} (blank : Blanks bs) (blank' : Blanks bs') :
    Separates false (bs ++ ',' :: bs')

mutual

/-- A value, and what may stand for it. -/
inductive Spelled : Doc → List Char → Prop where
  | null : Spelled .null ['n', 'u', 'l', 'l']
  | yes : Spelled (.bool true) ['t', 'r', 'u', 'e']
  | no : Spelled (.bool false) ['f', 'a', 'l', 's', 'e']
  | positive {n : Numeral} {cs : List Char} (sign : n.negative = false) (size : SpellsSize n cs) :
    Spelled (.number n) cs
  | negative {n : Numeral} {cs : List Char} (sign : n.negative = true) (size : SpellsSize n cs) :
    Spelled (.number n) ('-' :: cs)
  | string {s : String} {cs : List Char} (text : SpellsText s.toList cs) :
    Spelled (.string (.ok s)) ('"' :: (cs ++ ['"']))
  | list {items : Items} {cs : List Char} (rest : SpelledItems true items cs) :
    Spelled (.list items) ('[' :: cs)
  | object {members : Members} {cs : List Char} (rest : SpelledMembers true members cs) :
    Spelled (.object members) ('\x7b' :: cs)

/-- The rest of a list, and what may stand for it. -/
inductive SpelledItems : Bool → Items → List Char → Prop where
  | done {first : Bool} {bs : List Char} (blank : Blanks bs) : SpelledItems first .done (bs ++ [']'])
  | item {first : Bool} {x : Doc} {rest : Items} {sep cs ds : List Char}
    (separated : Separates first sep) (value : Spelled x cs) (more : SpelledItems false rest ds) :
    SpelledItems first (.item x rest) (sep ++ cs ++ ds)

/-- The rest of an object, and what may stand for it. -/
inductive SpelledMembers : Bool → Members → List Char → Prop where
  | done {first : Bool} {bs : List Char} (blank : Blanks bs) :
    SpelledMembers first .done (bs ++ ['\x7d'])
  | member {first : Bool} {key : String} {x : Doc} {rest : Members}
    {sep ks bs bs' cs ds : List Char} (separated : Separates first sep)
    (text : SpellsText key.toList ks) (blank : Blanks bs) (blank' : Blanks bs') (value : Spelled x cs)
    (more : SpelledMembers false rest ds) :
    SpelledMembers first (.member (.ok key) x rest)
      (sep ++ '"' :: (ks ++ '"' :: (bs ++ ':' :: (bs' ++ cs ++ ds))))

end

/-- A whole text that stands for a value. -/
inductive Doc.Spells (d : Doc) (text : String) : Prop where
  | mk {bs cs bs' : List Char} (blank : Blanks bs) (value : Spelled d cs) (blank' : Blanks bs')
    (chars : text.toList = bs ++ cs ++ bs')

/-! ## Texts -/

/-- A reader that has read something goes on with it. -/
theorem ok_bind {ε α β : Type} (a : α) (f : α → Except ε β) : (Except.ok a >>= f) = f a := rfl

section
variable {st : TextState} {s cs : List Char}

/-- A quote ends a string. -/
theorem readText_quote : readText st ('"' :: cs) = .ok (st.close, cs) := by
  rw [readText.eq_def]
  simp

/-- A character that is neither special nor a control character stands for itself. -/
theorem readText_plain {c : Char} (quote : c ≠ '"') (backslash : c ≠ '\\') (visible : 0x20 ≤ c.toNat) :
    readText st (c :: cs) = readText (st.push c) cs := by
  rw [readText.eq_def]
  simp [quote, backslash, Nat.not_lt.2 visible]

/-- A short escape stands for its character. -/
theorem readText_short {e c : Char} (escape : unescape e = some c) :
    readText st ('\\' :: e :: cs) = readText (st.push c) cs := by
  have hletter : e ≠ 'u' := by
    rintro rfl
    cases escape
  rw [readText.eq_def]
  simp [hletter, escape]

/-- An escape in base sixteen stands for a unit. -/
theorem readText_unit {a b c d : Char} {n : Nat} (digits : hexUnit a b c d = some n) :
    readText st ('\\' :: 'u' :: a :: b :: c :: d :: cs) = readText (st.pushUnit n) cs := by
  rw [readText.eq_def]
  simp [digits]

/-- A text is read up to its closing quote. -/
theorem readText_of_spells (acc rest : List Char) (h : SpellsText s cs) :
    readText ⟨acc, none, none⟩ (cs ++ '"' :: rest) =
      .ok (.ok (String.ofList (acc.reverse ++ s)), rest) := by
  induction h generalizing acc with
  | nil => simp [readText_quote, TextState.close, TextState.unpaired]
  | @plain c s cs quote backslash visible more ih =>
    rw [List.cons_append, readText_plain quote backslash visible]
    simpa [TextState.push, TextState.unpaired] using @ih (c :: acc)
  | @short e c s cs escape more ih =>
    simp only [List.cons_append, readText_short escape]
    simpa [TextState.push, TextState.unpaired] using @ih (c :: acc)
  | @unit a b c d n s cs digits high low more ih =>
    simp only [List.cons_append, readText_unit digits]
    simpa [TextState.pushUnit, high, low] using @ih (Char.ofNat n :: acc)
  | @pair a b c d a' b' c' d' n n' s cs digits high digits' low more ih =>
    have hlow : isLowSurrogate n = false := by
      simp only [isHighSurrogate, isLowSurrogate, Bool.and_eq_true, decide_eq_true_eq,
        Bool.and_eq_false_iff, decide_eq_false_iff_not] at high ⊢
      omega
    simp only [List.cons_append, readText_unit digits, readText_unit digits']
    simpa [TextState.pushUnit, high, hlow, low] using @ih (pairChar n n' :: acc)

end

/-! ## Numbers -/

/-- What follows does not go on with digits. -/
def NoDigit (rest : List Char) : Prop := ∀ c ∈ rest.head?, c.isDigit = false

/-- What follows does not go on with a number. -/
def NoNumeral (rest : List Char) : Prop :=
  ∀ c ∈ rest.head?, c.isDigit = false ∧ c ≠ '.' ∧ c ≠ 'e' ∧ c ≠ 'E'

section
variable {n : Numeral} {ds cs rest : List Char}

/-- What goes on with no numeral goes on with no digit. -/
theorem NoNumeral.noDigit (h : NoNumeral rest) : NoDigit rest := fun c hc => (h c hc).1

/-- Digits begin with a digit. -/
theorem Digits.exists_cons (h : Digits ds) : ∃ c cs, ds = c :: cs ∧ c.isDigit = true := by
  cases ds with
  | nil => exact absurd rfl h.1
  | cons c cs => exact ⟨c, cs, rfl, h.2 c (by simp)⟩

/-- Digits are read as far as they go. -/
theorem readDigits_of_digits (h : Digits ds) (stop : NoDigit rest) :
    readDigits (ds ++ rest) = .ok (ds, rest) := by
  have hrest : rest.takeWhile Char.isDigit = [] ∧ rest.dropWhile Char.isDigit = rest := by
    cases rest with
    | nil => simp
    | cons c cs => simp [stop c (by simp)]
  have htake : (ds ++ rest).takeWhile Char.isDigit = ds := by
    rw [List.takeWhile_append_of_pos h.2, hrest.1, List.append_nil]
  have hdrop : (ds ++ rest).dropWhile Char.isDigit = rest := by
    rw [List.dropWhile_append_of_pos h.2, hrest.2]
  obtain ⟨c, cs, rfl, -⟩ := h.exists_cons
  rw [readDigits, htake, hdrop]

/-- The whole part of a number is read up to its last digit. -/
theorem readWhole_of_digits (h : Digits ds) (leading : ∀ d more, ds ≠ '0' :: d :: more)
    (stop : NoDigit rest) : readWhole (ds ++ rest) = .ok (ds, rest) := by
  rw [readWhole, readDigits_of_digits h stop, ok_bind]
  dsimp only
  split
  · next d more => exact absurd rfl (leading d more)
  · rfl

/-- The fraction of a number is read up to its last digit. -/
theorem readFraction_of_digits (h : ∀ c ∈ ds, c.isDigit = true) (stop : NoDigit rest)
    (point : '.' ∉ rest.head?) : readFraction (pointed ds ++ rest) = .ok (ds, rest) := by
  cases ds with
  | nil =>
    cases rest with
    | nil => rfl
    | cons c cs =>
      rw [pointed, List.nil_append, readFraction]
      · rfl
      · intro cs heq
        obtain ⟨rfl, -⟩ := List.cons.inj heq
        simp at point
  | cons d ds => exact readDigits_of_digits ⟨by simp, h⟩ stop

/-- The digits of a power are read up to the last one. -/
theorem readPowerDigits_of_digits (sign : Int) (h : Digits ds) (stop : NoDigit rest) :
    readPowerDigits sign (ds ++ rest) = .ok (some (sign * Decimal.ofDigits ds), rest) := by
  rw [readPowerDigits, readDigits_of_digits h stop]
  rfl

/-- The power of a number is read as it is spelled. -/
theorem readPower_of_spells {power : Option Int} (h : SpellsPower power cs) (stop : NoNumeral rest) :
    readPower (cs ++ rest) = .ok (power, rest) := by
  cases h with
  | none =>
    cases rest with
    | nil => rfl
    | cons c cs =>
      obtain ⟨-, -, hsmall, hlarge⟩ := stop c (by simp)
      simp [readPower, hsmall, hlarge]
      rfl
  | @plain e ds letter digits =>
    obtain ⟨c, cs, rfl, hc⟩ := digits.exists_cons
    have hsign : c ≠ '+' ∧ c ≠ '-' := by
      constructor <;> rintro rfl <;> exact absurd hc (by decide)
    have hread := readPowerDigits_of_digits 1 digits stop.noDigit
    simp only [List.cons_append, readPower, if_pos letter] at hread ⊢
    split
    · next heq => exact absurd (List.cons.inj heq).1 hsign.1
    · next heq => exact absurd (List.cons.inj heq).1 hsign.2
    · rw [hread, Int.one_mul]
  | plus letter digits =>
    have hread := readPowerDigits_of_digits 1 digits stop.noDigit
    simpa [readPower, letter] using hread
  | minus letter digits =>
    have hread := readPowerDigits_of_digits (-1) digits stop.noDigit
    simpa [readPower, letter] using hread

/-- Neither a point nor a power of ten goes on with the digits before it. -/
theorem SpellsPower.stops {power : Option Int} (h : SpellsPower power cs) (stop : NoNumeral rest) :
    NoDigit (cs ++ rest) ∧ '.' ∉ (cs ++ rest).head? := by
  cases h with
  | none =>
    refine ⟨stop.noDigit, fun hpoint => ?_⟩
    exact (stop _ hpoint).2.1 rfl
  | plain letter digits => rcases letter with rfl | rfl <;> simp [NoDigit]
  | plus letter digits => rcases letter with rfl | rfl <;> simp [NoDigit]
  | minus letter digits => rcases letter with rfl | rfl <;> simp [NoDigit]

/-- A number is read as far as it goes. -/
theorem readNumeral_of_spells (h : SpellsSize n cs) (stop : NoNumeral rest) :
    readNumeral n.negative (cs ++ rest) = .ok (n, rest) := by
  obtain @⟨power, whole, leading, fraction, powered⟩ := h
  obtain ⟨hdigit, hpoint⟩ := powered.stops stop
  have hfraction : NoDigit (pointed n.fraction ++ (power ++ rest)) := by
    cases n.fraction with
    | nil => exact hdigit
    | cons d ds => simp [NoDigit, pointed]
  rw [readNumeral, List.append_assoc, List.append_assoc, readWhole_of_digits whole leading hfraction,
    ok_bind]
  dsimp only
  rw [readFraction_of_digits fraction hdigit hpoint, ok_bind]
  dsimp only
  rw [readPower_of_spells powered stop, ok_bind]
  rfl

end

/-! ## Values -/

section
variable {bs cs rest : List Char}

/-- Blanks at the beginning are skipped. -/
theorem skipBlanks_append (blank : Blanks bs) : skipBlanks (bs ++ cs) = skipBlanks cs :=
  List.dropWhile_append_of_pos blank

/-- A character that is not blank is not skipped. -/
theorem skipBlanks_cons {c : Char} (h : isBlank c = false) : skipBlanks (c :: cs) = c :: cs := by
  rw [skipBlanks, List.dropWhile_cons_of_neg (by simp [h])]

/-- What comes after blanks is reached through them. -/
theorem skipBlanks_blanks {c : Char} (blank : Blanks bs) (h : isBlank c = false) :
    skipBlanks (bs ++ c :: cs) = c :: cs := by
  rw [skipBlanks_append blank, skipBlanks_cons h]

/-- A blank does not go on with a numeral. -/
theorem noNumeral_of_isBlank {c : Char} (h : isBlank c = true) : NoNumeral (c :: cs) := by
  have hc : ((c = ' ' ∨ c = '\n') ∨ c = '\t') ∨ c = '\r' := by simpa [isBlank] using h
  rcases hc with ((rfl | rfl) | rfl) | rfl <;> simp [NoNumeral]

/-- A digit is not blank. -/
theorem isBlank_of_isDigit {c : Char} (h : c.isDigit = true) : isBlank c = false := by
  rw [← Bool.not_eq_true]
  intro hblank
  have hends : NoNumeral [c] := noNumeral_of_isBlank hblank
  exact Bool.false_ne_true ((hends c rfl).1.symm.trans h)

/-- A number ends before a comma or a closing bracket, and before blanks in front of these. -/
theorem noNumeral_of_blanks {c : Char} (blank : Blanks bs) (h : NoNumeral (c :: cs)) :
    NoNumeral (bs ++ c :: cs) := by
  cases bs with
  | nil => exact h
  | cons b bs => exact noNumeral_of_isBlank (blank b (by simp))

/-- What follows an item does not go on with a numeral. -/
theorem SpelledItems.noNumeral {items : Items} (h : SpelledItems false items cs) :
    NoNumeral (cs ++ rest) := by
  cases h with
  | done blank =>
    rw [List.append_assoc]
    exact noNumeral_of_blanks blank (by simp [NoNumeral])
  | item separated value more =>
    obtain - | ⟨blank, blank'⟩ := separated
    simp only [List.append_assoc, List.cons_append]
    exact noNumeral_of_blanks blank (by simp [NoNumeral])

/-- What follows a member does not go on with a numeral. -/
theorem SpelledMembers.noNumeral {members : Members} (h : SpelledMembers false members cs) :
    NoNumeral (cs ++ rest) := by
  cases h with
  | done blank =>
    rw [List.append_assoc]
    exact noNumeral_of_blanks blank (by simp [NoNumeral])
  | member separated text blank blank' value more =>
    obtain - | ⟨blank, blank'⟩ := separated
    simp only [List.append_assoc, List.cons_append]
    exact noNumeral_of_blanks blank (by simp [NoNumeral])

/-- The size of a number begins with a digit. -/
theorem SpellsSize.exists_cons {n : Numeral} (h : SpellsSize n cs) :
    ∃ c more, cs = c :: more ∧ c.isDigit = true := by
  obtain @⟨power, whole, leading, fraction, powered⟩ := h
  obtain ⟨c, more, hwhole, hc⟩ := whole.exists_cons
  rw [hwhole]
  exact ⟨c, _, rfl, hc⟩

/-- A value begins with none of what may stand in front of it or close a list. -/
theorem Spelled.exists_cons {d : Doc} (h : Spelled d cs) :
    ∃ c more, cs = c :: more ∧ isBlank c = false ∧ c ≠ ']' := by
  cases h with
  | null => exact ⟨_, _, rfl, by decide, by decide⟩
  | yes => exact ⟨_, _, rfl, by decide, by decide⟩
  | no => exact ⟨_, _, rfl, by decide, by decide⟩
  | positive sign size =>
    obtain ⟨c, more, rfl, hc⟩ := size.exists_cons
    refine ⟨c, more, rfl, isBlank_of_isDigit hc, ?_⟩
    rintro rfl
    exact absurd hc (by decide)
  | negative sign size => exact ⟨_, _, rfl, by decide, by decide⟩
  | string text => exact ⟨_, _, rfl, by decide, by decide⟩
  | list more => exact ⟨_, _, rfl, by decide, by decide⟩
  | object more => exact ⟨_, _, rfl, by decide, by decide⟩

/-- At least the closing bracket is due. -/
theorem SpelledItems.length_pos {first : Bool} {items : Items} (h : SpelledItems first items cs) :
    0 < cs.length := by
  cases h with
  | done blank => simp
  | item separated value more =>
    obtain ⟨c, tail, rfl, -⟩ := value.exists_cons
    simp only [List.length_append, List.length_cons]
    omega

/-- A value that begins with a digit is a number. -/
theorem readValue_of_isDigit {fuel : Nat} {c : Char} (h : c.isDigit = true) (blank : Blanks bs) :
    readValue (fuel + 1) (bs ++ c :: cs) = numeralDoc (readNumeral false (c :: cs)) := by
  have hne {d : Char} (hd : d.isDigit = false) : c ≠ d := by
    rintro rfl
    exact Bool.false_ne_true (hd.symm.trans h)
  rw [readValue, skipBlanks_blanks blank (isBlank_of_isDigit h)]
  simp only [if_neg (hne (d := '"') (by decide)), if_neg (hne (d := '\x7b') (by decide)),
    if_neg (hne (d := '[') (by decide)), if_neg (hne (d := '-') (by decide)), h, if_true]

section
variable {first : Bool} {fuel : Nat} {sep : List Char}

/-- A bracket ends a list. -/
theorem readItems_done (blank : Blanks bs) :
    readItems (fuel + 1) first (bs ++ ']' :: rest) = (.done, some rest) := by
  rw [readItems, skipBlanks_blanks blank (by decide)]
  simp

/-- What separates two items is passed over. -/
theorem readItems_separated {c : Char} (separated : Separates first sep) (h : isBlank c = false)
    (hclose : c ≠ ']') : readItems (fuel + 1) first (sep ++ c :: cs) = readItem fuel (c :: cs) := by
  cases separated with
  | first blank =>
    rw [readItems, skipBlanks_blanks blank h]
    simp [hclose]
  | comma blank blank' =>
    rw [List.append_assoc, List.cons_append, readItems, skipBlanks_blanks blank (by decide)]
    simp [skipBlanks_blanks blank' h, hclose]

/-- An item is read as its value, and then the others. -/
theorem readItem_of_read {x : Doc} (h : readValue fuel cs = (x, some rest)) :
    readItem (fuel + 1) cs =
      (.item x (readItems fuel false rest).1, (readItems fuel false rest).2) := by
  rw [readItem, h]

/-- A brace ends an object. -/
theorem readMembers_done (blank : Blanks bs) :
    readMembers (fuel + 1) first (bs ++ '\x7d' :: rest) = (.done, some rest) := by
  rw [readMembers, skipBlanks_blanks blank (by decide)]
  simp

/-- What separates two members is passed over, up to the quote of a key. -/
theorem readMembers_separated (separated : Separates first sep) :
    readMembers (fuel + 1) first (sep ++ '"' :: cs) = readMember fuel cs := by
  cases separated with
  | first blank =>
    rw [readMembers, skipBlanks_blanks blank (by decide)]
    simp
  | comma blank blank' =>
    rw [List.append_assoc, List.cons_append, readMembers, skipBlanks_blanks blank (by decide)]
    simp [skipBlanks_blanks blank' (show isBlank '"' = false by decide)]

/-- A member is read as its key and its value, and then the others. -/
theorem readMember_of_read {key : String} {x : Doc} {ks : List Char} (text : SpellsText key.toList ks)
    (blank : Blanks bs) (h : readValue fuel cs = (x, some rest)) :
    readMember (fuel + 1) (ks ++ '"' :: (bs ++ ':' :: cs)) =
      (.member (.ok key) x (readMembers fuel false rest).1, (readMembers fuel false rest).2) := by
  have hkey : readText {} (ks ++ '"' :: (bs ++ ':' :: cs)) = .ok (.ok key, bs ++ ':' :: cs) := by
    simpa using readText_of_spells [] (bs ++ ':' :: cs) text
  rw [readMember, hkey]
  simp [skipBlanks_blanks blank (show isBlank ':' = false by decide), h]

end

end

mutual

/-- A value is read in whichever way it is written, and what follows it is left. -/
theorem readValue_of_spelled (fuel : Nat) {bs cs : List Char} (rest : List Char) (d : Doc)
    (h : Spelled d cs) (blank : Blanks bs) (stop : NoNumeral rest) (enough : 3 * cs.length ≤ fuel) :
    readValue fuel (bs ++ (cs ++ rest)) = (d, some rest) := by
  obtain ⟨c, more, hcs, hc, -⟩ := h.exists_cons
  obtain ⟨fuel, rfl⟩ : ∃ k, fuel = k + 1 := by
    rw [hcs, List.length_cons] at enough
    exact ⟨fuel - 1, by omega⟩
  match d with
  | .null =>
    cases h
    rw [readValue, List.cons_append, skipBlanks_blanks blank (by decide)]
    rfl
  | .bool b =>
    cases h <;> rw [readValue, List.cons_append, skipBlanks_blanks blank (by decide)] <;> rfl
  | .number n =>
    cases h with
    | positive sign size =>
      obtain ⟨d, ds, hds, hdigit⟩ := size.exists_cons
      have hread := readNumeral_of_spells size stop
      rw [sign, hds] at hread
      rw [hds, List.cons_append, readValue_of_isDigit hdigit blank, ← List.cons_append, hread]
      rfl
    | negative sign size =>
      have hread := readNumeral_of_spells size stop
      rw [sign] at hread
      rw [readValue, List.cons_append, skipBlanks_blanks blank (by decide)]
      simp [hread, numeralDoc]
  | .string text =>
    cases h with
    | @string s ts spelled =>
      have hread : readText {} (ts ++ '"' :: rest) = .ok (.ok s, rest) := by
        simpa using readText_of_spells [] rest spelled
      rw [readValue, List.cons_append, skipBlanks_blanks blank (by decide)]
      simp [hread, textDoc]
  | .list items =>
    cases h with
    | list more =>
      rw [List.length_cons] at enough
      have hitems := readItems_of_spelled fuel rest items more (by omega)
      rw [readValue, List.cons_append, skipBlanks_blanks blank (by decide)]
      simp [hitems]
  | .object members =>
    cases h with
    | object more =>
      rw [List.length_cons] at enough
      have hmembers := readMembers_of_spelled fuel rest members more (by omega)
      rw [readValue, List.cons_append, skipBlanks_blanks blank (by decide)]
      simp [hmembers]
  | .absent => cases h
  | .badString f => cases h
  | .badWord f => cases h
  | .stray => cases h

/-- The rest of a list is read in whichever way it is written. -/
theorem readItems_of_spelled {first : Bool} (fuel : Nat) {cs : List Char} (rest : List Char)
    (items : Items) (h : SpelledItems first items cs) (enough : 3 * cs.length ≤ fuel) :
    readItems fuel first (cs ++ rest) = (items, some rest) := by
  match items with
  | .done =>
    cases h with
    | done blank =>
      obtain ⟨fuel, rfl⟩ : ∃ k, fuel = k + 1 := by
        simp only [List.length_append, List.length_singleton] at enough
        exact ⟨fuel - 1, by omega⟩
      rw [List.append_assoc]
      exact readItems_done blank
  | .fault f => cases h
  | .item x items =>
    cases h with
    | @item _ _ _ sep vs ds separated value more =>
      obtain ⟨c, tail, hvs, hc, hclose⟩ := value.exists_cons
      obtain ⟨fuel, rfl⟩ : ∃ k, fuel = k + 2 := by
        simp only [List.length_append, hvs, List.length_cons] at enough
        exact ⟨fuel - 2, by omega⟩
      have hlength : 3 * vs.length ≤ fuel ∧ 3 * ds.length ≤ fuel := by
        have hmore := more.length_pos
        simp only [List.length_append, hvs, List.length_cons] at enough ⊢
        omega
      have hvalue := readValue_of_spelled fuel (ds ++ rest) x value blanks_nil more.noNumeral hlength.1
      have hmore := readItems_of_spelled fuel rest items more hlength.2
      have hitem := readItem_of_read hvalue
      rw [hmore] at hitem
      rw [List.append_assoc, List.append_assoc, ← hitem, hvs]
      exact readItems_separated separated hc hclose

/-- The rest of an object is read in whichever way it is written. -/
theorem readMembers_of_spelled {first : Bool} (fuel : Nat) {cs : List Char} (rest : List Char)
    (members : Members) (h : SpelledMembers first members cs) (enough : 3 * cs.length ≤ fuel) :
    readMembers fuel first (cs ++ rest) = (members, some rest) := by
  match members with
  | .done =>
    cases h with
    | done blank =>
      obtain ⟨fuel, rfl⟩ : ∃ k, fuel = k + 1 := by
        simp only [List.length_append, List.length_singleton] at enough
        exact ⟨fuel - 1, by omega⟩
      rw [List.append_assoc]
      exact readMembers_done blank
  | .fault f => cases h
  | .badKey f => cases h
  | .noColon key e => cases h
  | .member key x members =>
    cases h with
    | @member _ _ _ _ _ _ _ _ vs ds separated text blank blank' value more =>
      obtain ⟨fuel, rfl⟩ : ∃ k, fuel = k + 2 := by
        simp only [List.length_append, List.length_cons] at enough
        exact ⟨fuel - 2, by omega⟩
      have hlength : 3 * vs.length ≤ fuel ∧ 3 * ds.length ≤ fuel := by
        simp only [List.length_append, List.length_cons] at enough
        omega
      have hvalue := readValue_of_spelled fuel (ds ++ rest) x value blank' more.noNumeral hlength.1
      have hmore := readMembers_of_spelled fuel rest members more hlength.2
      have hmember := readMember_of_read text blank hvalue
      rw [hmore] at hmember
      simp only [List.append_assoc, List.cons_append]
      rw [readMembers_separated separated]
      exact hmember

end

/-! ## Whole texts -/

section
variable {d : Doc} {text : String}

/-- A whole text is read in whichever way it is written, and nothing but blanks is left of it. -/
theorem exists_ofChars_of_spells (h : d.Spells text) :
    ∃ bs, Blanks bs ∧ Doc.ofChars text.toList = (d, some bs) := by
  obtain ⟨blank, value, blank', chars⟩ := h
  rename_i bs cs bs'
  refine ⟨bs', blank', ?_⟩
  have hstop : NoNumeral bs' := by
    cases bs' with
    | nil => simp [NoNumeral]
    | cons b bs' => exact noNumeral_of_isBlank (blank' b (by simp))
  rw [chars, Doc.ofChars, List.append_assoc]
  refine readValue_of_spelled _ bs' d value blank hstop ?_
  simp only [List.length_append]
  omega

/-- What a decoder makes of a text is what it makes of the value for which the text stands. -/
theorem parseWith_of_spells {α : Type} {decode : Decoder α} (h : d.Spells text) :
    parseWith decode text = decode d := by
  obtain ⟨bs, blank, hread⟩ := exists_ofChars_of_spells h
  have hnothing : skipBlanks bs = [] := by
    rw [← List.append_nil bs, skipBlanks_append blank]
    rfl
  rw [parseWith, hread]
  dsimp only
  cases decode d with
  | error e => rfl
  | ok a =>
    rw [ok_bind, hnothing]
    rfl

end

/-! ## Sound values -/

mutual

/-- A value that a text stands for can be passed over. -/
theorem Spelled.skip_eq_ok {cs : List Char} (d : Doc) (h : Spelled d cs) : d.skip = .ok () := by
  match d with
  | .null => rfl
  | .bool b => rfl
  | .number n => rfl
  | .string s => rfl
  | .list items =>
    cases h with
    | list more => exact more.skip_eq_ok items
  | .object members =>
    cases h with
    | object more => exact more.skip_eq_ok members
  | .absent => cases h
  | .badString f => cases h
  | .badWord f => cases h
  | .stray => cases h

/-- Items that have a text are whole. -/
theorem SpelledItems.skip_eq_ok {first : Bool} {cs : List Char} (items : Items)
    (h : SpelledItems first items cs) : Doc.skipItems items = .ok () := by
  match items with
  | .done => rfl
  | .fault f => cases h
  | .item x items =>
    cases h with
    | item separated value more =>
      rw [Doc.skipItems, value.skip_eq_ok x]
      exact more.skip_eq_ok items

/-- Members that have a text are whole. -/
theorem SpelledMembers.skip_eq_ok {first : Bool} {cs : List Char} (members : Members)
    (h : SpelledMembers first members cs) : Doc.skipMembers members = .ok () := by
  match members with
  | .done => rfl
  | .fault f => cases h
  | .badKey f => cases h
  | .noColon key e => cases h
  | .member key x members =>
    cases h with
    | member separated text blank blank' value more =>
      rw [Doc.skipMembers, value.skip_eq_ok x]
      exact more.skip_eq_ok members

end

end Autoformat.Json
