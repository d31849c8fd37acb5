import Autoformat.Json.Word
import Autoformat.Proofs.Objects

/-!
# Values that have the wrong shape

A `Shape` is what a decoder asks of a value: a kind of scalar, or an object with certain members. A value is
broken for a shape when some member is missing that must be there, or when it has a scalar in the place of
something else, however deep inside and whatever stands around it (`Shape.Broken`).

`Refuses` says that a decoder refuses the values that are broken for a shape. A record does when its fields do
(`refuses_record`): no record is read without the fields that it needs (`Fields.Needs`), and every value of a
field passes its check (`Fields.check_of_record`).
-/

namespace Autoformat.Json

/-- What is asked of a value. -/
inductive Shape where
  | text
  /-- A text or `null`. -/
  | note
  /-- A whole number of 64 bits. -/
  | word
  | any
  /-- An object with such members, by their keys, and whether they must be there. -/
  | record (fields : List (String × Bool × Shape))

/-- The value is neither a list nor an object. -/
inductive Doc.IsScalar : Doc → Prop where
  | null : IsScalar .null
  | bool {b : Bool} : IsScalar (.bool b)
  | number {n : Numeral} : IsScalar (.number n)
  | string {s : Except SyntaxError String} : IsScalar (.string s)

/-- The number is written as a whole one, without a sign, and fits 64 bits. -/
structure Numeral.IsWord (n : Numeral) : Prop where
  unsigned : n.negative = false
  whole : n.fraction = []
  plain : n.power = none
  fits : Decimal.ofDigits n.whole < UInt64.size

/-- The value is such a scalar as is asked for. -/
inductive Shape.Takes : Shape → Doc → Prop where
  | text {s : String} : Takes .text (.string (.ok s))
  | note {s : String} : Takes .note (.string (.ok s))
  | nothing : Takes .note .null
  | word {n : Numeral} (h : n.IsWord) : Takes .word (.number n)
  | any {x : Doc} : Takes .any x

/-- Something is missing in the value, or is a scalar of another kind. -/
inductive Shape.Broken : Shape → Doc → Prop where
  | scalar {s : Shape} {x : Doc} (scalar : x.IsScalar) (other : ¬s.Takes x) : Broken s x
  | missing {fields : List (String × Bool × Shape)} {key : String} {s : Shape} {members : Members}
    (field : (key, true, s) ∈ fields) (missing : members.values key = []) : Broken (.record fields) (.object members)
  | inside {fields : List (String × Bool × Shape)} {key : String} {required : Bool} {s : Shape}
    {members : Members} {x : Doc} (field : (key, required, s) ∈ fields) (value : x ∈ members.values key)
    (broken : Broken s x) : Broken (.record fields) (.object members)

/-- No value is read that is broken for the shape. -/
def Refuses {α : Type} (decode : Decoder α) (s : Shape) : Prop := ∀ d, s.Broken d → ∀ a, decode d ≠ .ok a

/-! ## Scalars -/

section
variable {s : Shape} {x : Doc} {α : Type} {decode : Decoder α}

/-- What asks for a scalar is broken by scalars alone. -/
theorem Shape.Broken.isScalar (h : s.Broken x) (leaf : ∀ fields, s ≠ .record fields) : x.IsScalar ∧ ¬s.Takes x := by
  cases h with
  | scalar scalar other => exact ⟨scalar, other⟩
  | missing => exact absurd rfl (leaf _)
  | inside => exact absurd rfl (leaf _)

/-- What is broken for a shape without fields is refused, when all scalars that are decoded are of the shape. -/
theorem refuses_scalar (leaf : ∀ fields, s ≠ .record fields)
    (h : ∀ x a, x.IsScalar → decode x = .ok a → s.Takes x) : Refuses decode s := by
  intro x hbroken a hread
  obtain ⟨scalar, other⟩ := hbroken.isScalar leaf
  exact other (h x a scalar hread)

/-- No value is broken where any value will do. -/
theorem refuses_any : Refuses decode .any :=
  refuses_scalar (fun _ => nofun) fun _ _ _ _ => .any

/-- Only a text is read as a text. -/
theorem eq_string_of_decode {t : String} (h : Wire.decode x = .ok t) : x = .string (.ok t) := by
  cases x with
  | string => rw [decodedText_eq_ok_iff.1 h]
  | number n =>
    have hmistyped : (Doc.number n).mistyped "a string" = .ok t := h
    exact (Fields.mistyped_ne_ok hmistyped).elim
  | _ => cases h

/-- An optional value is null or decodes. -/
theorem eq_null_or_exists_of_asOptional {o : Option α} (h : Doc.asOptional decode x = .ok o) :
    x = .null ∨ ∃ a, decode x = .ok a := by
  unfold Doc.asOptional at h
  split at h
  · exact .inl rfl
  · cases hx : decode x with
    | error e =>
      rw [hx] at h
      cases h
    | ok a => exact .inr ⟨a, rfl⟩

/-- A text is decoded from strings only. -/
theorem refuses_text : Refuses (Wire.decode : Decoder String) .text := by
  refine refuses_scalar (fun _ => nofun) fun x a _ hread => ?_
  rw [eq_string_of_decode hread]
  exact .text

/-- An optional text is decoded from strings and null only. -/
theorem refuses_note : Refuses (Wire.decode : Decoder (Option String)) .note := by
  refine refuses_scalar (fun _ => nofun) fun x a _ hread => ?_
  rcases eq_null_or_exists_of_asOptional hread with rfl | ⟨s, hs⟩
  · exact .nothing
  · rw [eq_string_of_decode hs]
    exact .note

/-- Only whole numbers that are written as such are read as whole numbers. -/
theorem Numeral.isWord_of_value {n : Numeral} {k : UInt64} (h : n.value = .ok (.unsigned k)) : n.IsWord := by
  -- what is read as a fraction is never whole, whatever its size
  have hfloat : n.float ≠ .ok (.unsigned k) := by
    simp only [Numeral.float]
    intro hk
    split at hk
    · split at hk <;> cases hk
    · split at hk <;> cases hk
  rw [Numeral.value] at h
  split at h
  next hplain =>
    split at h
    next hnegative =>
      split at h
      · cases h
      · exact absurd h hfloat
    next hnegative =>
      split at h
      next hfits =>
        exact ⟨by simpa using hnegative, by simpa using hplain.1, by simpa using hplain.2, hfits⟩
      next => exact absurd h hfloat
  next => exact absurd h hfloat

/-- A word is decoded from numbers only. -/
theorem refuses_word : Refuses (Wire.decode : Decoder UInt64) .word := by
  refine refuses_scalar (fun _ => nofun) fun x a scalar hread => ?_
  cases scalar with
  | @number n =>
    change Doc.asWord (.number n) = .ok a at hread
    rw [Doc.asWord] at hread
    split at hread
    next k hvalue => exact .word (Numeral.isWord_of_value hvalue)
    all_goals cases hread
  | @string s => cases s <;> cases hread
  | _ => cases hread

/-- One of several words must be a text, as far as scalars go. -/
theorem refuses_wordOf {words : List (String × α)} {fallback : Option α} :
    Refuses (Doc.asWordOf words fallback) .text := by
  refine refuses_scalar (fun _ => nofun) fun x a scalar hread => ?_
  cases scalar with
  | @string s =>
    cases s with
    | ok s => exact .text
    | error e => cases hread
  | _ => cases hread

end

/-! ## Records -/

namespace Fields

variable {α β : Type} {fields : Fields α} {key : String}

/-- A part of a record is not read from members without the key. -/
def Needs (fields : Fields α) (key : String) : Prop :=
  ∀ found : List (String × Doc), found.lookup key = none → ∀ a, fields.ofMembers found ≠ .ok a

/-- A field without a default has to be there. -/
theorem needs_field {decode : Decoder α} {cut : Option α} : (field key decode none cut).Needs key := by
  intro found hkey a
  simp [field, hkey]

/-- What the first of two readers needs, both need. -/
theorem Needs.seq_left {f : Fields (α → β)} {x : Fields α} (h : f.Needs key) : (f <*> x).Needs key := by
  intro found hkey b hb
  obtain ⟨g, hg, -⟩ := bind_eq_ok_iff.1 hb
  exact h found hkey g hg

/-- What the second of two readers needs, both need. -/
theorem Needs.seq_right {f : Fields (α → β)} {x : Fields α} (h : x.Needs key) : (f <*> x).Needs key := by
  intro found hkey b hb
  obtain ⟨g, -, hb⟩ := bind_eq_ok_iff.1 hb
  obtain ⟨a, ha, -⟩ := bind_eq_ok_iff.1 hb
  exact h found hkey a ha

/-- What is made of a value needs what the value needs. -/
theorem Needs.map {x : Fields α} (f : α → β) (h : x.Needs key) : (f <$> x).Needs key := h.seq_right

/-- A key without values is not found. -/
theorem get?_eq_none_of_values {members : Members} (h : members.values key = []) : members.get? key = none := by
  fun_induction Members.get? key members with
  | case1 x rest => simp [Members.values, Members.pairs] at h
  | case2 k x rest hne ih => exact ih (by simpa [Members.values, Members.pairs, hne] using h)
  | case3 e x rest ih => exact ih (by simpa [Members.values, Members.pairs] using h)
  | case4 => rfl

/-- The members that are scanned have passed the checks of their fields. -/
theorem check_of_scan {seen : List String} {members : Members} {found : List (String × Doc)}
    (h : fields.scan seen members = .ok found) {check : Doc → Decoded Unit}
    (hcheck : fields.checks.lookup key = some check) {x : Doc} (hx : (key, x) ∈ members.pairs) :
    check x = .ok () := by
  fun_induction Fields.scan fields seen members generalizing found with
  | case1 => cases hx
  | case2 | case3 => cases h
  | case4 seen k e => cases hx
  | case5 seen k y rest ihSkip ihKeep =>
    obtain ⟨key', rfl, ⟨hnone, -, h⟩ | ⟨check', more, hcheck', -, hy, hrest, -⟩⟩ := scan_member_eq_ok_iff.1 h
    -- a member that is passed over names no field, so it is another one
    · rcases List.mem_cons.1 hx with heq | hx
      · cases heq
        cases hnone.symm.trans hcheck
      · exact ihSkip h hx
    -- a member that is kept has been checked
    · rcases List.mem_cons.1 hx with heq | hx
      · cases heq
        cases hcheck'.symm.trans hcheck
        exact hy
      · exact ihKeep key' hrest hx

/-- A field of a record asks for a value of the shape. -/
structure Asks (fields : Fields α) (key : String) (required : Bool) (s : Shape) : Prop where
  needs (h : required = true) : fields.Needs key
  refuses : ∃ (γ : Type) (decode : Decoder γ),
    fields.checks.lookup key = some (fun d => do let _ ← decode d) ∧ Refuses decode s

end Fields

/-- A record whose fields ask for the shapes of some members refuses objects without such members. -/
theorem refuses_record {α : Type} {fields : Fields α} {name : String} {asked : List (String × Bool × Shape)}
    (h : ∀ m ∈ asked, fields.Asks m.1 m.2.1 m.2.2) : Refuses (fields.record name) (.record asked) := by
  intro d hbroken a hread
  cases hbroken with
  | scalar scalar other =>
    cases scalar <;>
    · simp only [Fields.record] at hread
      exact absurd hread Fields.mistyped_ne_ok
  | missing field missing =>
    -- what is kept of the members is not enough for the field
    obtain ⟨found, hfound, hof⟩ := bind_eq_ok_iff.1 hread
    obtain ⟨needs, γ, decode, hlookup, -⟩ := h _ field
    refine needs rfl found ?_ a hof
    rw [Fields.lookup_of_scan hfound (by rw [hlookup]; rfl)]
    exact Fields.get?_eq_none_of_values missing
  | inside field value broken =>
    -- the value has passed the check of its field, which its decoder makes
    obtain ⟨found, hfound, -⟩ := bind_eq_ok_iff.1 hread
    obtain ⟨-, γ, decode, hlookup, refuses⟩ := h _ field
    obtain ⟨b, hb, -⟩ := bind_eq_ok_iff.1 (Fields.check_of_scan hfound hlookup (Members.mem_values_iff.1 value))
    exact refuses _ broken b hb

end Autoformat.Json
