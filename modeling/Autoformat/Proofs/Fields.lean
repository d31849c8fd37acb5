import Autoformat.Json.Record

/-!
# Looking up the fields of a record

A record stands in a text as an object or as the list of its fields. `Doc.field?` finds a field there, by
its key in an object and by its place in a list, in whatever order the members of an object come and
whatever else is among them.

`Fields.exists_gives` says that a record that decodes is put together from fields that are found in this
way. `gives_seq_iff` and `gives_map_iff` take it apart again, and `Gives.value` is what they end at: the
part of the record that belongs to a field is what its decoder makes of the value found there.
-/

namespace Autoformat.Json

theorem bind_eq_ok_iff {ε α β : Type} {x : Except ε α} {f : α → Except ε β} {b : β} :
    x >>= f = .ok b ↔ ∃ a, x = .ok a ∧ f a = .ok b := by
  cases x <;> simp [bind, Except.bind]

/-- Two checks in a row succeed when both do. -/
theorem then_eq_ok_iff {ε β : Type} {x : Except ε Unit} {y : Except ε β} {b : β} :
    (do x; y) = .ok b ↔ x = .ok () ∧ y = .ok b := by
  cases x <;> simp [bind, Except.bind]

theorem mapError_eq_ok_iff {ε ε' α : Type} {x : Except ε α} {f : ε → ε'} {a : α} :
    x.mapError f = .ok a ↔ x = .ok a := by
  cases x with
  | error e =>
    show Except.error (f e) = .ok a ↔ _
    simp
  | ok b =>
    show Except.ok b = .ok a ↔ _
    simp

/-- A text that is read is the text that is there. -/
theorem decodedText_eq_ok_iff {s : Except SyntaxError String} {a : String} :
    decodedText s = .ok a ↔ s = .ok a := by
  cases s <;> simp [decodedText, malformed]

/-! ## Values in a text -/

/-- The value of the first member with the given key. -/
def Members.get? (key : String) : Members → Option Doc
  | .member (.ok k) x rest => if k = key then some x else rest.get? key
  | .member (.error _) _ rest => rest.get? key
  | _ => none

/-- The item at the given place. -/
def Items.get? : Items → Nat → Option Doc
  | .item x _, 0 => some x
  | .item _ rest, n + 1 => rest.get? n
  | _, _ => none

namespace Doc

/-- The field of a record, by its key and its place. -/
def field? (key : String) (place : Nat) : Doc → Option Doc
  | .object members => members.get? key
  | .list items => items.get? place
  | _ => none

/-- The value with which a text begins. -/
def ofText (text : String) : Doc := (ofChars text.toList).1

/-- The text that a value is. -/
def text? : Doc → Option String
  | .string (.ok s) => some s
  | _ => none

end Doc

/-- The texts of a list that holds nothing else. -/
def Items.texts? : Items → Option (List String)
  | .done => some []
  | .item x rest => do
    let s ← x.text?
    let ss ← rest.texts?
    pure (s :: ss)
  | .fault _ => none

namespace Doc

/-- The texts of which a value is the list. -/
def texts? : Doc → Option (List String)
  | .list items => items.texts?
  | _ => none

end Doc

/-- What a text is decoded to is what its document is decoded to. -/
theorem decode_of_parseWith {α : Type} {decode : Decoder α} {s : String} {a : α}
    (h : parseWith decode s = .ok a) : decode (Doc.ofText s) = .ok a := by
  obtain ⟨b, hb, h⟩ := bind_eq_ok_iff.1 h
  suffices hba : b = a from hba ▸ hb
  split at h
  · cases h
  · split at h <;> cases h
    rfl

/-- A document that is a text is a string without faults. -/
theorem eq_string_of_text? {x : Doc} {s : String} (h : x.text? = some s) : x = .string (.ok s) := by
  unfold Doc.text? at h
  split at h <;> cases h
  rfl

/-- A list of texts is decoded item by item. -/
theorem itemsAs_of_texts? {α : Type} {decode : Decoder α} {f : String → α}
    (hf : ∀ s, decode (.string (.ok s)) = .ok (f s)) {items : Items} {ss : List String}
    (h : items.texts? = some ss) : Doc.itemsAs decode items = .ok (ss.map f) := by
  fun_induction Items.texts? items generalizing ss with
  | case1 => cases h; rfl
  | case2 x rest ih =>
    obtain ⟨s, hs, h⟩ := Option.bind_eq_some_iff.1 h
    obtain ⟨ss, hss, h⟩ := Option.bind_eq_some_iff.1 h
    cases h
    rw [eq_string_of_text? hs, Doc.itemsAs, hf, ih hss]
    rfl
  | case3 => cases h

/-- A list of texts is read text by text. -/
theorem asList_of_texts? {α : Type} {decode : Decoder α} {f : String → α}
    (hf : ∀ s, decode (.string (.ok s)) = .ok (f s)) {x : Doc} {ss : List String}
    (h : x.texts? = some ss) : Doc.asList decode x = .ok (ss.map f) := by
  unfold Doc.texts? at h
  split at h
  · exact itemsAs_of_texts? hf h
  · cases h

/-! ## What a record is read from -/

/-- What a record is read from: the members of an object that name its fields, or what is left of a
list. -/
inductive Source where
  | members (found : List (String × Doc))
  | items (left : Items)

/-- The field with the given key, so many places from here. -/
def Source.find? (key : String) (place : Nat) : Source → Option Doc
  | .members found => found.lookup key
  | .items left => left.get? place

namespace Fields

variable {α β : Type}

/-- A part of a record is read from a source and leaves another. -/
inductive Gives (fields : Fields α) : Source → α → Source → Prop where
  | members {found : List (String × Doc)} {a : α} (h : fields.ofMembers found = .ok a) :
    Gives fields (.members found) a (.members found)
  | items {items rest : Items} {a : α} (h : fields.ofItems items = .ok (a, rest)) :
    Gives fields (.items items) a (.items rest)

variable {s s' : Source}

/-- Two readers of fields in a row give their values one after the other. -/
theorem gives_seq_iff {f : Fields (α → β)} {x : Fields α} {b : β} :
    (f <*> x).Gives s b s' ↔ ∃ g mid a, f.Gives s g mid ∧ x.Gives mid a s' ∧ g a = b := by
  constructor
  · rintro (h | h)
    · obtain ⟨g, hg, h⟩ := bind_eq_ok_iff.1 h
      obtain ⟨a, ha, h⟩ := bind_eq_ok_iff.1 h
      cases h
      exact ⟨g, _, a, .members hg, .members ha, rfl⟩
    · obtain ⟨⟨g, mid⟩, hg, h⟩ := bind_eq_ok_iff.1 h
      obtain ⟨⟨a, rest⟩, ha, h⟩ := bind_eq_ok_iff.1 h
      cases h
      exact ⟨g, _, a, .items hg, .items (mapError_eq_ok_iff.1 ha), rfl⟩
  · rintro ⟨g, mid, a, hg, ha, rfl⟩
    cases hg with
    | members hg =>
      cases ha with
      | members ha => exact .members (bind_eq_ok_iff.2 ⟨g, hg, bind_eq_ok_iff.2 ⟨a, ha, rfl⟩⟩)
    | items hg =>
      cases ha with
      | items ha =>
        exact .items (bind_eq_ok_iff.2 ⟨_, hg, bind_eq_ok_iff.2 ⟨_, mapError_eq_ok_iff.2 ha, rfl⟩⟩)

/-- A value that is known reads no field. -/
theorem gives_pure_iff {a b : α} : (pure a : Fields α).Gives s b s' ↔ a = b ∧ s = s' := by
  constructor
  · rintro (h | h) <;> cases h <;> exact ⟨rfl, rfl⟩
  · rintro ⟨rfl, rfl⟩
    cases s
    · exact .members rfl
    · exact .items rfl

/-- A function of a value is applied to what is read. -/
theorem gives_map_iff {f : α → β} {x : Fields α} {b : β} :
    (f <$> x).Gives s b s' ↔ ∃ a, x.Gives s a s' ∧ f a = b := by
  refine gives_seq_iff.trans ⟨?_, ?_⟩
  · rintro ⟨g, mid, a, hg, ha, rfl⟩
    obtain ⟨rfl, rfl⟩ := gives_pure_iff.1 hg
    exact ⟨a, ha, rfl⟩
  · rintro ⟨a, ha, rfl⟩
    exact ⟨f, s, a, gives_pure_iff.2 ⟨rfl, rfl⟩, ha, rfl⟩

section

variable {key : String} {decode : Decoder α} {absent cut : Option α} {a : α}

/-- A field that is found holds what its decoder makes of it. -/
theorem Gives.value (h : (field key decode absent cut).Gives s a s') {x : Doc}
    (hx : s.find? key 0 = some x) : decode x = .ok a := by
  rcases h with @⟨found, _, h⟩ | @⟨items, rest, _, h⟩
  · rw [Source.find?] at hx
    simpa [field, hx] using h
  · cases items with
    | item y _ =>
      cases hx
      cases hy : decode x <;> simp [field, hy] at h
      rw [h.1]
    | _ => cases hx

/-- A field takes one place of a list. -/
theorem Gives.find?_eq (h : (field key decode absent cut).Gives s a s') (key' : String)
    (place : Nat) : s'.find? key' place = s.find? key' (place + 1) := by
  rcases h with @⟨found, _, h⟩ | @⟨items, rest, _, h⟩
  · rfl
  · cases items with
    | done => cases cut <;> simp [field] at h; rw [← h.2]; rfl
    | fault f => cases h
    | item y _ =>
      cases hy : decode y <;> simp [field, hy] at h
      rw [h.2]
      rfl

end

/-! ## Reading a record -/

variable {fields : Fields α} {seen : List String} {found : List (String × Doc)}

/-- A member is passed over when no field has its key, and else it is the only one of its field. -/
theorem scan_member_eq_ok_iff {k : Except SyntaxError String} {x : Doc} {rest : Members} :
    fields.scan seen (.member k x rest) = .ok found ↔ ∃ key, k = .ok key ∧
      ((fields.checks.lookup key = none ∧ x.skip = .ok () ∧ fields.scan seen rest = .ok found) ∨
        ∃ check more, fields.checks.lookup key = some check ∧ key ∉ seen ∧ check x = .ok () ∧
          fields.scan (key :: seen) rest = .ok more ∧ found = (key, x) :: more) := by
  rw [scan, bind_eq_ok_iff]
  refine exists_congr fun key => and_congr decodedText_eq_ok_iff ?_
  cases hcheck : fields.checks.lookup key with
  | none => simp [then_eq_ok_iff]
  | some check =>
    by_cases hseen : key ∈ seen
    · simp [hseen]
    · simp only [List.contains_eq_mem, hseen, decide_false, Bool.false_eq_true, if_false,
        then_eq_ok_iff]
      simp [bind_eq_ok_iff, pure, Except.pure, @eq_comm _ found]

/-- The members that are kept are the first with their keys. -/
theorem lookup_of_scan {members : Members} (h : fields.scan seen members = .ok found) {key : String}
    (hkey : (fields.checks.lookup key).isSome) : found.lookup key = members.get? key := by
  fun_induction Fields.scan fields seen members generalizing found with
  | case1 => cases h; rfl
  | case2 | case3 => cases h
  | case4 seen k e =>
    obtain ⟨key', -, h⟩ := bind_eq_ok_iff.1 h
    split at h <;> cases h
  | case5 seen k x rest ihSkip ihKeep =>
    obtain ⟨key', rfl, ⟨hnone, -, h⟩ | ⟨check, more, -, -, -, hrest, rfl⟩⟩ := scan_member_eq_ok_iff.1 h
    · have hne : key' ≠ key := fun heq => by simp [← heq, hnone] at hkey
      rw [ihSkip h, Members.get?, if_neg hne]
    · rw [List.lookup_cons, Members.get?, ihKeep key' hrest]
      by_cases heq : key' = key
      · simp [heq]
      · simp [heq, beq_eq_false_iff_ne.2 (Ne.symm heq)]

/-- A value of the wrong type is an error. -/
theorem mistyped_ne_ok {expected : String} {doc : Doc} {a : α} :
    doc.mistyped expected ≠ .ok a := by
  fun_cases Doc.mistyped (α := α) expected doc <;> simp [malformed]

/-- A record that decodes is put together from the fields that its text holds. -/
theorem exists_gives {name : String} {doc : Doc} {a : α} (h : fields.record name doc = .ok a) :
    ∃ s s', fields.Gives s a s' ∧
      ∀ key place, (fields.checks.lookup key).isSome → s.find? key place = doc.field? key place := by
  cases doc with
  | object members =>
    obtain ⟨found, hfound, h⟩ := bind_eq_ok_iff.1 h
    refine ⟨_, _, .members h, fun key _ hkey => ?_⟩
    rw [Source.find?, Doc.field?, lookup_of_scan hfound hkey]
  | list items =>
    rw [record] at h
    split at h
    next b rest hitems =>
      obtain ⟨-, h⟩ := then_eq_ok_iff.1 h
      cases h
      exact ⟨_, _, .items hitems, fun key place _ => rfl⟩
    · cases h
    · cases h
  | _ =>
    simp only [record] at h
    exact absurd h mistyped_ne_ok

end Fields

end Autoformat.Json
