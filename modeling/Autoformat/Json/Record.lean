import Autoformat.Json.Decoder

/-!
# Records in JSON

`Fields` describes the fields of a record: their names in order, and how a record is put together from
the members of an object or from the items of a list. `Fields.record` is the decoder.

In an object, members are looked at in the order of the text. A member that no field names is passed
over, and one that stands twice is an error. Only then are absent fields noticed. A list holds the fields
in order, and may stop early where the fields left out say what they are then.
-/

namespace Autoformat.Json

/-- Why a list does not give a record. -/
inductive ListError where
  /-- The list stops at a field that must be there, after so many others. -/
  | short (before : Nat)
  | wrong (e : DecodeError)

/-- The same error, with more fields in front. -/
def ListError.after (fields : Nat) : ListError → ListError
  | .short before => .short (fields + before)
  | .wrong e => .wrong e

/-- How a part of a record is read. -/
structure Fields (α : Type) where
  /-- The fields in order, with what is wrong with a value. -/
  checks : List (String × (Doc → Decoded Unit))
  /-- The part, from members that passed their checks. -/
  ofMembers : List (String × Doc) → Decoded α
  /-- The part from the items of a list, and the items left. -/
  ofItems : Items → Except ListError (α × Items)

namespace Fields

/-- A part that needs no field. -/
protected def pure {α : Type} (a : α) : Fields α where
  checks := []
  ofMembers := fun _ => .ok a
  ofItems := fun items => .ok (a, items)

/-- The fields of two parts, one after the other. -/
protected def seq {α β : Type} (f : Fields (α → β)) (x : Fields α) : Fields β where
  checks := f.checks ++ x.checks
  ofMembers := fun members => do
    let g ← f.ofMembers members
    let a ← x.ofMembers members
    pure (g a)
  ofItems := fun items => do
    let (g, items) ← f.ofItems items
    let (a, items) ← (x.ofItems items).mapError (.after f.checks.length)
    pure (g a, items)

instance : Applicative Fields where
  pure := Fields.pure
  seq f x := Fields.seq f (x ())

/-- One field. `absent` is its value in an object without it, `cut` in a list that stops before it. -/
def field {α : Type} (name : String) (decode : Decoder α) (absent cut : Option α) : Fields α where
  checks := [(name, fun d => do let _ ← decode d)]
  ofMembers := fun members =>
    match members.lookup name with
    | some d => decode d
    | none =>
      match absent with
      | some a => .ok a
      | none => .error (.missingField name)
  ofItems := fun
    | .done =>
      match cut with
      | some a => .ok (a, .done)
      | none => .error (.short 0)
    | .fault f => .error (.wrong (.malformed f.read))
    | .item x rest =>
      match decode x with
      | .ok a => .ok (a, rest)
      | .error e => .error (.wrong e)

/-- A field that must be there. -/
def required {α : Type} [Wire α] (name : String) : Fields α := field name decode none none

/-- A field with a value of its own when it is left out. -/
def defaulted {α : Type} [Wire α] (name : String) (a : α) : Fields α :=
  field name decode (some a) (some a)

/-- A field that an object may leave out, and a list may not. -/
def nullable {α : Type} [Wire α] (name : String) : Fields (Option α) :=
  field name decode (some none) none

/-- The members of an object that name a field, once every member is looked at in order. -/
def scan {α : Type} (fields : Fields α) (seen : List String) :
    Members → Decoded (List (String × Doc))
  | .done => .ok []
  | .fault f => malformed f.read
  | .badKey f => malformed f.read
  | .noColon key e => do
    let key ← decodedText key
    if (fields.checks.lookup key).isSome && seen.contains key then .error (.duplicateField key)
    else malformed e
  | .member key x rest => do
    let key ← decodedText key
    match fields.checks.lookup key with
    | none =>
      x.skip
      fields.scan seen rest
    | some check =>
      if seen.contains key then .error (.duplicateField key)
      else
        check x
        let members ← fields.scan (key :: seen) rest
        pure ((key, x) :: members)

end Fields

/-- What must follow the last field in a list. -/
def Items.close : Items → Decoded Unit
  | .done => .ok ()
  | .fault f =>
    malformed
      (match f.read with
       | .trailingComma => .trailingComma
       | .endInList => .endInList
       | _ => .trailingCharacters)
  | .item _ _ => malformed .trailingCharacters

/-- A record, as an object or as a list of its fields. -/
def Fields.record {α : Type} (name : String) (fields : Fields α) : Decoder α
  | .object members => do
    let members ← fields.scan [] members
    fields.ofMembers members
  | .list items =>
    match fields.ofItems items with
    | .ok (a, rest) => do
      rest.close
      pure a
    | .error (.short before) => .error (.invalidLength before name fields.checks.length)
    | .error (.wrong e) => .error e
  | d => d.mistyped ("struct " ++ name)

end Autoformat.Json
