import Autoformat.Json.Decoder

/-!
# Words

A type with finitely many values, each of which has a name, is written in JSON by its names.
-/

namespace Autoformat

/-- A type whose values are listed and named. -/
class Named (α : Type) where
  all : List α
  name : α → String

namespace Named

variable {α : Type} [Named α]

/-- The values by their names. -/
def words : List (String × α) := all.map fun a => (name a, a)

/-- The value with the given name. -/
def ofName? (s : String) : Option α := (words (α := α)).lookup s

/-- Values as words; a word that names none is the fallback, or wrong without one. -/
abbrev wire (fallback : Option α) : Json.Wire α :=
  ⟨fun a => .string (name a), Json.Doc.asWordOf words fallback⟩

end Named

end Autoformat
