import Autoformat.Json.Word

/-!
# What a commenter is to the repository
-/

namespace Autoformat

/-- What the author of a comment is to the repository. -/
inductive Association where
  | owner
  | member
  | collaborator
  | contributor
  | firstTimeContributor
  | firstTimer
  | mannequin
  /-- Nothing at all, or something that is not known here. -/
  | other
  deriving DecidableEq, Repr

namespace Association

/-- The name of an association. -/
def name : Association → String
  | .owner => "OWNER"
  | .member => "MEMBER"
  | .collaborator => "COLLABORATOR"
  | .contributor => "CONTRIBUTOR"
  | .firstTimeContributor => "FIRST_TIME_CONTRIBUTOR"
  | .firstTimer => "FIRST_TIMER"
  | .mannequin => "MANNEQUIN"
  | .other => "NONE"

instance : Named Association :=
  ⟨[.owner, .member, .collaborator, .contributor, .firstTimeContributor, .firstTimer, .mannequin,
    .other], name⟩

instance : Json.Wire Association := Named.wire (some .other)

end Association

end Autoformat
