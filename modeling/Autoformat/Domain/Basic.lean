import Autoformat.Json.Record
import Autoformat.Json.Word

/-!
# Formatting domains

A `Domain` is a kind of source with formatters of its own, and `DomainFlags` says which of them a pull
request touches.
-/

namespace Autoformat

/-- A kind of source that is formatted on its own. -/
inductive Domain where
  /-- Generated protocol definitions. -/
  | protocols
  /-- General-purpose sources. -/
  | generalSource
  /-- Sources of the web front end. -/
  | webSource
  /-- Sources of the statistical language. -/
  | statSource
  deriving DecidableEq, Repr

namespace Domain

/-- The name of a domain. -/
def name : Domain → String
  | .protocols => "protocols"
  | .generalSource => "general_source"
  | .webSource => "web_source"
  | .statSource => "stat_source"

/-- Every domain, in the order in which they are formatted. -/
def all : List Domain := [.protocols, .generalSource, .webSource, .statSource]

instance : Named Domain := ⟨all, name⟩

instance : Json.Wire Domain := Named.wire none

end Domain

/-- Which domains a pull request touches. -/
structure DomainFlags where
  protocols : Bool := false
  generalSource : Bool := false
  webSource : Bool := false
  statSource : Bool := false
  deriving DecidableEq, Repr

namespace DomainFlags

/-- No domain at all. -/
def none : DomainFlags := {}

/-- The flag of a domain. -/
def get (flags : DomainFlags) : Domain → Bool
  | .protocols => flags.protocols
  | .generalSource => flags.generalSource
  | .webSource => flags.webSource
  | .statSource => flags.statSource

/-- Raises the flag of a domain. -/
def set (flags : DomainFlags) : Domain → DomainFlags
  | .protocols => { flags with protocols := true }
  | .generalSource => { flags with generalSource := true }
  | .webSource => { flags with webSource := true }
  | .statSource => { flags with statSource := true }

/-- The flags that a test raises. -/
def ofTest (test : Domain → Bool) : DomainFlags :=
  ⟨test .protocols, test .generalSource, test .webSource, test .statSource⟩

@[simp]
theorem get_ofTest (test : Domain → Bool) (d : Domain) : (ofTest test).get d = test d := by
  cases d <;> rfl

theorem get_set (flags : DomainFlags) (d e : Domain) :
    (flags.set d).get e = (decide (e = d) || flags.get e) := by
  cases d <;> cases e <;> rfl

/-- The domains whose flag is up, in the order in which they are formatted. -/
def enabled (flags : DomainFlags) : List Domain := Domain.all.filter flags.get

/-- Some flag is up. -/
def any (flags : DomainFlags) : Bool := Domain.all.any flags.get

instance : Json.Wire DomainFlags where
  encode flags := .object (Domain.all.map fun d => (d.name, .bool (flags.get d)))
  decode := Json.Fields.record "DomainFlags" <|
    DomainFlags.mk <$> .required "protocols" <*> .required "general_source" <*>
      .required "web_source" <*> .required "stat_source"

end DomainFlags

end Autoformat
