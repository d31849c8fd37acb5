import Autoformat.Error
import Autoformat.Text.Search

/-!
# Which paths belong to which domain

A path belongs to a domain when it has the prefix or suffix of that domain, and may belong to several.
`DomainPatterns.classify` raises the flag of every domain to which some path belongs.
-/

namespace Autoformat

/-- What a path of each domain looks like. -/
structure DomainPatterns where
  /-- How paths of protocol definitions begin. -/
  protocols : String := "mlflow/protos/"
  /-- How paths of general-purpose sources end. -/
  generalSource : String := ".py"
  /-- How paths of the web front end begin. -/
  webSource : String := "mlflow/server/js/"
  /-- How paths of the statistical language begin. -/
  statSource : String := "mlflow/R/"
  deriving DecidableEq, Repr

namespace DomainPatterns

/-- The path belongs to the domain. -/
def matchesPath (p : DomainPatterns) (d : Domain) (path : String) : Bool :=
  match d with
  | .protocols => Text.startsWith path p.protocols
  | .generalSource => Text.endsWith path p.generalSource
  | .webSource => Text.startsWith path p.webSource
  | .statSource => Text.startsWith path p.statSource

/-- Raises the flag of a domain to which the path belongs. A flag that is up already stays up without
another look at the path. -/
def mark (p : DomainPatterns) (path : String) (flags : DomainFlags) (d : Domain) : DomainFlags :=
  if !flags.get d && p.matchesPath d path then flags.set d else flags

/-- The domains to which some path belongs, path by path. -/
def classify (p : DomainPatterns) (files : ChangedFiles) : DomainFlags :=
  files.paths.foldl (fun flags path => Domain.all.foldl (p.mark path) flags) .none

/-- The pattern of a domain. -/
def get (p : DomainPatterns) : Domain → String
  | .protocols => p.protocols
  | .generalSource => p.generalSource
  | .webSource => p.webSource
  | .statSource => p.statSource

/-- The name of the field that holds the pattern of a domain. -/
def field : Domain → String
  | .protocols => "protocols_prefix"
  | .generalSource => "general_source_suffix"
  | .webSource => "web_source_prefix"
  | .statSource => "stat_source_prefix"

/-- The first domain without a pattern; every path would belong to it. -/
def fault? (p : DomainPatterns) : Option ConfigFault :=
  (Domain.all.find? fun d => p.get d = "").map fun d => .emptyPattern (field d)

instance : Json.Wire DomainPatterns where
  encode p := .object (Domain.all.map fun d => (field d, .string (p.get d)))
  decode :=
    let d : DomainPatterns := {}
    Json.Fields.record "DomainPatterns" <|
      DomainPatterns.mk <$> .defaulted "protocols_prefix" d.protocols <*>
        .defaulted "general_source_suffix" d.generalSource <*>
        .defaulted "web_source_prefix" d.webSource <*>
        .defaulted "stat_source_prefix" d.statSource

end DomainPatterns

end Autoformat
