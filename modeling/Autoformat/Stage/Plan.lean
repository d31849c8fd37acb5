import Autoformat.Stage.Basic

/-!
# Plans

A `Plan` holds the stages of every configured formatter, domain by domain. The stages of a domain whose
flag is down stay in the plan, disabled, so that they are reported as skipped.
-/

namespace Autoformat

/-- The stages of a domain. -/
structure PlannedDomain where
  domain : Domain
  enabled : Bool
  stages : List Stage
  deriving DecidableEq, Repr

/-- All stages, in the order in which they run. -/
structure Plan where
  domains : List PlannedDomain
  deriving DecidableEq, Repr

namespace Plan

/-- The stage of a formatter of a domain, under the flag of the domain. -/
def stageOf (config : Config) (flags : DomainFlags) (d : Domain) (f : Formatter) : Stage :=
  { Stage.ofFormatter d f config.stepTimeout with enabled := flags.get d }

/-- The plan of a configuration for a pull request that touches the given domains. -/
def ofConfig (config : Config) (flags : DomainFlags) : Plan :=
  ⟨Domain.all.map fun d =>
    ⟨d, flags.get d, (config.formatters.get d).map (stageOf config flags d)⟩⟩

/-- Every stage of a plan. -/
def stages (p : Plan) : List Stage := p.domains.flatMap PlannedDomain.stages

/-- The stages that are to run. -/
def enabledStages (p : Plan) : List Stage := p.stages.filter Stage.enabled

/-- No stage is to run. -/
def isNoop (p : Plan) : Bool := p.enabledStages.isEmpty

/-- The plan as JSON. -/
def encode (p : Plan) : Json :=
  let planned (d : PlannedDomain) : Json := .object [
    ("domain", Json.encode d.domain),
    ("enabled", .bool d.enabled),
    ("stages", Json.encode d.stages)]
  .object [("domains", .array (p.domains.map planned))]

end Plan

end Autoformat
