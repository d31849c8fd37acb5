import Autoformat.Config.Basic

/-!
# Configurations that can be used

`Config.fault?` finds the first thing that is wrong with a configuration: its phrases, its trusted roles,
its status, its patterns, and then its formatters, domain by domain.
-/

namespace Autoformat

/-- The first formatter of a domain without a command, or with the name of an earlier one. -/
def Formatters.faultIn? (d : Domain) (seen : List String) : List Formatter → Option ConfigFault
  | [] => none
  | f :: rest =>
    if f.command.isEmpty then some (.emptyCommand d f.name)
    else if seen.contains f.name then some (.duplicateStep d f.name)
    else faultIn? d (f.name :: seen) rest

/-- The first fault among the formatters. -/
def Formatters.fault? (f : Formatters) : Option ConfigFault :=
  Domain.all.findSome? fun d => faultIn? d [] (f.get d)

namespace Config

/-- The first fault of a configuration. -/
def fault? (c : Config) : Option ConfigFault :=
  if c.trigger.mention = "" ∨ c.trigger.command = "" then some .emptyPhrase
  else if c.trigger.trustedRoles = [] then some .noTrustedRole
  else if c.status.context = "" then some .emptyContext
  else c.domains.fault?.or c.formatters.fault?

/-- A configuration with a fault is an error. -/
def validate (c : Config) : Except BotError Unit :=
  match c.fault? with
  | none => .ok ()
  | some fault => .error (.config fault)

end Config

end Autoformat
