import Autoformat.Run.Result

/-!
# The summary of a run

What is shown to someone who watches a run: a line for each thing that the run has come to, and one for
each of its jobs.
-/

namespace Autoformat.RunResult

/-- The mark of a job: done or left out, failed and tolerated, failed. -/
def mark (e : OutcomeEntry) : String :=
  if !e.result.isFailure then "✓" else if e.tolerated then "~" else "✗"

/-- The line of a job. -/
def jobLine (job : String) (e : OutcomeEntry) : String :=
  s!"  {mark e} {job} ({e.result.name})"

/-- The line of the domains. -/
def domainsLine (flags : DomainFlags) : String :=
  let names := flags.enabled.map Domain.name
  "Domains: " ++ if names.isEmpty then "none" else ", ".intercalate names

/-- What is shown of a run that took the given number of milliseconds. -/
def summary (r : RunResult) (elapsed : Nat) : List String :=
  ["Run ID: " ++ r.runId, "Phase: " ++ r.phase.name, s!"Duration: {elapsed}ms"] ++
    r.progress.flags.toList.map domainsLine ++
    r.progress.outcome.entries.map (fun (job, e) => jobLine job e) ++
    r.progress.pushedSha.toList.map ("Pushed: " ++ ·) ++
    r.reported.toList.map ("Status: " ++ ·.name) ++
    r.halt.toList.map ("Error: " ++ ·.message)

end Autoformat.RunResult
