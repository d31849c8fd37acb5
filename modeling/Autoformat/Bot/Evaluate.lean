import Autoformat.Bot.Basic
import Autoformat.Domain.Patterns

/-!
# Evaluating, routing and reporting

The parts of a run that deal with the platform, each of which can also be carried out on its own:
`evaluate` decides about a comment and acknowledges a request, `route` classifies the changed files of a
pull request, and `report` sets the final status.
-/

namespace Autoformat.Bot

/-- Decides about a comment; the pull request stays untouched. -/
def assess (policy : TriggerPolicy) (c : Comment) : Action Evaluation := do
  orFail c.applicable
  let pr ← call (.getPullRequest c.repository c.issueNumber)
  let e := Evaluation.ofComment policy c pr
  log (.triggerEvaluated c e)
  if e.verdict = .rejected then log (.untrustedCommenter c.author c.association)
  pure e

/-- Reacts to a comment and marks the head commit as pending. -/
def acknowledge (settings : StatusSettings) (reaction : Reaction) (c : Comment) (e : Evaluation) :
    Action Unit := do
  let _ ← call (.addReaction c.repository c.id reaction)
  let _ ← call (.setStatus e.pullRequest.repository e.pullRequest.headSha settings.pending)

/-- Decides about a comment and acknowledges a request. -/
def evaluate (policy : TriggerPolicy) (settings : StatusSettings) (reaction : Reaction)
    (c : Comment) : Action Evaluation := do
  let e ← assess policy c
  if e.verdict = .triggered then acknowledge settings reaction c e
  pure e

/-- Classifies files that have been listed. -/
def routeFiles (patterns : DomainPatterns) (pr : PullRequest) (files : ChangedFiles) :
    Action DomainFlags := do
  let flags := patterns.classify files
  log (.diffRouted pr.number files.size flags)
  pure flags

/-- Classifies the files that a pull request changes. -/
def route (patterns : DomainPatterns) (pr : PullRequest) : Action DomainFlags := do
  let files ← call (.listFiles pr.repository pr.number)
  routeFiles patterns pr files

/-- Sets the final status of a run, if there is one, and returns its state. -/
def report (settings : StatusSettings) (repository sha : String) (verdict : Verdict)
    (outcome : Outcome) : Action (Option CommitState) := do
  match FinalStatus.aggregate verdict outcome with
  | none =>
    log (.nothingToReport sha)
    pure none
  | some final =>
    let _ ← call (.setStatus repository sha (settings.update final.state final.description))
    log (.statusReported repository sha final.state outcome.size)
    pure (some final.state)

end Autoformat.Bot
