import Autoformat.Bot.Evaluate
import Autoformat.Bot.Execute
import Autoformat.Bot.Git
import Autoformat.Run.Result

/-!
# The steps of a run

Once a request is acknowledged, a run merges the base commit, classifies the changed files, runs the
stages of the plan, and commits and pushes what they changed. Each step records its slot before anything
else can stop the run.

A stage that fails without being tolerated blocks the stages after it and the push; these are recorded as
skipped. A run that is cancelled stops where it is, without a slot for the step it was in.
-/

namespace Autoformat.Run

open Autoformat.Bot

/-- A part of the steps: it may halt, and keeps what was recorded when it does. -/
abbrev Step (α : Type) := ExceptT Halt (StateT Progress (Program interface)) α

/-- A question asked by a step. -/
def ask (q : Request) : Step (Answer q) :=
  ExceptT.lift (StateT.lift (Program.request (I := interface) q))

/-- A part of the bot whose error is left to the step. -/
def perform {α : Type} (x : Action α) : Step (Except BotError α) :=
  ExceptT.lift (StateT.lift x.run)

/-- Stops the run. -/
def stop {α : Type} (e : BotError) : Step α := throw (.stopped e)

/-- A result whose error stops the run. -/
def orStop {α : Type} : Except BotError α → Step α
  | .ok a => pure a
  | .error e => stop e

/-- Records and reports how a step ended. -/
def record (slot : String) (e : OutcomeEntry) : Step Unit := do
  ask (.log (.stepFinished slot e))
  match (← get).outcome.record slot e with
  | .ok outcome => modify fun p => { p with outcome := outcome }
  | .error taken => stop (.slotTaken taken)

/-- Records a step of the run itself. -/
def recordOwn (slot : ReservedSlot) (result : JobResult) : Step Unit :=
  record slot.name ⟨result, false⟩

/-- Halts when the run is cancelled at this place. -/
def pause (p : Pause) : Step Unit := do
  let isCancelled : Bool ← ask (.cancelled p)
  if isCancelled then throw .cancelled

/-- Fetches the base branch and merges the base commit. -/
def mergeBase (config : Config) (options : RunOptions) (pr : PullRequest) : Step Unit := do
  if options.mergeBase then
    let merged ← perform do
      Git.fetch options.remote pr.baseRef
      Git.merge pr.baseSha config.commit
    recordOwn .mergeBase (.ofPassed merged.isOk)
    orStop merged
  else recordOwn .mergeBase .skipped

/-- Classifies the changed files. -/
def route (config : Config) (pr : PullRequest) : Step DomainFlags := do
  let files ← perform (call (.listFiles pr.repository pr.number))
  pause .listing
  match files with
  | .error e =>
    recordOwn .route .failed
    stop e
  | .ok files =>
    let flags ← orStop (← perform (routeFiles config.domains pr files))
    recordOwn .route .succeeded
    modify fun p => { p with flags := some flags }
    pure flags

/-- Runs a stage and says whether it blocks what comes after it. -/
def runStage (s : Stage) : Step Bool := do
  ask (.log (.stageStarted s.slot))
  match ← ExceptT.lift (StateT.lift (execute s)) with
  | none => throw .cancelled
  | some ended =>
    let result :=
      match ended with
      | .ok r => r
      | .error e => .errored s e
    record s.slot ⟨.ofPassed result.passed, s.allowFailure⟩
    modify fun p => { p with stages := p.stages ++ [result] }
    pure (!result.passed && !s.allowFailure)

/-- Goes through stages in order and says whether the rest of the run is blocked. -/
def runStages (blocked : Bool) : List Stage → Step Bool
  | [] => pure blocked
  | s :: rest => do
    if !s.enabled || blocked then
      record s.slot ⟨.skipped, false⟩
      runStages blocked rest
    else
      let blocks ← runStage s
      runStages blocks rest

/-- The message of the formatting commit. -/
def commitMessage (config : Config) (options : RunOptions) : String :=
  match options.runUrl with
  | some url => config.commit.message ++ ": " ++ url
  | none => config.commit.message

/-- Commits and pushes what the stages changed. -/
def publish (config : Config) (options : RunOptions) (pr : PullRequest) : Step Unit := do
  let pushed ← perform do
    match ← Git.commitAll config.commit (commitMessage config options) with
    | some sha =>
      Git.push options.remote pr.headRef
      pure (some sha)
    | none => pure none
  match pushed with
  | .ok (some sha) =>
    ask (.log (.pushed sha pr.headRef))
    modify fun p => { p with pushedSha := some sha }
    recordOwn .push .succeeded
  | .ok none =>
    ask (.log .nothingToPush)
    recordOwn .push .skipped
  | .error e =>
    recordOwn .push .failed
    stop e

/-- All steps, in order. -/
def steps (config : Config) (options : RunOptions) (pr : PullRequest) : Step Unit := do
  mergeBase config options pr
  let flags ← route config pr
  let blocked ← runStages false (Plan.ofConfig config flags).stages
  if blocked || !options.push then recordOwn .push .skipped
  else publish config options pr

end Autoformat.Run
