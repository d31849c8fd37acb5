import Autoformat.Stage.Plan
import Autoformat.Status

/-!
# What a run is told and what it returns

`RunOptions` says how a run treats the checkout. `Progress` is what a run has recorded so far, `Halt` is
why it stopped before its last step, and `RunResult` is what it returns.
-/

namespace Autoformat

/-- How a run treats the checkout. -/
structure RunOptions where
  /-- The remote that the base branch is fetched from and the head branch is pushed to. -/
  remote : String := "origin"
  /-- The base commit is merged before formatting. -/
  mergeBase : Bool := true
  /-- Changes are committed and pushed. -/
  push : Bool := true
  runId : String
  /-- A link to the run, shown with its statuses and in the commit message. -/
  runUrl : Option String := none
  deriving DecidableEq, Repr

/-- The slots of an outcome that belong to a run itself. -/
inductive ReservedSlot where
  | trigger
  | mergeBase
  | route
  | push
  /-- Written only when the run is cancelled. -/
  | run
  deriving DecidableEq, Repr

/-- The name of a slot. -/
def ReservedSlot.name : ReservedSlot → String
  | .trigger => "trigger"
  | .mergeBase => "merge-base"
  | .route => "route"
  | .push => "push"
  | .run => "run"

/-- Why a run stopped before its last step. -/
inductive Halt where
  | stopped (e : BotError)
  | cancelled
  deriving DecidableEq, Repr

/-- The wording of a halt. -/
def Halt.message : Halt → String
  | .stopped e => e.message
  | .cancelled => "run cancelled"

/-- What a run has recorded so far. -/
structure Progress where
  outcome : Outcome := .empty
  /-- The stages that have run, in order. -/
  stages : List StageResult := []
  flags : Option DomainFlags := none
  pushedSha : Option String := none

/-- What a run returns. -/
structure RunResult where
  runId : String
  phase : Phase
  evaluation : Evaluation
  progress : Progress
  /-- The state of the final status, if one was set. -/
  reported : Option CommitState
  halt : Option Halt

namespace RunResult

/-- The run did what was asked for, if anything. -/
def succeeded (r : RunResult) : Bool := r.phase = .succeeded || r.phase = .notTriggered

/-- The number of stages that passed. -/
def passedCount (r : RunResult) : Nat := r.progress.stages.countP StageResult.passed

/-- The number of stages that failed. -/
def failedCount (r : RunResult) : Nat := r.progress.stages.countP fun s => !s.passed

/-- The members of a result as JSON, with the given form of a stage. -/
def members (r : RunResult) (stage : StageResult → Json) : List (String × Json) := [
  ("run_id", .string r.runId),
  ("phase", Json.encode r.phase),
  ("evaluation", Json.encode r.evaluation),
  ("flags", Json.encode r.progress.flags),
  ("stages", .array (r.progress.stages.map stage)),
  ("outcome", Json.encode r.progress.outcome),
  ("pushed_sha", Json.encode r.progress.pushedSha),
  ("reported", Json.encode r.reported),
  ("fatal_error", Json.optional (fun h => .string h.message) r.halt)]

end RunResult

end Autoformat
