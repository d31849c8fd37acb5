import Autoformat.Bot.Basic
import Autoformat.Stage.Plan

/-!
# Running a stage

`Bot.execute` runs the command of a stage to its end. A command that does not start, takes too long, or
cannot be waited for is a `StageError`; nothing at all comes of a stage whose run is cancelled meanwhile.
-/

namespace Autoformat.Bot

/-- The exit code of a command, or `-1` when a signal ended it. -/
def Ending.exitCode (e : Ending) : Int :=
  match e.code with
  | some c => c.toNat
  | none => -1

/-- The result of a stage whose command ended. -/
def stageResult (s : Stage) (e : Ending) : StageResult :=
  ⟨s.slot, e.exitCode, Utf8.decodeLossy e.stdout, Utf8.decodeLossy e.stderr, e.success,
    s.allowFailure⟩

/-- Runs the command of a stage; `none` when the run is cancelled meanwhile. -/
def execute (s : Stage) : Program interface (Option (Except StageError StageResult)) :=
  match s.command with
  | [] => pure (some (.error ⟨s.slot, .emptyCommand⟩))
  | program :: args => do
    match ← Program.request (I := interface) (.command ⟨program, args, s.workingDir, s.timeout⟩) with
    | .notStarted e => pure (some (.error ⟨s.slot, .notStarted program e⟩))
    | .timedOut => pure (some (.error ⟨s.slot, .timedOut s.timeout⟩))
    | .lost e => pure (some (.error ⟨s.slot, .lost e⟩))
    | .interrupted => pure none
    | .ended e => pure (some (.ok (stageResult s e)))

end Autoformat.Bot
