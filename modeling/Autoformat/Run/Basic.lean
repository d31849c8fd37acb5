import Autoformat.Run.Steps

/-!
# A run

`Run.run` carries out a run for a comment, from its evaluation to the final status. An untrusted
commenter gets a failure status and is an error, whatever becomes of that status; where no run was asked
for, nothing is touched. The final status of a run is set once, also when a step stopped it or it was
cancelled.
-/

namespace Autoformat.Run

open Autoformat.Bot

/-- Goes to the next phase and reports it. -/
def advance (current next : Phase) : Action Phase := do
  let next ← orFail (current.transition next)
  log (.phaseChanged current next)
  pure next

/-- Records a job of a run outside of its steps. -/
def recordIn (outcome : Outcome) (slot : ReservedSlot) (result : JobResult) : Action Outcome :=
  orFail ((outcome.record slot.name ⟨result, false⟩).mapError .slotTaken)

/-- Ends the run of an untrusted commenter. -/
def reject {α : Type} (settings : StatusSettings) (e : Evaluation) (phase : Phase)
    (reason : BotError) : Action α := do
  let _ ← advance phase .rejected
  let outcome ← recordIn .empty .trigger .failed
  let pr := e.pullRequest
  match ← attempt (report settings pr.repository pr.headSha e.verdict outcome) with
  | .ok _ => pure ()
  | .error e => log (.rejectionNotReported e)
  throw reason

/-- Acknowledges a request and carries out the steps, until they end or halt. -/
def carryOut (config : Config) (options : RunOptions) (settings : StatusSettings) (c : Comment)
    (e : Evaluation) : Action (Except Halt Unit × Progress) := do
  match ← attempt (acknowledge settings config.status.reaction c e) with
  | .error reason =>
    let outcome ← recordIn .empty .trigger .failed
    pure (.error (.stopped reason), { outcome := outcome })
  | .ok () =>
    let outcome ← recordIn .empty .trigger .succeeded
    let body : Step Unit := do
      pause .starting
      steps config options e.pullRequest
    ExceptT.lift ((body.run).run { outcome := outcome })

/-- Takes note of a halt. -/
def settle (progress : Progress) : Except Halt Unit → Action (Option Halt × Progress)
  | .ok () => pure (none, progress)
  | .error (.stopped e) => do
    log (.stoppedEarly e)
    pure (some (.stopped e), progress)
  | .error .cancelled => do
    log .runCancelled
    let outcome ← recordIn progress.outcome .run .cancelled
    pure (some .cancelled, { progress with outcome := outcome })

/-- The run succeeds with this outcome. -/
def isSuccess (verdict : Verdict) (outcome : Outcome) : Bool :=
  match FinalStatus.aggregate verdict outcome with
  | some final => final.state = .success
  | none => false

/-- Carries out a run for a comment. -/
def run (config : Config) (options : RunOptions) (c : Comment) : Action RunResult := do
  let settings : StatusSettings := ⟨config.status.context, options.runUrl⟩
  let e ← assess config.trigger c
  let phase ← advance .received .evaluated
  match e.ensureAuthorized with
  | .error reason => reject settings e phase reason
  | .ok () =>
    if e.verdict = .notTriggered then
      let phase ← advance phase .notTriggered
      pure ⟨options.runId, phase, e, {}, none, none⟩
    else
      let phase ← advance phase .running
      log (.runStarted e.pullRequest)
      let (ended, progress) ← carryOut config options settings c e
      let (halt, progress) ← settle progress ended
      let pr := e.pullRequest
      let reported ← report settings pr.repository pr.headSha e.verdict progress.outcome
      let phase ←
        advance phase (if isSuccess e.verdict progress.outcome then .succeeded else .failed)
      pure ⟨options.runId, phase, e, progress, reported, halt⟩

end Autoformat.Run
