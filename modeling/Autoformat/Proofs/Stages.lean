import Autoformat.Proofs.Slots
import Autoformat.Proofs.Steps
import Mathlib.Data.List.Forall2

/-!
# What becomes of stages

A `Fate` is what becomes of one stage of a run: it is left out, or its command is run and comes to a
result. It determines the exchanges of the stage, its entry in the outcome and whether it blocks what
comes after it.

`FailFast` is the rule of the loop over the stages: a stage is executed exactly when it is enabled and
nothing before it blocks. `loopRuns_of_stepEnds` says that the loop gives every stage its fate by this
rule, up to the end of the list or up to the stage at which it halts, because the run is cancelled while
the stage runs or because the slot of the stage is taken.
-/

namespace Autoformat

open Autoformat.Bot

/-! ## How a command goes -/

/-- The command exited with a code of zero. -/
def Bot.CommandResult.passes : CommandResult → Bool
  | .ended e => e.success
  | .notStarted _ => false
  | .timedOut => false
  | .lost _ => false
  | .interrupted => false

/-- The exchange of a formatter. -/
def Bot.CommandCall.exchange (c : CommandCall) : Exchange interface := ⟨.command c.command, c.result⟩

namespace Stage

variable {s : Stage} {x : CommandResult}

/-- The command of a stage, if it has one. -/
def call? (s : Stage) : Option Command :=
  match s.command with
  | [] => none
  | program :: args => some ⟨program, args, s.workingDir, s.timeout⟩

/-- A stage that has a command calls for it. -/
theorem exists_call (h : s.command ≠ []) : ∃ c, s.call? = some c := by
  cases hs : s.command with
  | nil => exact absurd hs h
  | cons program args => exact ⟨_, by rw [call?, hs]⟩

/-- The formatters that are run for a stage. -/
def calls (s : Stage) (x : CommandResult) : List CommandCall := s.call?.toList.map (⟨·, x⟩)

/-- The exchanges in which the command of a stage is run. -/
def exchanges (s : Stage) (x : CommandResult) : Trace := (s.calls x).map CommandCall.exchange

/-- The command of a stage is one exchange. -/
theorem exchanges_of_call {command : Command} (h : s.call? = some command) :
    s.exchanges x = [⟨.command command, x⟩] := by
  simp [exchanges, calls, h, CommandCall.exchange]

/-- The exchanges of a stage show nothing of a kind that shows no formatters. -/
theorem collect_exchanges_eq_nil {α : Type} {f : Exchange interface → Option α}
    (hcommand : ∀ c : CommandCall, f c.exchange = none) : collect f (s.exchanges x) = [] := by
  rw [collect, exchanges, List.filterMap_map, List.filterMap_eq_nil_iff]
  exact fun c _ => hcommand c

/-- The formatters of a stage are those that are run for it. -/
@[simp]
theorem commandCalls_exchanges : commandCalls (s.exchanges x) = s.calls x := by
  simp [collect, exchanges, CommandCall.exchange, Function.comp_def]

/-- What a stage comes to, unless the run is cancelled while its command runs. -/
def result? (s : Stage) (x : CommandResult) : Option StageResult :=
  match s.command, x with
  | [], _ => some (.errored s ⟨s.slot, .emptyCommand⟩)
  | program :: _, .notStarted e => some (.errored s ⟨s.slot, .notStarted program e⟩)
  | _ :: _, .timedOut => some (.errored s ⟨s.slot, .timedOut s.timeout⟩)
  | _ :: _, .lost e => some (.errored s ⟨s.slot, .lost e⟩)
  | _ :: _, .interrupted => none
  | _ :: _, .ended e => some (stageResult s e)

/-- A stage comes to nothing exactly when its command is interrupted. -/
theorem result?_eq_none_iff : s.result? x = none ↔ s.command ≠ [] ∧ x = .interrupted := by
  cases hc : s.command <;> cases x <;> simp [result?, hc]

/-- A run takes notice of being cancelled while the command of a stage runs if this is interrupted. -/
@[simp]
theorem isCancelled_exchanges_iff : IsCancelled (s.exchanges x) ↔ s.result? x = none := by
  rw [result?_eq_none_iff]
  cases hc : s.command <;> cases x <;>
    simp [exchanges, calls, call?, CommandCall.exchange, hc]

/-- A stage passes when it has a command and this exits with a code of zero. -/
theorem passed_of_result? {r : StageResult} (h : s.result? x = some r) :
    r.passed = (!s.command.isEmpty && x.passes) := by
  cases hc : s.command with
  | nil =>
    obtain rfl : StageResult.errored s _ = r := by simpa [result?, hc] using h
    rfl
  | cons program args =>
    cases x with
    | notStarted e =>
      obtain rfl : StageResult.errored s _ = r := by simpa [result?, hc] using h
      rfl
    | timedOut =>
      obtain rfl : StageResult.errored s _ = r := by simpa [result?, hc] using h
      rfl
    | lost e =>
      obtain rfl : StageResult.errored s _ = r := by simpa [result?, hc] using h
      rfl
    | interrupted => simp [result?, hc] at h
    | ended e =>
      obtain rfl : stageResult s e = r := by simpa [result?, hc] using h
      by_cases he : e.code = some 0 <;>
        simp [StageResult.passed, stageResult, passes, Ending.exitCode, Ending.success,
          CommandResult.passes, he]

end Stage

namespace Run

variable {p p' : Progress} {t : Trace} {s : Stage}

/-- The result of a stage, also of one that did not run to its end. -/
def settled (s : Stage) : Except StageError StageResult → StageResult
  | .ok r => r
  | .error e => .errored s e

/-- A stage is executed by one exchange, if it has a command at all. -/
theorem result?_of_runs_execute {y : Option (Except StageError StageResult)}
    (h : Program.Runs (execute s) t y) :
    ∃ x, t = s.exchanges x ∧ s.result? x = y.map (settled s) := by
  cases hc : s.command with
  | nil =>
    obtain ⟨rfl, rfl⟩ : t = [] ∧ y = some (.error ⟨s.slot, .emptyCommand⟩) := by
      simpa [execute, hc] using h
    exact ⟨.timedOut, by simp [Stage.exchanges, Stage.calls, Stage.call?, hc],
      by simp [Stage.result?, hc, settled]⟩
  | cons program args =>
    simp only [execute, hc, Program.request, Program.ask_bind, Program.runs_ask_iff] at h
    obtain ⟨x, u, rfl, h⟩ := h
    refine ⟨x, ?_⟩
    cases x <;> obtain ⟨rfl, rfl⟩ := Program.runs_done_iff.1 h <;>
      simp [Stage.exchanges, Stage.calls, Stage.call?, Stage.result?, CommandCall.exchange, hc, settled]

/-- A stage that runs to its end is recorded with its result; one that is cancelled halts the run. -/
theorem stepEnds_runStage {r : Except Halt Bool} (h : StepEnds (runStage s) p t r p') :
    ∃ x, (s.result? x = none ∧ t = ⟨.log (.stageStarted s.slot), ()⟩ :: s.exchanges x ∧
        r = .error .cancelled ∧ p' = p) ∨
      ∃ result e, s.result? x = some result ∧ e = ⟨.ofPassed result.passed, s.allowFailure⟩ ∧
        t = ⟨.log (.stageStarted s.slot), ()⟩ :: s.exchanges x ++
          [⟨.log (.stepFinished s.slot e), ()⟩] ∧
        ((∃ taken, p.outcome.record s.slot e = .error taken ∧
            r = .error (.stopped (.slotTaken taken)) ∧ p' = p) ∨
          ∃ o, p.outcome.record s.slot e = .ok o ∧ r = .ok (!result.passed && !s.allowFailure) ∧
            p' = { p with outcome := o, stages := p.stages ++ [result] }) := by
  obtain ⟨u, rfl, hrun⟩ := stepEnds_log_bind_iff.1 h
  obtain ⟨v, w, y, rfl, hy, hsettle⟩ := stepEnds_lift_bind_iff.1 hrun
  obtain ⟨x, rfl, hx⟩ := result?_of_runs_execute hy
  refine ⟨x, ?_⟩
  cases y with
  | none =>
    obtain ⟨rfl, rfl, rfl⟩ := stepEnds_throw_iff.1 hsettle
    exact .inl ⟨hx, by simp, rfl, rfl⟩
  | some ended =>
    refine .inr ⟨settled s ended, _, hx, rfl, ?_⟩
    obtain ⟨z, rfl, hrec⟩ := stepEnds_record_bind_iff.1 hsettle
    rcases hrec with ⟨taken, ht, rfl, rfl, rfl⟩ | ⟨o, ho, hrec⟩
    · exact ⟨rfl, .inl ⟨taken, ht, rfl, rfl⟩⟩
    · have hend := stepEnds_modify_bind_iff.1 hrec
      obtain ⟨rfl, rfl, rfl⟩ := stepEnds_pure_iff.1 hend
      exact ⟨rfl, .inr ⟨o, ho, rfl, rfl⟩⟩

/-! ## Fates -/

/-- What becomes of a stage. -/
inductive Fate where
  | leftOut (s : Stage)
  | executed (s : Stage) (x : CommandResult) (r : StageResult) (h : s.result? x = some r)

namespace Fate

/-- The stage whose fate it is. -/
@[simp]
def stage : Fate → Stage
  | .leftOut s => s
  | .executed s _ _ _ => s

/-- The stage was executed. -/
@[simp]
def isExecuted : Fate → Bool
  | .leftOut _ => false
  | .executed .. => true

/-- What is recorded of a stage. -/
def entry : Fate → OutcomeEntry
  | .leftOut _ => ⟨.skipped, false⟩
  | .executed s _ r _ => ⟨.ofPassed r.passed, s.allowFailure⟩

/-- The stage failed and its failure counts. -/
def blocks (f : Fate) : Bool := f.entry.isBlocking

/-- A stage that is left out blocks nothing. -/
@[simp]
theorem blocks_leftOut : (leftOut s).blocks = false := rfl

/-- A stage that is executed blocks when it neither passes nor may fail. -/
@[simp]
theorem blocks_executed {x : CommandResult} {r : StageResult} {h : s.result? x = some r} :
    (executed s x r h).blocks = (!r.passed && !s.allowFailure) := by
  cases hp : r.passed <;>
    simp [blocks, entry, OutcomeEntry.isBlocking, JobResult.ofPassed, JobResult.isFailure, hp]

/-- The slot of a stage and its entry. -/
def slotEntry (f : Fate) : String × OutcomeEntry := (f.stage.slot, f.entry)

/-- The formatters that were run for a stage. -/
@[simp]
def calls : Fate → List CommandCall
  | .leftOut _ => []
  | .executed s x _ _ => s.calls x

/-- The results that a stage leaves. -/
@[simp]
def results : Fate → List StageResult
  | .leftOut _ => []
  | .executed _ _ r _ => [r]

/-- The exchanges of a stage. -/
def trace (f : Fate) : Trace :=
  match f with
  | .leftOut s => [⟨.log (.stepFinished s.slot f.entry), ()⟩]
  | .executed s x _ _ => ⟨.log (.stageStarted s.slot), ()⟩ :: s.exchanges x ++
      [⟨.log (.stepFinished s.slot f.entry), ()⟩]

/-- A stage shows nothing but formatters and entries of the log. -/
theorem collect_trace_eq_nil {α : Type} {g : Exchange interface → Option α}
    (hlog : ∀ e, g ⟨.log e, ()⟩ = none) (hcommand : ∀ c : CommandCall, g c.exchange = none) {f : Fate} :
    collect g f.trace = [] := by
  cases f <;> simp [trace, hlog, Stage.collect_exchanges_eq_nil hcommand]

/-- The formatters in what is done for a stage are those of the stage. -/
@[simp]
theorem commandCalls_trace {f : Fate} : commandCalls f.trace = f.calls := by
  cases f <;> simp [trace, calls]

/-- A stage that got its fate was not cancelled. -/
@[simp]
theorem not_isCancelled_trace {f : Fate} : ¬IsCancelled f.trace := by
  cases f with
  | leftOut s => simp [trace]
  | executed s x r h => simp [trace, h]

end Fate

/-- Stages are executed if they are enabled and nothing before them blocks, and are left out
otherwise. -/
def FailFast (blocked : Bool) : List Fate → Prop
  | [] => True
  | f :: rest => f.isExecuted = (f.stage.enabled && !blocked) ∧ FailFast (blocked || f.blocks) rest

/-- A stage is executed exactly when it is enabled and no stage before it blocks. -/
theorem failFast_iff {blocked : Bool} {fates : List Fate} : FailFast blocked fates ↔
    ∀ before f after, fates = before ++ f :: after →
      f.isExecuted = (f.stage.enabled && !(blocked || before.any Fate.blocks)) := by
  induction fates generalizing blocked with
  | nil => simp [FailFast]
  | cons g fates ih =>
    rw [FailFast, ih]
    constructor
    · rintro ⟨hg, hrest⟩ before f after heq
      cases before with
      | nil =>
        obtain ⟨rfl, rfl⟩ := List.cons.inj heq
        simpa using hg
      | cons b before =>
        obtain ⟨rfl, rfl⟩ := List.cons.inj heq
        simpa [Bool.or_assoc] using hrest before f after rfl
    · intro h
      refine ⟨by simpa using h [] g fates rfl, fun before f after heq => ?_⟩
      simpa [Bool.or_assoc] using h (g :: before) f after (by simp [heq])

/-- A formatter was run to its end for a stage, and it passed or its failure does not count. -/
def Clears (s : Stage) (c : CommandCall) : Prop :=
  s.call? = some c.command ∧ c.result ≠ .interrupted ∧ (c.result.passes || s.allowFailure)

/-- A stage that was executed does not block exactly when its formatter clears it. -/
theorem clears_iff {x : CommandResult} {result : StageResult} (h : s.result? x = some result)
    {c : Command} (hc : s.call? = some c) :
    Clears s ⟨c, x⟩ ↔ (Fate.executed s x result h).blocks = false := by
  have hcmd : s.command ≠ [] := by
    intro hnil
    simp [Stage.call?, hnil] at hc
  have hx : x ≠ .interrupted := by
    rintro rfl
    rw [Stage.result?_eq_none_iff.2 ⟨hcmd, rfl⟩] at h
    cases h
  rw [Fate.blocks_executed, Stage.passed_of_result? h, Clears]
  cases x.passes <;> simp [hc, hx, hcmd]

/-- No stage blocks exactly when the formatters that were run clear all enabled stages. -/
theorem forall₂_clears_iff {fates : List Fate} (hff : FailFast false fates)
    (hcmd : ∀ f ∈ fates, f.stage.command ≠ []) :
    List.Forall₂ Clears ((fates.map Fate.stage).filter Stage.enabled) (fates.flatMap Fate.calls) ↔
      fates.any Fate.blocks = false := by
  induction fates with
  | nil => simp
  | cons f fates ih =>
    obtain ⟨hf, hff⟩ := hff
    have ih := fun h : FailFast false fates => ih h fun g hg => hcmd g (by simp [hg])
    cases f with
    | leftOut s =>
      have hs : s.enabled = false := by simpa using hf.symm
      simpa [hs] using ih (by simpa using hff)
    | executed s x result h =>
      have hs : s.enabled = true := by simpa using hf.symm
      have hne : s.command ≠ [] := hcmd (.executed s x result h) (by simp)
      obtain ⟨c, hc⟩ := Stage.exists_call hne
      have hcalls : s.calls x = [⟨c, x⟩] := by rw [Stage.calls, hc]; rfl
      have hiff := clears_iff h hc
      cases hb : (Fate.executed s x result h).blocks with
      | true =>
        have hnot : ¬Clears s ⟨c, x⟩ := by simp [hiff, hb]
        simp [hs, hcalls, hnot, hb, -Fate.blocks_executed]
      | false =>
        have hclears : Clears s ⟨c, x⟩ := hiff.2 hb
        have hrest := ih (by simpa [hb, -Fate.blocks_executed] using hff)
        simpa [hs, hcalls, hclears, hb, -Fate.blocks_executed] using hrest

/-- How the loop over the stages goes on after the stages that it got through: it is over, or it halts
at the next stage. -/
inductive LoopEnds (o : Outcome) (blocked : Bool) : List Stage → Trace → Except Halt Bool → Prop where
  | finished : LoopEnds o blocked [] [] (.ok blocked)
  | interrupted {s : Stage} {rest : List Stage} {x : CommandResult} (enabled : s.enabled = true)
    (free : blocked = false) (hx : s.result? x = none) :
    LoopEnds o blocked (s :: rest) (⟨.log (.stageStarted s.slot), ()⟩ :: s.exchanges x)
      (.error .cancelled)
  | taken {f : Fate} {rest : List Stage} (hf : f.isExecuted = (f.stage.enabled && !blocked))
    (slot : f.stage.slot ∈ o.jobs) :
    LoopEnds o blocked (f.stage :: rest) f.trace (.error (.stopped (.slotTaken ⟨f.stage.slot⟩)))

/-- A loop stops at a stage whose slot is taken. -/
theorem LoopEnds.of_taken {f : Fate} {o : Outcome} {blocked : Bool} {rest : List Stage}
    {taken : SlotTaken} (hf : f.isExecuted = (f.stage.enabled && !blocked))
    (h : o.record f.stage.slot f.entry = .error taken) :
    LoopEnds o blocked (f.stage :: rest) f.trace (.error (.stopped (.slotTaken taken))) := by
  obtain ⟨hmem, rfl⟩ := Outcome.record_eq_error_iff.1 h
  exact .taken hf hmem

/-- The loop over stages gives them their fates by the rule of `FailFast`, for as long as it goes. -/
def LoopRuns (p : Progress) (blocked : Bool) (stages : List Stage) (t : Trace) (r : Except Halt Bool)
    (p' : Progress) : Prop :=
  ∃ fates rest u o, stages = fates.map Fate.stage ++ rest ∧ t = fates.flatMap Fate.trace ++ u ∧
    FailFast blocked fates ∧ p.outcome.recordAll (fates.map Fate.slotEntry) = .ok o ∧
    p' = { p with outcome := o, stages := p.stages ++ fates.flatMap Fate.results } ∧
    LoopEnds o (blocked || fates.any Fate.blocks) rest u r

section
variable {blocked : Bool} {stages : List Stage} {r : Except Halt Bool}

/-- A loop over stages runs as it ends. -/
theorem loopRuns_of_ends (h : LoopEnds p.outcome blocked stages t r) :
    LoopRuns p blocked stages t r p :=
  ⟨[], stages, t, p.outcome, rfl, rfl, trivial, rfl, by simp, by simpa using h⟩

/-- A stage that gets its fate comes before those of the rest of the loop. -/
theorem LoopRuns.cons {f : Fate} {o : Outcome}
    (hf : f.isExecuted = (f.stage.enabled && !blocked))
    (ho : p.outcome.record f.stage.slot f.entry = .ok o)
    (h : LoopRuns { p with outcome := o, stages := p.stages ++ f.results } (blocked || f.blocks)
      stages t r p') :
    LoopRuns p blocked (f.stage :: stages) (f.trace ++ t) r p' := by
  obtain ⟨fates, rest, u, o', rfl, rfl, hff, hrec, rfl, hend⟩ := h
  refine ⟨f :: fates, rest, u, o', rfl, by simp, ⟨hf, hff⟩, ?_, by simp, ?_⟩
  · exact Outcome.recordAll_cons_eq_ok_iff.2 ⟨o, ho, hrec⟩
  · simpa [Bool.or_assoc] using hend

/-- The loop leaves the slots of the run itself alone. -/
theorem LoopRuns.name_mem_jobs_iff (h : LoopRuns p blocked stages t r p') (slot : ReservedSlot) :
    slot.name ∈ p'.outcome.jobs ↔ slot.name ∈ p.outcome.jobs := by
  obtain ⟨fates, rest, u, o, -, -, -, hrec, rfl, -⟩ := h
  rw [Outcome.mem_jobs_of_recordAll hrec]
  refine or_iff_right ?_
  rw [List.map_map, List.mem_map]
  rintro ⟨f, -, hf⟩
  exact Stage.slotOf_ne_name f.stage.domain f.stage.name slot hf

/-- The loop shows nothing but formatters and entries of the log. -/
private theorem LoopRuns.collect_eq_nil {α : Type} {g : Exchange interface → Option α}
    (hlog : ∀ e, g ⟨.log e, ()⟩ = none) (hcommand : ∀ c : CommandCall, g c.exchange = none)
    (h : LoopRuns p blocked stages t r p') : collect g t = [] := by
  obtain ⟨fates, rest, u, o, -, rfl, -, -, -, hend⟩ := h
  have hu : collect g u = [] := by
    cases hend with
    | finished => rfl
    | interrupted enabled free hx => simp [hlog, Stage.collect_exchanges_eq_nil hcommand]
    | taken hf slot => exact Fate.collect_trace_eq_nil hlog hcommand
  simp [hu, Fate.collect_trace_eq_nil hlog hcommand]

/-- A loop over stages makes no calls of the platform. -/
theorem LoopRuns.platformCalls_eq_nil (h : LoopRuns p blocked stages t r p') : platformCalls t = [] :=
  h.collect_eq_nil (fun _ => rfl) fun _ => rfl

/-- A loop over stages runs no git commands. -/
theorem LoopRuns.gitCalls_eq_nil (h : LoopRuns p blocked stages t r p') : gitCalls t = [] :=
  h.collect_eq_nil (fun _ => rfl) fun _ => rfl

/-- A loop over stages has no place of its own to take notice of a cancellation. -/
theorem LoopRuns.pauses_eq_nil (h : LoopRuns p blocked stages t r p') : pauses t = [] :=
  h.collect_eq_nil (fun _ => rfl) fun _ => rfl

/-- A loop over stages pushes nothing. -/
theorem LoopRuns.pushedSha_eq (h : LoopRuns p blocked stages t r p') :
    p'.pushedSha = p.pushedSha := by
  obtain ⟨fates, rest, u, o, -, -, -, -, rfl, -⟩ := h
  rfl

/-- A loop over stages leaves the flags as they are. -/
theorem LoopRuns.flags_eq (h : LoopRuns p blocked stages t r p') : p'.flags = p.flags := by
  obtain ⟨fates, rest, u, o, -, -, -, -, rfl, -⟩ := h
  rfl

/-- A loop that is over gave every stage its fate. -/
theorem LoopRuns.exists_fates {blocks : Bool} (h : LoopRuns p blocked stages t (.ok blocks) p') :
    ∃ fates, stages = fates.map Fate.stage ∧ t = fates.flatMap Fate.trace ∧ FailFast blocked fates ∧
      p.outcome.recordAll (fates.map Fate.slotEntry) = .ok p'.outcome ∧
      p'.stages = p.stages ++ fates.flatMap Fate.results ∧
      blocks = (blocked || fates.any Fate.blocks) := by
  obtain ⟨fates, rest, u, o, rfl, rfl, hff, hrec, rfl, hend⟩ := h
  cases hend
  exact ⟨fates, by simp, by simp, hff, hrec, rfl, rfl⟩

/-- A loop over stages with slots of their own halts only when the run is cancelled. -/
theorem LoopRuns.isCancelled {e : Halt} (hfree : ∀ s ∈ stages, s.slot ∉ p.outcome.jobs)
    (hnodup : (stages.map Stage.slot).Nodup) (h : LoopRuns p blocked stages t (.error e) p') :
    e = .cancelled ∧ IsCancelled t := by
  obtain ⟨fates, rest, u, o, rfl, rfl, hff, hrec, rfl, hend⟩ := h
  cases hend with
  | interrupted enabled free hx => exact ⟨rfl, by simp [hx]⟩
  | @taken f rest hf slot =>
    -- the slot was taken by a stage before it, or before the loop
    rcases (Outcome.mem_jobs_of_recordAll hrec).1 slot with hm | hm
    · obtain ⟨g, hg, hslot⟩ := List.mem_map.1 (List.map_map ▸ hm)
      rw [List.map_append, List.nodup_append] at hnodup
      refine absurd hslot (hnodup.2.2 _ ?_ _ ?_)
      · exact List.mem_map_of_mem (List.mem_map_of_mem hg)
      · simp
    · exact absurd hm (hfree f.stage (by simp))

/-- Every way in which the loop goes is one of `LoopRuns`. -/
theorem loopRuns_of_stepEnds (h : StepEnds (runStages blocked stages) p t r p') :
    LoopRuns p blocked stages t r p' := by
  -- on the stages; what is recorded and whether anything blocks both grow along the way
  induction stages generalizing blocked p t with
  | nil =>
    obtain ⟨rfl, rfl, rfl⟩ := stepEnds_pure_iff.1 h
    exact loopRuns_of_ends .finished
  | cons s stages ih =>
    by_cases hskip : !s.enabled || blocked
    · rw [runStages, if_pos hskip] at h
      have hf : (Fate.leftOut s).isExecuted = (s.enabled && !blocked) := by
        cases blocked <;> simp_all
      obtain ⟨v, rfl, hrec⟩ := stepEnds_record_bind_iff.1 h
      rcases hrec with ⟨taken, ht, rfl, rfl, rfl⟩ | ⟨o, ho, hrest⟩
      · exact loopRuns_of_ends (.of_taken (f := .leftOut s) hf ht)
      · exact .cons (f := .leftOut s) hf ho (ih (by simpa using hrest))
    · rw [runStages, if_neg hskip] at h
      obtain ⟨henabled, rfl⟩ : s.enabled = true ∧ blocked = false := by simpa using hskip
      have hf {x : CommandResult} {result : StageResult} {hx : s.result? x = some result} :
          (Fate.executed s x result hx).isExecuted = (s.enabled && !false) := by
        simp [henabled]
      rcases stepEnds_bind_iff.1 h with ⟨e, rfl, hs⟩ | ⟨u, v, blocks, q, rfl, hs, hrest⟩
      · -- the stage halts the run: its command is interrupted, or its slot is taken
        obtain ⟨x, ⟨hx, rfl, he, rfl⟩ | ⟨result, entry, hx, rfl, rfl, hend⟩⟩ := stepEnds_runStage hs
        · cases he
          exact loopRuns_of_ends (.interrupted henabled rfl hx)
        · rcases hend with ⟨taken, ht, he, rfl⟩ | ⟨o, -, he, -⟩
          · cases he
            exact loopRuns_of_ends (.of_taken (f := .executed s x result hx) hf ht)
          · cases he
      · obtain ⟨x, ⟨-, -, hb, -⟩ | ⟨result, entry, hx, rfl, rfl, hend⟩⟩ := stepEnds_runStage hs
        · cases hb
        · rcases hend with ⟨taken, ht, hb, -⟩ | ⟨o, ho, hb, rfl⟩
          · cases hb
          · cases hb
            exact .cons (f := .executed s x result hx) hf ho
              (ih (by simpa using hrest))

end

end Run

end Autoformat
