import Autoformat.Proofs.CallProtocol

/-!
# What a run records, in order

The outcome of a run lists its jobs by their names. `slots` reads off a trace in which order they were
recorded: steps report that they finished, the acknowledgement stands for the trigger, and a cancelled run
adds a slot of its own. `recordAll_slots` says that this is all that a run records.
-/

namespace Autoformat.Run

open Autoformat.Bot

variable {config : Config} {options : RunOptions} {c : Comment} {pr : PullRequest} {o o₁ o' : Outcome}
  {p p' : Progress} {t u : Trace}

/-- What a run that was asked for is about to record at an exchange. -/
@[simp]
def entry? : Exchange interface → Option (String × OutcomeEntry)
  | ⟨.log (.stepFinished slot e), _⟩ => some (slot, e)
  | ⟨.log .runCancelled, _⟩ => some (ownEntry .run .cancelled)
  | ⟨.log _, _⟩ => none
  | ⟨.platform (.addReaction _ _ _), .error _⟩ => some (ownEntry .trigger .failed)
  | ⟨.platform (.addReaction _ _ _), .ok _⟩ => none
  | ⟨.platform (.setStatus _ _ update), .error _⟩ =>
    if update.state = .pending then some (ownEntry .trigger .failed) else none
  | ⟨.platform (.setStatus _ _ update), .ok _⟩ =>
    if update.state = .pending then some (ownEntry .trigger .succeeded) else none
  | ⟨.platform (.getPullRequest _ _), _⟩ => none
  | ⟨.platform (.listFiles _ _), _⟩ => none
  | ⟨.git _, _⟩ => none
  | ⟨.command _, _⟩ => none
  | ⟨.cancelled _, _⟩ => none

/-- The slots of a run that was asked for and their entries, in the order in which they were recorded. A
slot that was taken is not recorded again. -/
def slots (t : Trace) : List (String × OutcomeEntry) := Outcome.empty.accepted (collect entry? t)

/-- What is recorded along a trace turns the one outcome into the other. -/
def Records (o : Outcome) (t : Trace) (o' : Outcome) : Prop :=
  o.recordAll (o.accepted (collect entry? t)) = .ok o'

/-- What is recorded in two parts is recorded one after the other. -/
theorem Records.append (h : Records o t o₁) (h' : Records o₁ u o') : Records o (t ++ u) o' := by
  rw [Records, collect_append, Outcome.accepted_append h]
  exact Outcome.recordAll_append_eq_ok_iff.2 ⟨o₁, h, h'⟩

/-- A trace whose entries are all accepted records them. -/
theorem Records.of_recordAll (h : o.recordAll (collect entry? t) = .ok o') : Records o t o' := by
  rw [Records, Outcome.accepted_eq_of_recordAll h]
  exact h

/-- A trace without entries records nothing. -/
theorem Records.of_nil (h : collect entry? t = []) : Records o t o := by
  rw [Records, h]
  rfl

/-- A part without entries may follow. -/
theorem Records.append_nil (h : Records o t o') (hu : collect entry? u = []) :
    Records o (t ++ u) o' :=
  h.append (.of_nil hu)

/-- An entry for a slot that is taken leaves the outcome as it is. -/
theorem Records.of_taken {x : String × OutcomeEntry} (h : collect entry? t = [x])
    (taken : x.1 ∈ o.jobs) : Records o t o := by
  rw [Records, h, Outcome.accepted_cons_of_mem_jobs taken]
  rfl

/-- Nothing that was recorded is lost. -/
theorem Records.mem_jobs (h : Records o t o') {name : String} (hm : name ∈ o.jobs) : name ∈ o'.jobs :=
  (Outcome.mem_jobs_of_recordAll h).2 (.inr hm)

section
variable {f : Fate}

/-- Git commands record nothing. -/
private theorem collect_entry?_exchanges (gs : List GitCall) :
    collect entry? (gs.map GitCall.exchange) = [] :=
  Git.collect_map_exchange_eq_nil (fun _ => rfl) gs

/-- What becomes of a stage is one entry. -/
@[simp]
theorem collect_entry?_trace : collect entry? f.trace = [f.slotEntry] := by
  cases f with
  | leftOut s => rfl
  | executed s x r h =>
    have hcommand : collect entry? (s.exchanges x) = [] :=
      Stage.collect_exchanges_eq_nil fun _ => rfl
    simp [Fate.trace, Fate.slotEntry, hcommand]

/-! ## From the acknowledgement to the last step -/

/-- The outcome before the stages holds what was recorded until then. -/
theorem Opening.records {r : Except Halt DomainFlags} (h : Opening config options pr o t r p) :
    Records o t p.outcome := by
  have hgit (gs : List GitCall) := collect_entry?_exchanges gs
  cases h with
  | cancelledAtStart => exact .of_nil rfl
  | notMerged merging recorded => exact .of_recordAll (by simpa [hgit, finishedLog] using recorded)
  | cancelledWhileListing merging merged recorded =>
    exact .of_recordAll (by simpa [hgit, finishedLog] using recorded)
  | notListed merging merged recorded => exact .of_recordAll (by simpa [hgit, finishedLog] using recorded)
  | listed merging merged classified recorded =>
    exact .of_recordAll (by simpa [hgit, finishedLog, listing] using recorded)

/-- The outcome after a loop over stages holds what was recorded in it. -/
theorem LoopRuns.records {blocked : Bool} {stages : List Stage} {r : Except Halt Bool}
    (h : LoopRuns p blocked stages t r p') : Records p.outcome t p'.outcome := by
  obtain ⟨fates, rest, u, o, rfl, rfl, -, hrec, rfl, hend⟩ := h
  have hfates : Records p.outcome (fates.flatMap Fate.trace) o :=
    .of_recordAll (by simpa [← List.map_eq_flatMap] using hrec)
  refine hfates.append ?_
  cases hend with
  | finished => exact .of_nil rfl
  | @interrupted s rest x enabled free hx =>
    have hcommand : collect entry? (s.exchanges x) = [] :=
      Stage.collect_exchanges_eq_nil fun _ => rfl
    exact .of_nil (by simp [hcommand])
  | taken hf slot => exact .of_taken collect_entry?_trace slot

/-- The outcome after the steps holds what was recorded in them. -/
theorem Course.records {r : Except Halt Unit} (h : Course config options pr o t r p) :
    Records o t p.outcome := by
  cases h with
  | haltedInOpening opening => exact opening.records
  | haltedInStages opening stages => exact opening.records.append stages.records
  | unpublished opening stages withheld recorded =>
    refine (opening.records.append stages.records).append (.of_recordAll ?_)
    simpa [finishedLog] using recorded
  | @published _ _ _ _ _ _ gs y opening stages on publishing recorded =>
    have hlog := collect_pushLog_eq_nil (f := entry?) pr.headRef y (fun _ _ => rfl) rfl
    have hstages := (opening.records.append stages.records).append_nil (collect_entry?_exchanges gs)
    refine (hstages.append_nil hlog).append (.of_recordAll ?_)
    simpa [finishedLog] using recorded

end

/-- A request that is acknowledged is recorded as such. -/
theorem records_acknowledgement
    (recorded : Outcome.empty.recordAll [ownEntry .trigger .succeeded] = .ok o) :
    Records .empty (acknowledgement config options c pr) o := by
  refine .of_recordAll ?_
  simpa [acknowledgement, pendingStatus] using recorded

/-- The outcome of a run that was asked for holds what was recorded in it. -/
theorem Conduct.records {halt : Option Halt} (h : Conduct config options c pr t halt p) :
    Records .empty t p.outcome := by
  cases h with
  | notReacted recorded => exact .of_recordAll (by simpa using recorded)
  | notPending recorded =>
    exact .of_recordAll (by simpa [pendingStatus] using recorded)
  | ended recorded course => exact (records_acknowledgement recorded).append course.records
  | stopped recorded course =>
    exact ((records_acknowledgement recorded).append course.records).append_nil rfl
  | cancelled recorded course marked =>
    refine ((records_acknowledgement recorded).append course.records).append (.of_recordAll ?_)
    simpa using marked

/-- A run that was asked for records whether it was acknowledged. -/
theorem Conduct.trigger_mem_jobs {halt : Option Halt} (h : Conduct config options c pr t halt p) :
    ReservedSlot.trigger.name ∈ p.outcome.jobs := by
  have hmem {o : Outcome} {m : JobResult}
      (recorded : Outcome.empty.recordAll [ownEntry .trigger m] = .ok o) :
      ReservedSlot.trigger.name ∈ o.jobs :=
    (Outcome.mem_jobs_of_recordAll recorded).2 (.inl (by simp [ownEntry]))
  cases h with
  | notReacted recorded => exact hmem recorded
  | notPending recorded => exact hmem recorded
  | ended recorded course => exact course.records.mem_jobs (hmem recorded)
  | stopped recorded course => exact course.records.mem_jobs (hmem recorded)
  | cancelled recorded course marked =>
    exact (Outcome.mem_jobs_of_recordAll marked).2
      (.inr (course.records.mem_jobs (hmem recorded)))

/-! ## Whole runs -/

/-- The evaluation of a comment records nothing. -/
theorem collect_entry?_evaluated : collect entry? (evaluated config c pr) = [] := by
  rw [evaluated, evaluationLog]
  split <;> rfl

/-- The final status, which comes last, records nothing. -/
theorem records_requested {v : Trace} {halt : Option Halt} (conduct : Conduct config options c pr u halt p)
    (hv : collect entry? v = []) : Records .empty (requested config c pr u v) p.outcome := by
  have hstart : Records .empty (evaluated config c pr) .empty := .of_nil collect_entry?_evaluated
  exact ((hstart.append_nil rfl).append conduct.records).append_nil hv

/-- The outcome that a run returns holds its slots, and nothing else. -/
theorem recordAll_slots {result : RunResult} (h : Ends (run config options c) t (.ok result)) :
    Outcome.empty.recordAll (slots t) = .ok result.progress.outcome := by
  cases history_of_ends h with
  | notTriggered applicable verdict =>
    exact Records.of_nil (by simp [collect_entry?_evaluated])
  | @reported pr u halt p final applicable verdict conduct aggregated =>
    have settled := state_ne_pending aggregated
    exact records_requested conduct (by simp [finalUpdate, settled])

end Autoformat.Run
