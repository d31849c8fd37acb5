import Autoformat.Proofs.History

/-!
# The named events of a log

Some events of the log have names. `reportsOf` reads the events with a name off a trace, each with its level
and its other fields. Three names tell of the course of a run: they stand for the changes of its phase
(`changes`), the steps that have finished (`finished`) and the final statuses that have been set
(`announcements`).

Between its start and its final status, a run tells of its steps only (`Conduct.isInner`).
-/

namespace Autoformat.Bot

/-- What the log holds of an event with a name: its level and its other fields. -/
abbrev Report := Log.Level × List (String × Json)

/-- What the log holds of an event, if it has the given name. -/
def named? (name : String) (e : Log.Event) : Option Report :=
  match e.fields with
  | (key, .string text) :: rest => if key = "event" ∧ text = name then some (e.level, rest) else none
  | _ => none

/-- The phases before and after a change of the phase. -/
@[simp]
def change? : Log.Event → Option (Phase × Phase)
  | .phaseChanged current next => some (current, next)
  | _ => none

/-- A step that has finished and its entry. -/
@[simp]
def finished? : Log.Event → Option (String × OutcomeEntry)
  | .stepFinished slot e => some (slot, e)
  | _ => none

/-- A final status that is announced: its commit, its state and the number of jobs that it tells of. -/
structure Announcement where
  repository : String
  sha : String
  state : CommitState
  jobs : Nat

/-- A final status that has been set. -/
@[simp]
def announcement? : Log.Event → Option Announcement
  | .statusReported repository sha state jobs => some ⟨repository, sha, state, jobs⟩
  | _ => none

/-- What an exchange with the log tells. -/
@[simp]
def logged? {α : Type} (k : Log.Event → Option α) : Exchange interface → Option α
  | ⟨.log e, _⟩ => k e
  | ⟨.platform _, _⟩ => none
  | ⟨.git _, _⟩ => none
  | ⟨.command _, _⟩ => none
  | ⟨.cancelled _, _⟩ => none

/-- The events with a name, in order. -/
abbrev reportsOf (name : String) : Trace → List Report := collect (logged? (named? name))

/-- The changes of the phase, in order. -/
abbrev changes : Trace → List (Phase × Phase) := collect (logged? change?)

/-- The steps that have finished, in order. -/
abbrev finished : Trace → List (String × OutcomeEntry) := collect (logged? finished?)

/-- The final statuses that are announced, in order. -/
abbrev announcements : Trace → List Announcement := collect (logged? announcement?)

/-! ## How they are reported -/

/-- The report of a change of the phase. -/
def changeReport (x : Phase × Phase) : Report :=
  (.info, [("from", .string x.1.name), ("to", .string x.2.name)])

/-- The report of a step: a failure is a warning, and says whether it is tolerated. -/
def stepReport (x : String × OutcomeEntry) : Report :=
  if x.2.result = .failed then
    (.warn, [("step", .string x.1), ("result", .string x.2.result.name),
      ("tolerated", .bool x.2.tolerated)])
  else (.info, [("step", .string x.1), ("result", .string x.2.result.name)])

/-- The report of a final status. -/
def statusReport (a : Announcement) : Report :=
  (.info, [("repository", .string a.repository), ("head_sha", .string a.sha),
    ("state", .string a.state.name), ("jobs", .nat a.jobs)])

section
variable {t : Trace}

/-- Two ways to read the log that agree on every entry agree on the whole. -/
theorem collect_logged_eq_map {α β : Type} {k : Log.Event → Option β} {k' : Log.Event → Option α}
    {h : α → β} (hk : ∀ e, (⟨.log e, ()⟩ : Exchange interface) ∈ t → k e = (k' e).map h) :
    collect (logged? k) t = (collect (logged? k') t).map h := by
  rw [collect, collect, List.map_filterMap]
  refine List.filterMap_congr fun entry hentry => ?_
  obtain ⟨q, x⟩ := entry
  cases q with
  | log e => exact hk e hentry
  | platform call => rfl
  | git args => rfl
  | command c => rfl
  | cancelled at_ => rfl

/-- The reports of changed phases are those of the changes, in order. -/
theorem reportsOf_changed : reportsOf "phase.changed" t = (changes t).map changeReport := by
  refine collect_logged_eq_map fun e _ => ?_
  cases e <;>
    simp [named?, Log.Event.fields, Log.Event.named, Log.Event.saying, Log.Event.level, changeReport]

/-- The reports of statuses are those of the announcements, in order. -/
theorem reportsOf_announced :
    reportsOf "status.reported" t = (announcements t).map statusReport := by
  refine collect_logged_eq_map fun e _ => ?_
  cases e <;>
    simp [named?, Log.Event.fields, Log.Event.named, Log.Event.saying, Log.Event.level, statusReport]

/-- Steps are reported with their results, as long as none counts as cancelled. -/
theorem reportsOf_finished (ran : ∀ x ∈ finished t, x.2.result ≠ .cancelled) :
    reportsOf "step.finished" t = (finished t).map stepReport := by
  refine collect_logged_eq_map fun e he => ?_
  cases e with
  | stepFinished slot e =>
    have hran : e.result ≠ .cancelled := ran (slot, e) (List.mem_filterMap.2 ⟨_, he, rfl⟩)
    cases hresult : e.result <;>
      simp_all [named?, Log.Event.fields, Log.Event.named, Log.Event.level, stepReport,
        JobResult.isFailure]
  | _ => simp [named?, Log.Event.fields, Log.Event.named, Log.Event.saying]

end

end Autoformat.Bot

namespace Autoformat.Run

open Autoformat.Bot

variable {config : Config} {options : RunOptions} {c : Comment} {pr : PullRequest} {o : Outcome}
  {p p' : Progress} {t : Trace}

/-! ## Between the start and the final status -/

/-- The exchange neither tells of the run as a whole nor sets a final status. -/
@[simp]
def isInner : Exchange interface → Bool
  | ⟨.log (.phaseChanged _ _), _⟩ => false
  | ⟨.log (.statusReported _ _ _ _), _⟩ => false
  | ⟨.log _, _⟩ => true
  | ⟨.platform (.setStatus _ _ update), _⟩ => update.state = .pending
  | ⟨.platform _, _⟩ => true
  | ⟨.git _, _⟩ => true
  | ⟨.command _, _⟩ => true
  | ⟨.cancelled _, _⟩ => true

/-- A part of a run that neither tells of it as a whole nor sets its final status. -/
def IsInner (t : Trace) : Prop := ∀ e ∈ t, isInner e = true

section
variable {e : Exchange interface} {u : Trace}

@[simp]
theorem isInner_nil : IsInner [] := by
  simp [IsInner]

@[simp]
theorem isInner_cons : IsInner (e :: t) ↔ isInner e = true ∧ IsInner t := by
  simp [IsInner]

@[simp]
theorem isInner_append : IsInner (t ++ u) ↔ IsInner t ∧ IsInner u := by
  simp only [IsInner, List.forall_mem_append]

/-- Git commands belong to the steps. -/
@[simp]
theorem isInner_map_exchange (gs : List GitCall) : IsInner (gs.map GitCall.exchange) :=
  List.forall_mem_map.2 fun _ _ => rfl

/-- The command of a stage belongs to the steps. -/
@[simp]
theorem isInner_exchanges {s : Stage} {x : CommandResult} : IsInner (s.exchanges x) :=
  List.forall_mem_map.2 fun _ _ => rfl

/-- All that is done for a stage belongs to the steps. -/
@[simp]
theorem isInner_trace {f : Fate} : IsInner f.trace := by
  cases f <;> simp [Fate.trace]

/-- The entry about a push belongs to the steps. -/
@[simp]
theorem isInner_pushLog {branch : String} {y : Except BotError (Option String)} :
    IsInner (pushLog branch y) := by
  match y with
  | .ok (some sha) => simp [pushLog]
  | .ok none => simp [pushLog]
  | .error e => simp [pushLog]

/-- The acknowledgement changes no phase and announces no status. -/
@[simp]
theorem isInner_acknowledgement : IsInner (acknowledgement config options c pr) := by
  simp [acknowledgement, pendingStatus]

end

/-- All that a loop over stages does belongs to the steps. -/
theorem LoopRuns.isInner {blocked : Bool} {stages : List Stage} {r : Except Halt Bool}
    (h : LoopRuns p blocked stages t r p') : IsInner t := by
  obtain ⟨fates, rest, u, o, -, rfl, -, -, -, hend⟩ := h
  refine isInner_append.2 ⟨List.forall_mem_flatMap.2 fun f _ => isInner_trace, ?_⟩
  cases hend with
  | finished => simp
  | interrupted enabled free hx => simp
  | taken hf slot => simp

/-- All that is done before the stages belongs to the steps. -/
theorem Opening.isInner {r : Except Halt DomainFlags} (h : Opening config options pr o t r p) :
    IsInner t := by
  cases h with
  | cancelledAtStart => simp
  | notMerged merging recorded => simp [finishedLog]
  | cancelledWhileListing merging merged recorded => simp [finishedLog]
  | notListed merging merged recorded => simp [finishedLog]
  | listed merging merged classified recorded => simp [finishedLog, listing]

/-- The steps change no phase and announce no status. -/
theorem Course.isInner {r : Except Halt Unit} (h : Course config options pr o t r p) : IsInner t := by
  cases h with
  | haltedInOpening opening => exact opening.isInner
  | haltedInStages opening stages => simp [opening.isInner, stages.isInner]
  | unpublished opening stages withheld recorded =>
    simp [opening.isInner, stages.isInner, finishedLog]
  | published opening stages on publishing recorded =>
    simp [opening.isInner, stages.isInner, finishedLog]

/-- Up to its final status, a run that was asked for tells of its steps only. -/
theorem Conduct.isInner {halt : Option Halt} (h : Conduct config options c pr t halt p) :
    IsInner t := by
  cases h with
  | notReacted recorded => simp
  | notPending recorded => simp [pendingStatus]
  | ended recorded course => simp [course.isInner]
  | stopped recorded course => simp [course.isInner]
  | cancelled recorded course marked => simp [course.isInner]

/-- What tells of a run as a whole does not stand among its steps. -/
theorem IsInner.collect_eq_nil {α : Type} {f : Exchange interface → Option α} (h : IsInner t)
    (hf : ∀ e, isInner e = true → f e = none) : collect f t = [] :=
  List.filterMap_eq_nil_iff.2 fun e he => hf e (h e he)

/-- Within the steps, no phase changes. -/
theorem IsInner.changes_eq_nil (h : IsInner t) : changes t = [] := by
  refine h.collect_eq_nil fun entry hinner => ?_
  obtain ⟨q, x⟩ := entry
  cases q with
  | log e => cases e <;> first | rfl | cases hinner
  | _ => rfl

/-- Within the steps, no status is announced. -/
theorem IsInner.announcements_eq_nil (h : IsInner t) : announcements t = [] := by
  refine h.collect_eq_nil fun entry hinner => ?_
  obtain ⟨q, x⟩ := entry
  cases q with
  | log e => cases e <;> first | rfl | cases hinner
  | _ => rfl

end Autoformat.Run
