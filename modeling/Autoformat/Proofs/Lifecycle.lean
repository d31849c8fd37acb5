import Autoformat.Proofs.Collisions
import Autoformat.Proofs.Events
import Autoformat.Proofs.Recorded

/-!
# The log of a run is faithful

With a valid configuration no step of a run finds its slot taken, so that the log and the table of a run tell
the same: the steps that the log reports are the jobs of the table, in the order of the plan (`Finishes`). The
phases that it reports lead from the first to that in which the run ends, and it reports a final status
exactly when the platform has accepted it, with the size of the table (`Lifecycle`).
-/

namespace Autoformat.Run

open Autoformat.Bot

variable {config : Config} {options : RunOptions} {c : Comment} {pr : PullRequest} {o o₁ o' : Outcome}
  {p p' : Progress} {t u : Trace}

/-! ## Steps that finish -/

/-- The slots of the stages of every plan, in order. -/
def stageSlots (config : Config) : List String :=
  Domain.all.flatMap fun d => (config.formatters.get d).map fun f => Stage.slotOf d f.name

/-- The slots of the steps of a run, in the order of the steps. -/
def stepOrder (config : Config) : List String :=
  [ReservedSlot.mergeBase.name, ReservedSlot.route.name] ++ stageSlots config ++
    [ReservedSlot.push.name]

/-- The steps that finish along a trace come in the given order, and are all that is recorded. -/
structure Finishes (o : Outcome) (order : List String) (t : Trace) (o' : Outcome) : Prop where
  recorded : o.recordAll (finished t) = .ok o'
  ordered : (finished t).map Prod.fst <+: order
  ran : ∀ x ∈ finished t, x.2.result ≠ .cancelled

/-- The stages of a plan have their slots in the order of the configuration. -/
theorem map_slot_stages (flags : DomainFlags) :
    (Plan.ofConfig config flags).stages.map Stage.slot = stageSlots config := by
  simp [stageSlots, Plan.stages_ofConfig, List.map_flatMap, Function.comp_def]

section
variable {order order' : List String}

/-- Steps that have all finished are followed by others. -/
theorem Finishes.append (h : Finishes o order t o₁) (all : (finished t).map Prod.fst = order)
    (h' : Finishes o₁ order' u o') : Finishes o (order ++ order') (t ++ u) o' where
  recorded := by
    rw [finished, collect_append]
    exact Outcome.recordAll_append_eq_ok_iff.2 ⟨o₁, h.recorded, h'.recorded⟩
  ordered := by
    rw [finished, collect_append, List.map_append, all]
    exact (List.prefix_append_right_inj order).2 h'.ordered
  ran := by
    rw [finished, collect_append, List.forall_mem_append]
    exact ⟨h.ran, h'.ran⟩

/-- The steps may break off before the others. -/
theorem Finishes.extend (h : Finishes o order t o') (more : List String) :
    Finishes o (order ++ more) t o' :=
  { h with ordered := h.ordered.trans (List.prefix_append _ _) }

/-- Steps finish in order when what they record does. -/
theorem Finishes.of_eq {xs : List (String × OutcomeEntry)} (h : finished t = xs)
    (recorded : o.recordAll xs = .ok o') (ordered : xs.map Prod.fst <+: order)
    (ran : ∀ x ∈ xs, x.2.result ≠ .cancelled) : Finishes o order t o' := by
  subst h
  exact ⟨recorded, ordered, ran⟩

/-- What records nothing may follow. -/
theorem Finishes.append_nil (h : Finishes o order t o') (hu : finished u = []) :
    Finishes o order (t ++ u) o' :=
  .of_eq (by simp [hu]) h.recorded h.ordered h.ran

end

/-! No step counts as cancelled; this is only said of the run as a whole. -/

/-- The merge is never recorded as cancelled. -/
theorem Merging.ne_cancelled {gs : List GitCall} {m : JobResult} (h : Merging config options pr gs m) :
    m ≠ .cancelled := by
  cases h with
  | leftOut off => simp
  | @tried _ merged on calls => cases merged <;> simp [JobResult.ofPassed]

/-- The push is never recorded as cancelled. -/
theorem pushResult_ne_cancelled {y : Except BotError (Option String)} : pushResult y ≠ .cancelled := by
  match y with
  | .ok (some sha) => simp [pushResult]
  | .ok none => simp [pushResult]
  | .error e => simp [pushResult]

/-- A stage is never recorded as cancelled. -/
theorem Fate.entry_ne_cancelled {f : Fate} : f.entry.result ≠ .cancelled := by
  cases f with
  | leftOut s => simp [Fate.entry]
  | executed s x r h => cases hr : r.passed <;> simp [Fate.entry, JobResult.ofPassed, hr]

/-- Git commands record nothing. -/
theorem finished_map_exchange (gs : List GitCall) : finished (gs.map GitCall.exchange) = [] :=
  Git.collect_map_exchange_eq_nil (fun _ => rfl) gs

/-- What becomes of a stage is recorded once. -/
@[simp]
theorem finished_trace {f : Fate} : finished f.trace = [f.slotEntry] := by
  cases f with
  | leftOut s => rfl
  | executed s x r h =>
    have hcommand : finished (s.exchanges x) = [] := Stage.collect_exchanges_eq_nil fun _ => rfl
    simp [Fate.trace, Fate.slotEntry, hcommand]

/-- The steps before the stages finish in their order, as far as they get. -/
theorem Opening.finishes {r : Except Halt DomainFlags} (h : Opening config options pr o t r p) :
    Finishes o [ReservedSlot.mergeBase.name, ReservedSlot.route.name] t p.outcome := by
  have hgit (gs : List GitCall) := finished_map_exchange gs
  cases h with
  | cancelledAtStart => exact .of_eq rfl rfl (by simp) (by simp)
  | notMerged merging recorded =>
    exact .of_eq (by simp [hgit, finishedLog]) recorded (by simp [ownEntry]) (by simp [ownEntry])
  | cancelledWhileListing merging merged recorded =>
    exact .of_eq (by simp [hgit, finishedLog]) recorded (by simp [ownEntry])
      (by simp [ownEntry, merging.ne_cancelled])
  | notListed merging merged recorded =>
    exact .of_eq (by simp [hgit, finishedLog]) recorded (by simp [ownEntry])
      (by simp [ownEntry, merging.ne_cancelled])
  | listed merging merged classified recorded =>
    exact .of_eq (by simp [hgit, finishedLog, listing]) recorded (by simp [ownEntry])
      (by simp [ownEntry, merging.ne_cancelled])

/-- Both steps before the stages have finished when these begin. -/
theorem Opening.finished_all {flags : DomainFlags} (h : Opening config options pr o t (.ok flags) p) :
    (finished t).map Prod.fst = [ReservedSlot.mergeBase.name, ReservedSlot.route.name] := by
  cases h with
  | listed merging merged classified recorded =>
    simp [finished_map_exchange, finishedLog, listing, ownEntry]

section
variable {blocked : Bool} {stages : List Stage} {r : Except Halt Bool}

/-- Stages that find their slots free finish in their order. -/
theorem LoopRuns.finishes (h : LoopRuns p blocked stages t r p')
    (free : ∀ taken, r ≠ .error (.stopped (.slotTaken taken))) :
    Finishes p.outcome (stages.map Stage.slot) t p'.outcome := by
  obtain ⟨fates, rest, u, o, rfl, rfl, -, hrec, rfl, hend⟩ := h
  have hrest : finished u = [] := by
    cases hend with
    | finished => rfl
    | @interrupted s rest x enabled free hx =>
      have hcommand : finished (s.exchanges x) = [] := Stage.collect_exchanges_eq_nil fun _ => rfl
      simp [hcommand]
    | taken hf slot => exact absurd rfl (free _)
  refine .of_eq (by simp [hrest, ← List.map_eq_flatMap]) hrec ?_ ?_
  · rw [List.map_append, List.map_map, List.map_map]
    exact List.prefix_append _ _
  · exact List.forall_mem_map.2 fun f _ => Fate.entry_ne_cancelled

/-- Stages that the loop got through have all finished. -/
theorem LoopRuns.finished_all {blocks : Bool} (h : LoopRuns p blocked stages t (.ok blocks) p') :
    (finished t).map Prod.fst = stages.map Stage.slot := by
  obtain ⟨fates, rfl, rfl, -⟩ := h.exists_fates
  simp [← List.map_eq_flatMap, Function.comp_def, Fate.slotEntry]

end

/-- The steps of a run whose names differ finish in the order of the plan. -/
theorem Course.finishes {r : Except Halt Unit} (hnames : NamesDiffer config)
    (hfresh : ∀ name ∈ o.jobs, name = ReservedSlot.trigger.name)
    (h : Course config options pr o t r p) : Finishes o (stepOrder config) t p.outcome := by
  -- the stages find their slots free, so that all steps up to them finish in their order
  have hstages {u v : Trace} {flags : DomainFlags} {r : Except Halt Bool} {q q' : Progress}
      (opening : Opening config options pr o u (.ok flags) q)
      (stages : LoopRuns q false (Plan.ofConfig config flags).stages v r q') :
      Finishes o ([ReservedSlot.mergeBase.name, ReservedSlot.route.name] ++ stageSlots config) (u ++ v)
        q'.outcome := by
    rw [← map_slot_stages flags]
    refine opening.finishes.append opening.finished_all (stages.finishes ?_)
    rintro taken rfl
    obtain ⟨hcancelled, -⟩ := stages.isCancelled_of_opening hnames hfresh opening
    cases hcancelled
  have hall {u v : Trace} {flags : DomainFlags} {blocked : Bool} {q q' : Progress}
      (opening : Opening config options pr o u (.ok flags) q)
      (stages : LoopRuns q false (Plan.ofConfig config flags).stages v (.ok blocked) q') :
      (finished (u ++ v)).map Prod.fst =
        [ReservedSlot.mergeBase.name, ReservedSlot.route.name] ++ stageSlots config := by
    rw [finished, collect_append, List.map_append, opening.finished_all, stages.finished_all,
      map_slot_stages]
  have hpush {q q' : Outcome} {m : JobResult} (hm : m ≠ .cancelled)
      (recorded : q.recordAll [ownEntry .push m] = .ok q') :
      Finishes q [ReservedSlot.push.name] [finishedLog (ownEntry .push m)] q' := by
    have hfinished : finished [finishedLog (ownEntry .push m)] = [ownEntry .push m] := rfl
    exact .of_eq hfinished recorded (by simp [ownEntry]) (by simpa [ownEntry] using hm)
  cases h with
  | haltedInOpening opening =>
    rw [stepOrder, List.append_assoc]
    exact opening.finishes.extend _
  | haltedInStages opening stages => exact (hstages opening stages).extend _
  | unpublished opening stages withheld recorded =>
    exact (hstages opening stages).append (hall opening stages) (hpush (by simp) recorded)
  | @published _ _ _ _ _ _ gs y opening stages on publishing recorded =>
    have hgit : finished (gs.map GitCall.exchange) = [] := finished_map_exchange gs
    have hlog : finished (pushLog pr.headRef y) = [] :=
      collect_pushLog_eq_nil pr.headRef y (fun _ _ => rfl) rfl
    refine (((hstages opening stages).append_nil hgit).append_nil hlog).append ?_
      (hpush pushResult_ne_cancelled recorded)
    simpa [hgit, hlog] using hall opening stages

/-! ## Runs that were asked for -/

/-- The entry is that of a step. -/
def isStep (x : String × OutcomeEntry) : Bool :=
  x.1 ≠ ReservedSlot.trigger.name && x.1 ≠ ReservedSlot.run.name

/-- The steps that a trace reports are those that a table holds. -/
structure Tabulates (config : Config) (t : Trace) (o : Outcome) : Prop where
  table : (o.entries.filter isStep).Perm (finished t)
  ordered : (finished t).map Prod.fst <+: stepOrder config
  ran : ∀ x ∈ finished t, x.2.result ≠ .cancelled

/-- No step of a run has a slot that belongs to the run as a whole. -/
theorem ne_of_mem_stepOrder {name : String} (h : name ∈ stepOrder config) :
    name ≠ ReservedSlot.trigger.name ∧ name ≠ ReservedSlot.run.name := by
  simp only [stepOrder, stageSlots, List.mem_append, List.mem_cons, List.mem_flatMap, List.mem_map,
    List.not_mem_nil, or_false] at h
  rcases h with ((rfl | rfl) | ⟨d, -, f, -, rfl⟩) | rfl
  · decide
  · decide
  · exact ⟨Stage.slotOf_ne_name d f.name .trigger, Stage.slotOf_ne_name d f.name .run⟩
  · decide

/-- Records of the run itself around its steps are no steps. -/
theorem Tabulates.of_recordAll (before after : List (String × OutcomeEntry))
    (recorded : Outcome.empty.recordAll (before ++ finished t ++ after) = .ok o)
    (ordered : (finished t).map Prod.fst <+: stepOrder config)
    (ran : ∀ x ∈ finished t, x.2.result ≠ .cancelled)
    (hbefore : before.filter isStep = []) (hafter : after.filter isStep = []) :
    Tabulates config t o := by
  have hsteps : (finished t).filter isStep = finished t := by
    refine List.filter_eq_self.2 fun x hx => ?_
    have hname := ordered.subset (List.mem_map_of_mem hx)
    simpa [isStep] using ne_of_mem_stepOrder hname
  have hperm := (Outcome.entries_perm_of_recordAll recorded).filter isStep
  refine ⟨?_, ordered, ran⟩
  simpa [hbefore, hafter, hsteps] using hperm

/-- A run that was asked for reports the steps of its table, in the order of the plan. -/
theorem Conduct.tabulates {halt : Option Halt} (hnames : NamesDiffer config)
    (h : Conduct config options c pr t halt p) : Tabulates config t p.outcome := by
  have htrigger (m : JobResult) : [ownEntry .trigger m].filter isStep = [] := rfl
  have hacknowledged {o : Outcome} {u v : Trace} {r : Except Halt Unit} {q : Progress}
      (recorded : Outcome.empty.recordAll [ownEntry .trigger .succeeded] = .ok o)
      (course : Course config options pr o u r q) (hv : finished v = [])
      (after : List (String × OutcomeEntry)) {o' : Outcome}
      (marked : q.outcome.recordAll after = .ok o') (hafter : after.filter isStep = []) :
      Tabulates config (acknowledgement config options c pr ++ u ++ v) o' := by
    have hfinishes := course.finishes hnames (fresh_of_recordAll recorded)
    have hfinished : finished (acknowledgement config options c pr ++ u ++ v) = finished u := by
      simp [acknowledgement, hv]
    refine .of_recordAll _ after ?_ (hfinished ▸ hfinishes.ordered) (hfinished ▸ hfinishes.ran)
      (htrigger .succeeded) hafter
    rw [hfinished]
    exact Outcome.recordAll_append_eq_ok_iff.2
      ⟨_, Outcome.recordAll_append_eq_ok_iff.2 ⟨_, recorded, hfinishes.recorded⟩, marked⟩
  cases h with
  | notReacted recorded =>
    exact .of_recordAll _ [] (by simpa using recorded) (by simp) (by simp) (htrigger .failed) rfl
  | notPending recorded =>
    exact .of_recordAll _ [] (by simpa using recorded) (by simp) (by simp) (htrigger .failed) rfl
  | ended recorded course =>
    rw [← List.append_nil (acknowledgement config options c pr ++ _)]
    exact hacknowledged recorded course rfl [] rfl rfl
  | stopped recorded course => exact hacknowledged recorded course rfl [] rfl rfl
  | cancelled recorded course marked => exact hacknowledged recorded course rfl _ marked rfl

/-! ## Whole runs -/

/-- A final status that the platform has accepted. -/
structure Posting where
  repository : String
  sha : String
  update : StatusUpdate

/-- The final status that the platform accepts in an exchange. -/
@[simp]
def posting? : Exchange interface → Option Posting
  | ⟨.platform (.setStatus repository sha update), .ok _⟩ =>
    if update.state = .pending then none else some ⟨repository, sha, update⟩
  | ⟨.platform (.setStatus _ _ _), .error _⟩ => none
  | ⟨.platform (.getPullRequest _ _), _⟩ => none
  | ⟨.platform (.addReaction _ _ _), _⟩ => none
  | ⟨.platform (.listFiles _ _), _⟩ => none
  | ⟨.git _, _⟩ => none
  | ⟨.command _, _⟩ => none
  | ⟨.cancelled _, _⟩ => none
  | ⟨.log _, _⟩ => none

/-- The final statuses that the platform has accepted, in order. -/
abbrev postings : Trace → List Posting := collect posting?

/-- What is announced of a final status for an outcome. -/
def Posting.announcement (o : Outcome) (s : Posting) : Announcement :=
  ⟨s.repository, s.sha, s.update.state, o.size⟩

/-- Changes of the phase lead from one phase to another: each begins where the one before it has led. -/
inductive Leads : Phase → List (Phase × Phase) → Phase → Prop where
  | last {current next : Phase} : Leads current [(current, next)] next
  | change {current next final : Phase} {rest : List (Phase × Phase)} (more : Leads next rest final) :
    Leads current ((current, next) :: rest) final

/-- Where a run ends: the phase that its changes lead to, and the outcome of which it tells. -/
inductive Concludes (config : Config) (options : RunOptions) (c : Comment) (t : Trace) :
    Except BotError RunResult → List (Phase × Phase) → Outcome → Prop where
  /-- The comment was not evaluated. -/
  | unevaluated {e : BotError}
    (unfetched : ∀ pr, (⟨.platform (fetchCall c), .ok pr⟩ : Exchange interface) ∉ t) :
    Concludes config options c t (.error e) [] .empty
  | rejected {pr : PullRequest} {changes : List (Phase × Phase)} {o : Outcome}
    (fetched : (⟨.platform (fetchCall c), .ok pr⟩ : Exchange interface) ∈ t)
    (verdict : (Evaluation.ofComment config.trigger c pr).verdict = .rejected)
    (leads : Leads .received changes .rejected)
    (recorded : Outcome.empty.recordAll [ownEntry .trigger .failed] = .ok o) :
    Concludes config options c t (.error (.unauthorized c.author c.association)) changes o
  /-- The final status of a run that was asked for is refused. -/
  | unreported {pr : PullRequest} {final : FinalStatus} {e : PlatformError}
    {changes : List (Phase × Phase)} {o : Outcome}
    (fetched : (⟨.platform (fetchCall c), .ok pr⟩ : Exchange interface) ∈ t)
    (verdict : (Evaluation.ofComment config.trigger c pr).verdict = .triggered)
    (aggregated : FinalStatus.aggregate .triggered o = some final)
    (refused : (⟨.platform (finalCall config options pr final), .error e⟩ : Exchange interface) ∈ t)
    (leads : Leads .received changes .running)
    (recorded : Outcome.empty.recordAll (slots t) = .ok o) :
    Concludes config options c t (.error (.platform e)) changes o
  | returned {result : RunResult} {changes : List (Phase × Phase)}
    (leads : Leads .received changes result.phase) :
    Concludes config options c t (.ok result) changes result.progress.outcome

/-- The log of a run tells of its phases, of the steps in its outcome and of its final status. -/
structure Lifecycle (config : Config) (options : RunOptions) (c : Comment) (t : Trace)
    (r : Except BotError RunResult) (changes : List (Phase × Phase))
    (entries : List (String × OutcomeEntry)) (o : Outcome) : Prop where
  concludes : Concludes config options c t r changes o
  changed : reportsOf "phase.changed" t = changes.map changeReport
  finished : reportsOf "step.finished" t = entries.map stepReport
  /-- The steps come in the order in which they are carried out and recorded. -/
  ordered : entries.map Prod.fst <+: stepOrder config
  table : (o.entries.filter isStep).Perm entries
  reported : reportsOf "status.reported" t =
    (postings t).map fun s => statusReport (s.announcement o)
  /-- The platform has accepted no final status, or that of the outcome. -/
  posted : postings t = [] ∨ ∃ pr final,
    (⟨.platform (fetchCall c), .ok pr⟩ : Exchange interface) ∈ t ∧
    FinalStatus.aggregate (Evaluation.ofComment config.trigger c pr).verdict o = some final ∧
    postings t = [⟨pr.repository, pr.headSha, finalUpdate config options final⟩]

/-- The entries about a decision change no phase and announce no status. -/
theorem isInner_evaluationLog {e : Evaluation} : IsInner (evaluationLog c e) := by
  rw [evaluationLog]
  split <;> simp

/-- The evaluation of a comment ends the first phase of a run. -/
theorem changes_evaluated : changes (evaluated config c pr) = [(.received, .evaluated)] := by
  simp [evaluated, isInner_evaluationLog.changes_eq_nil]

/-- The evaluation of a comment announces no status. -/
theorem announcements_evaluated : announcements (evaluated config c pr) = [] := by
  simp [evaluated, isInner_evaluationLog.announcements_eq_nil]

/-- The evaluation of a comment records no step. -/
theorem finished_evaluated : finished (evaluated config c pr) = [] := by
  rw [evaluated, evaluationLog]
  split <;> rfl

/-- Within the steps, no final status is set. -/
theorem IsInner.postings_eq_nil (h : IsInner t) : postings t = [] := by
  refine h.collect_eq_nil fun entry hinner => ?_
  obtain ⟨q, x⟩ := entry
  cases q with
  | platform call =>
    cases call with
    | setStatus repository sha update => cases x <;> simp_all
    | _ => rfl
  | _ => rfl

/-- The evaluation of a comment sets no final status. -/
theorem postings_evaluated : postings (evaluated config c pr) = [] := by
  simp [evaluated, isInner_evaluationLog.postings_eq_nil]

/-- What a run that was asked for tells of itself stands around its steps. -/
theorem Conduct.told {halt : Option Halt} {v : Trace} (h : Conduct config options c pr u halt p) :
    changes (requested config c pr u v) =
        (.received, .evaluated) :: (.evaluated, .running) :: changes v ∧
      announcements (requested config c pr u v) = announcements v ∧
      postings (requested config c pr u v) = postings v := by
  have hinner := h.isInner
  refine ⟨?_, ?_, ?_⟩
  · simp [requested, changes_evaluated, hinner.changes_eq_nil]
  · simp [requested, announcements_evaluated, hinner.announcements_eq_nil]
  · simp [requested, postings_evaluated, hinner.postings_eq_nil]

/-- A table that holds the steps of a run holds those of a trace that reports the same. -/
theorem Tabulates.of_finished_eq (h : Tabulates config u o) (ht : finished t = finished u) :
    Tabulates config t o :=
  ⟨ht ▸ h.table, ht ▸ h.ordered, ht ▸ h.ran⟩

/-- Without entries of the log, the outcome is empty. -/
theorem tabulates_nil : Tabulates config [] .empty := ⟨.refl _, List.nil_prefix, by simp⟩

section
variable {r : Except BotError RunResult}

/-- The log of a run is faithful if it tells where the run ends, its steps and its final status. -/
theorem lifecycle_of_parts (concludes : Concludes config options c t r (changes t) o)
    (tabulates : Tabulates config t o)
    (announced : announcements t = (postings t).map (Posting.announcement o))
    (posted : postings t = [] ∨ ∃ pr final,
      (⟨.platform (fetchCall c), .ok pr⟩ : Exchange interface) ∈ t ∧
      FinalStatus.aggregate (Evaluation.ofComment config.trigger c pr).verdict o = some final ∧
      postings t = [⟨pr.repository, pr.headSha, finalUpdate config options final⟩]) :
    ∃ changes entries o, Lifecycle config options c t r changes entries o := by
  refine ⟨changes t, finished t, o, ?_⟩
  exact {
    concludes := concludes
    changed := reportsOf_changed
    finished := reportsOf_finished tabulates.ran
    ordered := tabulates.ordered
    table := tabulates.table
    reported := by
      rw [reportsOf_announced, announced, List.map_map]
      rfl
    posted := posted }

/-- An accepted final status is the first of the postings after it. -/
theorem postings_finalCall {final : FinalStatus} (settled : final.state ≠ .pending) :
    postings (⟨.platform (finalCall config options pr final), .ok ()⟩ :: t) =
      ⟨pr.repository, pr.headSha, finalUpdate config options final⟩ :: postings t := by
  simp [finalUpdate, settled]

/-- A run of an untrusted commenter tells of its failure status if the platform has accepted it. -/
private theorem lifecycle_rejected {x : Except PlatformError Unit}
    (verdict : (Evaluation.ofComment config.trigger c pr).verdict = .rejected)
    (recorded : Outcome.empty.recordAll [ownEntry .trigger .failed] = .ok o)
    (ht : t = evaluated config c pr ++ [⟨.log (.phaseChanged .evaluated .rejected), ()⟩,
      ⟨.platform (finalCall config options pr .rejected), x⟩, ⟨.log (rejectionLog pr o x), ()⟩]) :
    ∃ changes entries o, Lifecycle config options c t (.error (.unauthorized c.author c.association))
      changes entries o := by
  have settled : FinalStatus.rejected.state ≠ .pending := by simp [FinalStatus.rejected]
  have hfetched : (⟨.platform (fetchCall c), .ok pr⟩ : Exchange interface) ∈ t := by
    simp [ht, evaluated]
  have hchanges : changes t = [(.received, .evaluated), (.evaluated, .rejected)] := by
    rw [ht]
    cases x <;> simp [changes_evaluated, rejectionLog]
  have hfinished : finished t = [] := by
    rw [ht]
    cases x <;> simp [finished_evaluated, rejectionLog]
  have tabulates : Tabulates config t o := by
    refine .of_recordAll [ownEntry .trigger .failed] [] ?_ ?_ ?_ rfl rfl
    · rw [hfinished]
      exact recorded
    · simp [hfinished]
    · simp [hfinished]
  have concludes : Concludes config options c t (.error (.unauthorized c.author c.association))
      (changes t) o := by
    rw [hchanges]
    exact .rejected hfetched verdict (.change .last) recorded
  cases x with
  | error e =>
    have hpostings : postings t = [] := by simp [ht, postings_evaluated]
    refine lifecycle_of_parts concludes tabulates ?_ (.inl hpostings)
    rw [hpostings, ht]
    simp [announcements_evaluated, rejectionLog]
  | ok a =>
    have hpostings : postings t = [⟨pr.repository, pr.headSha, finalUpdate config options .rejected⟩] := by
      simp [ht, postings_evaluated, finalUpdate, settled]
    refine lifecycle_of_parts concludes tabulates ?_
      (.inr ⟨pr, .rejected, hfetched, by rw [verdict]; rfl, hpostings⟩)
    rw [hpostings, ht]
    simp [announcements_evaluated, rejectionLog, Posting.announcement, finalUpdate]

/-- A run that was asked for tells of its final status if the platform has accepted it. -/
private theorem lifecycle_requested {v : Trace} {halt : Option Halt}
    (hnames : NamesDiffer config) (conduct : Conduct config options c pr u halt p)
    (verdict : (Evaluation.ofComment config.trigger c pr).verdict = .triggered)
    (concludes : Concludes config options c (requested config c pr u v) r
      ((.received, .evaluated) :: (.evaluated, .running) :: changes v) p.outcome)
    (hfinished : finished v = [])
    (announced : announcements v = (postings v).map (Posting.announcement p.outcome))
    (posted : postings v = [] ∨ ∃ final, FinalStatus.aggregate .triggered p.outcome = some final ∧
      postings v = [⟨pr.repository, pr.headSha, finalUpdate config options final⟩]) :
    ∃ changes entries o, Lifecycle config options c (requested config c pr u v) r changes entries o := by
  obtain ⟨hchanges, hannouncements, hpostings⟩ := conduct.told (v := v)
  refine lifecycle_of_parts (hchanges ▸ concludes) ((conduct.tabulates hnames).of_finished_eq ?_) ?_ ?_
  · simp [requested, finished_evaluated, hfinished]
  · rw [hannouncements, hpostings, announced]
  · rw [hpostings]
    refine posted.imp_right ?_
    rintro ⟨final, aggregated, hposting⟩
    exact ⟨pr, final, by simp [requested, evaluated], by rw [verdict, aggregated], hposting⟩

/-- The log of every run with a valid configuration is faithful, whatever the platform, git, the formatters and
the cancellation do. -/
theorem lifecycle_run (valid : config.validate = .ok ()) (h : Ends (run config options c) t r) :
    ∃ changes entries o, Lifecycle config options c t r changes entries o := by
  have hnames : NamesDiffer config := Config.nodup_names_of_validate valid
  cases history_of_ends h with
  | inapplicable applicable =>
    exact lifecycle_of_parts (.unevaluated (by simp)) tabulates_nil rfl (.inl rfl)
  | notFetched applicable =>
    have hunfetched (e : PlatformError) (pr : PullRequest) :
        (⟨.platform (fetchCall c), .ok pr⟩ : Exchange interface) ∉
          [⟨.platform (fetchCall c), .error e⟩] := by
      intro hmem
      cases List.mem_singleton.1 hmem
    exact lifecycle_of_parts (.unevaluated (hunfetched _)) (tabulates_nil.of_finished_eq rfl) rfl (.inl rfl)
  | rejected applicable verdict recorded => exact lifecycle_rejected verdict recorded rfl
  | @notTriggered pr applicable verdict =>
    have hchanges : changes (evaluated config c pr ++
        [⟨.log (.phaseChanged .evaluated .notTriggered), ()⟩]) =
        [(.received, .evaluated), (.evaluated, .notTriggered)] := by
      simp [changes_evaluated]
    refine lifecycle_of_parts (.returned ?_) (tabulates_nil.of_finished_eq ?_) ?_ (.inl ?_)
    · rw [hchanges]
      exact .change .last
    · simp [finished_evaluated]
    · simp [announcements_evaluated, postings_evaluated]
    · simp [postings_evaluated]
  | @unreported pr u halt p final e applicable verdict conduct aggregated =>
    have settled := state_ne_pending aggregated
    have refused : (⟨.platform (finalCall config options pr final), .error e⟩ : Exchange interface) ∈
        requested config c pr u [⟨.platform (finalCall config options pr final), .error e⟩] := by
      simp [requested]
    refine lifecycle_requested hnames conduct verdict ?_ rfl rfl (.inl rfl)
    exact .unreported (by simp [requested, evaluated]) verdict aggregated refused (.change .last)
      (records_requested conduct (by simp [finalUpdate, settled]))
  | reported applicable verdict conduct aggregated =>
    have settled := state_ne_pending aggregated
    refine lifecycle_requested hnames conduct verdict (.returned (.change (.change .last))) rfl ?_ ?_
    · rw [postings_finalCall settled]
      rfl
    · exact .inr ⟨_, aggregated, postings_finalCall settled⟩

end

/-- The default configuration is valid, so the log of its example run is faithful. -/
theorem lifecycle_run_example : Config.validate {} = .ok () ∧
    Ends (run {} exampleOptions exampleComment) exampleOuting.1 exampleOuting.2 ∧
    ∃ changes entries o,
      Lifecycle {} exampleOptions exampleComment exampleOuting.1 exampleOuting.2 changes entries o := by
  have valid : Config.validate {} = .ok () := by decide +kernel
  exact ⟨valid, ends_exampleOuting, lifecycle_run valid ends_exampleOuting⟩

end Autoformat.Run
