import Autoformat.Proofs.Course
import Autoformat.Run.Basic

/-!
# The history of a run

A run whose request is triggered is acknowledged and goes through its steps (`Conduct`); in the end its
final status is set. `History` lists the ways in which a whole run can go, and `history_of_ends` says that
there are no others. It needs no assumption about the configuration: the slots of the run itself are
always free when they are recorded.
-/

namespace Autoformat.Run

open Autoformat.Bot

variable {config : Config} {options : RunOptions} {c : Comment} {pr : PullRequest} {t : Trace}

/-- What every status of a run carries. -/
def settingsOf (config : Config) (options : RunOptions) : StatusSettings :=
  ⟨config.status.context, options.runUrl⟩

/-- The status that tells of the end of a run. -/
def finalUpdate (config : Config) (options : RunOptions) (final : FinalStatus) : StatusUpdate :=
  ⟨final.state, config.status.context, final.description, options.runUrl⟩

/-- A phase that may follow is entered, and this is logged. -/
theorem ends_advance_bind_iff {α : Type} {current next : Phase} {f : Phase → Action α}
    {r : Except BotError α} (h : next.Follows current) :
    Ends (advance current next >>= f) t r ↔
      ∃ u, t = ⟨.log (.phaseChanged current next), ()⟩ :: u ∧ Ends (f next) u r := by
  have htransition : current.transition next = .ok next := by
    rw [Phase.transition, if_pos h]
  simp [advance, htransition, bind_assoc, ends_orFail_bind_iff, ends_log_bind_iff]

/-- A slot that is free takes its entry. -/
theorem ends_recordIn_bind {α : Type} {o : Outcome} {slot : ReservedSlot} {result : JobResult}
    {f : Outcome → Action α} {r : Except BotError α} (hfree : slot.name ∉ o.jobs)
    (h : Ends (recordIn o slot result >>= f) t r) :
    ∃ o', o.recordAll [ownEntry slot result] = .ok o' ∧ Ends (f o') t r := by
  obtain ⟨o', ho'⟩ := Outcome.exists_record (e := ⟨result, false⟩) hfree
  refine ⟨o', Outcome.recordAll_cons_eq_ok_iff.2 ⟨o', ho', rfl⟩, ?_⟩
  simpa [recordIn, ho', Except.mapError, ends_orFail_bind_iff] using h

/-! ## From the acknowledgement to the last step -/

/-- The exchanges in which a request is acknowledged. -/
def acknowledgement (config : Config) (options : RunOptions) (c : Comment) (pr : PullRequest) :
    Trace :=
  [⟨.platform (reactionCall config.status.reaction c), .ok ()⟩,
    ⟨.platform (statusCall pr (pendingStatus (settingsOf config options))), .ok ()⟩]

/-- How a run that was asked for goes, up to its final status. -/
inductive Conduct (config : Config) (options : RunOptions) (c : Comment) (pr : PullRequest) :
    Trace → Option Halt → Progress → Prop where
  | notReacted {e : PlatformError} {o : Outcome}
    (recorded : Outcome.empty.recordAll [ownEntry .trigger .failed] = .ok o) :
    Conduct config options c pr
      [⟨.platform (reactionCall config.status.reaction c), .error e⟩,
        ⟨.log (.stoppedEarly (.platform e)), ()⟩]
      (some (.stopped (.platform e))) { outcome := o }
  | notPending {e : PlatformError} {o : Outcome}
    (recorded : Outcome.empty.recordAll [ownEntry .trigger .failed] = .ok o) :
    Conduct config options c pr
      [⟨.platform (reactionCall config.status.reaction c), .ok ()⟩,
        ⟨.platform (statusCall pr (pendingStatus (settingsOf config options))), .error e⟩,
        ⟨.log (.stoppedEarly (.platform e)), ()⟩]
      (some (.stopped (.platform e))) { outcome := o }
  | ended {t : Trace} {o : Outcome} {p : Progress}
    (recorded : Outcome.empty.recordAll [ownEntry .trigger .succeeded] = .ok o)
    (course : Course config options pr o t (.ok ()) p) :
    Conduct config options c pr (acknowledgement config options c pr ++ t) none p
  | stopped {t : Trace} {o : Outcome} {p : Progress} {e : BotError}
    (recorded : Outcome.empty.recordAll [ownEntry .trigger .succeeded] = .ok o)
    (course : Course config options pr o t (.error (.stopped e)) p) :
    Conduct config options c pr
      (acknowledgement config options c pr ++ t ++ [⟨.log (.stoppedEarly e), ()⟩])
      (some (.stopped e)) p
  | cancelled {t : Trace} {o o' : Outcome} {p : Progress}
    (recorded : Outcome.empty.recordAll [ownEntry .trigger .succeeded] = .ok o)
    (course : Course config options pr o t (.error .cancelled) p)
    (marked : p.outcome.recordAll [ownEntry .run .cancelled] = .ok o') :
    Conduct config options c pr
      (acknowledgement config options c pr ++ t ++ [⟨.log .runCancelled, ()⟩])
      (some .cancelled) { p with outcome := o' }

/-- The slot of the trigger is free in the beginning. -/
private theorem trigger_not_mem_empty : ReservedSlot.trigger.name ∉ Outcome.empty.jobs := by
  simp [Outcome.jobs]

/-- When a run is acknowledged, only its trigger has been recorded. -/
theorem fresh_of_recordAll {o : Outcome} {result : JobResult}
    (h : Outcome.empty.recordAll [ownEntry .trigger result] = .ok o) :
    ∀ name ∈ o.jobs, name = ReservedSlot.trigger.name := by
  intro name hm
  rw [Outcome.mem_jobs_of_recordAll h] at hm
  simpa [ownEntry, Outcome.jobs] using hm

/-- A request is acknowledged before the steps of the run begin. -/
theorem course_of_ends_carryOut {r : Except BotError (Except Halt Unit × Progress)}
    (h : Ends (carryOut config options (settingsOf config options) c (.ofComment config.trigger c pr))
      t r) :
    (∃ (e : PlatformError) (o : Outcome),
      (t = [⟨.platform (reactionCall config.status.reaction c), .error e⟩] ∨
        t = [⟨.platform (reactionCall config.status.reaction c), .ok ()⟩,
          ⟨.platform (statusCall pr (pendingStatus (settingsOf config options))), .error e⟩]) ∧
      Outcome.empty.recordAll [ownEntry .trigger .failed] = .ok o ∧
      r = .ok (.error (.stopped (.platform e)), { outcome := o })) ∨
    ∃ u o ended p, t = acknowledgement config options c pr ++ u ∧
      Outcome.empty.recordAll [ownEntry .trigger .succeeded] = .ok o ∧
      Course config options pr o u ended p ∧ r = .ok (ended, p) := by
  obtain ⟨u, v, y, rfl, hack, hrest⟩ := ends_attempt_bind_iff.1 h
  have hfailed {e : PlatformError} (hy : y = .error (.platform e)) :
      ∃ o, Outcome.empty.recordAll [ownEntry .trigger .failed] = .ok o ∧ v = [] ∧
        r = .ok (.error (.stopped (.platform e)), { outcome := o }) := by
    subst hy
    obtain ⟨o, ho, hend⟩ := ends_recordIn_bind trigger_not_mem_empty hrest
    obtain ⟨rfl, rfl⟩ := ends_pure_iff.1 hend
    exact ⟨o, ho, rfl, rfl⟩
  rcases ends_acknowledge_iff.1 hack with ⟨e, rfl, hy⟩ | ⟨e, rfl, hy⟩ | ⟨rfl, rfl⟩
  · obtain ⟨o, ho, rfl, rfl⟩ := hfailed hy
    exact .inl ⟨e, o, .inl rfl, ho, rfl⟩
  · obtain ⟨o, ho, rfl, rfl⟩ := hfailed hy
    exact .inl ⟨e, o, .inr rfl, ho, rfl⟩
  · obtain ⟨o, ho, hbody⟩ := ends_recordIn_bind trigger_not_mem_empty hrest
    obtain ⟨⟨ended, p⟩, hsteps, rfl⟩ := ends_lift_iff.1 hbody
    exact .inr ⟨v, o, ended, p, rfl, ho, course_of_stepEnds (fresh_of_recordAll ho) hsteps, rfl⟩

/-- Every run that was asked for goes, up to its final status, as `Conduct` says. -/
theorem conduct_of_ends {α : Type} {f : Option Halt → Progress → Action α} {r : Except BotError α}
    (h : Ends (do
      let (ended, progress) ← carryOut config options (settingsOf config options) c
        (.ofComment config.trigger c pr)
      let (halt, progress) ← settle progress ended
      f halt progress) t r) :
    ∃ u v halt p, t = u ++ v ∧ Conduct config options c pr u halt p ∧ Ends (f halt p) v r := by
  rcases ends_bind_iff.1 h with ⟨e, rfl, hcarry⟩ | ⟨u, v, ⟨ended, p⟩, rfl, hcarry, hsettle⟩
  · rcases course_of_ends_carryOut hcarry with ⟨e', o, -, -, he⟩ | ⟨u, o, ended, p, -, -, -, he⟩
    · cases he
    · cases he
  rcases course_of_ends_carryOut hcarry with ⟨e, o, ht, ho, he⟩ | ⟨u, o, ended, p, rfl, ho, course, he⟩
  · cases he
    simp only [settle, bind_assoc, pure_bind, ends_log_bind_iff] at hsettle
    obtain ⟨w, rfl, hf⟩ := hsettle
    rcases ht with rfl | rfl
    · exact ⟨_, w, _, _, rfl, .notReacted ho, hf⟩
    · exact ⟨_, w, _, _, rfl, .notPending ho, hf⟩
  · cases he
    cases ended with
    | ok a =>
      simp only [settle, pure_bind] at hsettle
      exact ⟨_, v, none, p, rfl, .ended ho course, hsettle⟩
    | error halt =>
      cases halt with
      | stopped e =>
        simp only [settle, bind_assoc, pure_bind, ends_log_bind_iff] at hsettle
        obtain ⟨w, rfl, hf⟩ := hsettle
        exact ⟨_, w, _, _, by simp, .stopped ho course, hf⟩
      | cancelled =>
        simp only [settle, bind_assoc, pure_bind, ends_log_bind_iff] at hsettle
        obtain ⟨w, rfl, hrec⟩ := hsettle
        have hfree := course.run_not_mem_jobs (fresh_of_recordAll ho)
        obtain ⟨o', ho', hf⟩ := ends_recordIn_bind hfree hrec
        exact ⟨_, w, _, _, by simp, .cancelled ho course ho', hf⟩

/-! ## Whole runs -/

/-- The exchanges in which a comment is evaluated. -/
def evaluated (config : Config) (c : Comment) (pr : PullRequest) : Trace :=
  ⟨.platform (fetchCall c), .ok pr⟩ :: evaluationLog c (.ofComment config.trigger c pr) ++
    [⟨.log (.phaseChanged .received .evaluated), ()⟩]

/-- The exchanges of a run up to its first step. -/
def prelude (config : Config) (options : RunOptions) (c : Comment) (pr : PullRequest) : Trace :=
  evaluated config c pr ++ [⟨.log (.phaseChanged .evaluated .running), ()⟩,
    ⟨.log (.runStarted pr), ()⟩] ++ acknowledgement config options c pr

/-- The exchanges of a run that was asked for, from its evaluation to its final status. -/
def requested (config : Config) (c : Comment) (pr : PullRequest) (u v : Trace) : Trace :=
  evaluated config c pr ++ [⟨.log (.phaseChanged .evaluated .running), ()⟩,
    ⟨.log (.runStarted pr), ()⟩] ++ u ++ v

/-- What the log says once the status of a rejected run has been answered. -/
def rejectionLog (pr : PullRequest) (o : Outcome) : Except PlatformError Unit → Log.Event
  | .ok () => .statusReported pr.repository pr.headSha FinalStatus.rejected.state o.size
  | .error e => .rejectionNotReported (.platform e)

/-- The phase in which a run with this final status ends. -/
def finalPhase (final : FinalStatus) : Phase :=
  if final.state = .success then .succeeded else .failed

/-- How a run goes. -/
inductive History (config : Config) (options : RunOptions) (c : Comment) :
    Trace → Except BotError RunResult → Prop where
  | inapplicable {e : BotError} (applicable : c.applicable = .error e) :
    History config options c [] (.error e)
  | notFetched {e : PlatformError} (applicable : c.applicable = .ok ()) :
    History config options c [⟨.platform (fetchCall c), .error e⟩] (.error (.platform e))
  | rejected {pr : PullRequest} {o : Outcome} {x : Except PlatformError Unit}
    (applicable : c.applicable = .ok ())
    (verdict : (Evaluation.ofComment config.trigger c pr).verdict = .rejected)
    (recorded : Outcome.empty.recordAll [ownEntry .trigger .failed] = .ok o) :
    History config options c
      (evaluated config c pr ++ [⟨.log (.phaseChanged .evaluated .rejected), ()⟩,
        ⟨.platform (statusCall pr (finalUpdate config options .rejected)), x⟩,
        ⟨.log (rejectionLog pr o x), ()⟩])
      (.error (.unauthorized c.author c.association))
  | notTriggered {pr : PullRequest} (applicable : c.applicable = .ok ())
    (verdict : (Evaluation.ofComment config.trigger c pr).verdict = .notTriggered) :
    History config options c
      (evaluated config c pr ++ [⟨.log (.phaseChanged .evaluated .notTriggered), ()⟩])
      (.ok ⟨options.runId, .notTriggered, .ofComment config.trigger c pr, {}, none, none⟩)
  | unreported {pr : PullRequest} {u : Trace} {halt : Option Halt} {p : Progress}
    {final : FinalStatus} {e : PlatformError} (applicable : c.applicable = .ok ())
    (verdict : (Evaluation.ofComment config.trigger c pr).verdict = .triggered)
    (conduct : Conduct config options c pr u halt p)
    (aggregated : FinalStatus.aggregate .triggered p.outcome = some final) :
    History config options c
      (requested config c pr u
        [⟨.platform (statusCall pr (finalUpdate config options final)), .error e⟩])
      (.error (.platform e))
  | reported {pr : PullRequest} {u : Trace} {halt : Option Halt} {p : Progress}
    {final : FinalStatus} (applicable : c.applicable = .ok ())
    (verdict : (Evaluation.ofComment config.trigger c pr).verdict = .triggered)
    (conduct : Conduct config options c pr u halt p)
    (aggregated : FinalStatus.aggregate .triggered p.outcome = some final) :
    History config options c
      (requested config c pr u
        [⟨.platform (statusCall pr (finalUpdate config options final)), .ok ()⟩,
          ⟨.log (.statusReported pr.repository pr.headSha final.state p.outcome.size), ()⟩,
          ⟨.log (.phaseChanged .running (finalPhase final)), ()⟩])
      (.ok ⟨options.runId, finalPhase final, .ofComment config.trigger c pr, p, some final.state,
        halt⟩)

/-- A run that was asked for always has a final status. -/
theorem exists_final (o : Outcome) : ∃ final, FinalStatus.aggregate .triggered o = some final := by
  rw [FinalStatus.aggregate]
  split
  · exact ⟨_, rfl⟩
  · exact ⟨_, rfl⟩

/-- Sets the final status of a run that was asked for, and ends it. -/
private def conclude (config : Config) (options : RunOptions) (c : Comment) (pr : PullRequest)
    (halt : Option Halt) (progress : Progress) : Action RunResult := do
  let reported ← report (settingsOf config options) pr.repository pr.headSha .triggered
    progress.outcome
  let phase ← advance .running (if isSuccess .triggered progress.outcome then .succeeded else .failed)
  pure ⟨options.runId, phase, .ofComment config.trigger c pr, progress, reported, halt⟩

/-- A run that was asked for ends with its final status, which is refused or accepted. -/
private theorem history_of_ends_conclude {u : Trace} {halt : Option Halt} {p : Progress}
    {r : Except BotError RunResult} (applicable : c.applicable = .ok ())
    (verdict : (Evaluation.ofComment config.trigger c pr).verdict = .triggered)
    (conduct : Conduct config options c pr u halt p)
    (h : Ends (conclude config options c pr halt p) t r) :
    History config options c (requested config c pr u t) r := by
  obtain ⟨final, hfinal⟩ := exists_final p.outcome
  rcases ends_bind_iff.1 h with ⟨e, rfl, hr⟩ | ⟨x, y, z, rfl, hr, hend⟩
  · rcases (ends_report_iff hfinal).1 hr with ⟨e', rfl, he⟩ | ⟨-, he⟩
    · cases he
      exact .unreported applicable verdict conduct hfinal
    · cases he
  rcases (ends_report_iff hfinal).1 hr with ⟨e', -, he⟩ | ⟨rfl, he⟩
  · cases he
  cases he
  have hphase : (if isSuccess .triggered p.outcome then Phase.succeeded else Phase.failed) =
      finalPhase final := by
    simp [isSuccess, hfinal, finalPhase]
  have hfollows : (finalPhase final).Follows .running := by
    rw [finalPhase]
    split <;> decide
  rw [hphase] at hend
  obtain ⟨w, rfl, hpure⟩ := (ends_advance_bind_iff hfollows).1 hend
  obtain ⟨rfl, rfl⟩ := ends_pure_iff.1 hpure
  exact .reported applicable verdict conduct hfinal

/-- The run of a commenter who is not trusted sets its status and ends with an error. -/
private theorem history_of_ends_reject {r : Except BotError RunResult}
    (applicable : c.applicable = .ok ())
    (verdict : (Evaluation.ofComment config.trigger c pr).verdict = .rejected)
    (h : Ends (reject (settingsOf config options) (.ofComment config.trigger c pr) .evaluated
      (.unauthorized c.author c.association)) t r) :
    History config options c (evaluated config c pr ++ t) r := by
  have hfinal {o : Outcome} : FinalStatus.aggregate .rejected o = some .rejected := rfl
  obtain ⟨u, rfl, hrecord⟩ := (ends_advance_bind_iff (by decide)).1 h
  obtain ⟨o, ho, hattempt⟩ := ends_recordIn_bind trigger_not_mem_empty hrecord
  simp only [verdict] at hattempt
  obtain ⟨v, w, y, rfl, hr, hend⟩ := ends_attempt_bind_iff.1 hattempt
  rcases (ends_report_iff hfinal).1 hr with ⟨e, rfl, rfl⟩ | ⟨rfl, rfl⟩
  · obtain ⟨x, rfl, hthrow⟩ := ends_log_bind_iff.1 hend
    obtain ⟨rfl, rfl⟩ := ends_throw_iff.1 hthrow
    exact .rejected (x := .error e) applicable verdict ho
  · obtain ⟨rfl, rfl⟩ := ends_throw_iff.1 hend
    exact .rejected (x := .ok ()) applicable verdict ho

/-- Every way in which a run goes is a `History`. -/
theorem history_of_ends {r : Except BotError RunResult} (h : Ends (run config options c) t r) :
    History config options c t r := by
  have hassess := ends_bind_iff.1 h
  -- the comment may not start a run, or its pull request is not fetched
  rcases hassess with ⟨e, rfl, ha⟩ | ⟨u, v, e, rfl, ha, hrun⟩
  · rcases ends_assess_iff.1 ha with ⟨e', happ, rfl, he⟩ | ⟨happ, e', rfl, he⟩ | ⟨-, pr, -, he⟩
    · cases he
      exact .inapplicable happ
    · cases he
      exact .notFetched happ
    · cases he
  rcases ends_assess_iff.1 ha with ⟨e', -, -, he⟩ | ⟨-, e', -, he⟩ | ⟨happ, pr, rfl, he⟩
  · cases he
  · cases he
  cases he
  obtain ⟨w, rfl, hdecided⟩ := (ends_advance_bind_iff (by decide)).1 hrun
  -- the verdict decides how the run goes on
  by_cases hauth : (Evaluation.ofComment config.trigger c pr).authorized
  · have hensure : (Evaluation.ofComment config.trigger c pr).ensureAuthorized = .ok () := by
      rw [Evaluation.ensureAuthorized, if_pos hauth]
    rw [hensure] at hdecided
    by_cases hverdict : (Evaluation.ofComment config.trigger c pr).verdict = .notTriggered
    · rw [if_pos hverdict] at hdecided
      obtain ⟨x, rfl, hend⟩ := (ends_advance_bind_iff (by decide)).1 hdecided
      obtain ⟨rfl, rfl⟩ := ends_pure_iff.1 hend
      have hhistory : History config options c _ _ := .notTriggered happ hverdict
      simpa [evaluated] using hhistory
    · rw [if_neg hverdict] at hdecided
      have htriggered : (Evaluation.ofComment config.trigger c pr).verdict = .triggered := by
        simp_all [Evaluation.verdict]
      obtain ⟨x, rfl, hstart⟩ := (ends_advance_bind_iff (by decide)).1 hdecided
      obtain ⟨y, rfl, hcarry⟩ := ends_log_bind_iff.1 hstart
      simp only [htriggered] at hcarry
      obtain ⟨u, v, halt, p, rfl, conduct, hconclude⟩ :=
        conduct_of_ends (f := conclude config options c pr) hcarry
      have hhistory := history_of_ends_conclude happ htriggered conduct hconclude
      simp only [requested, evaluated, List.cons_append, List.append_assoc, List.nil_append]
        at hhistory ⊢
      exact hhistory
  · have hensure : (Evaluation.ofComment config.trigger c pr).ensureAuthorized =
        .error (.unauthorized c.author c.association) := by
      rw [Evaluation.ensureAuthorized, if_neg hauth]
      rfl
    have hrejected : (Evaluation.ofComment config.trigger c pr).verdict = .rejected := by
      simp_all [Evaluation.verdict]
    rw [hensure] at hdecided
    simpa [evaluated] using history_of_ends_reject happ hrejected hdecided

end Autoformat.Run
