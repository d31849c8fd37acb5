import Autoformat.Proofs.CallProtocol
import Autoformat.Proofs.Completion
import Autoformat.Proofs.Search

/-!
# Runs that stop early

A run that halts should show it: some job of its outcome blocks, so its final status is a failure
(`ShowsFailure`). This is so for every way to halt but one. Where a domain names a step twice, the second
of the two steps finds its slot taken, and then the run halts without an entry that tells of it: if
nothing else failed, its final status is a success.

`showsFailure_iff` says that the configurations under which all runs that halt show it are those that
name no step of a domain twice, and those that trust nobody with a run.
-/

namespace Autoformat.Run

open Autoformat.Bot

variable {config : Config} {options : RunOptions} {c : Comment} {pr : PullRequest} {o : Outcome}
  {p : Progress} {t : Trace}

/-- The result and the last call of a run tell that it failed. -/
structure ShowsFailure (config : Config) (options : RunOptions) (t : Trace) (result : RunResult) :
    Prop where
  /-- Some job failed or was cancelled, and is not tolerated. -/
  blocked : ∃ job e, result.progress.outcome.get? job = some e ∧
    (e.result = .failed ∨ e.result = .cancelled) ∧ e.tolerated = false
  /-- The final status is a failure. -/
  posted : ∃ final, final.state = .failure ∧
    (platformCalls t).getLast? = some (finalCall config options result.evaluation.pullRequest final)
  reported : result.reported = some .failure
  phase : result.phase = .failed

/-- No domain names a step twice. -/
def NamesDiffer (config : Config) : Prop := ∀ d, ((config.formatters.get d).map Formatter.name).Nodup

/-- A step was named before, and the run that halts at it passes for a success. -/
structure HidesHalt (config : Config) (result : RunResult) (h : Halt) : Prop where
  twice : ¬NamesDiffer config
  taken : ∃ slot, h = .stopped (.slotTaken slot)
  unblocked : result.progress.outcome.blocking = []
  reported : result.reported = some .success
  phase : result.phase = .succeeded

/-! ## Halts that leave a blocking entry -/

/-- Steps that stop before the stages leave a blocking entry. -/
theorem Opening.blocking_ne_nil {e : BotError}
    (h : Opening config options pr o t (.error (.stopped e)) p) : p.outcome.blocking ≠ [] := by
  cases h with
  | notMerged merging recorded => exact Outcome.blocking_ne_nil_of_recordAll recorded rfl
  | @notListed gs m _ _ merging merged recorded =>
    exact Outcome.blocking_ne_nil_of_recordAll recorded (by cases m <;> rfl)

/-- Steps that stop leave a blocking entry, unless a step finds the slot of its name taken. -/
theorem Course.blocking_ne_nil_or_taken {e : BotError}
    (hfresh : ∀ name ∈ o.jobs, name = ReservedSlot.trigger.name)
    (h : Course config options pr o t (.error (.stopped e)) p) :
    p.outcome.blocking ≠ [] ∨ ¬NamesDiffer config ∧ ∃ slot, e = .slotTaken slot := by
  generalize hr : (.error (.stopped e) : Except Halt Unit) = r at h
  cases h with
  | haltedInOpening opening =>
    cases hr
    exact .inl opening.blocking_ne_nil
  | haltedInStages opening stages =>
    -- the one way to stop that records nothing
    cases hr
    refine .inr ⟨fun hnames => ?_, ?_⟩
    · obtain ⟨hcancelled, -⟩ := stages.isCancelled_of_opening hnames hfresh opening
      cases hcancelled
    · obtain ⟨fates, rest, u, o', -, -, -, -, -, hend⟩ := stages
      cases hend with
      | taken hf slot => exact ⟨_, rfl⟩
  | unpublished opening stages withheld recorded => cases hr
  | @published _ _ _ _ _ _ gs y opening stages on publishing recorded =>
    cases y with
    | ok sha => cases hr
    | error e => exact .inl (Outcome.blocking_ne_nil_of_recordAll recorded rfl)

/-- A run that halts leaves a blocking entry, unless a step finds the slot of its name taken. -/
theorem Conduct.blocking_ne_nil_or_taken {h : Halt}
    (conduct : Conduct config options c pr t (some h) p) :
    p.outcome.blocking ≠ [] ∨ ¬NamesDiffer config ∧ ∃ slot, h = .stopped (.slotTaken slot) := by
  cases conduct with
  | notReacted recorded => exact .inl (Outcome.blocking_ne_nil_of_recordAll recorded rfl)
  | notPending recorded => exact .inl (Outcome.blocking_ne_nil_of_recordAll recorded rfl)
  | stopped recorded course =>
    refine (course.blocking_ne_nil_or_taken (fresh_of_recordAll recorded)).imp_right ?_
    rintro ⟨twice, slot, rfl⟩
    exact ⟨twice, slot, rfl⟩
  | cancelled recorded course marked => exact .inl (Outcome.blocking_ne_nil_of_recordAll marked rfl)

/-- The final status of an outcome that blocks is a failure. -/
theorem state_eq_failure {final : FinalStatus} (hblocks : o.blocking ≠ [])
    (h : FinalStatus.aggregate .triggered o = some final) : final.state = .failure := by
  rw [FinalStatus.aggregate, if_neg (by simpa using hblocks)] at h
  cases h
  rfl

/-- A run that halts shows it, unless it hides it. -/
theorem showsFailure_or_hidesHalt {result : RunResult} {h : Halt}
    (ended : Ends (run config options c) t (.ok result)) (halted : result.halt = some h) :
    ShowsFailure config options t result ∨ HidesHalt config result h := by
  cases history_of_ends ended with
  | notTriggered applicable verdict => cases halted
  | @reported pr u halt q final applicable verdict conduct aggregated =>
    obtain rfl : halt = some h := halted
    by_cases hblocks : q.outcome.blocking = []
    · obtain ⟨twice, taken⟩ := conduct.blocking_ne_nil_or_taken.resolve_left (not_not_intro hblocks)
      have hfinal : final = .succeeded := by
        simpa [FinalStatus.aggregate, hblocks, eq_comm] using aggregated
      exact .inr ⟨twice, taken, hblocks, by simp [hfinal, FinalStatus.succeeded],
        by simp [hfinal, finalPhase, FinalStatus.succeeded]⟩
    · have hstate := state_eq_failure hblocks aggregated
      exact .inl {
        blocked := Outcome.blocking_ne_nil_iff.1 hblocks
        posted := ⟨final, hstate, by simp [requested, Evaluation.ofComment]⟩
        reported := congrArg some hstate
        phase := by simp [finalPhase, hstate] }

/-! ## A halt that leaves none -/

/-- The two phrases of a policy ask for a run when they stand next to each other. -/
theorem requestsRun_phrases (policy : TriggerPolicy) :
    policy.requestsRun (policy.mention ++ policy.command) = true := by
  have hmention : policy.mention.toList <:+: policy.mention.toList ++ policy.command.toList :=
    (List.prefix_append _ _).isInfix
  have hcommand : policy.command.toList <:+: policy.mention.toList ++ policy.command.toList :=
    (List.suffix_append _ _).isInfix
  simp [TriggerPolicy.requestsRun, Text.contains, Text.occursIn_iff, hmention, hcommand]

/-- Steps that come to their end found every slot free. -/
theorem Course.namesDiffer (h : Course config options pr o t (.ok ()) p) : NamesDiffer config := by
  have hstages {q q' : Progress} {flags : DomainFlags} {blocked : Bool} {u : Trace}
      (stages : LoopRuns q false (Plan.ofConfig config flags).stages u (.ok blocked) q') :
      ((Plan.ofConfig config flags).stages.map Stage.slot).Nodup := by
    obtain ⟨fates, hplanned, -, -, recorded, -, -⟩ := stages.exists_fates
    have hnodup := (Outcome.nodup_of_recordAll recorded).1
    rw [List.map_map] at hnodup
    rw [hplanned, List.map_map]
    exact hnodup
  generalize hr : (.ok () : Except Halt Unit) = r at h
  cases h with
  | haltedInOpening opening => cases hr
  | haltedInStages opening stages => cases hr
  | unpublished opening stages withheld recorded => exact Plan.nodup_slots_iff.1 (hstages stages)
  | published opening stages on publishing recorded =>
    exact Plan.nodup_slots_iff.1 (hstages stages)

/-- Stages that no changed file touches block nothing. -/
theorem LoopRuns.blocking_eq_nil {flags : DomainFlags} {p' : Progress} {r : Except Halt Bool}
    (untouched : ∀ d, flags.get d = false) (unblocked : p.outcome.blocking = [])
    (h : LoopRuns p false (Plan.ofConfig config flags).stages t r p') :
    p'.outcome.blocking = [] := by
  obtain ⟨fates, rest, u, o', hplanned, -, hff, recorded, rfl, -⟩ := h
  refine (Outcome.blocking_eq_nil_iff_of_recordAll recorded).2 ⟨fun x hx => ?_, unblocked⟩
  obtain ⟨f, hf, rfl⟩ := List.mem_map.1 hx
  have hmem : f.stage ∈ (Plan.ofConfig config flags).stages := by
    rw [hplanned]
    exact List.mem_append_left _ (List.mem_map_of_mem hf)
  obtain ⟨d, g, -, hstage⟩ := Plan.mem_stages_iff.1 hmem
  have hdisabled : f.stage.enabled = false := by
    rw [hstage]
    exact untouched d
  -- so it is left out, and what is left out does not block
  obtain ⟨before, after, rfl⟩ := List.append_of_mem hf
  have hexecuted := failFast_iff.1 hff before f after rfl
  rw [hdisabled, Bool.false_and] at hexecuted
  cases f with
  | leftOut s => rfl
  | executed s x result hx => cases hexecuted

/-- Without a merge there is nothing that could fail in it. -/
theorem Merging.eq_skipped {gs : List GitCall} {m : JobResult} (off : options.mergeBase = false)
    (h : Merging config options pr gs m) : m = .skipped := by
  cases h with
  | leftOut off => rfl
  | tried on calls => simp [off] at on

/-- Steps that stop although nothing is refused, nothing is merged and pushed, and no file is changed,
leave no blocking entry. -/
theorem Course.blocking_eq_nil {e : BotError} (unmerged : options.mergeBase = false)
    (unpushed : options.push = false) (unblocked : o.blocking = []) (unrefused : refusals t = [])
    (unchanged : ∀ files ∈ listings t, files = .empty)
    (h : Course config options pr o t (.error (.stopped e)) p) : p.outcome.blocking = [] := by
  generalize hr : (.error (.stopped e) : Except Halt Unit) = r at h
  cases h with
  | haltedInOpening opening =>
    cases hr
    cases opening with
    | notMerged merging recorded => cases merging.eq_skipped unmerged
    | notListed merging merged recorded => simp at unrefused
  | haltedInStages opening stages =>
    cases opening with
    | @listed gs m o' files flags merging merged classified recorded =>
      obtain rfl := merging.eq_skipped unmerged
      obtain rfl : files = .empty := unchanged files (by simp [listing])
      refine stages.blocking_eq_nil (fun d => ?_) ?_
      · rw [classified]
        cases d <;> rfl
      · refine (Outcome.blocking_eq_nil_iff_of_recordAll recorded).2 ⟨?_, unblocked⟩
        simp [ownEntry, OutcomeEntry.isBlocking, JobResult.isFailure]
  | unpublished opening stages withheld recorded => cases hr
  | published opening stages on publishing recorded => simp [unpushed] at on

/-- Where a domain names a step twice, some run halts without a blocking entry. -/
theorem exists_halted_unblocked (trusted : config.trigger.trustedRoles ≠ [])
    (twice : ¬NamesDiffer config) :
    ∃ options c t result h, Ends (run config options c) t (.ok result) ∧ result.halt = some h ∧
      result.progress.outcome.blocking = [] := by
  -- a trusted comment asks for a run on a pull request without files, and nothing is merged or pushed
  obtain ⟨role, roles, hroles⟩ := List.exists_cons_of_ne_nil trusted
  let options : RunOptions := { exampleOptions with mergeBase := false, push := false }
  let c : Comment := { exampleComment with
    association := role, body := config.trigger.mention ++ config.trigger.command }
  have htriggered (pr : PullRequest) :
      (Evaluation.ofComment config.trigger c pr).verdict = .triggered := by
    simp [Evaluation.verdict, Evaluation.ofComment, TriggerPolicy.isAuthorized, c, hroles,
      requestsRun_phrases]
  obtain ⟨t, r, ended, unrefused, uncancelled, unchanged⟩ :=
    exists_compliant_run config options c examplePull .empty
  cases history_of_ends ended with
  | inapplicable applicable => cases applicable
  | notFetched applicable => simp at unrefused
  | rejected applicable verdict => simp [htriggered] at verdict
  | notTriggered applicable verdict => simp [htriggered] at verdict
  | unreported applicable verdict conduct aggregated => simp [requested] at unrefused
  | @reported pr u _ _ _ applicable verdict conduct aggregated =>
    have hrefusals : refusals u = [] := by
      simp only [requested, collect_append, List.append_eq_nil_iff] at unrefused
      exact unrefused.1.2
    have hcancelled : ¬IsCancelled u := fun hu => uncancelled (by simp [requested, hu])
    have hlistings : ∀ files ∈ listings u, files = .empty := by
      intro files hfiles
      refine unchanged files ?_
      simp only [requested, collect_append, List.mem_append]
      exact .inl (.inr hfiles)
    cases conduct with
    | notReacted recorded => simp at hrefusals
    | notPending recorded => simp at hrefusals
    | ended recorded course => exact absurd course.namesDiffer twice
    | stopped recorded course =>
      have hstart := (Outcome.blocking_eq_nil_iff_of_recordAll recorded).2 ⟨by simp [ownEntry,
        OutcomeEntry.isBlocking, JobResult.isFailure], rfl⟩
      simp only [collect_append, List.append_eq_nil_iff] at hrefusals
      refine ⟨options, c, _, _, _, ended, rfl,
        course.blocking_eq_nil rfl rfl hstart hrefusals.1.2 fun files hfiles => hlistings files ?_⟩
      simp only [collect_append, List.mem_append]
      exact .inl (.inr hfiles)
    | cancelled recorded course marked =>
      exact absurd (by simp [course.isCancelled]) hcancelled

/-- An outcome without blocking jobs does not show a failure. -/
theorem not_showsFailure {result : RunResult} (h : result.progress.outcome.blocking = []) :
    ¬ShowsFailure config options t result := by
  rintro ⟨blocked, -, -, -⟩
  exact Outcome.blocking_ne_nil_iff.2 blocked h

/-- All runs that halt show it exactly when no domain names a step twice, or nobody may start a run. A run
that does not show it halts at a step that was named before, and passes for a success. -/
theorem showsFailure_iff (config : Config) :
    ((∀ (options : RunOptions) (c : Comment) (t : Trace) (result : RunResult) (h : Halt),
        Ends (run config options c) t (.ok result) → result.halt = some h →
          ShowsFailure config options t result) ↔
      config.trigger.trustedRoles = [] ∨ NamesDiffer config) ∧
    ∀ (options : RunOptions) (c : Comment) (t : Trace) (result : RunResult) (h : Halt),
      Ends (run config options c) t (.ok result) → result.halt = some h →
        ShowsFailure config options t result ∨ HidesHalt config result h := by
  refine ⟨⟨fun hshows => ?_, ?_⟩, fun _ _ _ _ _ ended halted => showsFailure_or_hidesHalt ended halted⟩
  · by_contra hneither
    obtain ⟨trusted, twice⟩ := not_or.1 hneither
    obtain ⟨options, c, t, result, h, ended, halted, unblocked⟩ :=
      exists_halted_unblocked trusted twice
    exact not_showsFailure unblocked (hshows options c t result h ended halted)
  · rintro (nobody | hnames) options c t result h ended halted
    · cases history_of_ends ended with
      | notTriggered applicable verdict => cases halted
      | reported applicable verdict conduct aggregated =>
        simp [Evaluation.verdict, Evaluation.ofComment, TriggerPolicy.isAuthorized, nobody] at verdict
    · refine (showsFailure_or_hidesHalt ended halted).resolve_right fun hides => ?_
      exact hides.twice hnames

/-- The general formatters of a configuration that names a step twice; the second one fails. -/
def repeatedFormatters : List Formatter :=
  [⟨"lint", ["true"], none, false⟩, ⟨"lint", ["false"], none, false⟩]

/-- Not every run that halts shows it: the failure of the second step is lost, and the final status is a
success. -/
theorem not_forall_showsFailure :
    ¬∀ (config : Config) (options : RunOptions) (c : Comment) (t : Trace) (result : RunResult)
      (h : Halt), Ends (run config options c) t (.ok result) → result.halt = some h →
        ShowsFailure config options t result := by
  intro hshows
  let config : Config := { formatters := { generalSource := repeatedFormatters } }
  let options : RunOptions := { exampleOptions with mergeBase := false, push := false }
  let code (x : Command) : UInt8 := if x.program = "true" then 0 else 1
  have ended := ends_outing config options exampleComment examplePull exampleFiles .empty code
  have hresult : (outing config options exampleComment examplePull exampleFiles .empty code).2.toOption.map
      (fun result => (result.halt, result.reported)) =
        some (some (.stopped (.slotTaken ⟨"general_source/lint"⟩)), some .success) := by
    decide +kernel
  cases hr : (outing config options exampleComment examplePull exampleFiles .empty code).2 with
  | error e => simp [hr, Except.toOption] at hresult
  | ok result =>
    rw [hr] at ended hresult
    obtain ⟨halted, reported⟩ : result.halt = some (.stopped (.slotTaken ⟨"general_source/lint"⟩)) ∧
        result.reported = some .success := by
      simpa [Except.toOption] using hresult
    have shows := hshows config options exampleComment _ result _ ended halted
    rw [shows.reported] at reported
    cases reported

end Autoformat.Run
