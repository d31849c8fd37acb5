import Autoformat.Proofs.Recorded
import Mathlib.Data.List.TFAE

/-!
# A run tells of itself in one voice

The phase of a result, the state that it reports, its outcome and the status that was set last agree, for
every result of every run (`Agrees`). A run that was asked for and whose final status is refused returns the
refusal of the platform. The run of an untrusted commenter never returns a result: it is an error, and its
status decides nothing, not even when the platform refuses it (`not_forall_refused`).
-/

namespace Autoformat.Run

open Autoformat.Bot

variable {config : Config} {options : RunOptions} {c : Comment} {pr : PullRequest} {o : Outcome}
  {p : Progress} {t : Trace} {r : Except BotError RunResult}

/-- Some job failed or was cancelled, and is not tolerated. -/
def IsBlocked (o : Outcome) : Prop := ∃ job e, o.get? job = some e ∧
  (e.result = .failed ∨ e.result = .cancelled) ∧ e.tolerated = false

/-- The parts of a result agree with each other, and with the status that was set last. -/
structure Agrees (config : Config) (options : RunOptions) (t : Trace) (result : RunResult) : Prop where
  ended : result.phase ∈ [Phase.notTriggered, .succeeded, .failed]
  notTriggered : [result.phase = .notTriggered, result.evaluation.verdict = .notTriggered,
    result.reported = none, result.progress.outcome.isEmpty = true].TFAE
  succeeded : [result.phase = .succeeded, result.reported = some .success,
    result.evaluation.verdict = .triggered ∧ ¬IsBlocked result.progress.outcome].TFAE
  failed : [result.phase = .failed, result.reported = some .failure,
    IsBlocked result.progress.outcome].TFAE
  /-- The last call of the platform sets the reported state, with the description of the outcome. -/
  posted (state : CommitState) (reported : result.reported = some state) :
    ∃ final before after, final.state = state ∧
      FinalStatus.aggregate result.evaluation.verdict result.progress.outcome = some final ∧
      t = before ++ ⟨.platform (finalCall config options result.evaluation.pullRequest final),
        .ok ()⟩ :: after ∧ platformCalls after = []

/-- What a run returns agrees with what it recorded and with how its final status was answered. -/
structure Accounts (config : Config) (options : RunOptions) (c : Comment) (t : Trace)
    (r : Except BotError RunResult) : Prop where
  agrees (result : RunResult) (hr : r = .ok result) : Agrees config options t result
  refused (repository sha : String) (update : StatusUpdate) (e : PlatformError)
    (trusted : config.trigger.isAuthorized c.association = true) (final : update.state ≠ .pending)
    (answer : (⟨.platform (.setStatus repository sha update), .error e⟩ : Exchange interface) ∈ t) :
    r = .error (.platform e)
  rejected (untrusted : config.trigger.isAuthorized c.association = false) (result : RunResult) :
    r ≠ .ok result
  /-- The status of a rejected run decides nothing. -/
  unauthorized (repository sha : String) (update : StatusUpdate) (x : Except PlatformError Unit)
    (untrusted : config.trigger.isAuthorized c.association = false) (final : update.state ≠ .pending)
    (answer : (⟨.platform (.setStatus repository sha update), x⟩ : Exchange interface) ∈ t) :
    r = .error (.unauthorized c.author c.association)
  /-- That it is refused is only shown as a warning, in the end. -/
  warned (repository sha : String) (update : StatusUpdate) (e : PlatformError)
    (untrusted : config.trigger.isAuthorized c.association = false) (final : update.state ≠ .pending)
    (answer : (⟨.platform (.setStatus repository sha update), .error e⟩ : Exchange interface) ∈ t) :
    ∃ event : Log.Event, event = .rejectionNotReported (.platform e) ∧ event.level = .warn ∧
      t.getLast? = some ⟨.log event, ()⟩
  transition (current next : Phase) : r ≠ .error (.invalidTransition current next)

/-! ## Results -/

/-- An outcome is blocked when it lists blocking jobs. -/
theorem isBlocked_iff : IsBlocked o ↔ o.blocking ≠ [] := Outcome.blocking_ne_nil_iff.symm

/-- The final status of a run that was asked for tells whether its outcome is blocked. -/
theorem state_cases {final : FinalStatus} (h : FinalStatus.aggregate .triggered o = some final) :
    (¬IsBlocked o ∧ final.state = .success) ∨ (IsBlocked o ∧ final.state = .failure) := by
  rw [FinalStatus.aggregate] at h
  rw [isBlocked_iff, not_not]
  split at h
  · next hnone =>
    cases h
    exact .inl ⟨List.isEmpty_iff.1 hnone, rfl⟩
  · next hsome =>
    cases h
    exact .inr ⟨fun hnil => hsome (List.isEmpty_iff.2 hnil), rfl⟩

/-- The parts of every result agree. -/
theorem agrees_of_history {result : RunResult} (h : History config options c t (.ok result)) :
    Agrees config options t result := by
  cases h with
  | notTriggered applicable verdict =>
    have hfree : ¬IsBlocked .empty := isBlocked_iff.not.2 (not_not_intro rfl)
    exact {
      ended := by simp
      notTriggered := List.tfae_of_forall True _ (by simp [verdict, Outcome.isEmpty])
      succeeded := List.tfae_of_forall False _ (by simp [verdict])
      failed := List.tfae_of_forall False _ (by simp [hfree])
      posted := nofun }
  | @reported pr u halt p final applicable verdict conduct aggregated =>
    have hnonempty : p.outcome.isEmpty = false := by
      obtain ⟨e, he⟩ := Outcome.mem_jobs_iff.1 conduct.trigger_mem_jobs
      rw [Outcome.isEmpty, List.isEmpty_eq_false_iff_exists_mem]
      exact ⟨_, he⟩
    have hphase : finalPhase final ∈ [Phase.notTriggered, .succeeded, .failed] := by
      rw [finalPhase]
      split <;> simp
    have hposted (state : CommitState) (reported : some final.state = some state) :
        ∃ final' before after, final'.state = state ∧
          FinalStatus.aggregate (Evaluation.ofComment config.trigger c pr).verdict p.outcome =
            some final' ∧
          requested config c pr u [⟨.platform (finalCall config options pr final), .ok ()⟩,
            ⟨.log (.statusReported pr.repository pr.headSha final.state p.outcome.size), ()⟩,
            ⟨.log (.phaseChanged .running (finalPhase final)), ()⟩] =
            before ++ ⟨.platform (finalCall config options pr final'), .ok ()⟩ :: after ∧
          platformCalls after = [] := by
      rw [verdict]
      exact ⟨final, _, _, Option.some.inj reported, aggregated, rfl, rfl⟩
    rcases state_cases aggregated with ⟨hfree, hstate⟩ | ⟨hblocked, hstate⟩
    · exact {
        ended := hphase
        notTriggered := List.tfae_of_forall False _
          (by simp [verdict, hnonempty, finalPhase, hstate])
        succeeded := List.tfae_of_forall True _ (by simp [verdict, hfree, finalPhase, hstate])
        failed := List.tfae_of_forall False _ (by simp [hfree, finalPhase, hstate])
        posted := hposted }
    · exact {
        ended := hphase
        notTriggered := List.tfae_of_forall False _
          (by simp [verdict, hnonempty, finalPhase, hstate])
        succeeded := List.tfae_of_forall False _ (by simp [hblocked, finalPhase, hstate])
        failed := List.tfae_of_forall True _ (by simp [hblocked, finalPhase, hstate])
        posted := hposted }

/-! ## Answers to the final status -/

/-- A comment is rejected exactly when its author is not trusted. -/
theorem verdict_eq_rejected_iff {policy : TriggerPolicy} :
    (Evaluation.ofComment policy c pr).verdict = .rejected ↔
      policy.isAuthorized c.association = false := by
  cases trusted : policy.isAuthorized c.association with
  | false => simp [Evaluation.verdict, Evaluation.ofComment, trusted]
  | true =>
    simp only [Evaluation.verdict, Evaluation.ofComment, trusted, Bool.not_true, Bool.false_eq_true,
      if_false, Bool.true_and, Bool.true_eq_false]
    split <;> simp

/-- Only trusted commenters trigger runs. -/
theorem isAuthorized_of_triggered {policy : TriggerPolicy}
    (verdict : (Evaluation.ofComment policy c pr).verdict = .triggered) :
    policy.isAuthorized c.association = true := by
  rw [← Bool.not_eq_false]
  intro untrusted
  rw [verdict_eq_rejected_iff.2 untrusted] at verdict
  cases verdict

section
variable {repository sha : String} {update : StatusUpdate} {x : Except PlatformError Unit}

/-- No status is set while a comment is evaluated. -/
theorem setStatus_not_mem_evaluated :
    (⟨.platform (.setStatus repository sha update), x⟩ : Exchange interface) ∉
      evaluated config c pr := by
  intro hmem
  have hcall := mem_platformCalls hmem
  simp [platformCalls_evaluated] at hcall

/-- A status that is not pending comes after the steps of a run that was asked for. -/
theorem mem_of_mem_requested {u v : Trace} {halt : Option Halt}
    (conduct : Conduct config options c pr u halt p) (final : update.state ≠ .pending)
    (h : (⟨.platform (.setStatus repository sha update), x⟩ : Exchange interface) ∈
      requested config c pr u v) :
    (⟨.platform (.setStatus repository sha update), x⟩ : Exchange interface) ∈ v := by
  rcases List.mem_append.1 h with hmem | hmem
  · rcases List.mem_append.1 hmem with hmem | hmem
    · rcases List.mem_append.1 hmem with hmem | hmem
      · exact absurd hmem setStatus_not_mem_evaluated
      · exact absurd (mem_platformCalls hmem) (by simp)
    · exact absurd (conduct.state_eq_pending (mem_platformCalls hmem)) final
  · exact hmem

/-- A status that is not pending ends a run: it decides what comes of a run that was asked for, and nothing but
the log in the run of an untrusted commenter. -/
theorem answer_cases (h : History config options c t r) (final : update.state ≠ .pending)
    (answer : (⟨.platform (.setStatus repository sha update), x⟩ : Exchange interface) ∈ t) :
    (config.trigger.isAuthorized c.association = false ∧
        r = .error (.unauthorized c.author c.association) ∧
        ∀ e, x = .error e → t.getLast? = some ⟨.log (.rejectionNotReported (.platform e)), ()⟩) ∨
      config.trigger.isAuthorized c.association = true ∧
        ∀ e, x = .error e → r = .error (.platform e) := by
  cases h with
  | inapplicable applicable => cases answer
  | notFetched applicable => exact absurd (mem_platformCalls answer) (by simp)
  | rejected applicable verdict =>
    refine .inl ⟨verdict_eq_rejected_iff.1 verdict, rfl, ?_⟩
    rintro e rfl
    -- the only status of the run is the one of the rejection
    rcases List.mem_append.1 answer with hmem | hmem
    · exact absurd hmem setStatus_not_mem_evaluated
    · simp only [List.mem_cons, List.not_mem_nil, or_false] at hmem
      rcases hmem with hmem | hmem | hmem <;> cases hmem
      simp [rejectionLog]
  | notTriggered applicable verdict =>
    rcases List.mem_append.1 answer with hmem | hmem
    · exact absurd hmem setStatus_not_mem_evaluated
    · exact absurd (mem_platformCalls hmem) (by simp)
  | unreported applicable verdict conduct aggregated =>
    refine .inr ⟨isAuthorized_of_triggered verdict, ?_⟩
    rintro e rfl
    cases List.mem_singleton.1 (mem_of_mem_requested conduct final answer)
    rfl
  | reported applicable verdict conduct aggregated =>
    refine .inr ⟨isAuthorized_of_triggered verdict, ?_⟩
    rintro e rfl
    rcases List.mem_cons.1 (mem_of_mem_requested conduct final answer) with hmem | hmem
    · cases hmem
    · exact absurd (mem_platformCalls hmem) (by simp)

end

/-! ## All runs -/

/-- Every run gives an account of itself that agrees with what it recorded, whatever the configuration, the
platform, git, the formatters and the cancellation do. -/
theorem accounts_run (h : Ends (run config options c) t r) : Accounts config options c t r := by
  have history := history_of_ends h
  exact {
    agrees := by
      rintro result rfl
      exact agrees_of_history history
    refused := by
      intro repository sha update e trusted final answer
      rcases answer_cases history final answer with ⟨untrusted, -⟩ | ⟨-, hrefused⟩
      · simp [trusted] at untrusted
      · exact hrefused e rfl
    rejected := by
      rintro untrusted result rfl
      have hrejected (pr : PullRequest) :
          (Evaluation.ofComment config.trigger c pr).verdict = .rejected :=
        verdict_eq_rejected_iff.2 untrusted
      cases history with
      | notTriggered applicable verdict => simp [hrejected] at verdict
      | reported applicable verdict conduct aggregated => simp [hrejected] at verdict
    unauthorized := by
      intro repository sha update x untrusted final answer
      rcases answer_cases history final answer with ⟨-, hr, -⟩ | ⟨trusted, -⟩
      · exact hr
      · simp [untrusted] at trusted
    warned := by
      intro repository sha update e untrusted final answer
      rcases answer_cases history final answer with ⟨-, -, hlogged⟩ | ⟨trusted, -⟩
      · exact ⟨_, rfl, rfl, hlogged e rfl⟩
      · simp [untrusted] at trusted
    transition := by
      rintro current next rfl
      cases history with
      | inapplicable applicable =>
        obtain ⟨-, reason, hreason⟩ := notApplicable_of_error applicable
        cases hreason }

/-- The account of the example run, which sets its final status. -/
theorem accounts_run_example :
    Ends (run {} exampleOptions exampleComment) exampleOuting.1 exampleOuting.2 ∧
      Accounts {} exampleOptions exampleComment exampleOuting.1 exampleOuting.2 :=
  ⟨ends_exampleOuting, accounts_run ends_exampleOuting⟩

/-! ## Refused statuses of rejected runs -/

/-- Answers to a run whose statuses are all refused. -/
def withoutStatuses (answer : (q : Request) → Answer q) : (q : Request) → Answer q
  | .platform (.setStatus _ _ _) => .error (.status "create_commit_status" 500 "")
  | q => answer q

/-- The platform's refusal of a final status is not always what a run returns: a stranger's run whose status
is refused returns that the stranger may not start it. -/
theorem not_forall_refused :
    ¬∀ (config : Config) (options : RunOptions) (c : Comment) (t : Trace)
      (r : Except BotError RunResult), Ends (run config options c) t r →
        ∀ (repository sha : String) (update : StatusUpdate) (e : PlatformError),
          update.state ≠ .pending →
          (⟨.platform (.setStatus repository sha update), .error e⟩ : Exchange interface) ∈ t →
            r = .error (.platform e) := by
  intro hall
  let stranger : Comment := { exampleComment with author := "stranger", association := .other }
  let answer := withoutStatuses (compliant examplePull exampleFiles .empty fun _ => 0)
  have ended : Ends (run {} exampleOptions stranger)
      (Program.play (Program.steady answer) [] (run {} exampleOptions stranger).run).1
      (Program.play (Program.steady answer) [] (run {} exampleOptions stranger).run).2 :=
    Program.runs_play _ _ _
  have refused : refusals (Program.play (Program.steady answer) []
      (run {} exampleOptions stranger).run).1 = [finalCall {} exampleOptions examplePull .rejected] := by
    decide +kernel
  obtain ⟨e, hmem⟩ := exists_of_mem_refusals (refused ▸ List.mem_singleton_self _)
  have settled : (finalUpdate {} exampleOptions .rejected).state ≠ .pending := by decide
  have returned := hall _ _ _ _ _ ended _ _ _ e settled hmem
  rcases answer_cases (history_of_ends ended) settled hmem with ⟨-, hr, -⟩ | ⟨trusted, -⟩
  · rw [hr] at returned
    cases returned
  · exact absurd trusted (by decide)

end Autoformat.Run
