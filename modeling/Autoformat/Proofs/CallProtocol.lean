import Autoformat.Proofs.Compliant
import Autoformat.Proofs.History

/-!
# The calls that a run makes of the platform

`CallProtocol` lists what a run may call, in which order and with which result: it fetches the pull
request, reacts to the comment, marks the head commit as pending, lists the changed files, and sets one
final status. A run that was asked for sets its final status however it goes, and comes to an error only
if the platform refuses that status (`Concluded`).
-/

namespace Autoformat.Run

open Autoformat.Bot Autoformat.Bot.Git

variable {config : Config} {options : RunOptions} {c : Comment} {pr : PullRequest} {t : Trace}

/-- The comment is a new one on a pull request. -/
def IsNewOnPull (c : Comment) : Prop := c.isPullRequest = true ∧ c.action = "created"

/-- A comment may start a run exactly when it is a new one on a pull request. -/
theorem applicable_eq_ok_iff : c.applicable = .ok () ↔ IsNewOnPull c := by
  simp only [Comment.applicable, IsNewOnPull, Comment.created]
  cases c.isPullRequest <;> by_cases h : c.action = "created" <;> simp [h]

/-- A comment that may not start a run is reported as such. -/
theorem notApplicable_of_error {e : BotError} (h : c.applicable = .error e) :
    ¬IsNewOnPull c ∧ ∃ reason, e = .notApplicable reason := by
  constructor
  · rw [← applicable_eq_ok_iff, h]
    intro hok
    cases hok
  · rw [Comment.applicable] at h
    split at h
    · cases h
      exact ⟨_, rfl⟩
    · split at h
      · cases h
        exact ⟨_, rfl⟩
      · cases h

/-- The call that marks the head commit as pending. -/
abbrev pendingCall (config : Config) (options : RunOptions) (pr : PullRequest) : Platform.Call :=
  statusCall pr (pendingStatus (settingsOf config options))

/-- The call that sets a final status. -/
abbrev finalCall (config : Config) (options : RunOptions) (pr : PullRequest) (final : FinalStatus) :
    Platform.Call :=
  statusCall pr (finalUpdate config options final)

/-- The git commands that merge the base commit. -/
def mergeCommands (config : Config) (options : RunOptions) (pr : PullRequest) : List (List String) :=
  [fetchArgs options.remote pr.baseRef, mergeArgs config.commit pr.baseSha]

/-- The steps halt before the changed files are listed: the merge fails, or the run is cancelled before
its first step. -/
def HaltsBeforeListing (config : Config) (options : RunOptions) (pr : PullRequest) (t : Trace) : Prop :=
  (∃ g ∈ gitCalls t, g.args ∈ mergeCommands config options pr ∧ ¬g.succeeded) ∨
    (.starting, true) ∈ pauses t

/-- What the final status of a run that was asked for makes of its result. -/
inductive Concluded (config : Config) (options : RunOptions) (pr : PullRequest) (final : FinalStatus)
    (t : Trace) : Except BotError RunResult → Prop where
  | refused {e : PlatformError}
    (answer : (⟨.platform (finalCall config options pr final), .error e⟩ : Exchange interface) ∈ t) :
    Concluded config options pr final t (.error (.platform e))
  | reported {result : RunResult}
    (answer : (⟨.platform (finalCall config options pr final), .ok ()⟩ : Exchange interface) ∈ t)
    (aggregated : FinalStatus.aggregate .triggered result.progress.outcome = some final)
    (state : result.reported = some final.state) :
    Concluded config options pr final t (.ok result)

/-- The calls of a run that was asked for, up to its final status. -/
inductive RequestCalls (config : Config) (options : RunOptions) (c : Comment) (pr : PullRequest)
    (t : Trace) : List Platform.Call → Prop where
  | unreacted (refused : reactionCall config.status.reaction c ∈ refusals t) :
    RequestCalls config options c pr t [reactionCall config.status.reaction c]
  | unlisted (reacted : reactionCall config.status.reaction c ∉ refusals t)
    (halted : pendingCall config options pr ∈ refusals t ∨ HaltsBeforeListing config options pr t) :
    RequestCalls config options c pr t
      [reactionCall config.status.reaction c, pendingCall config options pr]
  | listed (reacted : reactionCall config.status.reaction c ∉ refusals t)
    (acknowledged : pendingCall config options pr ∉ refusals t)
    (merged : ¬HaltsBeforeListing config options pr t) :
    RequestCalls config options c pr t
      [reactionCall config.status.reaction c, pendingCall config options pr, listCall pr]

/-- The calls that a run makes of the platform, and its result. -/
inductive CallProtocol (config : Config) (options : RunOptions) (c : Comment) (t : Trace)
    (r : Except BotError RunResult) : List Platform.Call → Prop where
  | inapplicable (applicable : ¬IsNewOnPull c)
    (result : ∃ reason, r = .error (.notApplicable reason)) :
    CallProtocol config options c t r []
  | notFetched {e : PlatformError} (applicable : IsNewOnPull c)
    (answer : (⟨.platform (fetchCall c), .error e⟩ : Exchange interface) ∈ t)
    (result : r = .error (.platform e)) :
    CallProtocol config options c t r [fetchCall c]
  | notTriggered {pr : PullRequest} (applicable : IsNewOnPull c)
    (answer : (⟨.platform (fetchCall c), .ok pr⟩ : Exchange interface) ∈ t)
    (verdict : (Evaluation.ofComment config.trigger c pr).verdict = .notTriggered)
    (result : ∃ result, r = .ok result ∧ result.reported = none) :
    CallProtocol config options c t r [fetchCall c]
  | rejected {pr : PullRequest} (applicable : IsNewOnPull c)
    (answer : (⟨.platform (fetchCall c), .ok pr⟩ : Exchange interface) ∈ t)
    (verdict : (Evaluation.ofComment config.trigger c pr).verdict = .rejected)
    (result : r = .error (.unauthorized c.author c.association)) :
    CallProtocol config options c t r [fetchCall c, finalCall config options pr .rejected]
  | triggered {pr : PullRequest} {calls : List Platform.Call} {final : FinalStatus}
    (applicable : IsNewOnPull c)
    (answer : (⟨.platform (fetchCall c), .ok pr⟩ : Exchange interface) ∈ t)
    (verdict : (Evaluation.ofComment config.trigger c pr).verdict = .triggered)
    (request : RequestCalls config options c pr t calls) (settled : final.state ≠ .pending)
    (concluded : Concluded config options pr final t r) :
    CallProtocol config options c t r (fetchCall c :: calls ++ [finalCall config options pr final])

section
variable {gs : List GitCall} {m : JobResult} {y : Except BotError (Option String)} {o : Outcome}
  {p : Progress}

/-- A merge fails exactly when one of its commands does. -/
theorem Merging.eq_failed_iff (h : Merging config options pr gs m) :
    m = .failed ↔ ∃ g ∈ gs, g.args ∈ mergeCommands config options pr ∧ ¬g.succeeded := by
  cases h with
  | leftOut off => simp
  | tried on calls =>
    cases calls with
    | notFetched hg failed => simp [JobResult.ofPassed, mergeCommands, hg, failed]
    | notMerged hg fetched hm failed ha => simp [JobResult.ofPassed, mergeCommands, hm, failed]
    | merged hg fetched hm done => simp [JobResult.ofPassed, fetched, done]

/-- No command of a merge belongs to a commit and its push. -/
theorem not_mem_publishScript {args : List String} (h : args ∈ mergeCommands config options pr) :
    args ∉ publishScript config.commit (messageOf config options) options.remote pr.headRef := by
  intro hscript
  simp only [publishScript, commitScript, mergeCommands, List.mem_append, List.mem_cons,
    List.not_mem_nil, or_false] at hscript h
  rcases h with h | h <;> rw [h] at hscript <;>
    simp [fetchArgs, mergeArgs, statusArgs, recordArgs, headArgs, pushArgs] at hscript

/-- A commit and its push are none of the commands of a merge. -/
theorem Publishing.not_mem_mergeCommands (h : Publishing config options pr gs y) {g : GitCall}
    (hg : g ∈ gs) : g.args ∉ mergeCommands config options pr := fun hmerge =>
  have initial := h.follows.prefix
  not_mem_publishScript hmerge (initial.subset (List.mem_map_of_mem hg))

/-- The steps list the changed files unless they halt before. -/
theorem Opening.platformCalls {r : Except Halt DomainFlags} (h : Opening config options pr o t r p) :
    (HaltsBeforeListing config options pr t ∧ platformCalls t = [] ∧ ∃ e, r = .error e) ∨
      ¬HaltsBeforeListing config options pr t ∧ platformCalls t = [listCall pr] := by
  cases h with
  | cancelledAtStart => exact .inl ⟨.inr (by simp), by simp, _, rfl⟩
  | notMerged merging recorded =>
    refine .inl ⟨.inl ?_, by simp [finishedLog], _, rfl⟩
    simpa [finishedLog] using merging.eq_failed_iff.1 rfl
  | cancelledWhileListing merging merged recorded =>
    have hmerged := mt merging.eq_failed_iff.2 merged
    exact .inr ⟨by simpa [HaltsBeforeListing, finishedLog] using hmerged, by simp [finishedLog]⟩
  | notListed merging merged recorded =>
    have hmerged := mt merging.eq_failed_iff.2 merged
    exact .inr ⟨by simpa [HaltsBeforeListing, finishedLog] using hmerged, by simp [finishedLog]⟩
  | listed merging merged classified recorded =>
    have hmerged := mt merging.eq_failed_iff.2 merged
    exact .inr ⟨by simpa [HaltsBeforeListing, finishedLog, listing] using hmerged,
      by simp [finishedLog, listing]⟩

/-- The steps of a run call for nothing but the changed files, and not even for these when they halt before.
-/
theorem Course.platformCalls {r : Except Halt Unit} (h : Course config options pr o t r p) :
    (HaltsBeforeListing config options pr t ∧ platformCalls t = []) ∨
      ¬HaltsBeforeListing config options pr t ∧ platformCalls t = [listCall pr] := by
  -- what comes after the listing neither calls the platform nor merges anything
  have hlisted {u v : Trace} {flags : DomainFlags} {q : Progress}
      (opening : Opening config options pr o u (.ok flags) q)
      (hcalls : Bot.platformCalls v = []) (hpauses : pauses v = [])
      (hgit : ∀ g ∈ gitCalls v, g.args ∉ mergeCommands config options pr) :
      ¬HaltsBeforeListing config options pr (u ++ v) ∧ Bot.platformCalls (u ++ v) = [listCall pr] := by
    rcases opening.platformCalls with ⟨-, -, e, he⟩ | ⟨hmerged, hlist⟩
    · cases he
    refine ⟨?_, by simp [hlist, hcalls]⟩
    rintro (⟨g, hg, hargs, hfailed⟩ | hstart)
    · rw [gitCalls, collect_append] at hg
      rcases List.mem_append.1 hg with hg | hg
      · exact hmerged (.inl ⟨g, hg, hargs, hfailed⟩)
      · exact hgit g hg hargs
    · simp only [collect_append, hpauses, List.append_nil] at hstart
      exact hmerged (.inr hstart)
  cases h with
  | haltedInOpening opening =>
    rcases opening.platformCalls with ⟨hhalted, hnone, -⟩ | hlist
    · exact .inl ⟨hhalted, hnone⟩
    · exact .inr hlist
  | haltedInStages opening stages =>
    refine .inr (hlisted opening stages.platformCalls_eq_nil stages.pauses_eq_nil ?_)
    simp [stages.gitCalls_eq_nil]
  | unpublished opening stages withheld recorded =>
    rw [List.append_assoc]
    refine .inr (hlisted opening ?_ ?_ ?_)
    · simp [finishedLog, stages.platformCalls_eq_nil]
    · simp [finishedLog, stages.pauses_eq_nil]
    · simp [finishedLog, stages.gitCalls_eq_nil]
  | published opening stages on publishing recorded =>
    simp only [List.append_assoc]
    refine .inr (hlisted opening ?_ ?_ fun g hg => publishing.not_mem_mergeCommands ?_)
    · simp [finishedLog, stages.platformCalls_eq_nil]
    · simp [finishedLog, stages.pauses_eq_nil]
    · simpa [finishedLog, stages.gitCalls_eq_nil] using hg

end

/-- The only call of an evaluation is the fetch of the pull request. -/
theorem platformCalls_evaluated : platformCalls (evaluated config c pr) = [fetchCall c] := by
  simp [evaluated, collect_evaluationLog_eq_nil (f := platformCall?) fun _ => rfl]

/-- The calls of a run that was asked for are those of `RequestCalls`. -/
theorem Conduct.requestCalls {halt : Option Halt} {p : Progress}
    (h : Conduct config options c pr t halt p) :
    RequestCalls config options c pr t (platformCalls t) := by
  -- an acknowledged run makes the calls of its steps
  have hacknowledged {o : Outcome} {u v : Trace} {ended : Except Halt Unit} {q : Progress}
      (course : Course config options pr o u ended q) (hv : v = [] ∨ ∃ e, v = [⟨.log e, ()⟩]) :
      RequestCalls config options c pr (acknowledgement config options c pr ++ u ++ v)
        (platformCalls (acknowledgement config options c pr ++ u ++ v)) := by
    have hcalls : platformCalls (acknowledgement config options c pr ++ u ++ v) =
        [reactionCall config.status.reaction c, pendingCall config options pr] ++ platformCalls u := by
      rcases hv with rfl | ⟨e, rfl⟩ <;> simp [acknowledgement, pendingCall]
    have hrefusals : refusals (acknowledgement config options c pr ++ u ++ v) = refusals u := by
      rcases hv with rfl | ⟨e, rfl⟩ <;> simp [acknowledgement]
    have hhalts : HaltsBeforeListing config options pr
        (acknowledgement config options c pr ++ u ++ v) ↔
        HaltsBeforeListing config options pr u := by
      rcases hv with rfl | ⟨e, rfl⟩ <;> simp [HaltsBeforeListing, acknowledgement]
    have hsub := refusals_subset_platformCalls (t := u)
    rw [hcalls]
    rcases course.platformCalls with ⟨hhalted, hnone⟩ | ⟨hmerged, hlist⟩
    · rw [hnone] at hsub ⊢
      refine .unlisted ?_ (.inr (hhalts.2 hhalted))
      rw [hrefusals, List.subset_nil.1 hsub]
      simp
    · rw [hlist] at hsub ⊢
      refine .listed ?_ ?_ (mt hhalts.1 hmerged)
      · rw [hrefusals]
        intro hm
        simpa using hsub hm
      · rw [hrefusals]
        intro hm
        simpa using hsub hm
  cases h with
  | notReacted recorded => exact .unreacted (by simp)
  | notPending recorded => exact .unlisted (by simp) (.inl (by simp [pendingCall]))
  | ended recorded course => simpa using hacknowledged course (.inl rfl)
  | stopped recorded course => exact hacknowledged course (.inr ⟨_, rfl⟩)
  | cancelled recorded course marked => exact hacknowledged course (.inr ⟨_, rfl⟩)

/-- Up to its final status, a run that was asked for sets no status but a pending one. -/
theorem Conduct.state_eq_pending {halt : Option Halt} {repository sha : String}
    {update : StatusUpdate} (h : Conduct config options c pr t halt p)
    (hcall : .setStatus repository sha update ∈ platformCalls t) : update.state = .pending := by
  have hpending : .setStatus repository sha update = pendingCall config options pr := by
    have hcalls := h.requestCalls
    generalize platformCalls t = calls at hcalls hcall
    cases hcalls with
    | unreacted refused => simp at hcall
    | unlisted reacted halted => simpa using hcall
    | listed reacted acknowledged merged => simpa using hcall
  cases hpending
  rfl

/-- A final status is not pending. -/
theorem state_ne_pending {verdict : Verdict} {o : Outcome} {final : FinalStatus}
    (h : FinalStatus.aggregate verdict o = some final) : final.state ≠ .pending := by
  cases verdict with
  | notTriggered => cases h
  | rejected =>
    cases h
    simp [FinalStatus.rejected]
  | triggered =>
    rw [FinalStatus.aggregate] at h
    split at h
    · cases h
      simp [FinalStatus.succeeded]
    · cases h
      simp [FinalStatus.failed]

/-- The pending status differs from any status that is not pending. -/
theorem pendingCall_ne_finalCall {final : FinalStatus} (h : final.state ≠ .pending) :
    pendingCall config options pr ≠ finalCall config options pr final := by
  intro heq
  simp only [pendingCall, finalCall, statusCall, Platform.Call.setStatus.injEq] at heq
  exact h (congrArg StatusUpdate.state heq.2.2).symm

/-- The call sets a status that is not pending. -/
def isFinal : Platform.Call → Bool
  | .setStatus _ _ update => update.state ≠ .pending
  | .getPullRequest _ _ => false
  | .addReaction _ _ _ => false
  | .listFiles _ _ => false

/-- The calls that set a final status, in order. -/
def finalCalls (t : Trace) : List Platform.Call := (platformCalls t).filter isFinal

/-- A run that was asked for sets the final status that comes after its steps, and no other. -/
theorem finalCalls_requested {u v : Trace} {halt : Option Halt} {p : Progress} {final : FinalStatus}
    (conduct : Conduct config options c pr u halt p) (settled : final.state ≠ .pending)
    (hv : platformCalls v = [finalCall config options pr final]) :
    finalCalls (requested config c pr u v) = [finalCall config options pr final] := by
  have hu : (platformCalls u).filter isFinal = [] := by
    refine List.filter_eq_nil_iff.2 fun call hcall => ?_
    cases call with
    | setStatus repository sha update => simp [isFinal, conduct.state_eq_pending hcall]
    | getPullRequest repository number => simp [isFinal]
    | addReaction repository id reaction => simp [isFinal]
    | listFiles repository number => simp [isFinal]
  have hfinal : isFinal (finalCall config options pr final) = true := decide_eq_true settled
  have hcalls : platformCalls (requested config c pr u v) =
      fetchCall c :: platformCalls u ++ platformCalls v := by
    have hevaluated : platformCalls (evaluated config c pr) = [fetchCall c] := platformCalls_evaluated
    simp [requested, hevaluated]
  rw [finalCalls, hcalls, List.filter_append, List.filter_cons_of_neg (by simp [isFinal]), hu, hv,
    List.filter_cons_of_pos hfinal]
  rfl

/-- Nothing around the steps makes them halt before the listing. -/
theorem haltsBeforeListing_requested {u v : Trace} (hgit : gitCalls v = []) (hpauses : pauses v = []) :
    HaltsBeforeListing config options pr (requested config c pr u v) ↔
      HaltsBeforeListing config options pr u := by
  simp [HaltsBeforeListing, requested, evaluated, hgit, hpauses,
    collect_evaluationLog_eq_nil (f := gitCall?) fun _ => rfl,
    collect_evaluationLog_eq_nil (f := pause?) fun _ => rfl]

/-- Setting the final status leaves the calls before it as they are. -/
theorem requestCalls_requested {u v : Trace} {calls : List Platform.Call} {final : FinalStatus}
    (h : RequestCalls config options c pr u calls) (settled : final.state ≠ .pending)
    (hrefusals : refusals v ⊆ [finalCall config options pr final]) (hgit : gitCalls v = [])
    (hpauses : pauses v = []) :
    RequestCalls config options c pr (requested config c pr u v) calls := by
  have hmem (call : Platform.Call) (hne : call ≠ finalCall config options pr final) :
      call ∈ refusals (requested config c pr u v) ↔ call ∈ refusals u := by
    have hv : call ∉ refusals v := fun hm => hne (List.mem_singleton.1 (hrefusals hm))
    simp [requested, evaluated, collect_evaluationLog_eq_nil (f := refusal?) fun _ => rfl, hv]
  have hreaction := hmem (reactionCall config.status.reaction c) (by simp)
  have hpending := hmem (pendingCall config options pr) (pendingCall_ne_finalCall settled)
  have hhalts : HaltsBeforeListing config options pr (requested config c pr u v) ↔
      HaltsBeforeListing config options pr u := haltsBeforeListing_requested hgit hpauses
  cases h with
  | unreacted refused => exact .unreacted (hreaction.2 refused)
  | unlisted reacted halted =>
    exact .unlisted (mt hreaction.1 reacted) (halted.imp hpending.2 hhalts.2)
  | listed reacted acknowledged merged =>
    exact .listed (mt hreaction.1 reacted) (mt hpending.1 acknowledged) (mt hhalts.1 merged)

/-- Whatever the configuration, the platform, git, the formatters and the cancellation do, the calls that
a run makes of the platform are those of `CallProtocol`. -/
theorem platformCalls_run {r : Except BotError RunResult} (h : Ends (run config options c) t r) :
    CallProtocol config options c t r (platformCalls t) := by
  have hfetched {pr : PullRequest} {u : Trace} :
      (⟨.platform (fetchCall c), .ok pr⟩ : Exchange interface) ∈ evaluated config c pr ++ u := by
    simp [evaluated]
  have hrequested {pr : PullRequest} {u v : Trace} :
      (⟨.platform (fetchCall c), .ok pr⟩ : Exchange interface) ∈ requested config c pr u v := by
    simp [requested, evaluated]
  have hevaluated {pr : PullRequest} {u : Trace} :
      platformCalls (evaluated config c pr ++ u) = fetchCall c :: platformCalls u := by
    simp [evaluated, collect_evaluationLog_eq_nil (f := platformCall?) fun _ => rfl]
  have hcalls {pr : PullRequest} {u v : Trace} : platformCalls (requested config c pr u v) =
      fetchCall c :: platformCalls u ++ platformCalls v := by
    simp only [requested, List.append_assoc, hevaluated]
    simp
  cases history_of_ends h with
  | inapplicable applicable =>
    obtain ⟨hnew, reason, rfl⟩ := notApplicable_of_error applicable
    exact .inapplicable hnew ⟨reason, rfl⟩
  | notFetched applicable =>
    exact .notFetched (applicable_eq_ok_iff.1 applicable) (by simp) rfl
  | rejected applicable verdict =>
    rw [hevaluated]
    exact .rejected (applicable_eq_ok_iff.1 applicable) hfetched verdict rfl
  | notTriggered applicable verdict =>
    rw [hevaluated]
    exact .notTriggered (applicable_eq_ok_iff.1 applicable) hfetched verdict ⟨_, rfl, rfl⟩
  | unreported applicable verdict conduct aggregated =>
    have settled := state_ne_pending aggregated
    rw [hcalls]
    refine .triggered (applicable_eq_ok_iff.1 applicable) hrequested verdict
      (requestCalls_requested conduct.requestCalls settled ?_ ?_ ?_) settled
      (.refused (by simp [requested])) <;> simp
  | reported applicable verdict conduct aggregated =>
    have settled := state_ne_pending aggregated
    rw [hcalls]
    refine .triggered (applicable_eq_ok_iff.1 applicable) hrequested verdict
      (requestCalls_requested conduct.requestCalls settled ?_ ?_ ?_) settled
      (.reported (by simp [requested]) aggregated rfl) <;> simp

/-- A run that is refused nothing makes all calls, and its final status is a success. -/
theorem platformCalls_run_example :
    Ends (run {} exampleOptions exampleComment) exampleOuting.1 exampleOuting.2 ∧
      CallProtocol {} exampleOptions exampleComment exampleOuting.1 exampleOuting.2
        [fetchCall exampleComment, reactionCall .rocket exampleComment,
          pendingCall {} exampleOptions examplePull, listCall examplePull,
          finalCall {} exampleOptions examplePull .succeeded] := by
  have calls : platformCalls exampleOuting.1 =
      [fetchCall exampleComment, reactionCall .rocket exampleComment,
        pendingCall {} exampleOptions examplePull, listCall examplePull,
        finalCall {} exampleOptions examplePull .succeeded] := by
    decide +kernel
  rw [← calls]
  exact ⟨ends_exampleOuting, platformCalls_run ends_exampleOuting⟩

end Autoformat.Run
