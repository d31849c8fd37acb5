import Autoformat.Proofs.CallProtocol
import Autoformat.Proofs.Search

/-!
# How a comment is decided about

`EvaluationHistory` lists the ways in which the evaluation of a comment can go, and
`evaluationHistory_of_ends` says that there are no others. The decision itself (`IsDecision`) depends on
the trusted roles, on the author's association and on whether the text holds both phrases, and on nothing
that the platform answers.

`Evaluates` puts the decision, the calls and the result of an evaluation side by side: the pull request is
fetched for every new comment on one, a request is acknowledged by a reaction and then by a pending
status, and an evaluation succeeds exactly when nothing is refused to it.
-/

namespace Autoformat.Run

open Autoformat.Bot

variable {policy : TriggerPolicy} {settings : StatusSettings} {reaction : Reaction} {c : Comment}
  {pr : PullRequest} {t : Trace} {r : Except BotError Evaluation}

/-- A text holds the mention of the bot and the command. -/
def Requests (policy : TriggerPolicy) (body : String) : Prop :=
  Text.Holds body policy.mention ∧ Text.Holds body policy.command

/-- What is decided about a comment on a pull request. -/
structure IsDecision (policy : TriggerPolicy) (c : Comment) (pr : PullRequest) (e : Evaluation) :
    Prop where
  pullRequest : e.pullRequest = pr
  commenter : e.commenter = c.author
  association : e.association = c.association
  authorized : e.authorized = true ↔ c.association ∈ policy.trustedRoles
  shouldRun : e.shouldRun = true ↔ c.association ∈ policy.trustedRoles ∧ Requests policy c.body
  /-- Only trusted commenters start a run. -/
  trusted (h : e.shouldRun = true) : e.authorized = true
  verdict : e.verdict = .triggered ↔ e.shouldRun = true

/-- The calls by which a request is acknowledged: the status is not tried when the reaction is refused. -/
def acknowledgingCalls (settings : StatusSettings) (reaction : Reaction) (c : Comment)
    (pr : PullRequest) (t : Trace) : List Platform.Call :=
  if reactionCall reaction c ∈ refusals t then [reactionCall reaction c]
  else [reactionCall reaction c, statusCall pr (pendingStatus settings)]

/-- What the evaluation of a comment calls, decides and returns. -/
structure Evaluates (policy : TriggerPolicy) (settings : StatusSettings) (reaction : Reaction)
    (c : Comment) (t : Trace) (r : Except BotError Evaluation) : Prop where
  applicable : (∃ reason, r = .error (.notApplicable reason)) ↔ ¬IsNewOnPull c
  /-- Other comments are left alone. -/
  untouched (h : ¬IsNewOnPull c) : t = []
  /-- The pull request is fetched whoever the commenter is and whatever the text says. -/
  fetched (h : IsNewOnPull c) : (platformCalls t).head? = some (fetchCall c)
  /-- Without its pull request, nothing is decided about a comment. -/
  unfetched (h : fetchCall c ∈ refusals t) : platformCalls t = [fetchCall c]
  decided (pr : PullRequest) (h : (⟨.platform (fetchCall c), .ok pr⟩ : Exchange interface) ∈ t) :
    ∃ e, IsDecision policy c pr e ∧ (∀ e', r = .ok e' → e' = e) ∧
      platformCalls t = fetchCall c ::
        if e.verdict = .triggered then acknowledgingCalls settings reaction c pr t else []
  /-- An evaluation succeeds exactly when every call that it makes does. -/
  returned (h : IsNewOnPull c) : (∃ e, r = .ok e) ↔ refusals t = []
  /-- What the platform refuses is what an evaluation fails with. -/
  refused (e : BotError) (h : IsNewOnPull c) (hr : r = .error e) :
    ∃ (call : Platform.Call) (x : PlatformError),
      (⟨.platform call, .error x⟩ : Exchange interface) ∈ t ∧ e = .platform x
  requesting : policy.requestsRun c.body = true ↔ Requests policy c.body
  /-- A text that asks for a run still does so with more text around it. -/
  surrounded (before after : String) (h : policy.requestsRun c.body = true) :
    policy.requestsRun (before ++ c.body ++ after) = true

/-! ## Decisions -/

/-- A text asks for a run exactly when it holds both phrases. -/
theorem requestsRun_iff {body : String} : policy.requestsRun body = true ↔ Requests policy body := by
  rw [TriggerPolicy.requestsRun, Bool.and_eq_true, Text.contains_iff, Text.contains_iff, Requests]

/-- A text that asks for a run still does so with more text around it. -/
theorem Requests.surrounded {body : String} (h : Requests policy body) (before after : String) :
    Requests policy (before ++ body ++ after) :=
  ⟨h.1.surrounded before after, h.2.surrounded before after⟩

/-- A commenter is trusted exactly when the association is a trusted role. -/
theorem isAuthorized_iff : policy.isAuthorized c.association = true ↔
    c.association ∈ policy.trustedRoles := by
  rw [TriggerPolicy.isAuthorized, List.contains_iff_mem]

/-- A run is asked for exactly by trusted commenters whose text holds both phrases. -/
theorem shouldRun_ofComment_iff : (Evaluation.ofComment policy c pr).shouldRun = true ↔
    c.association ∈ policy.trustedRoles ∧ Requests policy c.body := by
  rw [Evaluation.ofComment, Bool.and_eq_true, isAuthorized_iff, requestsRun_iff]

/-- The decision in one word is `triggered` exactly when a run should start. -/
theorem verdict_eq_triggered_iff : (Evaluation.ofComment policy c pr).verdict = .triggered ↔
    (Evaluation.ofComment policy c pr).shouldRun = true := by
  by_cases trusted : policy.isAuthorized c.association = true
  · simp [Evaluation.verdict, Evaluation.ofComment, trusted]
  · simp [Evaluation.verdict, Evaluation.ofComment, trusted]

/-- What the bot decides about a comment is the decision about it. -/
theorem isDecision_ofComment (policy : TriggerPolicy) (c : Comment) (pr : PullRequest) :
    IsDecision policy c pr (.ofComment policy c pr) where
  pullRequest := rfl
  commenter := rfl
  association := rfl
  authorized := isAuthorized_iff
  shouldRun := shouldRun_ofComment_iff
  trusted h := isAuthorized_iff.2 (shouldRun_ofComment_iff.1 h).1
  verdict := verdict_eq_triggered_iff

/-! ## The ways of an evaluation -/

/-- The exchanges in which a decision is reached. -/
def deciding (policy : TriggerPolicy) (c : Comment) (pr : PullRequest) : Trace :=
  ⟨.platform (fetchCall c), .ok pr⟩ :: evaluationLog c (.ofComment policy c pr)

/-- A decision calls for nothing but the pull request. -/
@[simp]
theorem platformCalls_deciding : platformCalls (deciding policy c pr) = [fetchCall c] := by
  simp [deciding, collect_evaluationLog_eq_nil (f := platformCall?) fun _ => rfl]

/-- Nothing is refused to a decision. -/
@[simp]
theorem refusals_deciding : refusals (deciding policy c pr) = [] := by
  simp [deciding, collect_evaluationLog_eq_nil (f := refusal?) fun _ => rfl]

/-- The pull request of a decision is the one that was fetched for it. -/
theorem pullRequest_eq_of_mem {pr' : PullRequest} {v : Trace} (hv : fetchCall c ∉ platformCalls v)
    (h : (⟨.platform (fetchCall c), .ok pr'⟩ : Exchange interface) ∈ deciding policy c pr ++ v) :
    pr' = pr := by
  have hlog : platformCalls (evaluationLog c (.ofComment policy c pr)) = [] :=
    collect_evaluationLog_eq_nil (fun _ => rfl) c _
  rcases List.mem_append.1 h with hmem | hmem
  · rcases List.mem_cons.1 hmem with heq | hmem
    · cases heq
      rfl
    · have hcall := mem_platformCalls hmem
      rw [hlog] at hcall
      cases hcall
  · exact absurd (mem_platformCalls hmem) hv

/-- How the evaluation of a comment goes. -/
inductive EvaluationHistory (policy : TriggerPolicy) (settings : StatusSettings) (reaction : Reaction)
    (c : Comment) : Trace → Except BotError Evaluation → Prop where
  | inapplicable {e : BotError} (applicable : c.applicable = .error e) :
    EvaluationHistory policy settings reaction c [] (.error e)
  | notFetched {e : PlatformError} (applicable : c.applicable = .ok ()) :
    EvaluationHistory policy settings reaction c [⟨.platform (fetchCall c), .error e⟩]
      (.error (.platform e))
  | leftAlone {pr : PullRequest} (applicable : c.applicable = .ok ())
    (verdict : (Evaluation.ofComment policy c pr).verdict ≠ .triggered) :
    EvaluationHistory policy settings reaction c (deciding policy c pr) (.ok (.ofComment policy c pr))
  | notReacted {pr : PullRequest} {e : PlatformError} (applicable : c.applicable = .ok ())
    (verdict : (Evaluation.ofComment policy c pr).verdict = .triggered) :
    EvaluationHistory policy settings reaction c
      (deciding policy c pr ++ [⟨.platform (reactionCall reaction c), .error e⟩])
      (.error (.platform e))
  | notPending {pr : PullRequest} {e : PlatformError} (applicable : c.applicable = .ok ())
    (verdict : (Evaluation.ofComment policy c pr).verdict = .triggered) :
    EvaluationHistory policy settings reaction c
      (deciding policy c pr ++ [⟨.platform (reactionCall reaction c), .ok ()⟩,
        ⟨.platform (statusCall pr (pendingStatus settings)), .error e⟩]) (.error (.platform e))
  | acknowledged {pr : PullRequest} (applicable : c.applicable = .ok ())
    (verdict : (Evaluation.ofComment policy c pr).verdict = .triggered) :
    EvaluationHistory policy settings reaction c
      (deciding policy c pr ++ [⟨.platform (reactionCall reaction c), .ok ()⟩,
        ⟨.platform (statusCall pr (pendingStatus settings)), .ok ()⟩]) (.ok (.ofComment policy c pr))

/-- Every evaluation goes as `EvaluationHistory` says. -/
theorem evaluationHistory_of_ends (h : Ends (evaluate policy settings reaction c) t r) :
    EvaluationHistory policy settings reaction c t r := by
  rcases ends_bind_iff.1 h with ⟨e, rfl, hassess⟩ | ⟨u, v, e, rfl, hassess, hrest⟩
  · rcases ends_assess_iff.1 hassess with ⟨_, applicable, rfl, he⟩ | ⟨applicable, x, rfl, he⟩ |
      ⟨-, pr, -, he⟩
    · cases he
      exact .inapplicable applicable
    · cases he
      exact .notFetched applicable
    · cases he
  rcases ends_assess_iff.1 hassess with ⟨_, -, -, he⟩ | ⟨-, _, -, he⟩ | ⟨applicable, pr, rfl, he⟩
  · cases he
  · cases he
  cases he
  by_cases verdict : (Evaluation.ofComment policy c pr).verdict = .triggered
  · rw [if_pos verdict] at hrest
    rcases ends_bind_iff.1 hrest with ⟨x, rfl, hack⟩ | ⟨x, y, ⟨⟩, rfl, hack, hpure⟩
    · rcases ends_acknowledge_iff.1 hack with ⟨err, rfl, hx⟩ | ⟨err, rfl, hx⟩ | ⟨-, hx⟩
      · cases hx
        exact .notReacted applicable verdict
      · cases hx
        exact .notPending applicable verdict
      · cases hx
    · obtain ⟨rfl, rfl⟩ := ends_pure_iff.1 hpure
      rcases ends_acknowledge_iff.1 hack with ⟨_, -, hx⟩ | ⟨_, -, hx⟩ | ⟨rfl, -⟩
      · cases hx
      · cases hx
      · rw [List.append_nil]
        exact .acknowledged applicable verdict
  · rw [if_neg verdict] at hrest
    obtain ⟨rfl, rfl⟩ := ends_pure_iff.1 hrest
    rw [List.append_nil]
    exact .leftAlone applicable verdict

namespace EvaluationHistory

variable (h : EvaluationHistory policy settings reaction c t r)
include h

/-- An evaluation says that it does not apply exactly when the comment may not start a run. -/
theorem notApplicable_iff : (∃ reason, r = .error (.notApplicable reason)) ↔ ¬IsNewOnPull c := by
  cases h with
  | inapplicable applicable =>
    obtain ⟨hnew, reason, rfl⟩ := notApplicable_of_error applicable
    simp [hnew]
  | notFetched applicable => simp [applicable_eq_ok_iff.1 applicable]
  | leftAlone applicable verdict => simp [applicable_eq_ok_iff.1 applicable]
  | notReacted applicable verdict => simp [applicable_eq_ok_iff.1 applicable]
  | notPending applicable verdict => simp [applicable_eq_ok_iff.1 applicable]
  | acknowledged applicable verdict => simp [applicable_eq_ok_iff.1 applicable]

/-- An evaluation that makes calls begins with its fetch. -/
theorem platformCalls_cases : ¬IsNewOnPull c ∧ t = [] ∨
    IsNewOnPull c ∧ (platformCalls t).head? = some (fetchCall c) := by
  cases h with
  | inapplicable applicable => exact .inl ⟨(notApplicable_of_error applicable).1, rfl⟩
  | notFetched applicable => exact .inr ⟨applicable_eq_ok_iff.1 applicable, by simp⟩
  | leftAlone applicable verdict => exact .inr ⟨applicable_eq_ok_iff.1 applicable, by simp⟩
  | notReacted applicable verdict => exact .inr ⟨applicable_eq_ok_iff.1 applicable, by simp⟩
  | notPending applicable verdict => exact .inr ⟨applicable_eq_ok_iff.1 applicable, by simp⟩
  | acknowledged applicable verdict => exact .inr ⟨applicable_eq_ok_iff.1 applicable, by simp⟩

/-- Without its pull request, an evaluation makes no other call. -/
theorem platformCalls_of_refused (hrefused : fetchCall c ∈ refusals t) :
    platformCalls t = [fetchCall c] := by
  cases h with
  | inapplicable applicable => simp at hrefused
  | notFetched applicable => simp
  | leftAlone applicable verdict => simp at hrefused
  | notReacted applicable verdict => simp at hrefused
  | notPending applicable verdict => simp at hrefused
  | acknowledged applicable verdict => simp at hrefused

/-- An evaluation fails with what the platform refuses, and with nothing else. -/
theorem refused_or_returned (hnew : IsNewOnPull c) :
    (∃ (call : Platform.Call) (x : PlatformError),
      (⟨.platform call, .error x⟩ : Exchange interface) ∈ t ∧ call ∈ refusals t ∧
      r = .error (.platform x)) ∨ refusals t = [] ∧ ∃ e, r = .ok e := by
  cases h with
  | inapplicable applicable => exact absurd hnew (notApplicable_of_error applicable).1
  | notFetched applicable => exact .inl ⟨_, _, List.mem_singleton_self _, by simp, rfl⟩
  | leftAlone applicable verdict => exact .inr ⟨by simp, _, rfl⟩
  | notReacted applicable verdict =>
    exact .inl ⟨reactionCall reaction c, _, by simp, by simp, rfl⟩
  | @notPending pr _ applicable verdict =>
    exact .inl ⟨statusCall pr (pendingStatus settings), _, by simp, by simp, rfl⟩
  | acknowledged applicable verdict => exact .inr ⟨by simp, _, rfl⟩

/-- Once the pull request is fetched, the decision does not depend on what the platform answers. -/
theorem decision
    (hfetched : (⟨.platform (fetchCall c), .ok pr⟩ : Exchange interface) ∈ t) :
    (∀ e, r = .ok e → e = .ofComment policy c pr) ∧ platformCalls t = fetchCall c ::
      if (Evaluation.ofComment policy c pr).verdict = .triggered then
        acknowledgingCalls settings reaction c pr t else [] := by
  cases h with
  | inapplicable applicable => cases hfetched
  | notFetched applicable => cases List.mem_singleton.1 hfetched
  | leftAlone applicable verdict =>
    obtain rfl := pullRequest_eq_of_mem (v := []) (by simp) (by simpa using hfetched)
    exact ⟨by simp [eq_comm], by simp [verdict]⟩
  | notReacted applicable verdict =>
    obtain rfl := pullRequest_eq_of_mem (by simp) hfetched
    exact ⟨by simp, by simp [verdict, acknowledgingCalls]⟩
  | notPending applicable verdict =>
    obtain rfl := pullRequest_eq_of_mem (by simp) hfetched
    exact ⟨by simp, by simp [verdict, acknowledgingCalls]⟩
  | acknowledged applicable verdict =>
    obtain rfl := pullRequest_eq_of_mem (by simp) hfetched
    exact ⟨by simp [eq_comm], by simp [verdict, acknowledgingCalls]⟩

end EvaluationHistory

/-! ## All evaluations -/

/-- Every evaluation decides by the roles and the text alone, and acknowledges a request as far as the
platform lets it. -/
theorem evaluates_of_ends (h : Ends (evaluate policy settings reaction c) t r) :
    Evaluates policy settings reaction c t r := by
  have history := evaluationHistory_of_ends h
  have hcases := history.platformCalls_cases
  exact {
    applicable := history.notApplicable_iff
    untouched := fun hnew => (hcases.resolve_right fun hcalls => hnew hcalls.1).2
    fetched := fun hnew => (hcases.resolve_left fun hnone => hnone.1 hnew).2
    unfetched := history.platformCalls_of_refused
    decided := fun pr hfetched =>
      ⟨_, isDecision_ofComment policy c pr, history.decision hfetched⟩
    returned := by
      intro hnew
      rcases history.refused_or_returned hnew with ⟨call, x, -, hcall, rfl⟩ | ⟨hnone, e, rfl⟩
      · simp [List.ne_nil_of_mem hcall]
      · simp [hnone]
    refused := by
      rintro e hnew rfl
      rcases history.refused_or_returned hnew with ⟨call, x, hmem, -, he⟩ | ⟨-, e', he⟩
      · exact ⟨call, x, hmem, Except.error.inj he⟩
      · cases he
    requesting := requestsRun_iff
    surrounded := fun before after hrequests =>
      requestsRun_iff.2 ((requestsRun_iff.1 hrequests).surrounded before after) }

/-- The evaluation of a comment that asks for a run, by a platform that refuses nothing. -/
def exampleEvaluation : Trace × Except BotError Evaluation :=
  Program.play (Program.steady (compliant examplePull exampleFiles .empty fun _ => 0)) []
    (evaluate {} ⟨"autoformat", none⟩ .rocket exampleComment).run

/-- The example evaluation is one of a request that is acknowledged. -/
theorem evaluates_of_ends_example :
    Ends (evaluate {} ⟨"autoformat", none⟩ .rocket exampleComment) exampleEvaluation.1
        exampleEvaluation.2 ∧
      Evaluates {} ⟨"autoformat", none⟩ .rocket exampleComment exampleEvaluation.1
        exampleEvaluation.2 :=
  have ended : Ends (evaluate {} ⟨"autoformat", none⟩ .rocket exampleComment) exampleEvaluation.1
      exampleEvaluation.2 := Program.runs_play _ _ _
  ⟨ended, evaluates_of_ends ended⟩

end Autoformat.Run
