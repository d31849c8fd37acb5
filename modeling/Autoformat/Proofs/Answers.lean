import Autoformat.Proofs.Commands
import Autoformat.Proofs.Decision
import Autoformat.Proofs.History

/-!
# What the server answers to a command

The requests of a command carry the calls of the part of the bot that it carries out, so how that part goes
shows in its requests and their answers. The pull request of a comment is fetched by the first request
(`Fetched`), a reaction or a status is accepted by an answer of success (`Accepted`), and a run that was
asked for ends with its final status (`Concludes`). An evaluation thus goes in one of the ways of
`Evaluated`.
-/

namespace Autoformat.CommandLine

open Program Rest Run
open Autoformat.Bot (fetchCall pendingStatus reactionCall statusCall)

variable {s : Settings} {config : Config} {client : Client} {c : Comment} {pr : PullRequest}
  {t : List (Exchange Console.interface)}

/-! ## What the server answered -/

/-- The pull request of the comment was fetched: the first request asks for it, and is answered with it. -/
def Fetched (client : Client) (c : Comment) (pr : PullRequest) (t : List (Exchange Console.interface)) :
    Prop :=
  ∃ x, (webExchanges t).head? = some ⟨client.fetchRequest c.repository c.issueNumber, x⟩ ∧
    Delivered c.repository x pr

/-- The request was made and answered with success. -/
def Accepted (q : Http.Request) (t : List (Exchange Console.interface)) : Prop :=
  ∃ x, (⟨q, x⟩ : Exchange Http.interface) ∈ webExchanges t ∧ Succeeds x

/-- The last request sets a status, and is answered with success. -/
def Concludes (client : Client) (pr : PullRequest) (status : StatusUpdate)
    (t : List (Exchange Console.interface)) : Prop :=
  ∃ x, (webExchanges t).getLast? = some ⟨client.statusRequest pr.repository pr.headSha status, x⟩ ∧
    Succeeds x

/-- The commenter is trusted, and the pull request of the comment was fetched. -/
def Trusts (config : Config) (client : Client) (c : Comment) (pr : PullRequest)
    (t : List (Exchange Console.interface)) : Prop :=
  Fetched client c pr t ∧ c.association ∈ config.trigger.trustedRoles

/-- The reaction to the comment and the pending status of the head commit were both accepted. -/
def Acknowledged (s : Settings) (config : Config) (client : Client) (c : Comment) (pr : PullRequest)
    (t : List (Exchange Console.interface)) : Prop :=
  Accepted (client.reactionRequest c.repository c.id config.status.reaction) t ∧
    Accepted (client.statusRequest pr.repository pr.headSha
      (pendingStatus ⟨config.status.context, runLink s c.repository⟩)) t

/-! ## Requests and calls -/

section
variable {site : Site} {u : Bot.Trace} {x : Except PlatformError PullRequest} {q : Http.Request}

/-- A part of the bot that begins with a fetch has made the request for it first, and its other requests carry its
other calls. -/
theorem exists_of_fetch {calls : List (Exchange Platform.interface)} (h : Carries site u t)
    (hcalls : Bot.platformExchanges u = ⟨fetchCall c, x⟩ :: calls) :
    ∃ y w, webExchanges t = ⟨site.client.fetchRequest c.repository c.issueNumber, y⟩ :: w ∧
      x = fetched c.repository c.issueNumber y ∧ CarriedOut site.client.answer calls w := by
  have hweb := h.web
  rw [hcalls] at hweb
  obtain ⟨v, w, hvw, hfetch, hrest⟩ := carriedOut_cons_iff.1 hweb
  obtain ⟨y, rfl, hx⟩ := runs_answer_fetch_iff.1 hfetch
  exact ⟨y, w, hvw, hx, hrest⟩

/-- The pull request of such a part is the one that its first call returns. -/
theorem fetched_iff_of_carries (h : Carries site u t)
    (hfirst : ∃ calls, Bot.platformExchanges u = ⟨fetchCall c, x⟩ :: calls) :
    Fetched site.client c pr t ↔ x = .ok pr := by
  obtain ⟨calls, hcalls⟩ := hfirst
  obtain ⟨y, w, hweb, rfl, -⟩ := exists_of_fetch h hcalls
  rw [fetched_eq_ok_iff, Fetched, hweb]
  simp

/-- A pull request that was fetched is the only one. -/
theorem fetched_iff_eq_of_carries (h : Carries site u t)
    (hfirst : ∃ calls, Bot.platformExchanges u = ⟨fetchCall c, .ok pr⟩ :: calls) (pr' : PullRequest) :
    Fetched site.client c pr' t ↔ pr' = pr := by
  rw [fetched_iff_of_carries h hfirst]
  exact ⟨fun heq => (Except.ok.inj heq).symm, fun heq => heq ▸ rfl⟩

/-- A part of the bot that makes no calls has made no requests. -/
theorem not_fetched_of_carries (h : Carries site u t) (hnone : Bot.platformExchanges u = []) :
    ¬Fetched site.client c pr t := by
  have hweb := h.web
  rw [hnone, carriedOut_nil_iff] at hweb
  simp [Fetched, hweb]

/-- A request that sends something was accepted exactly when a call that sends it succeeded. -/
theorem accepted_iff_of_carries (h : Carries site u t) (hbody : q.body ≠ none) :
    Accepted q t ↔ ∃ call, ∃ z : call.Result,
      (⟨call, .ok z⟩ : Exchange Platform.interface) ∈ Bot.platformExchanges u ∧
        site.client.postOf call = some q :=
  mem_succeeds_iff h.web hbody

/-- A part of the bot that ends with a status has made the request for it last. -/
theorem concludes_iff_of_carries {status status' : StatusUpdate} {y : Except PlatformError Unit}
    (h : Carries site u t)
    (hlast : ∃ calls, Bot.platformExchanges u = calls ++ [⟨statusCall pr status', y⟩]) :
    Concludes site.client pr status t ↔ y = .ok () ∧
      site.client.statusRequest pr.repository pr.headSha status' =
        site.client.statusRequest pr.repository pr.headSha status := by
  obtain ⟨calls, hcalls⟩ := hlast
  have hweb := h.web
  rw [hcalls] at hweb
  obtain ⟨v, w, hvw, -, hstatus⟩ := carriedOut_append_iff.1 hweb
  obtain ⟨w, _, rfl, hanswer, hnil⟩ := carriedOut_cons_iff.1 hstatus
  obtain rfl := carriedOut_nil_iff.1 hnil
  obtain ⟨z, rfl, hy⟩ := runs_answer_status_iff.1 hanswer
  have hy : y = (sent "create commit status" z).map fun _ => () := hy
  rw [hy, map_sent_eq_ok_iff, Concludes, hvw]
  simp only [List.append_nil, List.getLast?_append, List.getLast?_singleton, Option.some_or,
    Option.some.injEq]
  generalize site.client.statusRequest pr.repository pr.headSha status' = q
  constructor
  · rintro ⟨x, heq, hx⟩
    cases heq
    exact ⟨hx, rfl⟩
  · rintro ⟨hz, rfl⟩
    exact ⟨z, rfl, hz⟩

end

/-- A request for a reaction and one for a status differ in what they send. -/
theorem reactionRequest_ne_statusRequest {repository repository' sha : String} {comment : UInt64}
    {reaction : Reaction} {status : StatusUpdate} :
    client.reactionRequest repository comment reaction ≠ client.statusRequest repository' sha status := by
  intro h
  have hbody := congrArg Http.Request.body h
  simp [Client.reactionRequest, Client.statusRequest] at hbody

/-! ## Evaluations -/

/-- The one call of a decision is the fetch of the pull request. -/
theorem platformExchanges_deciding {v : Bot.Trace} :
    Bot.platformExchanges (deciding config.trigger c pr ++ v) =
      ⟨fetchCall c, .ok pr⟩ :: Bot.platformExchanges v := by
  simp [deciding, Bot.collect_evaluationLog_eq_nil (f := Bot.platformExchange?) fun _ => rfl]

section
variable {site : Site} {v : Bot.Trace} {q : Http.Request}

/-- Once the pull request is fetched, it is the one of the decision. -/
theorem fetched_iff_of_deciding (h : Carries site (deciding config.trigger c pr ++ v) t)
    (pr' : PullRequest) : Fetched site.client c pr' t ↔ pr' = pr :=
  fetched_iff_eq_of_carries h ⟨_, platformExchanges_deciding⟩ pr'

/-- What is accepted of an evaluation is accepted after the decision. -/
theorem accepted_iff_of_deciding (h : Carries site (deciding config.trigger c pr ++ v) t)
    (hbody : q.body ≠ none) : Accepted q t ↔ ∃ call, ∃ z : call.Result,
      (⟨call, .ok z⟩ : Exchange Platform.interface) ∈ Bot.platformExchanges v ∧
        site.client.postOf call = some q := by
  rw [accepted_iff_of_carries h hbody, platformExchanges_deciding]
  constructor
  · rintro ⟨call, z, hmem, hq⟩
    rcases List.mem_cons.1 hmem with heq | hmem
    · cases heq
      cases hq
    · exact ⟨call, z, hmem, hq⟩
  · rintro ⟨call, z, hmem, hq⟩
    exact ⟨call, z, List.mem_cons_of_mem _ hmem, hq⟩

end

/-- How an evaluation goes, as far as its requests show. -/
inductive Evaluated (s : Settings) (config : Config) (client : Client) (c : Comment)
    (t : List (Exchange Console.interface)) : Except BotError Evaluation → Prop where
  | inapplicable {reason : Inapplicable} (applicable : ¬IsNewOnPull c)
    (fetched : ∀ pr, ¬Fetched client c pr t) : Evaluated s config client c t (.error (.notApplicable reason))
  | notFetched {e : PlatformError} (applicable : IsNewOnPull c)
    (fetched : ∀ pr, ¬Fetched client c pr t) : Evaluated s config client c t (.error (.platform e))
  | leftAlone {pr : PullRequest} (applicable : IsNewOnPull c)
    (fetched : ∀ pr', Fetched client c pr' t ↔ pr' = pr)
    (verdict : (Evaluation.ofComment config.trigger c pr).verdict ≠ .triggered) :
    Evaluated s config client c t (.ok (.ofComment config.trigger c pr))
  | notAcknowledged {pr : PullRequest} {e : PlatformError} (applicable : IsNewOnPull c)
    (fetched : ∀ pr', Fetched client c pr' t ↔ pr' = pr)
    (verdict : (Evaluation.ofComment config.trigger c pr).verdict = .triggered)
    (refused : ¬Acknowledged s config client c pr t) :
    Evaluated s config client c t (.error (.platform e))
  | acknowledged {pr : PullRequest} (applicable : IsNewOnPull c)
    (fetched : ∀ pr', Fetched client c pr' t ↔ pr' = pr)
    (verdict : (Evaluation.ofComment config.trigger c pr).verdict = .triggered)
    (accepted : Acknowledged s config client c pr t) :
    Evaluated s config client c t (.ok (.ofComment config.trigger c pr))

/-- Each way in which the bot evaluates a comment shows in what the server is asked and answers. -/
theorem evaluated_of_carries {u : Bot.Trace} {y : Except BotError Evaluation}
    (h : Carries { client := client } u t)
    (history : EvaluationHistory config.trigger ⟨config.status.context, runLink s c.repository⟩
      config.status.reaction c u y) : Evaluated s config client c t y := by
  cases history with
  | inapplicable applicable =>
    obtain ⟨hnew, reason, rfl⟩ := notApplicable_of_error applicable
    exact .inapplicable hnew fun pr => not_fetched_of_carries h rfl
  | notFetched applicable =>
    refine .notFetched (applicable_eq_ok_iff.1 applicable) fun pr hfetched => ?_
    cases (fetched_iff_of_carries h ⟨[], rfl⟩).1 hfetched
  | leftAlone applicable verdict =>
    rw [← List.append_nil (deciding _ _ _)] at h
    exact .leftAlone (applicable_eq_ok_iff.1 applicable) (fetched_iff_of_deciding h) verdict
  | notReacted applicable verdict =>
    refine .notAcknowledged (applicable_eq_ok_iff.1 applicable) (fetched_iff_of_deciding h) verdict ?_
    rintro ⟨hreaction, -⟩
    obtain ⟨call, z, hmem, -⟩ := (accepted_iff_of_deciding h (Option.some_ne_none _)).1 hreaction
    cases List.mem_singleton.1 hmem
  | notPending applicable verdict =>
    -- the request that succeeded is the one for the reaction
    refine .notAcknowledged (applicable_eq_ok_iff.1 applicable) (fetched_iff_of_deciding h) verdict ?_
    rintro ⟨-, hstatus⟩
    obtain ⟨call, z, hmem, hpost⟩ := (accepted_iff_of_deciding h (Option.some_ne_none _)).1 hstatus
    rcases List.mem_cons.1 hmem with heq | hmem
    · cases heq
      exact reactionRequest_ne_statusRequest (Option.some.inj hpost)
    · cases List.mem_singleton.1 hmem
  | acknowledged applicable verdict =>
    refine .acknowledged (applicable_eq_ok_iff.1 applicable) (fetched_iff_of_deciding h) verdict ⟨?_, ?_⟩
    · exact (accepted_iff_of_deciding h (Option.some_ne_none _)).2
        ⟨reactionCall config.status.reaction c, (), List.mem_cons_self, rfl⟩
    · exact (accepted_iff_of_deciding h (Option.some_ne_none _)).2
        ⟨statusCall _ (pendingStatus _), (), List.mem_cons_of_mem _ List.mem_cons_self, rfl⟩

/-! ## Runs -/

section
variable {site : Site} {u v : Bot.Trace}

/-- A run, too, has called for nothing but its pull request when it has evaluated the comment. -/
theorem platformExchanges_evaluated : Bot.platformExchanges (Run.evaluated config c pr ++ v) =
    ⟨fetchCall c, .ok pr⟩ :: Bot.platformExchanges v := by
  simp [Run.evaluated, Bot.collect_evaluationLog_eq_nil (f := Bot.platformExchange?) fun _ => rfl]

/-- A run that has evaluated its comment is about the pull request that was fetched. -/
theorem fetched_iff_of_evaluated (h : Carries site (Run.evaluated config c pr ++ v) t)
    (pr' : PullRequest) : Fetched site.client c pr' t ↔ pr' = pr :=
  fetched_iff_eq_of_carries h ⟨_, platformExchanges_evaluated⟩ pr'

/-- A run that was asked for is about the pull request that was fetched. -/
theorem fetched_iff_of_requested (h : Carries site (requested config c pr u v) t)
    (pr' : PullRequest) : Fetched site.client c pr' t ↔ pr' = pr := by
  rw [requested, List.append_assoc, List.append_assoc] at h
  exact fetched_iff_of_evaluated h pr'

/-- A run that was asked for has requested its final status last. -/
theorem concludes_iff_of_requested {status status' : StatusUpdate} {x : Except PlatformError Unit}
    (h : Carries site (requested config c pr u v) t)
    (hv : Bot.platformExchanges v = [⟨statusCall pr status', x⟩]) :
    Concludes site.client pr status t ↔ x = .ok () ∧
      site.client.statusRequest pr.repository pr.headSha status' =
        site.client.statusRequest pr.repository pr.headSha status :=
  concludes_iff_of_carries h ⟨_, Bot.collect_append.trans (congrArg _ hv)⟩

end

/-! ## What is asked about a comment -/

/-- What a command asks about a comment that it has read. -/
structure Inquires (s : Settings) (config : Config) (client : Client) (c : Comment)
    (t : List (Exchange Console.interface)) : Prop where
  /-- A comment that cannot start a run is left alone. -/
  spared (h : ¬IsNewOnPull c) : outwards t = []
  /-- Of any other, the pull request is asked for first. -/
  fetched (h : IsNewOnPull c) : (webExchanges t)[0]?.map Exchange.request =
    some (client.fetchRequest c.repository c.issueNumber)
  /-- To a request of someone who is trusted, the bot reacts next, and a pending status follows when it may. -/
  acknowledged (pr : PullRequest) (trusts : Trusts config client c pr t)
    (requests : Requests config.trigger c.body) :
    ∃ x, (webExchanges t)[1]? =
        some ⟨client.reactionRequest c.repository c.id config.status.reaction, x⟩ ∧
      (Succeeds x → (webExchanges t)[2]?.map Exchange.request =
        some (client.statusRequest pr.repository pr.headSha
          (pendingStatus ⟨config.status.context, runLink s c.repository⟩)))

/-- A run is asked for by trusted commenters alone. -/
theorem verdict_triggered_iff : (Evaluation.ofComment config.trigger c pr).verdict = .triggered ↔
    c.association ∈ config.trigger.trustedRoles ∧ Requests config.trigger c.body :=
  verdict_eq_triggered_iff.trans shouldRun_ofComment_iff

/-- Nobody else is turned away than those who are not trusted. -/
theorem verdict_rejected_iff : (Evaluation.ofComment config.trigger c pr).verdict = .rejected ↔
    c.association ∉ config.trigger.trustedRoles := by
  rw [← isAuthorized_iff]
  by_cases trusted : config.trigger.isAuthorized c.association = true
  · by_cases requests : config.trigger.requestsRun c.body = true <;>
      simp [Evaluation.verdict, Evaluation.ofComment, trusted, requests]
  · simp [Evaluation.verdict, Evaluation.ofComment, trusted]

/-- A trusted commenter who asks for nothing gets nothing. -/
theorem verdict_notTriggered_iff : (Evaluation.ofComment config.trigger c pr).verdict = .notTriggered ↔
    c.association ∈ config.trigger.trustedRoles ∧ ¬Requests config.trigger c.body := by
  have htriggered : (Evaluation.ofComment config.trigger c pr).verdict = .triggered ↔ _ :=
    verdict_triggered_iff
  have hrejected : (Evaluation.ofComment config.trigger c pr).verdict = .rejected ↔ _ :=
    verdict_rejected_iff
  cases hverdict : (Evaluation.ofComment config.trigger c pr).verdict <;> simp_all

/-- Calls of which the first ones acknowledge a request. -/
inductive Acknowledges (settings : StatusSettings) (reaction : Reaction) (c : Comment) (pr : PullRequest) :
    List (Exchange Platform.interface) → Prop where
  | refused {e : PlatformError} {calls : List (Exchange Platform.interface)} :
    Acknowledges settings reaction c pr (⟨reactionCall reaction c, .error e⟩ :: calls)
  | accepted {x : Except PlatformError Unit} {calls : List (Exchange Platform.interface)} :
    Acknowledges settings reaction c pr
      (⟨reactionCall reaction c, .ok ()⟩ :: ⟨statusCall pr (pendingStatus settings), x⟩ :: calls)

/-- How the calls about a comment begin. -/
inductive Begins (config : Config) (settings : StatusSettings) (c : Comment) : Bot.Trace → Prop where
  | spared (inapplicable : ¬IsNewOnPull c) : Begins config settings c []
  | notFetched {u : Bot.Trace} {e : PlatformError} (applicable : IsNewOnPull c)
    (made : Bot.platformExchanges u = [⟨fetchCall c, .error e⟩]) : Begins config settings c u
  | leftAlone {u : Bot.Trace} {pr : PullRequest} {calls : List (Exchange Platform.interface)}
    (applicable : IsNewOnPull c) (verdict : (Evaluation.ofComment config.trigger c pr).verdict ≠ .triggered)
    (made : Bot.platformExchanges u = ⟨fetchCall c, .ok pr⟩ :: calls) : Begins config settings c u
  | acknowledged {u : Bot.Trace} {pr : PullRequest} {calls : List (Exchange Platform.interface)}
    (applicable : IsNewOnPull c) (acknowledges : Acknowledges settings config.status.reaction c pr calls)
    (made : Bot.platformExchanges u = ⟨fetchCall c, .ok pr⟩ :: calls) : Begins config settings c u

section
variable {settings : StatusSettings} {options : RunOptions} {u v : Bot.Trace}

/-- The calls of an evaluation begin in one of these ways. -/
theorem begins_of_evaluationHistory {y : Except BotError Evaluation}
    (h : EvaluationHistory config.trigger settings config.status.reaction c u y) : Begins config settings c u := by
  cases h with
  | inapplicable applicable => exact .spared (notApplicable_of_error applicable).1
  | notFetched applicable => exact .notFetched (applicable_eq_ok_iff.1 applicable) rfl
  | leftAlone applicable verdict =>
    rw [← List.append_nil (deciding _ _ _)]
    exact .leftAlone (applicable_eq_ok_iff.1 applicable) verdict platformExchanges_deciding
  | notReacted applicable verdict =>
    exact .acknowledged (applicable_eq_ok_iff.1 applicable) .refused platformExchanges_deciding
  | notPending applicable verdict =>
    exact .acknowledged (applicable_eq_ok_iff.1 applicable) .accepted platformExchanges_deciding
  | acknowledged applicable verdict =>
    exact .acknowledged (applicable_eq_ok_iff.1 applicable) .accepted platformExchanges_deciding

/-- However a run that was asked for goes on, its request is acknowledged first. -/
theorem acknowledges_of_conduct {halt : Option Halt} {p : Progress} (h : Conduct config options c pr u halt p) :
    Acknowledges (settingsOf config options) config.status.reaction c pr (Bot.platformExchanges (u ++ v)) := by
  cases h with
  | notReacted => exact .refused
  | notPending => exact .accepted
  | ended => exact .accepted
  | stopped => exact .accepted
  | cancelled => exact .accepted

/-- The calls of a run that was asked for begin with its acknowledgement. -/
theorem begins_of_requested {halt : Option Halt} {p : Progress} (applicable : IsNewOnPull c)
    (conduct : Conduct config options c pr u halt p) :
    Begins config (settingsOf config options) c (requested config c pr u v) := by
  refine .acknowledged applicable (acknowledges_of_conduct (v := v) conduct) ?_
  rw [requested, List.append_assoc, List.append_assoc]
  exact platformExchanges_evaluated

/-- The calls of a run begin in one of these ways. -/
theorem begins_of_history {y : Except BotError RunResult} (h : History config options c u y) :
    Begins config (settingsOf config options) c u := by
  cases h with
  | inapplicable applicable => exact .spared (notApplicable_of_error applicable).1
  | notFetched applicable => exact .notFetched (applicable_eq_ok_iff.1 applicable) rfl
  | rejected applicable verdict recorded =>
    exact .leftAlone (applicable_eq_ok_iff.1 applicable) (by simp [verdict]) platformExchanges_evaluated
  | notTriggered applicable verdict =>
    exact .leftAlone (applicable_eq_ok_iff.1 applicable) (by simp [verdict]) platformExchanges_evaluated
  | unreported applicable verdict conduct aggregated =>
    exact begins_of_requested (applicable_eq_ok_iff.1 applicable) conduct
  | reported applicable verdict conduct aggregated =>
    exact begins_of_requested (applicable_eq_ok_iff.1 applicable) conduct

end

/-- The requests that acknowledge are those of the calls that do. -/
theorem requests_of_acknowledges {site : Site} {settings : StatusSettings} {reaction : Reaction}
    {calls : List (Exchange Platform.interface)} {w : List (Exchange Http.interface)}
    (h : Acknowledges settings reaction c pr calls) (hcarried : CarriedOut site.client.answer calls w) :
    ∃ x, w[0]? = some ⟨site.client.reactionRequest c.repository c.id reaction, x⟩ ∧
      (Succeeds x → w[1]?.map Exchange.request =
        some (site.client.statusRequest pr.repository pr.headSha (pendingStatus settings))) := by
  cases h with
  | refused =>
    obtain ⟨v, w, rfl, hreaction, -⟩ := carriedOut_cons_iff.1 hcarried
    obtain ⟨x, rfl, hx⟩ := runs_answer_reaction_iff.1 hreaction
    refine ⟨x, rfl, fun hsucceeds => ?_⟩
    cases hx.trans (map_sent_eq_ok_iff.2 hsucceeds)
  | accepted =>
    obtain ⟨v, w, rfl, hreaction, hrest⟩ := carriedOut_cons_iff.1 hcarried
    obtain ⟨x, rfl, -⟩ := runs_answer_reaction_iff.1 hreaction
    obtain ⟨v, w, rfl, hstatus, -⟩ := carriedOut_cons_iff.1 hrest
    obtain ⟨y, rfl, -⟩ := runs_answer_status_iff.1 hstatus
    exact ⟨x, rfl, fun _ => rfl⟩

/-- What a command asks about a comment is what its calls about the comment begin with. -/
theorem inquires_of_begins {site : Site} {u : Bot.Trace} (h : Carries site u t)
    (begins : Begins config ⟨config.status.context, runLink s c.repository⟩ c u) :
    Inquires s config site.client c t := by
  cases begins with
  | spared inapplicable =>
    refine ⟨fun _ => ?_, fun applicable => absurd applicable inapplicable, fun pr trusts => ?_⟩
    · obtain ⟨v, hcarried, houtwards⟩ := h
      rw [houtwards, carriedOut_nil_iff.1 hcarried]
      rfl
    · exact absurd trusts.1 (not_fetched_of_carries h rfl)
  | notFetched applicable made =>
    obtain ⟨y, w, hweb, -⟩ := exists_of_fetch h made
    refine ⟨fun hnot => absurd applicable hnot, fun _ => by simp [hweb], fun pr trusts => ?_⟩
    cases (fetched_iff_of_carries h ⟨[], made⟩).1 trusts.1
  | leftAlone applicable verdict made =>
    obtain ⟨y, w, hweb, -⟩ := exists_of_fetch h made
    refine ⟨fun hnot => absurd applicable hnot, fun _ => by simp [hweb], fun pr trusts requests => ?_⟩
    exact absurd (verdict_triggered_iff.2 ⟨trusts.2, requests⟩) verdict
  | acknowledged applicable acknowledges made =>
    obtain ⟨y, w, hweb, -, hcarried⟩ := exists_of_fetch h made
    refine ⟨fun hnot => absurd applicable hnot, fun _ => by simp [hweb], fun pr trusts _ => ?_⟩
    obtain rfl := (fetched_iff_eq_of_carries h ⟨_, made⟩ pr).1 trusts.1
    have hrequests := requests_of_acknowledges acknowledges hcarried
    simpa [hweb] using hrequests

end Autoformat.CommandLine
