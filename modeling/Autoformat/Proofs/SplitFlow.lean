import Autoformat.Proofs.Cancellation
import Autoformat.Proofs.OutcomeText

/-!
# A run in three parts

The evaluation of a comment, the routing of its pull request and the report of an outcome can each be carried
out on their own. Where a platform answers by the calls that it has had (`AnswersBy`), they make together the
calls of a run and come to what it returns: `SplitFlow`. The outcome goes from the run to the report as a text.
-/

namespace Autoformat.Run

open Autoformat.Bot Program

variable {config : Config} {options : RunOptions} {c : Comment} {pr : PullRequest} {o : Outcome}
  {p : Progress} {t : Trace}

/-! ## Platforms that answer by their calls -/

/-- What a platform answers to a call, by the calls before it. -/
abbrev Responses := List Platform.Call → (c : Platform.Call) → Except PlatformError c.Result

/-- The platform among the surroundings gives these answers. -/
def AnswersBy (P : Responses) (s : Surroundings interface) : Prop :=
  ∀ past c, s past (.platform c) = P (platformCalls past) c

/-- Surroundings in which there is nothing but a platform. -/
def platformAlone (P : Responses) : Surroundings interface
  | past, .platform c => P (platformCalls past) c
  | _, .git _ => .error .notFound
  | _, .command _ => .notStarted .notFound
  | _, .cancelled _ => false
  | _, .log _ => ()

/-- After the given calls, the exchanges of a trace hold these answers. -/
def AnsweredBy (P : Responses) (past : List Platform.Call) (t : Trace) : Prop :=
  ∀ u v c x, t = u ++ ⟨.platform c, x⟩ :: v → x = P (past ++ platformCalls u) c

section
variable {P : Responses} {s : Surroundings interface} {past : List Platform.Call} {u : Trace}

/-- Surroundings with nothing but a platform answer by it. -/
theorem answersBy_platformAlone : AnswersBy P (platformAlone P) := fun _ _ => rfl

/-- What is played in such surroundings is answered by the platform. -/
theorem answeredBy_play {α : Type} {p : Program interface α} (before : Trace) (h : AnswersBy P s) :
    AnsweredBy P (platformCalls before) (play s before p).1 := by
  intro u v c x hsplit
  rw [answer_eq_of_play_eq hsplit, h, platformCalls, collect_append]

/-- The first of two parts is answered by the platform. -/
theorem AnsweredBy.left (h : AnsweredBy P past (t ++ u)) : AnsweredBy P past t := by
  rintro a b c x rfl
  exact h a (b ++ u) c x (by simp)

/-- The second of two parts is answered by the platform, after the calls of the first. -/
theorem AnsweredBy.right (h : AnsweredBy P past (t ++ u)) :
    AnsweredBy P (past ++ platformCalls t) u := by
  rintro a b c x rfl
  have hx := h (t ++ a) b c x (by simp)
  rw [platformCalls, collect_append, ← List.append_assoc] at hx
  exact hx

/-- The first answer is the one after the calls before. -/
theorem AnsweredBy.head {c : Platform.Call} {x : Except PlatformError c.Result}
    (h : AnsweredBy P past (⟨.platform c, x⟩ :: t)) : x = P past c := by
  simpa using h [] t c x rfl

end

/-! ## The parts -/

/-- The evaluation of a comment. -/
def evaluating (P : Responses) (config : Config) (options : RunOptions) (c : Comment) :
    Trace × Except BotError Evaluation :=
  play (platformAlone P) []
    (evaluate config.trigger (settingsOf config options) config.status.reaction c).run

/-- The routing of a pull request, after other exchanges. -/
def routing (P : Responses) (config : Config) (pr : PullRequest) (past : Trace) :
    Trace × Except BotError DomainFlags :=
  play (platformAlone P) past (Bot.route config.domains pr).run

/-- The report of an outcome, after other exchanges. -/
def reporting (P : Responses) (config : Config) (options : RunOptions) (e : Evaluation)
    (outcome : Outcome) (past : Trace) : Trace × Except BotError (Option CommitState) :=
  play (platformAlone P) past (report (settingsOf config options) e.pullRequest.repository
    e.pullRequest.headSha e.verdict outcome).run

section
variable {P : Responses} {past u : Trace} {e : Evaluation} {outcome : Outcome}

/-- The calls by which a request is found and taken up. -/
def acknowledged (config : Config) (options : RunOptions) (c : Comment) (pr : PullRequest) :
    List Platform.Call :=
  [fetchCall c, reactionCall config.status.reaction c, pendingCall config options pr]

/-- The platform takes up a request: it refuses neither the reaction nor the pending status. -/
structure TakesUp (P : Responses) (config : Config) (options : RunOptions) (c : Comment)
    (pr : PullRequest) : Prop where
  reacted : P [fetchCall c] (reactionCall config.status.reaction c) = .ok ()
  pending : P [fetchCall c, reactionCall config.status.reaction c] (pendingCall config options pr) =
    .ok ()

/-- An evaluation that succeeds has fetched the pull request and acknowledged a request. -/
theorem evaluation_of_ends
    (h : Ends (evaluate config.trigger (settingsOf config options) config.status.reaction c) t (.ok e)) :
    c.applicable = .ok () ∧ ∃ pr v, e = .ofComment config.trigger c pr ∧
      t = ⟨.platform (fetchCall c), .ok pr⟩ :: evaluationLog c e ++ v ∧
      ((e.verdict ≠ .triggered ∧ v = []) ∨
        e.verdict = .triggered ∧ v = acknowledgement config options c pr) := by
  rcases ends_bind_iff.1 h with ⟨_, he, -⟩ | ⟨u, v, e', rfl, hassess, hrest⟩
  · cases he
  rcases ends_assess_iff.1 hassess with ⟨_, -, -, he⟩ | ⟨-, _, -, he⟩ |
    ⟨applicable, pr, rfl, he⟩
  · cases he
  · cases he
  cases he
  refine ⟨applicable, ?_⟩
  by_cases hverdict : (Evaluation.ofComment config.trigger c pr).verdict = .triggered
  · rw [if_pos hverdict] at hrest
    rcases ends_bind_iff.1 hrest with ⟨_, he, -⟩ | ⟨x, y, ⟨⟩, rfl, hack, hpure⟩
    · cases he
    obtain ⟨rfl, he⟩ := ends_pure_iff.1 hpure
    cases he
    rcases ends_acknowledge_iff.1 hack with ⟨_, -, hr⟩ | ⟨_, -, hr⟩ | ⟨rfl, -⟩
    · cases hr
    · cases hr
    exact ⟨pr, _, rfl, by rw [List.append_nil]; rfl, .inr ⟨hverdict, rfl⟩⟩
  · rw [if_neg hverdict] at hrest
    obtain ⟨rfl, he⟩ := ends_pure_iff.1 hrest
    cases he
    exact ⟨pr, [], rfl, rfl, .inl ⟨hverdict, rfl⟩⟩

/-- An evaluation that succeeds makes one call, and two more for a request, and the platform refuses none. -/
theorem evaluating_cases (h : evaluating P config options c = (u, .ok e)) :
    c.applicable = .ok () ∧ ∃ pr, P [] (fetchCall c) = .ok pr ∧ e = .ofComment config.trigger c pr ∧
      ((e.verdict ≠ .triggered ∧ platformCalls u = [fetchCall c]) ∨
        e.verdict = .triggered ∧ TakesUp P config options c pr ∧
        platformCalls u = acknowledged config options c pr) := by
  have hends : Ends (evaluate config.trigger (settingsOf config options) config.status.reaction c)
      (evaluating P config options c).1 (evaluating P config options c).2 := runs_play _ _ _
  have hanswered : AnsweredBy P [] (evaluating P config options c).1 :=
    answeredBy_play [] answersBy_platformAlone
  simp only [h] at hends hanswered
  have hlog (e : Evaluation) : platformCalls (evaluationLog c e) = [] :=
    collect_evaluationLog_eq_nil (fun _ => rfl) c e
  obtain ⟨applicable, pr, v, rfl, rfl, ⟨hverdict, rfl⟩ | ⟨hverdict, rfl⟩⟩ := evaluation_of_ends hends
  · exact ⟨applicable, pr, hanswered.left.head.symm, rfl, .inl ⟨hverdict, by simp [hlog]⟩⟩
  · have hreaction : AnsweredBy P [fetchCall c] (acknowledgement config options c pr) := by
      simpa [hlog] using hanswered.right
    have hpending := (hreaction.right (t := [_])).head
    exact ⟨applicable, pr, hanswered.left.head.symm, rfl, .inr ⟨hverdict,
      ⟨hreaction.head.symm, hpending.symm⟩, by simp [hlog, acknowledgement, acknowledged, pendingCall]⟩⟩

/-- A routing is one call of the platform. -/
theorem routing_eq (P : Responses) (config : Config) (pr : PullRequest) (past : Trace) :
    platformCalls (routing P config pr past).1 = [listCall pr] ∧
      (routing P config pr past).2.toOption =
        (P (platformCalls past) (listCall pr)).toOption.map config.domains.classify := by
  have hends : Ends (Bot.route config.domains pr) (routing P config pr past).1
    (routing P config pr past).2 := runs_play _ _ _
  have hanswered : AnsweredBy P (platformCalls past) (routing P config pr past).1 :=
    answeredBy_play past answersBy_platformAlone
  rcases ends_call_bind_iff.1 hends with ⟨x, ht, hr⟩ | ⟨files, u, ht, hlog⟩
  · rw [ht] at hanswered ⊢
    rw [hr, ← hanswered.head]
    exact ⟨rfl, rfl⟩
  · obtain ⟨v, rfl, hpure⟩ := ends_log_bind_iff.1 hlog
    obtain ⟨rfl, hr⟩ := ends_pure_iff.1 hpure
    rw [ht] at hanswered ⊢
    rw [hr, ← hanswered.head]
    exact ⟨rfl, rfl⟩

/-- A report without a final status leaves the platform alone. -/
theorem reporting_of_none (h : FinalStatus.aggregate e.verdict outcome = none) :
    platformCalls (reporting P config options e outcome past).1 = [] ∧
      (reporting P config options e outcome past).2 = .ok none := by
  have hends : Ends (report (settingsOf config options) e.pullRequest.repository
      e.pullRequest.headSha e.verdict outcome) (reporting P config options e outcome past).1
      (reporting P config options e outcome past).2 := runs_play _ _ _
  simp only [report, h] at hends
  obtain ⟨u, ht, hpure⟩ := ends_log_bind_iff.1 hends
  obtain ⟨rfl, hr⟩ := ends_pure_iff.1 hpure
  rw [ht]
  exact ⟨rfl, hr⟩

/-- A report with a final status is one call of the platform. -/
theorem reporting_of_some (P : Responses) (options : RunOptions) (past : Trace) {final : FinalStatus}
    (h : FinalStatus.aggregate e.verdict outcome = some final) :
    platformCalls (reporting P config options e outcome past).1 =
        [finalCall config options e.pullRequest final] ∧
      (P (platformCalls past) (finalCall config options e.pullRequest final) = .ok () →
        (reporting P config options e outcome past).2 = .ok (some final.state)) := by
  have hends : Ends (report (settingsOf config options) e.pullRequest.repository
      e.pullRequest.headSha e.verdict outcome) (reporting P config options e outcome past).1
      (reporting P config options e outcome past).2 := runs_play _ _ _
  have hanswered : AnsweredBy P (platformCalls past) (reporting P config options e outcome past).1 :=
    answeredBy_play past answersBy_platformAlone
  rcases (ends_report_iff h).1 hends with ⟨x, ht, hr⟩ | ⟨ht, hr⟩
  · rw [ht] at hanswered ⊢
    refine ⟨rfl, fun haccepted => ?_⟩
    cases hanswered.head.trans haccepted
  · rw [ht]
    exact ⟨rfl, fun _ => hr⟩

end

/-! ## The listing of a run -/

/-- Steps that are not cancelled find out about the changed files what the platform lists, if they list
them at all. -/
theorem Course.flags_eq {r : Except Halt Unit} (h : Course config options pr o t r p)
    (calm : ¬IsCancelled t) :
    (Bot.platformCalls t = [] ∧ p.flags = none) ∨
      ∃ x, (⟨.platform (listCall pr), x⟩ : Exchange interface) ∈ t ∧
        p.flags = x.toOption.map config.domains.classify := by
  have hlisted {u : Trace} {flags : DomainFlags} {q : Progress}
      (opening : Opening config options pr o u (.ok flags) q) :
      ∃ x, (⟨.platform (listCall pr), x⟩ : Exchange interface) ∈ u ∧
        q.flags = x.toOption.map config.domains.classify := by
    cases opening with
    | listed merging merged classified recorded =>
      subst classified
      exact ⟨.ok _, by simp [listing], rfl⟩
  cases h with
  | haltedInOpening opening =>
    cases opening with
    | cancelledAtStart => exact .inl ⟨rfl, rfl⟩
    | notMerged merging recorded => exact .inl ⟨by simp [finishedLog], rfl⟩
    | cancelledWhileListing merging merged recorded => exact absurd (by simp) calm
    | @notListed _ _ _ e merging merged recorded => exact .inr ⟨.error e, by simp, rfl⟩
  | haltedInStages opening stages =>
    obtain ⟨x, hx, hflags⟩ := hlisted opening
    exact .inr ⟨x, by simp [hx], stages.flags_eq.trans hflags⟩
  | unpublished opening stages withheld recorded =>
    obtain ⟨x, hx, hflags⟩ := hlisted opening
    exact .inr ⟨x, by simp [hx], stages.flags_eq.trans hflags⟩
  | published opening stages on publishing recorded =>
    obtain ⟨x, hx, hflags⟩ := hlisted opening
    exact .inr ⟨x, by simp [hx], stages.flags_eq.trans hflags⟩

/-- The only call that a trace shows is answered after the calls before it. -/
theorem AnsweredBy.of_mem {P : Responses} {past : List Platform.Call} {call : Platform.Call}
    {x : Except PlatformError call.Result} (h : AnsweredBy P past t)
    (only : platformCalls t = [call]) (hx : (⟨.platform call, x⟩ : Exchange interface) ∈ t) :
    x = P past call := by
  obtain ⟨u, v, rfl⟩ := List.append_of_mem hx
  have hnone : platformCalls u = [] := by
    rw [platformCalls, collect_append, collect_cons] at only
    rw [platformCalls, ← List.length_eq_zero_iff]
    have hlength := congrArg List.length only
    simp only [platformCall?, Option.toList_some, List.length_append, List.length_cons,
      List.length_nil] at hlength
    omega
  simpa [hnone] using h u v call x rfl

/-- What a run that goes on after the given calls hears of the changed files, by the calls that it makes: it
lists them unless its steps halt before. -/
inductive Hears (P : Responses) (config : Config) (options : RunOptions) (pr : PullRequest)
    (past : List Platform.Call) (t : Trace) : List Platform.Call → Option DomainFlags → Prop where
  | unlisted (halted : HaltsBeforeListing config options pr t) :
    Hears P config options pr past t [] none
  | listed (reached : ¬HaltsBeforeListing config options pr t) :
    Hears P config options pr past t [listCall pr]
      ((P past (listCall pr)).toOption.map config.domains.classify)

section
variable {P : Responses} {past calls : List Platform.Call} {flags : Option DomainFlags} {u : Trace}

/-- What a run hears depends on whether it halts before the listing, and not on how. -/
theorem Hears.of_halts_iff (h : Hears P config options pr past u calls flags)
    (halts : HaltsBeforeListing config options pr t ↔ HaltsBeforeListing config options pr u) :
    Hears P config options pr past t calls flags := by
  cases h with
  | unlisted halted => exact .unlisted (halts.2 halted)
  | listed reached => exact .listed (mt halts.1 reached)

/-- Steps that are not cancelled hear what the platform answers after the calls before them. -/
theorem Course.hears {r : Except Halt Unit} (h : Course config options pr o t r p)
    (answered : AnsweredBy P past t) (calm : ¬IsCancelled t) :
    Hears P config options pr past t (Bot.platformCalls t) p.flags := by
  rcases h.platformCalls with ⟨halted, hnone⟩ | ⟨reached, hlist⟩
  · rcases h.flags_eq calm with ⟨-, hflags⟩ | ⟨x, hx, -⟩
    · rw [hnone, hflags]
      exact .unlisted halted
    · exact absurd (hnone ▸ mem_platformCalls hx) List.not_mem_nil
  · rcases h.flags_eq calm with ⟨hnone, -⟩ | ⟨x, hx, hflags⟩
    · exact absurd (hlist.symm.trans hnone) (List.cons_ne_nil _ _)
    · rw [hlist, hflags, answered.of_mem hlist hx]
      exact .listed reached

/-- A run whose request the platform takes up hears of the changed files after it. -/
theorem Conduct.hears {halt : Option Halt} (h : Conduct config options c pr t halt p)
    (answered : AnsweredBy P [fetchCall c] t) (taken : TakesUp P config options c pr)
    (calm : ¬IsCancelled t) :
    ∃ calls, fetchCall c :: platformCalls t = acknowledged config options c pr ++ calls ∧
      Hears P config options pr (acknowledged config options c pr) t calls p.flags := by
  have hacknowledged {o : Outcome} {u v : Trace} {r : Except Halt Unit} {q : Progress}
      (course : Course config options pr o u r q) (hv : v = [] ∨ ∃ e, v = [⟨.log e, ()⟩])
      (ht : t = acknowledgement config options c pr ++ u ++ v) :
      ∃ calls, fetchCall c :: platformCalls t = acknowledged config options c pr ++ calls ∧
        Hears P config options pr (acknowledged config options c pr) t calls q.flags := by
    subst ht
    have hcalm : ¬IsCancelled u := fun hu => calm (by simp [hu])
    have hv' : platformCalls v = [] := by rcases hv with rfl | ⟨e, rfl⟩ <;> rfl
    have hanswered : AnsweredBy P (acknowledged config options c pr) u := by
      simpa [acknowledgement, acknowledged, pendingCall] using answered.left.right
    refine ⟨platformCalls u, ?_, (course.hears hanswered hcalm).of_halts_iff ?_⟩
    · simp [acknowledgement, acknowledged, pendingCall, hv']
    · rcases hv with rfl | ⟨e, rfl⟩ <;> simp [HaltsBeforeListing, acknowledgement]
  cases h with
  | notReacted recorded => cases answered.head.trans taken.reacted
  | notPending recorded => cases (answered.right (t := [_])).head.trans taken.pending
  | ended recorded course => exact hacknowledged course (.inl rfl) (by simp)
  | stopped recorded course => exact hacknowledged course (.inr ⟨_, rfl⟩) rfl
  | cancelled recorded course marked => exact absurd (by simp [course.isCancelled]) calm

end

/-! ## All runs -/

/-- The routing that a run stands for, after an evaluation: none if no run is asked for or its steps halt
before the listing. -/
inductive Routed (P : Responses) (config : Config) (options : RunOptions) (e : Evaluation) (u t : Trace) :
    Trace → Option DomainFlags → Prop where
  | left (unreached : e.verdict ≠ .triggered ∨ HaltsBeforeListing config options e.pullRequest t) :
    Routed P config options e u t [] none
  | taken (triggered : e.verdict = .triggered)
    (reached : ¬HaltsBeforeListing config options e.pullRequest t) :
    Routed P config options e u t (routing P config e.pullRequest u).1
      (routing P config e.pullRequest u).2.toOption

/-- A run is an evaluation, a routing and the report of its outcome, which is handed over as a text. -/
structure SplitFlow (P : Responses) (config : Config) (options : RunOptions) (e : Evaluation)
    (u t : Trace) (r : Except BotError RunResult) (v : Trace) (flags : Option DomainFlags)
    (outcome copy : Outcome) : Prop where
  routed : Routed P config options e u t v flags
  table : Outcome.empty.recordAll (slots t) = .ok outcome
  untouched (verdict : e.verdict ≠ .triggered) : outcome = .empty
  copied : Json.parse Outcome (Json.print outcome) = .ok copy
  calls : platformCalls t = platformCalls u ++ platformCalls v ++
    platformCalls (reporting P config options e copy (u ++ v)).1
  returned (result : RunResult) (hr : r = .ok result) : result.evaluation = e ∧
    result.progress.flags = flags ∧ result.progress.outcome = outcome ∧
    (reporting P config options e copy (u ++ v)).2 = .ok result.reported

section
variable {P : Responses} {s : Surroundings interface} {u : Trace} {e : Evaluation}

/-- The calls of an acknowledged run before its final status are those of the evaluation and the routing. -/
private theorem exists_routed {w x : Trace} {halt : Option Halt}
    (hcalls : platformCalls u = acknowledged config options c pr)
    (verdict : (Evaluation.ofComment config.trigger c pr).verdict = .triggered)
    (taken : TakesUp P config options c pr) (answered : AnsweredBy P [] (requested config c pr w x))
    (calm : ¬IsCancelled (requested config c pr w x)) (conduct : Conduct config options c pr w halt p)
    (hgit : gitCalls x = []) (hpauses : pauses x = []) :
    ∃ v, Routed P config options (.ofComment config.trigger c pr) u (requested config c pr w x) v
        p.flags ∧
      fetchCall c :: platformCalls w = platformCalls u ++ platformCalls v := by
  have hanswered : AnsweredBy P [fetchCall c] w := by
    simpa [platformCalls_evaluated] using answered.left.right
  have hcalm : ¬IsCancelled w := fun hw => calm (by simp [requested, hw])
  have hhalts : HaltsBeforeListing config options pr (requested config c pr w x) ↔
      HaltsBeforeListing config options pr w := haltsBeforeListing_requested hgit hpauses
  obtain ⟨calls, hw, hears⟩ := conduct.hears hanswered taken hcalm
  generalize p.flags = flags at hears ⊢
  cases hears.of_halts_iff hhalts with
  | unlisted halted => exact ⟨[], .left (.inr halted), by rw [hw, hcalls]; rfl⟩
  | listed reached =>
    obtain ⟨hlist, hrouted⟩ := routing_eq P config pr u
    refine ⟨(routing P config pr u).1, ?_, by rw [hw, hcalls, hlist]⟩
    rw [← hcalls, ← hrouted]
    exact .taken verdict reached

/-- A run that was asked for reports its outcome after the calls of the evaluation and the routing. -/
private theorem splitFlow_requested {w x : Trace} {halt : Option Halt} {final : FinalStatus}
    {r : Except BotError RunResult}
    (hcalls : platformCalls u = acknowledged config options c pr)
    (verdict : (Evaluation.ofComment config.trigger c pr).verdict = .triggered)
    (taken : TakesUp P config options c pr) (answered : AnsweredBy P [] (requested config c pr w x))
    (calm : ¬IsCancelled (requested config c pr w x)) (conduct : Conduct config options c pr w halt p)
    (aggregated : FinalStatus.aggregate .triggered p.outcome = some final)
    (hx : platformCalls x = [finalCall config options pr final]) (hgit : gitCalls x = [])
    (hpauses : pauses x = []) (hentries : collect entry? x = [])
    (hresult : ∀ result, r = .ok result → result.evaluation = .ofComment config.trigger c pr ∧
      result.progress = p ∧ result.reported = some final.state ∧
      P (fetchCall c :: platformCalls w) (finalCall config options pr final) = .ok ()) :
    ∃ v flags outcome copy, SplitFlow P config options (.ofComment config.trigger c pr) u
      (requested config c pr w x) r v flags outcome copy := by
  obtain ⟨v, hrouted, hbefore⟩ := exists_routed hcalls verdict taken answered calm conduct
    hgit hpauses
  rw [← verdict] at aggregated
  obtain ⟨hreport, hreported⟩ := reporting_of_some P options (u ++ v) aggregated
  have hpast : platformCalls (u ++ v) = fetchCall c :: platformCalls w :=
    collect_append.trans hbefore.symm
  refine ⟨v, p.flags, p.outcome, p.outcome, ?_⟩
  exact {
    routed := hrouted
    table := records_requested conduct hentries
    untouched := fun hne => absurd verdict hne
    copied := Outcome.parse_print p.outcome
    calls := by
      rw [hreport, ← hbefore]
      simp [requested, platformCalls_evaluated, hx, Evaluation.ofComment]
    returned := by
      intro result hr
      obtain ⟨hevaluation, hprogress, hstate, haccepted⟩ := hresult result hr
      rw [hprogress, hstate]
      exact ⟨hevaluation, rfl, rfl, hreported (hpast ▸ haccepted)⟩ }

/-- A run that was not asked for touches the platform no more than the report of nothing. -/
private theorem splitFlow_untriggered {r : Except BotError RunResult}
    (hcalls : platformCalls u = [fetchCall c]) (verdict : e.verdict ≠ .triggered)
    (hentries : collect entry? t = [])
    (hreport : platformCalls t =
      fetchCall c :: platformCalls (reporting P config options e .empty u).1)
    (hresult : ∀ result, r = .ok result → result.evaluation = e ∧ result.progress = {} ∧
      (reporting P config options e .empty u).2 = .ok result.reported) :
    ∃ v flags outcome copy, SplitFlow P config options e u t r v flags outcome copy := by
  refine ⟨[], none, .empty, .empty, ?_⟩
  exact {
    routed := .left (.inl verdict)
    table := Records.of_nil hentries
    untouched := fun _ => rfl
    copied := Outcome.parse_print .empty
    calls := by simp [hcalls, hreport]
    returned := by
      intro result hr
      obtain ⟨hevaluation, hprogress, hreported⟩ := hresult result hr
      rw [hprogress, List.append_nil]
      exact ⟨hevaluation, rfl, rfl, hreported⟩ }

/-- Against a platform that answers by its calls, an uncancelled run makes the calls of its three parts in
turn, and returns what they come to. -/
theorem splitFlow_runIn (answers : AnswersBy P s) (calm : ¬IsCancelled (runIn s config options c).1)
    (success : evaluating P config options c = (u, .ok e)) :
    ∃ v flags outcome copy, SplitFlow P config options e u (runIn s config options c).1
      (runIn s config options c).2 v flags outcome copy := by
  have answered : AnsweredBy P [] (runIn s config options c).1 := answeredBy_play [] answers
  have history := history_of_ends (ends_runIn s config options c)
  obtain ⟨applicable', pr, fetched, rfl, hevaluation⟩ := evaluating_cases success
  generalize (runIn s config options c).1 = t, (runIn s config options c).2 = r at *
  -- the run fetches the pull request that the evaluation has fetched
  have hpull {pr' : PullRequest} {t' : Trace}
      (h : AnsweredBy P [] (⟨.platform (fetchCall c), .ok pr'⟩ :: t')) : pr' = pr :=
    Except.ok.inj (h.head.trans fetched)
  cases history with
  | inapplicable applicable => cases applicable.symm.trans applicable'
  | notFetched applicable => cases answered.head.trans fetched
  | @rejected pr' o x applicable verdict recorded =>
    obtain rfl := hpull answered
    obtain ⟨huntriggered, hcalls⟩ | ⟨htriggered, -⟩ := hevaluation
    swap
    · cases verdict.symm.trans htriggered
    have haggregate : FinalStatus.aggregate (Evaluation.ofComment config.trigger c pr').verdict .empty =
        some .rejected := by rw [verdict]; rfl
    refine splitFlow_untriggered hcalls huntriggered ?_ ?_ fun _ hr => by cases hr
    · cases x <;> simp [collect_entry?_evaluated, rejectionLog, finalUpdate,
        FinalStatus.rejected]
    · rw [(reporting_of_some P options u haggregate).1]
      simp [platformCalls_evaluated, Evaluation.ofComment]
  | @notTriggered pr' applicable verdict =>
    obtain rfl := hpull answered
    obtain ⟨huntriggered, hcalls⟩ | ⟨htriggered, -⟩ := hevaluation
    swap
    · cases verdict.symm.trans htriggered
    have haggregate : FinalStatus.aggregate (Evaluation.ofComment config.trigger c pr').verdict .empty =
        none := by rw [verdict]; rfl
    obtain ⟨hnone, hreported⟩ := reporting_of_none haggregate
    refine splitFlow_untriggered hcalls huntriggered (by simp [collect_entry?_evaluated]) ?_ ?_
    · rw [hnone]
      simp [platformCalls_evaluated]
    · rintro result hr
      cases hr
      exact ⟨rfl, rfl, hreported⟩
  | unreported applicable verdict conduct aggregated =>
    obtain rfl := hpull answered
    obtain ⟨huntriggered, -⟩ | ⟨-, taken, hcalls⟩ := hevaluation
    · exact absurd verdict huntriggered
    have settled := state_ne_pending aggregated
    exact splitFlow_requested hcalls verdict taken answered calm conduct aggregated
      (by simp) (by simp) (by simp) (by simp [finalUpdate, settled]) fun _ hr => by cases hr
  | reported applicable verdict conduct aggregated =>
    obtain rfl := hpull answered
    obtain ⟨huntriggered, -⟩ | ⟨-, taken, hcalls⟩ := hevaluation
    · exact absurd verdict huntriggered
    have settled := state_ne_pending aggregated
    have haccepted := answered.right.head
    refine splitFlow_requested hcalls verdict taken answered calm conduct aggregated
      (by simp) (by simp) (by simp) (by simp [finalUpdate, settled]) ?_
    rintro result hr
    cases hr
    refine ⟨rfl, rfl, rfl, ?_⟩
    simpa [platformCalls_evaluated] using haccepted.symm

end

/-- The answers to the example run. -/
abbrev exampleAnswers : (q : Request) → Answer q :=
  compliant examplePull exampleFiles "f00d".toUTF8 fun _ => 0

/-- The platform of the example run. -/
abbrev exampleResponses : Responses := fun _ call => exampleAnswers (.platform call)

/-- The example run, which is refused nothing, in its three parts. -/
theorem splitFlow_exampleOuting :
    AnswersBy exampleResponses (steady exampleAnswers) ∧
      ¬IsCancelled (runIn (steady exampleAnswers) {} exampleOptions exampleComment).1 ∧
      ∃ u e, evaluating exampleResponses {} exampleOptions exampleComment = (u, .ok e) ∧
        ∃ v flags outcome copy, SplitFlow exampleResponses {} exampleOptions e u
          (runIn (steady exampleAnswers) {} exampleOptions exampleComment).1
          (runIn (steady exampleAnswers) {} exampleOptions exampleComment).2 v flags outcome copy := by
  have answers : AnswersBy exampleResponses (steady exampleAnswers) := fun _ _ => rfl
  have calm : ¬IsCancelled (runIn (steady exampleAnswers) {} exampleOptions exampleComment).1 := by
    decide +kernel
  have success : evaluating exampleResponses {} exampleOptions exampleComment =
      (_, .ok (.ofComment {} exampleComment examplePull)) := rfl
  exact ⟨answers, calm, _, _, success, splitFlow_runIn answers calm success⟩

end Autoformat.Run
