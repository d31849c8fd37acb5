import Autoformat.Proofs.Agreement
import Autoformat.Proofs.Completion
import Autoformat.Proofs.Rewording

/-!
# Comments of strangers

The surroundings of a run see every question as it is, but of the log only what is written there: the level
and the fields of an event (`Shown`). The text of a comment whose author is not trusted does not get that
far. `shown_run_eq` says that a run and an evaluation, as they are shown, are the same programs whatever the
text is.

`TurnedAway` is all that such a comment brings about: its pull request is fetched, and one failure status is
set.
-/

namespace Autoformat.Bot

/-! ## What is shown -/

/-- A question as the surroundings see it. -/
inductive Shown where
  | platform (call : Platform.Call)
  | git (args : List String)
  | command (c : Command)
  | cancelled (at_ : Pause)
  | log (level : Log.Level) (fields : List (String × Json))

/-- The answers. -/
def Shown.Answer : Shown → Type
  | .platform call => Except PlatformError call.Result
  | .git _ => Except FileError Ending
  | .command _ => CommandResult
  | .cancelled _ => Bool
  | .log _ _ => Unit

/-- The surroundings of the bot, as they see it. -/
abbrev display : Interface := ⟨Shown, Shown.Answer⟩

/-- A question as it is shown. -/
def Request.shown : Request → Shown
  | .platform call => .platform call
  | .git args => .git args
  | .command c => .command c
  | .cancelled at_ => .cancelled at_
  | .log e => .log e.level e.fields

/-- Shows the questions of the bot. -/
def showing : Rewording interface display where
  request := Request.shown
  answer
    | .platform _ => .refl _
    | .git _ => .refl _
    | .command _ => .refl _
    | .cancelled _ => .refl _
    | .log _ => .refl _

variable {α β : Type}

/-- An action as it is shown. -/
def shown (x : Action α) : Program display (Except BotError α) := x.run.reword showing

/-- What the surroundings see of an action, and what comes of it. -/
def seen (s : Program.Surroundings display) (x : Action α) :
    List (Exchange display) × Except BotError α :=
  let (t, r) := Program.play (showing.behind s) [] x.run
  (t.map showing.exchange, r)

/-- What is seen of a part of the bot is what its shown form plays. -/
theorem seen_eq_play (s : Program.Surroundings display) (x : Action α) :
    seen s x = Program.play s [] (shown x) :=
  (Program.play_reword showing s [] x.run).symm

/-- Actions that go on alike are shown alike. -/
theorem shown_bind_congr {x : Action α} {f g : α → Action β} (h : ∀ a, shown (f a) = shown (g a)) :
    shown (x >>= f) = shown (x >>= g) := by
  simp only [shown, ExceptT.run_bind, Program.reword_bind]
  refine bind_congr fun y => ?_
  cases y with
  | error e => rfl
  | ok a => exact h a

/-- Of an entry of the log only its level and its fields are shown. -/
theorem shown_log_bind_congr {e e' : Log.Event} {f g : Unit → Action β} (hlevel : e.level = e'.level)
    (hfields : e.fields = e'.fields) (h : shown (f ()) = shown (g ())) :
    shown (log e >>= f) = shown (log e' >>= g) := by
  have hlog {e : Log.Event} {f : Unit → Action β} :
      shown (log e >>= f) = .ask (.log e.level e.fields) fun _ => shown (f ()) := rfl
  rw [hlog, hlog, hlevel, hfields, h]

end Autoformat.Bot

namespace Autoformat.Run

open Autoformat.Bot

/-! ## Texts that are not looked at -/

section
variable {policy : TriggerPolicy} {c : Comment}

/-- A commenter is not trusted exactly when the association is no trusted role. -/
theorem isAuthorized_eq_false_iff :
    policy.isAuthorized c.association = false ↔ c.association ∉ policy.trustedRoles := by
  simp [TriggerPolicy.isAuthorized]

/-- A commenter who is not trusted is rejected. -/
theorem verdict_of_untrusted (untrusted : c.association ∉ policy.trustedRoles) (pr : PullRequest) :
    (Evaluation.ofComment policy c pr).verdict = .rejected :=
  verdict_eq_rejected_iff.2 (isAuthorized_eq_false_iff.2 untrusted)

/-- A commenter who is not trusted is an error, which names the commenter. -/
theorem ensureAuthorized_of_untrusted (untrusted : c.association ∉ policy.trustedRoles)
    (pr : PullRequest) : (Evaluation.ofComment policy c pr).ensureAuthorized =
      .error (.unauthorized c.author c.association) := by
  have hauth := isAuthorized_eq_false_iff.2 untrusted
  simp [Evaluation.ensureAuthorized, Evaluation.ofComment, hauth]

/-- The text of an untrusted comment plays no part in the decision about it. -/
theorem ofComment_eq_of_untrusted (untrusted : c.association ∉ policy.trustedRoles) (body : String)
    (pr : PullRequest) :
    Evaluation.ofComment policy { c with body := body } pr = .ofComment policy c pr := by
  have hauth := isAuthorized_eq_false_iff.2 untrusted
  simp [Evaluation.ofComment, hauth]

/-- What goes on alike after the decision about an untrusted comment is shown alike, whatever the text of
the comment is. -/
theorem shown_assess_bind_congr {β : Type} {f g : Evaluation → Action β}
    (untrusted : c.association ∉ policy.trustedRoles) (body : String)
    (h : ∀ pr, shown (f (.ofComment policy c pr)) = shown (g (.ofComment policy c pr))) :
    shown (assess policy { c with body := body } >>= f) = shown (assess policy c >>= g) := by
  simp only [assess, bind_assoc]
  -- the text is no part of what is asked first
  refine shown_bind_congr (x := orFail c.applicable) fun _ => ?_
  refine shown_bind_congr (x := call (fetchCall c)) fun pr => ?_
  rw [ofComment_eq_of_untrusted untrusted body pr]
  simp only [verdict_of_untrusted untrusted pr, if_true, bind_assoc, pure_bind]
  -- and the two entries of the log do not show it
  refine shown_log_bind_congr rfl rfl ?_
  exact shown_log_bind_congr rfl rfl (h pr)

end

variable {config : Config} {options : RunOptions} {c : Comment} {t : Trace}

/-- A run is shown alike for all texts of an untrusted comment. -/
theorem shown_run_eq (untrusted : c.association ∉ config.trigger.trustedRoles) (body : String) :
    shown (run config options { c with body := body }) = shown (run config options c) := by
  refine shown_assess_bind_congr untrusted body fun pr => ?_
  refine shown_bind_congr fun phase => ?_
  rw [ensureAuthorized_of_untrusted untrusted]

/-- An evaluation is shown alike for all texts of an untrusted comment. -/
theorem shown_evaluate_eq {settings : StatusSettings} {reaction : Reaction}
    (untrusted : c.association ∉ config.trigger.trustedRoles) (body : String) :
    shown (evaluate config.trigger settings reaction { c with body := body }) =
      shown (evaluate config.trigger settings reaction c) := by
  refine shown_assess_bind_congr untrusted body fun pr => ?_
  simp only [verdict_of_untrusted untrusted, reduceCtorEq, if_false]

/-! ## What untrusted comments bring about -/

/-- The status that a pull request gets for an untrusted comment. -/
def rejectionCall (config : Config) (options : RunOptions) (pr : PullRequest) : Platform.Call :=
  .setStatus pr.repository pr.headSha ⟨.failure, config.status.context,
    "Autoformat rejected: commenter is not a maintainer", options.runUrl⟩

/-- All that comes of a run for an untrusted comment. -/
structure TurnedAway (config : Config) (options : RunOptions) (c : Comment) (t : Trace)
    (r : Except BotError RunResult) : Prop where
  gitCalls : gitCalls t = []
  commandCalls : commandCalls t = []
  pauses : pauses t = []
  ignored (old : ¬IsNewOnPull c) : t = [] ∧ ∃ reason, r = .error (.notApplicable reason)
  /-- The pull request of a new comment is fetched. If that fails, it is left alone. -/
  fetched (new : IsNewOnPull c) : ∃ (x : Except PlatformError PullRequest) (u : Trace),
    t = ⟨.platform (fetchCall c), x⟩ :: u ∧ ∀ e, x = .error e → u = [] ∧ r = .error (.platform e)
  /-- A pull request that was fetched gets its status. It does not matter how the platform answers that. -/
  unauthorized (pr : PullRequest)
    (answer : (⟨.platform (fetchCall c), .ok pr⟩ : Exchange interface) ∈ t) :
    platformCalls t = [fetchCall c, rejectionCall config options pr] ∧
      r = .error (.unauthorized c.author c.association)

/-- What a comment brings about does not depend on its text, and is next to nothing. -/
structure Disregarded (config : Config) (options : RunOptions) (c : Comment) : Prop where
  run_eq (body : String) (s : Program.Surroundings display) :
    seen s (run config options { c with body := body }) = seen s (run config options c)
  evaluate_eq (settings : StatusSettings) (reaction : Reaction) (body : String)
    (s : Program.Surroundings display) :
    seen s (evaluate config.trigger settings reaction { c with body := body }) =
      seen s (evaluate config.trigger settings reaction c)
  platformCalls_evaluate (settings : StatusSettings) (reaction : Reaction) (t : Trace)
    (r : Except BotError Evaluation) (h : Ends (evaluate config.trigger settings reaction c) t r) :
    platformCalls t <+: [fetchCall c]
  turnedAway (t : Trace) (r : Except BotError RunResult) (h : Ends (run config options c) t r) :
    TurnedAway config options c t r

/-- The evaluation of an untrusted comment is no more than its assessment. -/
theorem ends_assess_of_untrusted {settings : StatusSettings} {reaction : Reaction}
    {r : Except BotError Evaluation}
    (untrusted : c.association ∉ config.trigger.trustedRoles)
    (h : Ends (evaluate config.trigger settings reaction c) t r) :
    Ends (assess config.trigger c) t r := by
  rcases ends_bind_iff.1 h with ⟨e, rfl, ha⟩ | ⟨u, v, e, rfl, ha, hrest⟩
  · exact ha
  obtain ⟨e', -, -, he⟩ | ⟨-, e', -, he⟩ | ⟨-, pr, -, he⟩ := ends_assess_iff.1 ha
  · cases he
  · cases he
  · cases he
    rw [verdict_of_untrusted untrusted, if_neg (by simp)] at hrest
    obtain ⟨rfl, rfl⟩ := ends_pure_iff.1 hrest
    rwa [List.append_nil]

section
variable {pr : PullRequest} {o : Outcome} {x : Except PlatformError Unit}

/-- All that is exchanged when a comment is turned away. -/
def turningAway (config : Config) (options : RunOptions) (c : Comment) (pr : PullRequest) (o : Outcome)
    (x : Except PlatformError Unit) : Trace :=
  evaluated config c pr ++ [⟨.log (.phaseChanged .evaluated .rejected), ()⟩,
    ⟨.platform (finalCall config options pr .rejected), x⟩, ⟨.log (rejectionLog pr o x), ()⟩]

/-- The pull request is fetched once, in front of everything else. -/
theorem exists_turningAway_eq : ∃ u, turningAway config options c pr o x =
      ⟨.platform (fetchCall c), .ok pr⟩ :: u ∧ platformCalls u = [rejectionCall config options pr] := by
  have hlog := collect_evaluationLog_eq_nil (f := platformCall?) (fun _ => rfl) c
    (.ofComment config.trigger c pr)
  refine ⟨_, rfl, ?_⟩
  simp only [List.append_eq, platformCalls, collect_append, hlog]
  rfl

/-- To turn a commenter away is no step. -/
theorem isOuter_turningAway {e : Exchange interface} (h : e ∈ turningAway config options c pr o x) :
    isOuter e = true := by
  rcases List.mem_append.1 h with he | he
  · exact isOuter_evaluated he
  · simp only [List.mem_cons, List.not_mem_nil, or_false] at he
    rcases he with rfl | rfl | rfl <;> rfl

/-- A comment that is turned away gets its pull request a status, and its author an error. -/
theorem turnedAway_turningAway (new : IsNewOnPull c) :
    TurnedAway config options c (turningAway config options c pr o x)
      (.error (.unauthorized c.author c.association)) := by
  obtain ⟨u, ht, hcalls⟩ := @exists_turningAway_eq config options c pr o x
  refine ⟨?_, ?_, ?_, fun old => absurd new old, fun _ => ⟨.ok pr, u, ht, nofun⟩, ?_⟩
  · exact List.filterMap_eq_nil_iff.2 fun e he => gitCall?_of_isOuter (isOuter_turningAway he)
  · exact List.filterMap_eq_nil_iff.2 fun e he => commandCall?_of_isOuter (isOuter_turningAway he)
  · exact List.filterMap_eq_nil_iff.2 fun e he => pause?_of_isOuter (isOuter_turningAway he)
  · rw [ht]
    intro pr' answer
    rcases List.mem_cons.1 answer with heq | hlater
    · cases heq
      exact ⟨congrArg (fetchCall c :: ·) hcalls, rfl⟩
    · have hrest := mem_platformCalls hlater
      rw [hcalls] at hrest
      simp [rejectionCall] at hrest

end

/-- Without a hint of its text, an untrusted comment leads to one failure status at most. -/
theorem turnedAway_of_untrusted {r : Except BotError RunResult}
    (untrusted : c.association ∉ config.trigger.trustedRoles) (h : Ends (run config options c) t r) :
    TurnedAway config options c t r := by
  have hverdict := verdict_of_untrusted (c := c) untrusted
  cases history_of_ends h with
  | inapplicable applicable =>
    obtain ⟨hold, reason, rfl⟩ := notApplicable_of_error applicable
    exact ⟨rfl, rfl, rfl, fun _ => ⟨rfl, reason, rfl⟩, fun new => absurd new hold, nofun⟩
  | notFetched applicable =>
    have hnew := applicable_eq_ok_iff.1 applicable
    refine ⟨rfl, rfl, rfl, fun old => absurd hnew old, fun _ => ⟨_, [], rfl, ?_⟩, ?_⟩
    · rintro e' he
      cases he
      exact ⟨rfl, rfl⟩
    · intro pr answer
      cases List.mem_singleton.1 answer
  | rejected applicable verdict recorded =>
    exact turnedAway_turningAway (applicable_eq_ok_iff.1 applicable)
  | @notTriggered pr applicable verdict =>
    rw [hverdict pr] at verdict
    cases verdict
  | @unreported pr _ _ _ _ _ applicable verdict conduct aggregated =>
    rw [hverdict pr] at verdict
    cases verdict
  | @reported pr _ _ _ _ applicable verdict conduct aggregated =>
    rw [hverdict pr] at verdict
    cases verdict

/-- Whatever the platform, the configuration, the options and the cancellation are, a comment of someone who
is not trusted has no influence beyond one failure status. -/
theorem disregarded_of_untrusted (untrusted : c.association ∉ config.trigger.trustedRoles) :
    Disregarded config options c where
  run_eq body s := by
    rw [seen_eq_play, seen_eq_play, shown_run_eq untrusted]
  evaluate_eq settings reaction body s := by
    rw [seen_eq_play, seen_eq_play, shown_evaluate_eq untrusted]
  platformCalls_evaluate settings reaction t r h := by
    rcases ends_assess_iff.1 (ends_assess_of_untrusted untrusted h) with
      ⟨e, -, rfl, -⟩ | ⟨-, e, rfl, -⟩ | ⟨-, pr, rfl, -⟩
    · exact List.nil_prefix
    · exact List.prefix_rfl
    · simp [collect_evaluationLog_eq_nil (f := platformCall?) fun _ => rfl]
  turnedAway t r h := turnedAway_of_untrusted untrusted h

/-- A comment of a stranger. -/
def exampleStranger : Comment := { exampleComment with author := "stranger", association := .other }

/-- The default configuration does not trust strangers. -/
theorem disregarded_exampleStranger :
    exampleStranger.association ∉ ({} : Config).trigger.trustedRoles ∧
      Disregarded {} exampleOptions exampleStranger :=
  ⟨by decide, disregarded_of_untrusted (by decide)⟩

end Autoformat.Run
