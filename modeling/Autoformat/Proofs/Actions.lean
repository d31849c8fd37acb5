import Autoformat.Bot.Evaluate
import Autoformat.Proofs.Exchanges
import Autoformat.Proofs.Program

/-!
# How actions end

`Ends x t r` says that an action ends with a result after the given exchanges. The lemmas take an action
apart from its front: a question, a call of the platform or an entry of the log comes first in the
trace, and what follows it ends with the same result (`ends_ask_bind_iff`, `ends_call_bind_iff`,
`ends_log_bind_iff`).

From them follow the traces of the parts of a run that deal with the platform: `ends_assess_iff`,
`ends_acknowledge_iff` and `ends_report_iff`.
-/

namespace Autoformat.Bot

variable {α β : Type} {t : Trace}

/-- An action ends with a result after the given exchanges. -/
def Ends (x : Action α) (t : Trace) (r : Except BotError α) : Prop := Program.Runs x.run t r

/-! ## Actions from their front -/

@[simp]
theorem ends_pure_iff {a : α} {r : Except BotError α} :
    Ends (pure a) t r ↔ t = [] ∧ r = .ok a := by
  simp [Ends]

@[simp]
theorem ends_throw_iff {e : BotError} {r : Except BotError α} :
    Ends (throw e) t r ↔ t = [] ∧ r = .error e := by
  simp [Ends]

/-- Of two actions in a row, the first fails, or the second goes on with its value. -/
theorem ends_bind_iff {x : Action α} {f : α → Action β} {r : Except BotError β} :
    Ends (x >>= f) t r ↔ (∃ e, r = .error e ∧ Ends x t (.error e)) ∨
      ∃ u v a, t = u ++ v ∧ Ends x u (.ok a) ∧ Ends (f a) v r :=
  Program.runs_exceptT_bind_iff

/-- A question is one exchange, and its answer decides how the part goes on. -/
theorem ends_ask_bind_iff {q : Request} {f : Answer q → Action β} {r : Except BotError β} :
    Ends (ask q >>= f) t r ↔ ∃ x u, t = ⟨q, x⟩ :: u ∧ Ends (f x) u r := by
  simp [Ends, ask, Program.request, ExceptT.run_bind]

/-- An entry of the log is one exchange that decides nothing. -/
theorem ends_log_bind_iff {e : Log.Event} {f : Unit → Action β} {r : Except BotError β} :
    Ends (log e >>= f) t r ↔ ∃ u, t = ⟨.log e, ()⟩ :: u ∧ Ends (f ()) u r := by
  have h := @ends_ask_bind_iff β t (.log e) f r
  exact h.trans ⟨fun ⟨_, u, h⟩ => ⟨u, h⟩, fun ⟨u, h⟩ => ⟨(), u, h⟩⟩

/-- What a call of the platform leaves of the action after it: all of it, or the platform's error. -/
theorem ends_call_bind_iff {c : Platform.Call} {f : c.Result → Action β} {r : Except BotError β} :
    Ends (call c >>= f) t r ↔
      (∃ e : PlatformError, t = [⟨.platform c, .error e⟩] ∧ r = .error (.platform e)) ∨
      ∃ y u, t = ⟨.platform c, .ok y⟩ :: u ∧ Ends (f y) u r := by
  simp only [call, bind_assoc, ends_ask_bind_iff]
  constructor
  · rintro ⟨x | y, u, rfl, h⟩
    · obtain ⟨rfl, rfl⟩ : u = [] ∧ r = .error (.platform x) := by simpa using h
      exact .inl ⟨x, rfl, rfl⟩
    · exact .inr ⟨y, u, rfl, by simpa using h⟩
  · rintro (⟨e, rfl, rfl⟩ | ⟨y, u, rfl, h⟩)
    · exact ⟨.error e, [], rfl, by simp⟩
    · exact ⟨.ok y, u, rfl, by simpa using h⟩

/-- A call of the platform is one exchange, and it comes to the platform's answer. -/
theorem ends_call_iff {c : Platform.Call} {r : Except BotError c.Result} :
    Ends (call c) t r ↔
      (∃ e : PlatformError, t = [⟨.platform c, .error e⟩] ∧ r = .error (.platform e)) ∨
      ∃ y : c.Result, t = [⟨.platform c, .ok y⟩] ∧ r = .ok y := by
  rw [← bind_pure (call c), ends_call_bind_iff]
  refine or_congr_right (exists_congr fun y => ?_)
  constructor
  · rintro ⟨u, rfl, h⟩
    obtain ⟨rfl, rfl⟩ := ends_pure_iff.1 h
    exact ⟨rfl, rfl⟩
  · rintro ⟨rfl, rfl⟩
    exact ⟨[], rfl, ends_pure_iff.2 ⟨rfl, rfl⟩⟩

/-- What is attempted may fail, and this is left to what follows. -/
theorem ends_attempt_bind_iff {x : Action α} {f : Except BotError α → Action β}
    {r : Except BotError β} :
    Ends (attempt x >>= f) t r ↔ ∃ u v y, t = u ++ v ∧ Ends x u y ∧ Ends (f y) v r := by
  simp [Ends, attempt, ExceptT.run_bind, Program.runs_bind_iff]

/-- A result that is known is no exchange; an error ends the part. -/
theorem ends_orFail_bind_iff {x : Except BotError α} {f : α → Action β} {r : Except BotError β} :
    Ends (orFail x >>= f) t r ↔
      (∃ e, x = .error e ∧ t = [] ∧ r = .error e) ∨ ∃ a, x = .ok a ∧ Ends (f a) t r := by
  cases x <;> simp [Ends, orFail, ExceptT.run_bind]

/-- A program that cannot fail ends with its value. -/
theorem ends_lift_iff {x : Program interface α} {r : Except BotError α} :
    Ends (ExceptT.lift x) t r ↔ ∃ a, Program.Runs x t a ∧ r = .ok a := by
  simp only [Ends, ExceptT.run_lift, map_eq_pure_bind, Program.runs_bind_iff, Program.pure_eq,
    Program.runs_done_iff]
  constructor
  · rintro ⟨u, v, a, rfl, hx, rfl, rfl⟩
    exact ⟨a, by simpa using hx, rfl⟩
  · rintro ⟨a, hx, rfl⟩
    exact ⟨t, [], a, by simp, hx, rfl, rfl⟩

/-! ## Assessing, acknowledging and reporting -/

/-- The call that fetches the pull request of a comment. -/
abbrev fetchCall (c : Comment) : Platform.Call := .getPullRequest c.repository c.issueNumber

/-- The call that reacts to a comment. -/
abbrev reactionCall (reaction : Reaction) (c : Comment) : Platform.Call :=
  .addReaction c.repository c.id reaction

/-- The call that lists the files of a pull request. -/
abbrev listCall (pr : PullRequest) : Platform.Call := .listFiles pr.repository pr.number

/-- The call that sets a status of the head commit of a pull request. -/
abbrev statusCall (pr : PullRequest) (status : StatusUpdate) : Platform.Call :=
  .setStatus pr.repository pr.headSha status

/-- The status of a commit whose run has begun. -/
def pendingStatus (settings : StatusSettings) : StatusUpdate where
  state := .pending
  context := settings.context
  description := "Running autoformat"
  targetUrl := settings.targetUrl

/-- The log of an evaluation. -/
def evaluationLog (c : Comment) (e : Evaluation) : Trace :=
  if e.verdict = .rejected then
    [⟨.log (.triggerEvaluated c e), ()⟩, ⟨.log (.untrustedCommenter c.author c.association), ()⟩]
  else [⟨.log (.triggerEvaluated c e), ()⟩]

/-- Of the entries about a decision, nothing is shown by what shows no entries of the log. -/
theorem collect_evaluationLog_eq_nil {f : Exchange interface → Option α}
    (hlog : ∀ e, f ⟨.log e, ()⟩ = none) (c : Comment) (e : Evaluation) :
    collect f (evaluationLog c e) = [] := by
  rw [evaluationLog]
  split <;> simp [hlog]

/-- A decision is reported, and a commenter who is not trusted is reported as well. -/
private theorem ends_evaluationLog_iff {c : Comment} {e : Evaluation}
    {r : Except BotError Evaluation} :
    Ends (do
      log (.triggerEvaluated c e)
      if e.verdict = .rejected then log (.untrustedCommenter c.author c.association)
      pure e) t r ↔ t = evaluationLog c e ∧ r = .ok e := by
  simp only [ends_log_bind_iff, evaluationLog]
  split
  · simp only [ends_log_bind_iff, ends_pure_iff]
    constructor
    · rintro ⟨u, rfl, v, rfl, rfl, rfl⟩
      exact ⟨rfl, rfl⟩
    · rintro ⟨rfl, rfl⟩
      exact ⟨_, rfl, _, rfl, rfl, rfl⟩
  · simp only [ends_pure_iff]
    constructor
    · rintro ⟨u, rfl, rfl, rfl⟩
      exact ⟨rfl, rfl⟩
    · rintro ⟨rfl, rfl⟩
      exact ⟨_, rfl, rfl, rfl⟩

/-- A comment is evaluated when it may start a run and its pull request can be fetched. -/
theorem ends_assess_iff {policy : TriggerPolicy} {c : Comment} {r : Except BotError Evaluation} :
    Ends (assess policy c) t r ↔
      (∃ e, c.applicable = .error e ∧ t = [] ∧ r = .error e) ∨
      (c.applicable = .ok () ∧ ∃ e : PlatformError,
        t = [⟨.platform (fetchCall c), .error e⟩] ∧ r = .error (.platform e)) ∨
      (c.applicable = .ok () ∧ ∃ pr : PullRequest,
        t = ⟨.platform (fetchCall c), .ok pr⟩ :: evaluationLog c (.ofComment policy c pr) ∧
        r = .ok (.ofComment policy c pr)) := by
  rw [assess, ends_orFail_bind_iff]
  simp only [ends_call_bind_iff]
  constructor
  · rintro (h | ⟨⟨⟩, ha, ⟨e, rfl, rfl⟩ | ⟨pr, u, rfl, h⟩⟩)
    · exact .inl h
    · exact .inr (.inl ⟨ha, e, rfl, rfl⟩)
    · obtain ⟨rfl, rfl⟩ := ends_evaluationLog_iff.1 h
      exact .inr (.inr ⟨ha, pr, rfl, rfl⟩)
  · rintro (h | ⟨ha, e, rfl, rfl⟩ | ⟨ha, pr, rfl, rfl⟩)
    · exact .inl h
    · exact .inr ⟨(), ha, .inl ⟨e, rfl, rfl⟩⟩
    · exact .inr ⟨(), ha, .inr ⟨pr, _, rfl, ends_evaluationLog_iff.2 ⟨rfl, rfl⟩⟩⟩

/-- A request is acknowledged by a reaction and then by a pending status. -/
theorem ends_acknowledge_iff {settings : StatusSettings} {reaction : Reaction} {c : Comment}
    {e : Evaluation} {r : Except BotError Unit} :
    Ends (acknowledge settings reaction c e) t r ↔
      (∃ err : PlatformError, t = [⟨.platform (reactionCall reaction c), .error err⟩] ∧
        r = .error (.platform err)) ∨
      (∃ err : PlatformError, t = [⟨.platform (reactionCall reaction c), .ok ()⟩,
        ⟨.platform (statusCall e.pullRequest (pendingStatus settings)), .error err⟩] ∧
        r = .error (.platform err)) ∨
      t = [⟨.platform (reactionCall reaction c), .ok ()⟩,
        ⟨.platform (statusCall e.pullRequest (pendingStatus settings)), .ok ()⟩] ∧ r = .ok () := by
  simp only [acknowledge, ends_call_bind_iff, ends_pure_iff]
  constructor
  · rintro (h | ⟨⟨⟩, u, rfl, ⟨err, rfl, rfl⟩ | ⟨⟨⟩, v, rfl, rfl, rfl⟩⟩)
    · exact .inl h
    · exact .inr (.inl ⟨err, rfl, rfl⟩)
    · exact .inr (.inr ⟨rfl, rfl⟩)
  · rintro (h | ⟨err, rfl, rfl⟩ | ⟨rfl, rfl⟩)
    · exact .inl h
    · exact .inr ⟨(), _, rfl, .inl ⟨err, rfl, rfl⟩⟩
    · exact .inr ⟨(), _, rfl, .inr ⟨(), _, rfl, rfl, rfl⟩⟩

/-- A final status is set by one call, and what is reported is its state. -/
theorem ends_report_iff {settings : StatusSettings} {pr : PullRequest} {verdict : Verdict}
    {outcome : Outcome} {final : FinalStatus} {r : Except BotError (Option CommitState)}
    (h : FinalStatus.aggregate verdict outcome = some final) :
    Ends (report settings pr.repository pr.headSha verdict outcome) t r ↔
      (∃ err : PlatformError,
        t = [⟨.platform (statusCall pr (settings.update final.state final.description)),
          .error err⟩] ∧ r = .error (.platform err)) ∨
      t = [⟨.platform (statusCall pr (settings.update final.state final.description)), .ok ()⟩,
        ⟨.log (.statusReported pr.repository pr.headSha final.state outcome.size), ()⟩] ∧
        r = .ok (some final.state) := by
  simp only [report, h, ends_call_bind_iff, ends_log_bind_iff, ends_pure_iff]
  constructor
  · rintro (h | ⟨⟨⟩, u, rfl, v, rfl, rfl, rfl⟩)
    · exact .inl h
    · exact .inr ⟨rfl, rfl⟩
  · rintro (h | ⟨rfl, rfl⟩)
    · exact .inl h
    · exact .inr ⟨(), _, rfl, _, rfl, rfl, rfl⟩

end Autoformat.Bot
