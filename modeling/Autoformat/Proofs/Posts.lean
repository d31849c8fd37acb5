import Autoformat.Proofs.CallProtocol
import Autoformat.Proofs.Commands
import Autoformat.Proofs.FinalStatus

/-!
# What the bot posts

Every status that the bot sets has a description that the platform accepts: the pending one, the one for
commenters who are not trusted, and the final one of any run. `Program.Always` says of a program that each
of its exchanges is of some kind; its rules follow the program, so a kind that each question respects is
respected by the whole command (`isPost_start`). Of a run, its `History` knows all calls of the platform,
whatever its steps do (`describes_run`).
-/

namespace Autoformat

namespace Program

variable {I J : Interface} {α β ε : Type} {P : Exchange I → Prop} {Q : Exchange J → Prop}

/-- Every exchange of a program is of some kind. -/
def Always (P : Exchange I → Prop) (p : Program I α) : Prop := ∀ t a, Runs p t a → ∀ e ∈ t, P e

/-- A program that asks nothing keeps to any rule. -/
theorem always_pure (a : α) : Always P (pure a : Program I α) := by
  intro t b h
  obtain ⟨rfl, -⟩ := runs_done_iff.1 h
  simp

/-- A single question keeps to a rule when every answer to it does. -/
theorem always_request {q : I.Request} (h : ∀ x, P ⟨q, x⟩) : Always P (request q) := by
  intro t x hruns e he
  rw [runs_request_iff.1 hruns, List.mem_singleton] at he
  exact he ▸ h x

/-- Two programs that keep to a rule do so one after the other. -/
theorem Always.bind {p : Program I α} {f : α → Program I β} (hp : Always P p) (hf : ∀ a, Always P (f a)) :
    Always P (p >>= f) := by
  intro t b h e he
  obtain ⟨u, v, a, rfl, hu, hv⟩ := runs_bind_iff.1 h
  rcases List.mem_append.1 he with he | he
  · exact hp u a hu e he
  · exact hf a v b hv e he

/-- A program whose exchanges are carried out in kind. -/
theorem Always.run {p : Program I α} {answer : (q : I.Request) → Program J (I.Answer q)} (hp : Always P p)
    (hanswer : ∀ e, P e → ∀ v, Runs (answer e.request) v e.answer → ∀ e' ∈ v, Q e') :
    Always Q (p.run answer) := by
  intro t a h e' he'
  obtain ⟨u, hu, hcarried⟩ := runs_run_iff.1 h
  obtain ⟨e, he, v, hv, hmem⟩ := hcarried.exists_of_mem he'
  exact hanswer e (hp u a hu e he) v hv e' hmem

/-- The same holds when the first of them may fail. -/
theorem Always.exceptT_bind {x : ExceptT ε (Program I) α} {f : α → ExceptT ε (Program I) β}
    (hx : Always P x.run) (hf : ∀ a, Always P (f a).run) : Always P (x >>= f).run := by
  intro t r h e he
  rcases runs_exceptT_bind_iff.1 h with ⟨_, -, hu⟩ | ⟨u, v, a, rfl, hu, hv⟩
  · exact hx t _ hu e he
  · rcases List.mem_append.1 he with he | he
    · exact hx u _ hu e he
    · exact hf a v r hv e he

/-- A program keeps to a rule also where others may fail. -/
theorem Always.exceptT_lift {p : Program I α} (hp : Always P p) :
    Always P (ExceptT.lift p : ExceptT ε (Program I) α).run := by
  rw [ExceptT.run_lift, map_eq_pure_bind]
  exact hp.bind fun a => always_pure _

end Program

open Program

/-- If the call sets a status, it has a description that the platform accepts. -/
def Platform.Call.IsDescribed : Platform.Call → Prop
  | .setStatus _ _ update => IsDescription update.description
  | .getPullRequest _ _ => True
  | .addReaction _ _ _ => True
  | .listFiles _ _ => True

/-! ## Statuses of the bot -/

namespace Bot

variable {α β : Type}

/-- All statuses that a part of the bot sets have descriptions that the platform accepts. -/
def Describes (x : Action α) : Prop :=
  Always (fun e : Exchange interface => ∀ call, e.request = .platform call → call.IsDescribed) x.run

/-- Two parts of the bot with good descriptions have them one after the other. -/
theorem Describes.bind {x : Action α} {f : α → Action β} (hx : Describes x) (hf : ∀ a, Describes (f a)) :
    Describes (x >>= f) := Always.exceptT_bind hx hf

/-- A part has good descriptions when its calls of the platform do. -/
theorem Describes.of_platformCalls {x : Action α}
    (h : ∀ t r, Ends x t r → ∀ call ∈ platformCalls t, call.IsDescribed) : Describes x := by
  rintro t r hx ⟨q, y⟩ he call hrequest
  obtain rfl : q = .platform call := hrequest
  exact h t r hx call (mem_platformCalls he)

/-- A part that does nothing has no bad description. -/
theorem describes_pure (a : α) : Describes (pure a) := always_pure _

/-- A result that is known has no bad description. -/
theorem describes_orFail (x : Except BotError α) : Describes (orFail x) := always_pure _

/-- An entry of the log sets no status. -/
theorem describes_log (e : Log.Event) : Describes (log e) :=
  (always_request (by simp)).exceptT_lift

/-- A call with a good description is a part with good descriptions. -/
theorem describes_call {c : Platform.Call} (h : c.IsDescribed) : Describes (call c) := by
  refine Describes.bind (Always.exceptT_lift (always_request fun _ c' heq => ?_)) fun x => ?_
  · exact Request.platform.inj heq ▸ h
  · cases x with
    | ok x => exact describes_pure x
    | error e => exact always_pure _

/-- The pending status has a description of the right length. -/
theorem isDescription_pending : IsDescription "Running autoformat" := ⟨by decide, by decide⟩

/-- The decision about a comment sets no status. -/
theorem describes_assess (policy : TriggerPolicy) (c : Comment) : Describes (assess policy c) := by
  refine .bind (describes_orFail _) fun _ => .bind (describes_call trivial) fun pr => ?_
  refine .bind (describes_log _) fun _ => ?_
  split
  · exact .bind (describes_log _) fun _ => describes_pure _
  · exact describes_pure _

/-- The acknowledgement sets the pending status only. -/
theorem describes_acknowledge (settings : StatusSettings) (reaction : Reaction) (c : Comment)
    (e : Evaluation) : Describes (acknowledge settings reaction c e) :=
  .bind (describes_call trivial) fun _ =>
    .bind (describes_call isDescription_pending) fun _ => describes_pure _

/-- The evaluation of a comment sets the pending status only. -/
theorem describes_evaluate (policy : TriggerPolicy) (settings : StatusSettings) (reaction : Reaction)
    (c : Comment) : Describes (evaluate policy settings reaction c) := by
  refine .bind (describes_assess policy c) fun e => ?_
  split
  · exact .bind (describes_acknowledge settings reaction c e) fun _ => describes_pure _
  · exact describes_pure _

/-- The classification of the changed files sets no status. -/
theorem describes_route (patterns : DomainPatterns) (pr : PullRequest) : Describes (route patterns pr) :=
  .bind (describes_call trivial) fun _ => .bind (describes_log _) fun _ => describes_pure _

/-- A report sets a final status only. -/
theorem describes_report (settings : StatusSettings) (repository sha : String) (verdict : Verdict)
    (o : Outcome) : Describes (report settings repository sha verdict o) := by
  rw [report]
  split
  · exact .bind (describes_log _) fun _ => describes_pure _
  · next final hfinal =>
    exact .bind (describes_call (FinalStatus.isDescription_of_aggregate hfinal)) fun _ =>
      .bind (describes_log _) fun _ => describes_pure _

end Bot

/-! ## Statuses of a run -/

namespace Run

open Autoformat.Bot

variable {config : Config} {options : RunOptions} {c : Comment} {pr : PullRequest} {t u v : Trace}

/-- All calls of a run that was asked for have good descriptions. -/
theorem RequestCalls.isDescribed {calls : List Platform.Call} (h : RequestCalls config options c pr t calls) :
    ∀ call ∈ calls, call.IsDescribed := by
  cases h with
  | unreacted refused => simp [Platform.Call.IsDescribed]
  | unlisted reacted halted =>
    exact List.forall_mem_cons.2 ⟨trivial, List.forall_mem_singleton.2 isDescription_pending⟩
  | listed reacted acknowledged merged =>
    exact List.forall_mem_cons.2 ⟨trivial, List.forall_mem_cons.2
      ⟨isDescription_pending, List.forall_mem_singleton.2 trivial⟩⟩

/-- The first call of a run is the fetch of its pull request. -/
theorem platformCalls_evaluated_append :
    platformCalls (evaluated config c pr ++ v) = fetchCall c :: platformCalls v :=
  collect_append.trans (congrArg (· ++ platformCalls v) platformCalls_evaluated)

/-- All calls of a run that was asked for have good descriptions, its final status included. -/
theorem isDescribed_requested {halt : Option Halt} {p : Progress} {final : FinalStatus}
    (conduct : Conduct config options c pr u halt p)
    (aggregated : FinalStatus.aggregate .triggered p.outcome = some final)
    (hv : platformCalls v = [finalCall config options pr final]) :
    ∀ call ∈ platformCalls (requested config c pr u v), call.IsDescribed := by
  have hcalls : platformCalls (requested config c pr u v) =
      fetchCall c :: (platformCalls u ++ [finalCall config options pr final]) := by
    rw [requested, List.append_assoc, List.append_assoc, platformCalls_evaluated_append]
    simp [hv]
  rw [hcalls]
  refine List.forall_mem_cons.2 ⟨trivial, List.forall_mem_append.2 ⟨conduct.requestCalls.isDescribed, ?_⟩⟩
  exact List.forall_mem_singleton.2 (FinalStatus.isDescription_of_aggregate aggregated)

/-- The statuses of a run are its pending one and a final one. -/
theorem describes_run (config : Config) (options : RunOptions) (c : Comment) :
    Describes (run config options c) := by
  refine .of_platformCalls fun t r h => ?_
  cases history_of_ends h with
  | inapplicable applicable => simp
  | notFetched applicable => exact List.forall_mem_singleton.2 trivial
  | rejected applicable verdict recorded =>
    rw [platformCalls_evaluated_append]
    refine List.forall_mem_cons.2 ⟨trivial, List.forall_mem_singleton.2 ?_⟩
    exact FinalStatus.isDescription_rejected
  | notTriggered applicable verdict =>
    rw [platformCalls_evaluated_append]
    exact List.forall_mem_singleton.2 trivial
  | unreported applicable verdict conduct aggregated =>
    exact isDescribed_requested conduct aggregated rfl
  | reported applicable verdict conduct aggregated =>
    exact isDescribed_requested conduct aggregated rfl

end Run

/-! ## Statuses of a command -/

namespace CommandLine

open Rest

variable {α β : Type}

/-- What a request sends is a reaction, or a status with a description that the platform accepts. -/
def SendsDescribed (q : Http.Request) : Prop := ∀ body, q.body = some body →
  (∃ reaction : Reaction, body = .object [("content", Json.encode reaction)]) ∨
    ∃ update : StatusUpdate, body = Json.encode update ∧ IsDescription update.description

/-- A request of a command sends such things alone. -/
def IsPost (e : Exchange Console.interface) : Prop := ∀ q, e.request = .http q → SendsDescribed q

/-- All that a part of a command sends are reactions and statuses that the platform accepts. -/
def Posts (x : Action α) : Prop := Always IsPost x.run

/-- Two parts of a command with good descriptions have them one after the other. -/
theorem Posts.bind {x : Action α} {f : α → Action β} (hx : Posts x) (hf : ∀ a, Posts (f a)) :
    Posts (x >>= f) := Always.exceptT_bind hx hf

/-- A command that does nothing posts nothing. -/
theorem posts_pure (a : α) : Posts (pure a) := always_pure _

/-- A command that fails posts nothing more. -/
theorem posts_throw (f : Failure) : Posts (throw f : Action α) := always_pure _

/-- A question that is no request posts nothing. -/
theorem posts_ask {q : Console.Request} (h : ∀ q', q ≠ .http q') : Posts (ask q) :=
  (always_request fun _ q' heq => absurd heq (h q')).exceptT_lift

/-- An error of the bot posts nothing. -/
theorem posts_orFail (headline : String) (x : Except BotError α) : Posts (orFail headline x) := by
  cases x with
  | ok a => exact posts_pure a
  | error e => exact posts_throw _

/-- A value that is missing posts nothing. -/
theorem posts_require (headline : String) (x : Option α) : Posts (require headline x) := by
  cases x with
  | some a => exact posts_pure a
  | none => exact posts_throw _

/-- The request that carries a call sends what the call is about. -/
theorem sendsDescribed_of_mem {client : Client} {call : Platform.Call} {w : List (Exchange Http.interface)}
    {x : Except PlatformError call.Result} {e : Exchange Http.interface} (hcall : call.IsDescribed)
    (hw : Runs (client.answer call) w x) (he : e ∈ w) : SendsDescribed e.request := by
  intro body hbody
  have hpost := postOf_of_mem hw he (by simp [hbody])
  cases call with
  | addReaction repository comment reaction =>
    rw [← Option.some.inj hpost, Client.body_reactionRequest] at hbody
    exact .inl ⟨reaction, (Option.some.inj hbody).symm⟩
  | setStatus repository sha update =>
    rw [← Option.some.inj hpost, Client.body_statusRequest] at hbody
    exact .inr ⟨update, (Option.some.inj hbody).symm, hcall⟩
  | getPullRequest repository number => cases hpost
  | listFiles repository number => cases hpost

/-- A part of the bot with good descriptions posts them. -/
theorem posts_carryOut {site : Site} {x : Bot.Action α} (hx : Bot.Describes x) : Posts (site.carryOut x) := by
  refine Always.exceptT_lift (hx.run ?_)
  rintro ⟨q, y⟩ hq v hv e he q' hq'
  -- a site reaches the server for calls of the platform, and for nothing else
  cases q with
  | platform call =>
    obtain ⟨w, hw, hcarried⟩ := runs_run_iff.1 hv
    rw [carriedOut_request_iff.1 hcarried] at he
    obtain ⟨e, hmem, rfl⟩ := List.mem_map.1 he
    obtain rfl : e.request = q' := Console.Request.http.inj hq'
    exact sendsDescribed_of_mem (hq call rfl) hw hmem
  | git args =>
    rw [runs_request_iff.1 hv, List.mem_singleton] at he
    cases he ▸ hq'
  | command c =>
    rw [runs_request_iff.1 hv, List.mem_singleton] at he
    cases he ▸ hq'
  | cancelled at_ =>
    rw [runs_request_iff.1 hv, List.mem_singleton] at he
    cases he ▸ hq'
  | log event =>
    rw [runs_request_iff.1 hv, List.mem_singleton] at he
    cases he ▸ hq'

/-- To load the configuration posts nothing. -/
theorem posts_loadConfig (env : Environment) (path : Option String) : Posts (loadConfig env path) := by
  cases path with
  | none => exact .bind (posts_pure _) fun _ => posts_orFail _ _
  | some path =>
    show Posts (ask (.readText path) >>= fun x : Except FileError String =>
      orFail "Failed to load autoformat configuration" (Config.load (some x) env))
    exact .bind (posts_ask (by simp)) fun _ => posts_orFail _ _

/-- To make a client posts nothing. -/
theorem posts_connect (s : Settings) : Posts (connect s) :=
  .bind (posts_require _ _) fun _ => posts_orFail _ _

/-- To read a comment posts nothing. -/
theorem posts_readComment (path : String) : Posts (readComment path) :=
  .bind (posts_ask (by simp)) fun _ => posts_orFail _ _

/-- To write outputs posts nothing. -/
theorem posts_putOut (s : Settings) (outputs : List StepOutput) : Posts (putOut s outputs) := by
  rw [putOut]
  split
  · exact posts_pure _
  · refine .bind (posts_ask (by simp)) fun written => ?_
    split
    · exact posts_pure _
    · exact posts_throw _
    · exact posts_throw _

theorem posts_print (text : String) : Posts (print text) := posts_ask (by simp)

/-- A comment that is ignored posts nothing. -/
theorem posts_ignoreComment (field reason : String) : Posts (ignoreComment field reason) :=
  posts_ask (by simp)

/-- The task to evaluate posts good descriptions only. -/
theorem posts_evaluate (s : Settings) (config : Config) (client : Client) (event : String) :
    Posts (evaluate s config client event) := by
  rw [evaluate_eq]
  refine .bind (posts_readComment event) fun c => .bind (posts_carryOut (Bot.describes_evaluate _ _ _ c)) ?_
  intro decision
  unfold finishEvaluation
  split
  · exact .bind (posts_ignoreComment _ _) fun _ => posts_putOut _ _
  · exact posts_throw _
  · exact .bind (posts_print _) fun _ => .bind (posts_putOut _ _) fun _ => posts_orFail _ _

/-- The task to route posts nothing. -/
theorem posts_route (s : Settings) (config : Config) (client : Client) (pull : UInt64) :
    Posts (route s config client pull) := by
  refine .bind (posts_require _ _) fun repository => ?_
  refine .bind (posts_carryOut (Bot.describes_call trivial)) fun x => .bind (posts_orFail _ _) fun pr => ?_
  refine .bind (posts_carryOut (Bot.describes_route _ _)) fun y => .bind (posts_orFail _ _) fun flags => ?_
  exact .bind (posts_print _) fun _ => posts_putOut _ _

/-- To name a run posts nothing. -/
theorem posts_runName (s : Settings) : Posts (runName s) := by
  rw [runName]
  split
  · exact posts_pure _
  · exact posts_ask (by simp)

/-- To show texts posts nothing. -/
theorem posts_forM_print (texts : List String) : Posts (texts.forM print) := by
  induction texts with
  | nil => exact posts_pure _
  | cons text texts ih => exact .bind (posts_print _) fun _ => ih

/-- The task to run posts good descriptions only. -/
theorem posts_run (s : Settings) (config : Config) (client : Client) (event workdir remote : String)
    (push mergeBase : Bool) : Posts (run s config client event workdir remote push mergeBase) := by
  rw [run_eq]
  refine .bind (posts_readComment event) fun c => .bind (posts_runName s) fun name => ?_
  refine .bind (posts_ask (by simp)) fun start => .bind (posts_carryOut (Run.describes_run _ _ _)) fun x => ?_
  cases x with
  | error e =>
    rw [finishRun]
    split
    · exact posts_ignoreComment _ _
    · exact posts_throw _
  | ok result =>
    refine .bind (posts_ask (by simp)) fun stop => .bind (posts_forM_print _) fun _ => ?_
    split
    · exact posts_throw _
    · exact posts_pure _

/-- To read an outcome posts nothing. -/
theorem posts_readOutcome (path : Option String) : Posts (readOutcome path) := by
  cases path with
  | none => exact posts_pure _
  | some path =>
    refine .bind (posts_ask (by simp)) fun text => ?_
    split
    · exact posts_throw _
    · split
      · exact posts_throw _
      · exact posts_pure _

/-- The task to report posts good descriptions only. -/
theorem posts_report (s : Settings) (config : Config) (client : Client) (sha : String)
    (verdict : Verdict) (outcome : Option String) :
    Posts (report s config client sha verdict outcome) := by
  refine .bind (posts_require _ _) fun repository => .bind (posts_readOutcome _) fun o => ?_
  refine .bind (posts_carryOut (Bot.describes_report _ _ _ _ _)) fun x => ?_
  refine .bind (posts_orFail _ _) fun state => ?_
  split
  · exact posts_print _
  · exact posts_print _

/-- Every task posts good descriptions only. -/
theorem posts_perform (env : Environment) (i : Invocation) : Posts (perform env i) := by
  rw [perform_eq]
  refine .bind (posts_loadConfig _ _) fun config => .bind (posts_connect _) fun client => ?_
  cases i.task with
  | evaluate event => exact posts_evaluate _ _ _ _
  | route pull => exact posts_route _ _ _ _
  | run event workdir remote push mergeBase => exact posts_run _ _ _ _ _ _ _ _
  | report sha verdict outcome => exact posts_report _ _ _ _ _ _

/-- A command line sends reactions and statuses that the platform accepts, and nothing else. -/
theorem isPost_start (env : Environment) (args : List String) : Always IsPost (start env args) := by
  have hprint (text : String) : Always IsPost (request (I := Console.interface) (.print text)) :=
    always_request (by simp [IsPost])
  unfold start
  split
  · exact always_pure _
  · exact (hprint _).bind fun _ => always_pure _
  · exact (hprint _).bind fun _ => always_pure _
  · next i hi =>
    refine ((posts_perform env i).run ?_).bind fun r => ?_
    · -- what is kept from the log is no request
      intro e hpost v hv e' he'
      rcases runs_filtered_cases hv with rfl | ⟨-, hall⟩
      · rw [List.mem_singleton.1 he']
        exact hpost
      · obtain ⟨entry, rfl⟩ := hall e' he'
        simp [IsPost]
    · cases r with
      | ok a => exact always_pure _
      | error f => exact always_pure _

end CommandLine

/-- Every status of the bot has a description that the platform accepts, wherever it comes from. -/
structure StatusesDescribed : Prop where
  /-- The final status of any table, if there is one. -/
  decided (verdict : Verdict) (o : Outcome) : FinalStatus.Decides verdict o
  evaluating (policy : TriggerPolicy) (settings : StatusSettings) (reaction : Reaction) (c : Comment) :
    Bot.Describes (Bot.evaluate policy settings reaction c)
  acknowledging (settings : StatusSettings) (reaction : Reaction) (c : Comment) (e : Evaluation) :
    Bot.Describes (Bot.acknowledge settings reaction c e)
  reporting (settings : StatusSettings) (repository sha : String) (verdict : Verdict) (o : Outcome) :
    Bot.Describes (Bot.report settings repository sha verdict o)
  running (config : Config) (options : RunOptions) (c : Comment) :
    Bot.Describes (Run.run config options c)
  /-- What command lines send to the platform. -/
  sending (env : Environment) (args : List String) :
    Always CommandLine.IsPost (CommandLine.start env args)

/-- A verdict and an outcome decide the final status, and every status that is posted by any part of the bot
has a description of the right length. -/
theorem statusesDescribed : StatusesDescribed where
  decided := FinalStatus.decides
  evaluating := Bot.describes_evaluate
  acknowledging := Bot.describes_acknowledge
  reporting := Bot.describes_report
  running := Run.describes_run
  sending := CommandLine.isPost_start

end Autoformat
