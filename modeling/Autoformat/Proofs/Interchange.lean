import Autoformat.CommandLine.Console
import Autoformat.Proofs.Actions
import Autoformat.Proofs.Compliant
import Autoformat.Proofs.Served

/-!
# The platform over HTTP and in memory

A part of the bot can be carried out over HTTP, at a `Site`, or on a platform in memory (`fromMemory`). `ComesTo`
says that it comes to the same both ways, whatever went before: to the same result, by the same calls of the
platform, which the platform in memory keeps, and which the requests over HTTP carry one after the other.

A single call does, as long as the server and the memory hold the same pull request (`ComesTo.call`), and so does
one part after another (`ComesTo.bind`). `interchangeable` draws from this that the evaluation of a comment, the
routing of its pull request and the report of an outcome do not show on which platform they are carried out.
-/

namespace Autoformat

open Autoformat.Bot Program Rest
open CommandLine hiding Action ask orFail

/-! ## Platforms that hold a pull request -/

namespace Platform

/-- A platform in memory knows a pull request and its files, and refuses nothing. -/
structure Memory.Registers (m : Memory) (pr : PullRequest) (files : ChangedFiles) : Prop where
  found : m.find pr.repository pr.number = .ok ⟨pr, files⟩
  willing : m.refused = []

namespace Memory

variable {m : Memory} {pr : PullRequest} {files : ChangedFiles}

/-- What is registered last is found. -/
theorem registers_register (willing : m.refused = []) : (m.register pr files).Registers pr files where
  found := by simp [find, register]
  willing := willing

/-- A platform in memory holds the same pull request whatever was called of it. -/
theorem Registers.withCalls (h : m.Registers pr files) (calls : List Call) :
    Registers { m with calls := calls } pr files := ⟨h.found, h.willing⟩

/-- A call that concerns the pull request is answered by what is registered, and kept. -/
theorem Registers.answer_eq (h : m.Registers pr files) {c : Call} (concerns : Concerns pr c) :
    m.answer c = (.ok (replyOf pr files c), { m with calls := m.calls ++ [c] }) := by
  have hresult : m.result c = .ok (replyOf pr files c) := by
    cases c with
    | addReaction repository comment reaction => rfl
    | setStatus repository sha status => rfl
    | getPullRequest repository number =>
      obtain ⟨rfl, rfl⟩ := concerns
      rw [result, h.found]
      rfl
    | listFiles repository number =>
      obtain ⟨rfl, rfl⟩ := concerns
      rw [result, h.found]
      rfl
  simp only [answer, h.willing, hresult, List.contains_nil]
  rfl

end Memory

end Platform

/-- A platform in memory answers the calls of the bot. All other questions are answered as given. -/
def Bot.fromMemory (other : (q : Bot.Request) → Bot.Answer q) :
    (q : Bot.Request) → StateM Platform.Memory (Bot.Answer q)
  | .platform c => fun m => m.answer c
  | .git args => pure (other (.git args))
  | .command c => pure (other (.command c))
  | .cancelled at_ => pure (other (.cancelled at_))
  | .log e => pure (other (.log e))

/-- A call asks the platform, whose error is one of the bot. -/
theorem Bot.run_call (c : Platform.Call) :
    (Bot.call c).run = .ask (.platform c) fun x => .done (x.mapError BotError.platform) := by
  have hbind : (Bot.call c).run = .ask (.platform c) fun x =>
      (match x with
        | .ok x => Pure.pure x
        | .error e => throw (.platform e) : Action c.Result).run := rfl
  rw [hbind]
  congr 1
  funext x
  cases x <;> rfl

/-! ## Requests among other questions -/

/-- The requests over HTTP, in order. -/
def httpRequests (t : List (Exchange Console.interface)) : List Http.Request :=
  t.filterMap fun e =>
    match e.request with
    | .http q => some q
    | _ => none

/-- A request and its answer, as a command passes them on. -/
def passedOn (e : Exchange Http.interface) : Exchange Console.interface := ⟨.http e.request, e.answer⟩

/-- The requests of two parts are made one after the other. -/
theorem httpRequests_append {t u : List (Exchange Console.interface)} :
    httpRequests (t ++ u) = httpRequests t ++ httpRequests u := List.filterMap_append

/-- What is passed on to the server is what it is asked. -/
theorem httpRequests_map_passedOn (t : List (Exchange Http.interface)) :
    httpRequests (t.map passedOn) = t.map Exchange.request := by
  rw [httpRequests, List.filterMap_map]
  exact List.filterMap_eq_map ▸ rfl

section
variable {s : Surroundings Console.interface} {past : List (Exchange Console.interface)}

/-- The answers to requests after other exchanges. -/
def answersAfter (s : Surroundings Console.interface) (past : List (Exchange Console.interface)) :
    Surroundings Http.interface :=
  fun u q => s (past ++ u.map passedOn) (.http q)

/-- A program whose requests are passed on makes the same requests and comes to the same. -/
theorem play_run_http {α : Type} {p : Program Http.interface α} {u : List (Exchange Http.interface)} :
    play s (past ++ u.map passedOn) (p.run fun q => Program.request (I := Console.interface) (.http q)) =
      ((play (answersAfter s past) u p).1.map passedOn, (play (answersAfter s past) u p).2) := by
  induction p generalizing u with
  | done a => rfl
  | ask q next ih =>
    -- both sides ask the same question after the same past, so the answer is the same too
    have hnext := ih (answersAfter s past u q) (u := u ++ [⟨q, answersAfter s past u q⟩])
    rw [List.map_append, ← List.append_assoc] at hnext
    simp only [run, play]
    exact congrArg (fun x => (passedOn ⟨q, answersAfter s past u q⟩ :: x.1, x.2)) hnext

/-- What a site carries out is played as the questions of the part, passed on. -/
theorem play_carryOut {α : Type} {site : Site} {x : Action α} :
    play s past (site.carryOut x).run =
      ((play s past (x.run.run site.answer)).1, .ok (play s past (x.run.run site.answer)).2) := by
  have hrun : (site.carryOut x).run = x.run.run site.answer >>= fun r => .done (.ok r) := rfl
  rw [hrun, play_bind]
  simp [play]

/-- A part of the bot that is carried out plays as over the answers of its site. -/
theorem play_carryOut_eq_iff {α : Type} {site : Site} {x : Action α} {t : List (Exchange Console.interface)}
    {r : Except BotError α} :
    play s past (site.carryOut x).run = (t, .ok r) ↔ play s past (x.run.run site.answer) = (t, r) := by
  rw [play_carryOut, Prod.mk.injEq, Except.ok.injEq]
  exact (Prod.ext_iff (y := (t, r))).symm

end

/-! ## The same both ways -/

/-- Requests carry calls one after the other: each call by the requests that are its own. -/
def CarryAll (client : Client) (files : ChangedFiles) (calls : List Platform.Call) (qs : List Http.Request) :
    Prop :=
  ∃ groups, qs = groups.flatten ∧ List.Forall₂ (Carries client files) calls groups

/-- Requests that carry the calls of two parts carry them one after the other. -/
theorem CarryAll.append {client : Client} {files : ChangedFiles} {calls calls' : List Platform.Call}
    {qs qs' : List Http.Request} (h : CarryAll client files calls qs)
    (h' : CarryAll client files calls' qs') : CarryAll client files (calls ++ calls') (qs ++ qs') := by
  obtain ⟨groups, rfl, hgroups⟩ := h
  obtain ⟨groups', rfl, hgroups'⟩ := h'
  exact ⟨groups ++ groups', List.flatten_append.symm, List.rel_append hgroups hgroups'⟩

/-- The server that a site reaches holds a pull request at any time. -/
structure Reaches (site : Site) (s : Surroundings Console.interface) (pr : PullRequest) (files : ChangedFiles) :
    Prop where
  bound : files.size < 100 * (UInt32.size - 1)
  serves (past : List (Exchange Console.interface)) :
    Serves site.client pr files fun q => s past (.http q)

/-- A part of the bot comes to the same result by the same calls, in memory and over HTTP. -/
structure ComesTo {α : Type} (site : Site) (s : Surroundings Console.interface) (pr : PullRequest)
    (files : ChangedFiles) (x : Action α) (r : Except BotError α) (calls : List Platform.Call) : Prop where
  /-- The platform in memory keeps the calls after those that it has had. -/
  inMemory (m : Platform.Memory) (other : (q : Bot.Request) → Bot.Answer q) (held : m.Registers pr files) :
    (x.run.run (fromMemory other)).run m = (r, { m with calls := m.calls ++ calls })
  /-- The requests over HTTP carry the calls, whatever was exchanged before. -/
  overHttp (past : List (Exchange Console.interface)) :
    ∃ t, play s past (site.carryOut x).run = (t, .ok r) ∧ CarryAll site.client files calls (httpRequests t)

namespace ComesTo

variable {α β : Type} {site : Site} {s : Surroundings Console.interface} {pr : PullRequest}
  {files : ChangedFiles} {x : Action α} {f : α → Action β} {a : α} {r : Except BotError β}
  {calls calls' : List Platform.Call}

/-- A value that is known is the same at every site. -/
theorem pure (a : α) : ComesTo site s pr files (Pure.pure a : Action α) (.ok a) [] where
  inMemory m other held := by
    rw [List.append_nil]
    rfl
  overHttp past := ⟨[], rfl, [], rfl, .nil⟩

/-- One part after another. -/
theorem bind (hx : ComesTo site s pr files x (.ok a) calls) (hf : ComesTo site s pr files (f a) r calls') :
    ComesTo site s pr files (x >>= f) r (calls ++ calls') where
  inMemory m other held := by
    -- calls do not change what is registered, so it is still there for the second part
    have hsecond := hf.inMemory { m with calls := m.calls ++ calls } other (held.withCalls _)
    rw [ExceptT.run_bind, run_bind, StateT.run_bind, hx.inMemory m other held, ← List.append_assoc]
    exact hsecond
  overHttp past := by
    obtain ⟨t, ht, hcarry⟩ := hx.overHttp past
    obtain ⟨u, hu, hcarry'⟩ := hf.overHttp (past ++ t)
    rw [play_carryOut_eq_iff] at ht hu
    refine ⟨t ++ u, ?_, ?_⟩
    · rw [play_carryOut_eq_iff, ExceptT.run_bind, run_bind, play_bind, ht]
      simp only [hu]
    · rw [httpRequests_append]
      exact hcarry.append hcarry'

/-- A part whose value is made into another. -/
theorem map (g : α → β) (hx : ComesTo site s pr files x (.ok a) calls) :
    ComesTo site s pr files (x >>= fun a => Pure.pure (g a)) (.ok (g a)) calls := by
  have h := hx.bind (f := fun a => Pure.pure (g a)) (.pure (g a))
  rwa [List.append_nil] at h

/-- An entry of the log calls for nothing. -/
theorem log (e : Log.Event) : ComesTo site s pr files (Bot.log e) (.ok ()) [] where
  inMemory m other held := by
    rw [List.append_nil]
    rfl
  overHttp past := ⟨[⟨.log ⟨e, site.span⟩, ()⟩], rfl, [], rfl, .nil⟩

/-- A call that concerns the pull request. -/
theorem call (reaches : Reaches site s pr files) {c : Platform.Call} (concerns : Concerns pr c) :
    ComesTo site s pr files (Bot.call c) (.ok (replyOf pr files c)) [c] where
  inMemory m other held := by
    have hanswer : (fromMemory other (.platform c)).run m =
        (Except.ok (replyOf pr files c), { m with calls := m.calls ++ [c] }) := held.answer_eq concerns
    rw [run_call, run, StateT.run_bind, hanswer]
    rfl
  overHttp past := by
    have hserves (u : List (Exchange Http.interface)) :
        Serves site.client pr files (answersAfter s past u) := reaches.serves (past ++ u.map passedOn)
    obtain ⟨t, ht, hcarry⟩ := play_answer_of_serves [] hserves reaches.bound concerns
    refine ⟨t.map passedOn, ?_, [t.map Exchange.request], ?_, .cons hcarry .nil⟩
    · have hanswer : play s past (site.answer (.platform c)) =
          (t.map passedOn, .ok (replyOf pr files c)) := by
        have hplay := @play_run_http s past _ (site.client.answer c) []
        rw [ht, List.map_nil, List.append_nil] at hplay
        exact hplay
      rw [play_carryOut_eq_iff, run_call, run, play_bind, hanswer]
      simp [run, play, Except.mapError]
    · rw [httpRequests_map_passedOn]
      simp

/-- A call about the pull request has the same reply at every site that holds it. -/
theorem call_bind {c : Platform.Call} {f : c.Result → Action β} (reaches : Reaches site s pr files)
    (concerns : Concerns pr c) (hf : ComesTo site s pr files (f (replyOf pr files c)) r calls) :
    ComesTo site s pr files (Bot.call c >>= f) r (c :: calls) := (call reaches concerns).bind hf

/-- What follows an entry of the log is the same at every site if it is so without the entry. -/
theorem log_bind {e : Log.Event} {f : Unit → Action β} (hf : ComesTo site s pr files (f ()) r calls) :
    ComesTo site s pr files (Bot.log e >>= f) r calls := (log e).bind hf

/-- What follows a value that is known is the same at every site if it is so for the value. -/
theorem orFail_bind {y : Except BotError α} (h : y = .ok a) (hf : ComesTo site s pr files (f a) r calls) :
    ComesTo site s pr files (orFail y >>= f) r calls := by
  subst h
  exact (pure a).bind hf

end ComesTo

/-! ## The parts -/

/-- The calls of an evaluation: the pull request is fetched, and a request is taken up. -/
def evaluationCalls (settings : StatusSettings) (reaction : Reaction) (c : Comment) (e : Evaluation) :
    List Platform.Call :=
  fetchCall c ::
    if e.verdict = .triggered then
      [reactionCall reaction c, statusCall e.pullRequest (pendingStatus settings)]
    else []

/-- The calls of a report: there is one if there is something to report. -/
def reportCalls (settings : StatusSettings) (repository sha : String) (verdict : Verdict) (outcome : Outcome) :
    List Platform.Call :=
  (FinalStatus.aggregate verdict outcome).toList.map fun final =>
    .setStatus repository sha ⟨final.state, settings.context, final.description, settings.targetUrl⟩

/-- A comment is evaluated, its pull request is routed, and an outcome is reported for its head commit. -/
def allParts (policy : TriggerPolicy) (patterns : DomainPatterns) (settings : StatusSettings)
    (reaction : Reaction) (c : Comment) (verdict : Verdict) (outcome : Outcome) :
    Action (Evaluation × DomainFlags × Option CommitState) := do
  let e ← evaluate policy settings reaction c
  let flags ← route patterns e.pullRequest
  let state ← report settings e.pullRequest.repository e.pullRequest.headSha verdict outcome
  pure (e, flags, state)

/-- A comment may start a run for a pull request. -/
structure StartsRun (c : Comment) (pr : PullRequest) : Prop where
  applicable : c.applicable = .ok ()
  repository : c.repository = pr.repository
  number : c.issueNumber = pr.number

/-- The parts of the bot do not show whether the platform is reached over HTTP or held in memory. -/
structure Interchangeable (site : Site) (s : Surroundings Console.interface) (pr : PullRequest)
    (files : ChangedFiles) : Prop where
  evaluation (policy : TriggerPolicy) (settings : StatusSettings) (reaction : Reaction) {c : Comment}
    (starts : StartsRun c pr) :
    ComesTo site s pr files (evaluate policy settings reaction c) (.ok (.ofComment policy c pr))
      (evaluationCalls settings reaction c (.ofComment policy c pr))
  routing (patterns : DomainPatterns) :
    ComesTo site s pr files (route patterns pr) (.ok (patterns.classify files)) [listCall pr]
  reporting (settings : StatusSettings) (repository sha : String) (verdict : Verdict) (outcome : Outcome) :
    ComesTo site s pr files (report settings repository sha verdict outcome)
      (.ok ((FinalStatus.aggregate verdict outcome).map FinalStatus.state))
      (reportCalls settings repository sha verdict outcome)
  /-- Neither do all three of them in a row. -/
  inOrder (policy : TriggerPolicy) (patterns : DomainPatterns) (settings : StatusSettings)
    (reaction : Reaction) {c : Comment} (starts : StartsRun c pr) (verdict : Verdict) (outcome : Outcome) :
    ComesTo site s pr files (allParts policy patterns settings reaction c verdict outcome)
      (.ok (.ofComment policy c pr, patterns.classify files,
        (FinalStatus.aggregate verdict outcome).map FinalStatus.state))
      (evaluationCalls settings reaction c (.ofComment policy c pr) ++ listCall pr ::
        reportCalls settings pr.repository pr.headSha verdict outcome)

section
variable {site : Site} {s : Surroundings Console.interface} {pr : PullRequest} {files : ChangedFiles}

/-- A comment is decided about in the same way at every site that holds the pull request. -/
theorem comesTo_assess (reaches : Reaches site s pr files) (policy : TriggerPolicy) {c : Comment}
    (starts : StartsRun c pr) :
    ComesTo site s pr files (assess policy c) (.ok (.ofComment policy c pr)) [fetchCall c] := by
  refine .orFail_bind starts.applicable ?_
  refine .call_bind reaches ⟨starts.repository, starts.number⟩ (.log_bind ?_)
  split
  · exact .log_bind (.pure _)
  · exact .pure _

/-- A request is taken up by a reaction and a pending status. -/
theorem comesTo_acknowledge (reaches : Reaches site s pr files) (settings : StatusSettings) (reaction : Reaction)
    (c : Comment) (e : Evaluation) :
    ComesTo site s pr files (acknowledge settings reaction c e) (.ok ())
      [reactionCall reaction c, statusCall e.pullRequest (pendingStatus settings)] := by
  refine .call_bind reaches ?_ (.call_bind reaches ?_ (.pure ()))
  · trivial
  · trivial

/-- A comment is evaluated in the same way at every site that holds the pull request. -/
theorem comesTo_evaluate (reaches : Reaches site s pr files) (policy : TriggerPolicy)
    (settings : StatusSettings) (reaction : Reaction) {c : Comment} (starts : StartsRun c pr) :
    ComesTo site s pr files (evaluate policy settings reaction c) (.ok (.ofComment policy c pr))
      (evaluationCalls settings reaction c (.ofComment policy c pr)) := by
  have hassess := comesTo_assess reaches policy starts
  generalize Evaluation.ofComment policy c pr = e at hassess ⊢
  by_cases htriggered : e.verdict = .triggered
  · rw [evaluationCalls, if_pos htriggered]
    refine .bind hassess ?_
    simp only [if_pos htriggered]
    exact .map _ (comesTo_acknowledge reaches settings reaction c e)
  · rw [evaluationCalls, if_neg htriggered]
    refine .bind hassess ?_
    simp only [if_neg htriggered]
    exact .pure e

/-- The changed files are classified in the same way at every site that holds them. -/
theorem comesTo_route (reaches : Reaches site s pr files) (patterns : DomainPatterns) :
    ComesTo site s pr files (route patterns pr) (.ok (patterns.classify files)) [listCall pr] := by
  refine .call_bind reaches ⟨rfl, rfl⟩ ?_
  exact .log_bind (.pure _)

/-- A final status is reported in the same way at every site. -/
theorem comesTo_report (reaches : Reaches site s pr files) (settings : StatusSettings) (repository sha : String)
    (verdict : Verdict) (outcome : Outcome) :
    ComesTo site s pr files (report settings repository sha verdict outcome)
      (.ok ((FinalStatus.aggregate verdict outcome).map FinalStatus.state))
      (reportCalls settings repository sha verdict outcome) := by
  rw [report, reportCalls]
  cases FinalStatus.aggregate verdict outcome with
  | none => exact .log_bind (.pure _)
  | some final =>
    refine .call_bind reaches ?_ (.log_bind (.pure _))
    trivial

/-- A client is as good as a platform in memory, as long as its server holds the pull request that the memory
holds. -/
theorem interchangeable (reaches : Reaches site s pr files) : Interchangeable site s pr files where
  evaluation policy settings reaction _ starts := comesTo_evaluate reaches policy settings reaction starts
  routing := comesTo_route reaches
  reporting := comesTo_report reaches
  inOrder policy patterns settings reaction _ starts verdict outcome := by
    refine .bind (comesTo_evaluate reaches policy settings reaction starts) ?_
    have hroute := comesTo_route reaches patterns
    refine hroute.bind (.map _ ?_)
    exact comesTo_report reaches settings pr.repository pr.headSha verdict outcome

end

/-! ## A server for examples -/

/-- One side of a pull request as an object. -/
def branchObject (ref sha repository : String) : Json :=
  .object [("ref", .string ref), ("sha", .string sha), ("repo", .object [("full_name", .string repository)])]

/-- A pull request as an object that says no more than where it stands. -/
def pullObject (pr : PullRequest) : Json :=
  .object [("number", .word pr.number),
    ("head", branchObject pr.headRef pr.headSha pr.headRepository),
    ("base", branchObject pr.baseRef pr.baseSha pr.repository)]

/-- An object with a ref, a commit and a repository is a side of a pull request. -/
theorem isBranch_branchObject (ref sha repository : String) :
    IsBranch ⟨ref, sha, some repository⟩ (.ofJson (branchObject ref sha repository)) :=
  ⟨_, by rw [branchObject, Json.Doc.ofJson], rfl, rfl, _, rfl, rfl⟩

/-- An object with a number and two sides is a pull request. -/
theorem isPullRequest_pullObject (pr : PullRequest) : IsPullRequest pr (.ofJson (pullObject pr)) :=
  ⟨_, _, _, some pr.headRepository, some pr.repository, by rw [pullObject, Json.Doc.ofJson], rfl, rfl,
    isBranch_branchObject _ _ _, rfl, rfl, isBranch_branchObject _ _ _⟩

/-- The answer that says where a pull request stands. -/
def pullAnswer (pr : PullRequest) : Http.Response := ⟨200, (pullObject pr).compact.toUTF8⟩

/-- The example answer delivers the pull request. -/
theorem delivers_pullAnswer (pr : PullRequest) : Delivers (IsPullRequest pr) (.ok (pullAnswer pr)) :=
  ⟨_, _, _, rfl, ⟨Nat.le_refl 200, show 200 < 300 by decide⟩, rfl, Json.spells_compact _,
    isPullRequest_pullObject pr⟩

/-- A server that holds the pull request and the files of the examples. -/
def exampleHost (q : Http.Request) : Except String Http.Response :=
  if q.method = .post then .ok ⟨201, .empty⟩
  else if q.url = (fileRequest exampleClient "octo/demo" 7 1).url then
    .ok (plainPage Run.exampleFiles.paths)
  else .ok (pullAnswer Run.examplePull)

/-- Surroundings of a command that reach this server. -/
def exampleConsole : Surroundings Console.interface
  | _, .http q => exampleHost q
  | _, .git _ _ => .error .notFound
  | _, .command _ _ => .notStarted .notFound
  | _, .cancelled _ => false
  | _, .log _ => ()
  | _, .readText _ => .error .notFound
  | _, .appendText _ _ => .ok ()
  | _, .print _ => ()
  | _, .clock => (0 : Nat)
  | _, .freshName => "1"

/-- The example server holds the example pull request. -/
theorem serves_exampleHost : Serves exampleClient Run.examplePull Run.exampleFiles exampleHost where
  pullRequest := by
    have hurl : (exampleClient.fetchRequest Run.examplePull.repository Run.examplePull.number).url ≠
        (fileRequest exampleClient "octo/demo" 7 1).url := by decide +kernel
    rw [exampleHost, if_neg (by simp [Client.fetchRequest]), if_neg hurl]
    exact delivers_pullAnswer _
  pages i hi := by
    obtain rfl : i = 0 := Nat.le_zero.1 hi
    exact servesPage_plainPage _
  accepts q hq := by
    rw [exampleHost, if_pos hq]
    exact ⟨_, rfl, by decide, by decide⟩

/-- The server is as good as a memory in which the same pull request is registered, on which a comment may start
a run. -/
theorem interchangeable_exampleConsole :
    Interchangeable ⟨exampleClient, ".", none⟩ exampleConsole Run.examplePull Run.exampleFiles ∧
      (({} : Platform.Memory).register Run.examplePull Run.exampleFiles).Registers Run.examplePull
        Run.exampleFiles ∧
      StartsRun Run.exampleComment Run.examplePull :=
  ⟨interchangeable ⟨by decide, fun _ => serves_exampleHost⟩, Platform.Memory.registers_register rfl,
    ⟨rfl, rfl, rfl⟩⟩

end Autoformat
