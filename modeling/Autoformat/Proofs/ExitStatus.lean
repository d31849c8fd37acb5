import Autoformat.Proofs.Answers
import Autoformat.Proofs.FinalStatus
import Autoformat.Proofs.Recorded
import Autoformat.Proofs.Trust

/-!
# What exit codes and step outputs tell

Later jobs are gated on how the commands `evaluate` and `run` end. `TellsTruth` says what their exit codes
and step outputs mean, in terms of what the server answered: a command without a configuration, a usable
token or a readable event fails and touches nothing (`Idle`), and otherwise an exit code of zero stands for
just the cases in which there was nothing to do or all that was asked for was done.
-/

namespace Autoformat.CommandLine

open Program Rest Run

variable {env : Environment} {i : Invocation} {s : Settings} {config : Config} {client : Client} {c : Comment}
  {pr : PullRequest} {t : List (Exchange Console.interface)} {exit : Exit}

/-! ## What a command was told -/

/-- The file from which a task learns of a comment. -/
def Task.event? : Task → Option String
  | .evaluate event => some event
  | .run event _ _ _ _ => some event
  | .route _ => none
  | .report _ _ _ => none

/-- What the configuration file holds, if one is named: it is the first file that a command reads. -/
def configFile (s : Settings) (t : List (Exchange Console.interface)) : Option (Except FileError String) :=
  s.config.bind fun _ => (filesRead t).head?.map Prod.snd

/-- The file of the event, which is the next one that a command reads, announces the comment. -/
def Announces (s : Settings) (t : List (Exchange Console.interface)) (event : String) (c : Comment) : Prop :=
  ∃ x, (filesRead t)[s.config.toList.length]? = some (event, x) ∧ commentOf x = .ok c

/-- The command fails and has touched nothing: it has neither sent a request nor run git or a formatter. -/
structure Idle (t : List (Exchange Console.interface)) (exit : Exit) : Prop where
  failed : exit.code ≠ 0
  untouched : outwards t = []

/-! ## The truth -/

/-- What the end of an evaluation tells. -/
structure TellsEvaluation (s : Settings) (config : Config) (client : Client) (c : Comment)
    (t : List (Exchange Console.interface)) (exit : Exit) : Prop where
  /-- Where the outputs can be written, zero says that there is nothing against the comment. -/
  success (written : ∀ a ∈ appends t, a.answer = .ok ()) : exit.code = 0 ↔ ¬IsNewOnPull c ∨
    ∃ pr, Trusts config client c pr t ∧
      (Requests config.trigger c.body → Acknowledged s config client c pr t)
  /-- Outputs are put out at most once, and those that ask for a run stand for an acknowledged request. -/
  outputs : ∃ outputs : Option (List StepOutput),
    (appends t).map Append.entry = outputs.toList.flatMap (placed s) ∧
      ((∃ os ∈ outputs, ⟨"should_run", "true"⟩ ∈ os) ↔ ∃ pr, Trusts config client c pr t ∧
        Requests config.trigger c.body ∧ Acknowledged s config client c pr t) ∧
      ∀ pr, Fetched client c pr t → c.association ∉ config.trigger.trustedRoles →
        exit.code ≠ 0 ∧ ∃ os ∈ outputs, ⟨"authorized", "false"⟩ ∈ os ∧ ⟨"should_run", "false"⟩ ∈ os

/-- What the end of a run tells: zero says that there was nothing to do, or that a trusted commenter either asked
for nothing or got a run in which no job failed or was cancelled, unless that is tolerated, and whose success was
accepted in the end. -/
def TellsRun (s : Settings) (config : Config) (client : Client) (c : Comment) (workdir remote : String)
    (push mergeBase : Bool) (t : List (Exchange Console.interface)) (exit : Exit) : Prop :=
  ∃ name u r, (∀ given, s.runId = some given → name = given) ∧
    Bot.Ends (Run.run config (optionsOf s c remote push mergeBase name) c) u r ∧
    Carries ⟨client, workdir, some ⟨name, c.issueNumber⟩⟩ u t ∧
    (exit.code = 0 ↔ ¬IsNewOnPull c ∨ ∃ pr, Trusts config client c pr t ∧
      (¬Requests config.trigger c.body ∨
        (∀ x ∈ slots u, ¬((x.2.result = .failed ∨ x.2.result = .cancelled) ∧ x.2.tolerated = false)) ∧
          Concludes client pr
            ⟨.success, config.status.context, "Autoformat succeeded", runLink s c.repository⟩ t))

/-- What the end of a command tells. -/
structure TellsTruth (env : Environment) (i : Invocation) (t : List (Exchange Console.interface))
    (exit : Exit) : Prop where
  /-- The configuration is read from the file that was named, before any other. -/
  configured (path : String) (h : i.settings.config = some path) :
    (filesRead t)[0]?.map Prod.fst = some path
  /-- The event is read from the file that was named, once there are a configuration and a client. -/
  consulted (event : String) (config : Config) (client : Client) (task : i.task.event? = some event)
    (loaded : Config.load (configFile i.settings t) env = .ok config) (usable : Usable i.settings client) :
    (filesRead t)[i.settings.config.toList.length]?.map Prod.fst = some event
  unloaded (h : ∀ config, Config.load (configFile i.settings t) env ≠ .ok config) : Idle t exit
  unequipped (h : ∀ token, i.settings.token = some token →
    Text.trim token = "" ∨ Http.isHeaderValue (Text.trim token) = false) : Idle t exit
  unread (event : String) (task : i.task.event? = some event)
    (h : ∀ c, ¬Announces i.settings t event c) : Idle t exit
  /-- The server is asked about the comment that was read. -/
  inquiries (event : String) (config : Config) (client : Client) (c : Comment)
    (task : i.task.event? = some event)
    (loaded : Config.load (configFile i.settings t) env = .ok config)
    (usable : Usable i.settings client) (announced : Announces i.settings t event c) :
    Inquires i.settings config client c t
  evaluation (event : String) (config : Config) (client : Client) (c : Comment)
    (task : i.task = .evaluate event)
    (loaded : Config.load (configFile i.settings t) env = .ok config)
    (usable : Usable i.settings client) (announced : Announces i.settings t event c) :
    TellsEvaluation i.settings config client c t exit
  run (event workdir remote : String) (push mergeBase : Bool) (config : Config) (client : Client)
    (c : Comment) (task : i.task = .run event workdir remote push mergeBase)
    (loaded : Config.load (configFile i.settings t) env = .ok config)
    (usable : Usable i.settings client) (announced : Announces i.settings t event c) :
    TellsRun i.settings config client c workdir remote push mergeBase t exit
  /-- A token that is there, not blank and a header value is usable. -/
  usable (token : String) (given : i.settings.token = some token) (blank : Text.trim token ≠ "")
    (header : Http.isHeaderValue (Text.trim token) = true) : ∃ client, Usable i.settings client

/-! ## What the files of a command hold -/

section
variable {file : Option (Except FileError String)} {u : List (Exchange Console.interface)}

/-- What a command knows as the content of its configuration file is what it has read. -/
theorem configFile_eq (hfile : file.isSome = s.config.isSome)
    (h : filesRead t = filesRead (reading s.config file ++ u)) : configFile s t = file := by
  rw [configFile, h]
  cases hpath : s.config with
  | none =>
    cases file with
    | none => rfl
    | some x => simp [hpath] at hfile
  | some path =>
    cases file with
    | none => simp [hpath] at hfile
    | some x => rfl

/-- The configuration is read before any other file. -/
theorem head_filesRead (hfile : file.isSome = s.config.isSome)
    (h : filesRead t = filesRead (reading s.config file ++ u)) (path : String) (hpath : s.config = some path) :
    (filesRead t)[0]?.map Prod.fst = some path := by
  rw [hpath] at hfile h
  obtain ⟨x, rfl⟩ := Option.isSome_iff_exists.1 hfile
  rw [h]
  rfl

/-- The file that comes after the configuration is the first one that the task itself reads. -/
theorem getElem?_filesRead (hfile : file.isSome = s.config.isSome)
    (h : filesRead t = filesRead (reading s.config file ++ u)) :
    (filesRead t)[s.config.toList.length]? = (filesRead u).head? := by
  rw [h, filesRead, gather_append]
  cases hpath : s.config with
  | none =>
    simp [reading, List.head?_eq_getElem?]
  | some path =>
    cases file with
    | none => simp [hpath] at hfile
    | some x => simp [reading, List.head?_eq_getElem?]

/-- The comment that a command knows is the one announced by the next file that it reads, if any. -/
theorem announces_iff {event : String} (hfile : file.isSome = s.config.isSome)
    (h : filesRead t = filesRead (reading s.config file ++ u)) :
    Announces s t event c ↔ ∃ x, (filesRead u).head? = some (event, x) ∧ commentOf x = .ok c := by
  rw [Announces, getElem?_filesRead hfile h]

end

/-! ## Evaluations -/

namespace Evaluated

variable {y : Except BotError Evaluation} (h : Evaluated s config client c t y)
include h

/-- An evaluation is no failure exactly when there is nothing against the comment. -/
theorem tolerable_iff : Tolerable y ↔ ¬IsNewOnPull c ∨
    ∃ pr, Trusts config client c pr t ∧
      (Requests config.trigger c.body → Acknowledged s config client c pr t) := by
  cases h with
  | inapplicable applicable fetched => simp [Tolerable, applicable]
  | notFetched applicable fetched => simp [Tolerable, applicable, Trusts, fetched]
  | @leftAlone pr applicable fetched verdict =>
    rw [Ne, verdict_triggered_iff, not_and] at verdict
    have htrusted : Tolerable (.ok (.ofComment config.trigger c pr)) ↔
        c.association ∈ config.trigger.trustedRoles := isAuthorized_iff
    simp only [htrusted, applicable, not_true_eq_false, false_or, Trusts, fetched]
    constructor
    · intro trusted
      exact ⟨pr, ⟨rfl, trusted⟩, fun requests => absurd requests (verdict trusted)⟩
    · rintro ⟨-, ⟨-, trusted⟩, -⟩
      exact trusted
  | @notAcknowledged pr e applicable fetched verdict refused =>
    have requests := (verdict_triggered_iff.1 verdict).2
    simp [Tolerable, applicable, Trusts, fetched, requests, refused]
  | @acknowledged pr applicable fetched verdict accepted =>
    have trusted := (verdict_triggered_iff.1 verdict).1
    simp only [Tolerable, Evaluation.ofComment, isAuthorized_iff, trusted, applicable,
      not_true_eq_false, false_or, true_iff]
    exact ⟨pr, ⟨(fetched pr).2 rfl, trusted⟩, fun _ => accepted⟩

/-- Outputs ask for a run exactly when a request of a trusted commenter was acknowledged. -/
theorem asks_iff : (∃ os ∈ outputsOf y, ⟨"should_run", "true"⟩ ∈ os) ↔
    ∃ pr, Trusts config client c pr t ∧ Requests config.trigger c.body ∧
      Acknowledged s config client c pr t := by
  have hasks {e : Evaluation} : ⟨"should_run", "true"⟩ ∈ e.outputs ↔ e.shouldRun = true := by
    cases hrun : e.shouldRun <;> cases hauth : e.authorized <;>
      simp [Evaluation.outputs, StepOutput.ofBool, hrun, hauth]
  cases h with
  | inapplicable applicable fetched => simp [outputsOf, StepOutput.ofBool, Trusts, fetched]
  | notFetched applicable fetched => simp [outputsOf, Trusts, fetched]
  | @leftAlone pr applicable fetched verdict =>
    rw [Ne, verdict_triggered_iff] at verdict
    simp only [outputsOf, Option.mem_def, Option.some.injEq, exists_eq_left', hasks,
      shouldRun_ofComment_iff, verdict, false_iff]
    rintro ⟨-, ⟨-, trusted⟩, requests, -⟩
    exact verdict ⟨trusted, requests⟩
  | @notAcknowledged pr e applicable fetched verdict refused =>
    simp [outputsOf, Trusts, fetched, refused]
  | @acknowledged pr applicable fetched verdict accepted =>
    obtain ⟨trusted, requests⟩ := verdict_triggered_iff.1 verdict
    simp [outputsOf, hasks, shouldRun_ofComment_iff, Trusts, fetched, trusted, requests, accepted]

/-- The comment of someone who is not trusted is put out as such. -/
theorem rejected (hfetched : Fetched client c pr t)
    (untrusted : c.association ∉ config.trigger.trustedRoles) : ¬Tolerable y ∧
      ∃ os ∈ outputsOf y, ⟨"authorized", "false"⟩ ∈ os ∧ ⟨"should_run", "false"⟩ ∈ os := by
  cases h with
  | inapplicable applicable fetched => exact absurd hfetched (fetched pr)
  | notFetched applicable fetched => exact absurd hfetched (fetched pr)
  | leftAlone applicable fetched verdict =>
    have hauth : config.trigger.isAuthorized c.association = false :=
      Bool.eq_false_iff.2 (mt isAuthorized_iff.1 untrusted)
    simp [Tolerable, outputsOf, Evaluation.outputs, Evaluation.ofComment, StepOutput.ofBool, hauth]
  | notAcknowledged applicable fetched verdict refused =>
    exact absurd (verdict_triggered_iff.1 verdict).1 untrusted
  | acknowledged applicable fetched verdict accepted =>
    exact absurd (verdict_triggered_iff.1 verdict).1 untrusted

end Evaluated

/-- The end of an evaluation tells how it went. -/
theorem tellsEvaluation_of_evaluated {y : Except BotError Evaluation}
    (evaluated : Evaluated s config client c t y)
    (entries : (appends t).map Append.entry = (outputsOf y).toList.flatMap (placed s))
    (code : exit.code = 0 ↔ Tolerable y ∧ ∀ a ∈ appends t, a.answer = .ok ()) :
    TellsEvaluation s config client c t exit where
  success written := by
    rw [code, and_iff_left written, evaluated.tolerable_iff]
  outputs := ⟨outputsOf y, entries, evaluated.asks_iff, fun pr fetched untrusted =>
    have hrejected := evaluated.rejected fetched untrusted
    ⟨fun hzero => hrejected.1 (code.1 hzero).1, hrejected.2⟩⟩

/-! ## Runs -/

/-- A run that was asked for blocks nothing exactly when no slot of it tells of a failure or a cancellation that is
not tolerated. -/
theorem blocking_eq_nil_iff_slots {options : RunOptions} {u v : Bot.Trace} {halt : Option Halt}
    {p : Progress} (conduct : Conduct config options c pr u halt p) (hv : Bot.collect entry? v = []) :
    p.outcome.blocking = [] ↔ ∀ x ∈ slots (requested config c pr u v),
      ¬((x.2.result = .failed ∨ x.2.result = .cancelled) ∧ x.2.tolerated = false) := by
  have hrecords := records_requested conduct hv
  rw [Outcome.blocking_eq_nil_iff_of_recordAll hrecords]
  simp only [← OutcomeEntry.isBlocking_iff, Bool.not_eq_true]
  simp [slots, Outcome.blocking]

/-- The end of a run tells how it went. -/
theorem tellsRun_of_carries {name workdir remote : String} {push mergeBase : Bool} {u : Bot.Trace}
    {y : Except BotError RunResult} (hname : ∀ given, s.runId = some given → name = given)
    (ended : Bot.Ends (Run.run config (optionsOf s c remote push mergeBase name) c) u y)
    (h : Carries ⟨client, workdir, some ⟨name, c.issueNumber⟩⟩ u t)
    (code : exit.code = 0 ↔ Successful y) :
    TellsRun s config client c workdir remote push mergeBase t exit := by
  refine ⟨name, u, y, hname, ended, h, ?_⟩
  rw [code]
  cases history_of_ends ended with
  | inapplicable applicable =>
    obtain ⟨hnew, reason, rfl⟩ := notApplicable_of_error applicable
    simp [Successful, BotError.isNotApplicable, hnew]
  | notFetched applicable =>
    have hfetched (pr : PullRequest) : ¬Fetched client c pr t := fun hfetched => by
      cases (fetched_iff_of_carries h ⟨[], rfl⟩).1 hfetched
    simp [Successful, BotError.isNotApplicable, applicable_eq_ok_iff.1 applicable, Trusts, hfetched]
  | rejected applicable verdict recorded =>
    have untrusted := verdict_rejected_iff.1 verdict
    simp [Successful, BotError.isNotApplicable, applicable_eq_ok_iff.1 applicable, Trusts, untrusted]
  | notTriggered applicable verdict =>
    have hfetched := fetched_iff_of_evaluated h
    obtain ⟨trusted, silent⟩ := verdict_notTriggered_iff.1 verdict
    simp [Successful, RunResult.succeeded, Trusts, hfetched, trusted, silent]
  | unreported applicable verdict conduct aggregated =>
    have hfetched := fetched_iff_of_requested h
    have requests := (verdict_triggered_iff.1 verdict).2
    simp [Successful, BotError.isNotApplicable, applicable_eq_ok_iff.1 applicable, Trusts, hfetched, requests,
      concludes_iff_of_requested h rfl]
  | @reported pr u halt p final applicable verdict conduct aggregated =>
    have hfetched := fetched_iff_of_requested h
    obtain ⟨trusted, requests⟩ := verdict_triggered_iff.1 verdict
    by_cases hfree : p.outcome.blocking = []
    · obtain rfl := Option.some.inj ((FinalStatus.aggregate_of_free hfree).symm.trans aggregated)
      have hconcludes := (concludes_iff_of_requested h rfl).2 ⟨rfl, rfl⟩
      refine iff_of_true rfl (.inr ⟨pr, ⟨(hfetched pr).2 rfl, trusted⟩, .inr ⟨?_, hconcludes⟩⟩)
      exact (blocking_eq_nil_iff_slots conduct rfl).1 hfree
    · obtain rfl := Option.some.inj ((FinalStatus.aggregate_of_blocked hfree).symm.trans aggregated)
      refine iff_of_false (by simp [Successful, RunResult.succeeded, finalPhase, FinalStatus.failed]) ?_
      rintro (hnew | ⟨pr', -, hnot | ⟨hnone, -⟩⟩)
      · exact hnew (applicable_eq_ok_iff.1 applicable)
      · exact hnot requests
      · exact hfree ((blocking_eq_nil_iff_slots conduct rfl).2 hnone)

/-! ## Whole commands -/

/-- What a task does with a comment, if it is about one. -/
def commentTask (s : Settings) (config : Config) (client : Client) : Task → Comment → Action Unit
  | .evaluate _ => evaluateComment s config client
  | .run _ workdir remote push mergeBase => runComment s config client workdir remote push mergeBase
  | .route _ => fun _ => pure ()
  | .report _ _ _ => fun _ => pure ()

/-- A task about a comment reads it first. -/
theorem performTask_eq {task : Task} {event : String} (h : task.event? = some event) :
    performTask s config client task = readComment event >>= commentTask s config client task := by
  cases task with
  | evaluate path =>
    obtain rfl := Option.some.inj h
    rfl
  | run path workdir remote push mergeBase =>
    obtain rfl := Option.some.inj h
    rfl
  | route pull => cases h
  | report sha verdict outcome => cases h

/-- A task about a comment reads it first, and has done nothing else if there is none. -/
theorem commentTask_of_ends {task : Task} {event : String} {r : Except Failure Unit}
    (htask : task.event? = some event) (h : Ends (performTask s config client task) t r) :
    ∃ x u, filesRead t = (event, x) :: filesRead u ∧ outwards t = outwards u ∧ appends t = appends u ∧
      ((∀ c, commentOf x ≠ .ok c) ∧ u = [] ∧ (∃ e, r = .error e) ∨
        ∃ c, commentOf x = .ok c ∧ Ends (commentTask s config client task c) u r) := by
  rw [performTask_eq htask] at h
  obtain ⟨x, u, rfl, hrest⟩ := ends_readComment_bind h
  exact ⟨x, u, by simp, by simp, by simp, hrest⟩

/-- Whatever a task does about a comment begins alike. -/
theorem inquires_of_ends {task : Task} {event : String} {u : List (Exchange Console.interface)}
    {r : Except Failure Unit} (htask : task.event? = some event) (houtwards : outwards t = outwards u)
    (h : Ends (commentTask s config client task c) u r) : Inquires s config client c t := by
  cases task with
  | evaluate path =>
    obtain ⟨w, y, ended, carries, -⟩ := ends_evaluateComment h
    exact inquires_of_begins (carries.congr houtwards)
      (begins_of_evaluationHistory (evaluationHistory_of_ends ended))
  | run path workdir remote push mergeBase =>
    obtain ⟨name, w, y, -, ended, carries, -⟩ := ends_runComment h
    exact inquires_of_begins (carries.congr houtwards) (begins_of_history (history_of_ends ended))
  | route pull => cases htask
  | report sha verdict outcome => cases htask

/-- A command that fails before it touches anything is idle. -/
theorem idle_of_error {u : List (Exchange Console.interface)} {r : Except Failure Unit}
    (houtwards : outwards t = outwards u) (hcode : exit.code = 0 ↔ r = .ok ()) (hu : outwards u = [])
    (hr : ∃ e, r = .error e) : Idle t exit := by
  obtain ⟨e, rfl⟩ := hr
  exact ⟨by simp [hcode], houtwards.trans hu⟩

/-- A command that cannot begin with its task is idle. -/
theorem tellsTruth_of_idle (hidle : Idle t exit)
    (configured : ∀ path, i.settings.config = some path → (filesRead t)[0]?.map Prod.fst = some path)
    (hfailed : (∀ config, Config.load (configFile i.settings t) env ≠ .ok config) ∨
      ∀ client, ¬Usable i.settings client) : TellsTruth env i t exit :=
  have hstuck {config : Config} {client : Client}
      (loaded : Config.load (configFile i.settings t) env = .ok config)
      (usable : Usable i.settings client) : False :=
    hfailed.elim (fun hload => hload config loaded) (fun hclient => hclient client usable)
  { configured := configured
    consulted := fun _ _ _ _ loaded usable => (hstuck loaded usable).elim
    inquiries := fun _ _ _ _ _ loaded usable _ => (hstuck loaded usable).elim
    unloaded := fun _ => hidle
    unequipped := fun _ => hidle
    unread := fun _ _ _ => hidle
    evaluation := fun _ _ _ _ _ loaded usable _ => (hstuck loaded usable).elim
    run := fun _ _ _ _ _ _ _ _ _ loaded usable _ => (hstuck loaded usable).elim
    usable := fun token given blank header => exists_usable_iff.2 ⟨token, given, blank, header⟩ }

section
variable {file : Option (Except FileError String)} {u : List (Exchange Console.interface)}
  {r : Except Failure Unit}

/-- A task about a comment goes on with the one that its file announces. -/
theorem announced_cases {task : Task} {event : String} (hfile : file.isSome = s.config.isSome)
    (hread : filesRead t = filesRead (reading s.config file ++ u)) (houtwards : outwards t = outwards u)
    (happends : appends t = appends u) (hcode : exit.code = 0 ↔ r = .ok ())
    (htask : task.event? = some event) (h : Ends (performTask s config client task) u r) :
    (filesRead t)[s.config.toList.length]?.map Prod.fst = some event ∧
      ((∀ c, ¬Announces s t event c) ∧ Idle t exit ∨
        ∃ c v, (∀ c', Announces s t event c' ↔ c' = c) ∧ outwards t = outwards v ∧ appends t = appends v ∧
          Ends (commentTask s config client task c) v r) := by
  obtain ⟨x, v, hfiles, hv, hv', hx⟩ := commentTask_of_ends htask h
  refine ⟨by rw [getElem?_filesRead hfile hread, hfiles]; rfl, ?_⟩
  have hannounces (c : Comment) : Announces s t event c ↔ commentOf x = .ok c := by
    rw [announces_iff hfile hread, hfiles]
    simp
  rcases hx with ⟨hnone, rfl, hr⟩ | ⟨c, hc, hends⟩
  · refine .inl ⟨fun c => ?_, idle_of_error houtwards hcode hv hr⟩
    rw [hannounces]
    exact hnone c
  · refine .inr ⟨c, v, fun c' => ?_, houtwards.trans hv, happends.trans hv', hends⟩
    rw [hannounces, hc, Except.ok.injEq, eq_comm]

/-- A command that begins with its task tells the truth by how the task goes. -/
theorem tellsTruth_of_ends (hfile : file.isSome = i.settings.config.isSome)
    (hread : filesRead t = filesRead (reading i.settings.config file ++ u))
    (houtwards : outwards t = outwards u) (happends : appends t = appends u)
    (hcode : exit.code = 0 ↔ r = .ok ()) (hload : Config.load file env = .ok config)
    (husable : Usable i.settings client) (h : Ends (performTask i.settings config client i.task) u r) :
    TellsTruth env i t exit := by
  have hconfig := configFile_eq hfile hread
  -- the file of the event announces one comment, or none
  have hcases {event : String} (htask : i.task.event? = some event) :=
    announced_cases hfile hread houtwards happends hcode htask h
  have htold {event : String} {config' : Config} {client' : Client} {c : Comment}
      (htask : i.task.event? = some event) (loaded : Config.load (configFile i.settings t) env = .ok config')
      (usable : Usable i.settings client') (announced : Announces i.settings t event c) :
      ∃ v, outwards t = outwards v ∧ appends t = appends v ∧
        Ends (commentTask i.settings config' client' i.task c) v r := by
    obtain rfl := Except.ok.inj ((hconfig ▸ loaded).symm.trans hload)
    obtain rfl := usable.unique husable
    rcases (hcases htask).2 with ⟨hnone, -⟩ | ⟨c', v, hann, hv, hv', hends⟩
    · exact absurd announced (hnone c)
    · obtain rfl := (hann c).1 announced
      exact ⟨v, hv, hv', hends⟩
  exact {
    configured := head_filesRead hfile hread
    consulted := fun _ _ _ task _ _ => (hcases task).1
    unloaded := fun hnone => absurd hload (hconfig ▸ hnone config)
    unequipped := by
      intro hnone
      obtain ⟨token, htoken, hblank, hheader⟩ := exists_usable_iff.1 ⟨client, husable⟩
      rcases hnone token htoken with hempty | hinvalid
      · exact absurd hempty hblank
      · exact absurd (hheader.symm.trans hinvalid) (by decide)
    unread := by
      intro event task hnone
      rcases (hcases task).2 with ⟨-, hidle⟩ | ⟨c, v, hann, -⟩
      · exact hidle
      · exact absurd ((hann c).2 rfl) (hnone c)
    inquiries := by
      intro event config' client' c task loaded usable announced
      obtain ⟨v, hv, -, hends⟩ := htold task loaded usable announced
      exact inquires_of_ends task hv hends
    evaluation := by
      intro event config' client' c task loaded usable announced
      obtain ⟨v, hv, hv', hends⟩ := htold (by rw [task]; rfl) loaded usable announced
      rw [task] at hends
      obtain ⟨w, y, ended, carries, entries, hr⟩ := ends_evaluateComment hends
      rw [← hv'] at entries hr
      exact tellsEvaluation_of_evaluated
        (evaluated_of_carries (carries.congr hv) (evaluationHistory_of_ends ended)) entries
        (hcode.trans hr)
    run := by
      intro event workdir remote push mergeBase config' client' c task loaded usable announced
      obtain ⟨v, hv, -, hends⟩ := htold (by rw [task]; rfl) loaded usable announced
      rw [task] at hends
      obtain ⟨name, w, y, hname, ended, carries, hr⟩ := ends_runComment hends
      exact tellsRun_of_carries hname ended (carries.congr hv) (hcode.trans hr)
    usable := fun token given blank header => exists_usable_iff.2 ⟨token, given, blank, header⟩ }

end

/-- A command line that evaluates a comment. -/
def exampleArguments : List String :=
  ["evaluate", "--event", "event.json", "--config", "config.json", "--token", "secret", "--output", "outputs"]

/-- What it asks for when the environment is empty. -/
def exampleInvocation : Invocation where
  settings := {
    verbose := false
    json := false
    config := some "config.json"
    token := some "secret"
    repository := none
    apiUrl := "https://api.github.com"
    serverUrl := "https://github.com"
    runId := none
    output := some "outputs" }
  task := .evaluate "event.json"

/-- The payload of the example comment. -/
def exampleEvent : String :=
  "\x7b\"action\":\"created\",\"comment\":\x7b\"id\":41,\"body\":\"@mlflow-automation autoformat\"," ++
    "\"user\":\x7b\"login\":\"maintainer\"\x7d,\"author_association\":\"MEMBER\"\x7d," ++
    "\"issue\":\x7b\"number\":7,\"pull_request\":\x7b\x7d\x7d,\"repository\":\x7b\"full_name\":\"octo/demo\"\x7d\x7d"

/-- Surroundings with this payload and a configuration that says nothing. -/
def exampleDesk : Surroundings Console.interface
  | _, .readText "config.json" => .ok "\x7b\x7d"
  | _, .readText "event.json" => .ok exampleEvent
  | past, q => exampleConsole past q

/-- The evaluation of the comment of a member who asks for a run. -/
def exampleCommand : List (Exchange Console.interface) × Exit :=
  play exampleDesk [] (start (fun _ => none) exampleArguments)

/-- It reads both files, makes a request for each call of the evaluation, and succeeds. -/
theorem exampleCommand_reads :
    filesRead exampleCommand.1 = [("config.json", .ok "\x7b\x7d"), ("event.json", .ok exampleEvent)] ∧
      (webExchanges exampleCommand.1).length = 3 ∧ exampleCommand.2.code = 0 := by
  decide +kernel

end Autoformat.CommandLine
