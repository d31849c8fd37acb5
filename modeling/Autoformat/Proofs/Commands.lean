import Autoformat.CommandLine.Basic
import Autoformat.Proofs.Carrying

/-!
# How commands end

`CommandLine.Ends x t r` says that a part of a command ends with a result after the given exchanges. Every
task begins with its configuration and a client (`Setup`), and a task about a comment reads the comment
next. What is left of the evaluation of a comment and of a run is one part of the bot, carried out at a
site, and what the command makes of its result: `ends_evaluateComment` and `ends_runComment`.

Three things are read off the exchanges of a command: the files that it reads (`filesRead`), the texts that
it puts at the end of files (`appends`), and all that reaches the server, git and the formatters
(`outwards`).
-/

namespace Autoformat.CommandLine

open Program

variable {α β : Type} {t u : List (Exchange Console.interface)}

/-- A part of a command ends with a result after the given exchanges. -/
def Ends (x : Action α) (t : List (Exchange Console.interface)) (r : Except Failure α) : Prop :=
  Runs x.run t r

/-! ## What the exchanges of a command show -/

/-- A text that is put at the end of a file, and how that goes. -/
structure Append where
  path : String
  text : String
  answer : Except AppendFault Unit

/-- The file and the text, whether or not the file takes it. -/
def Append.entry (a : Append) : String × String := (a.path, a.text)

/-- The file that an exchange reads, and what it holds. -/
@[simp]
def fileRead? : Exchange Console.interface → Option (String × Except FileError String)
  | ⟨.readText path, x⟩ => some (path, x)
  | ⟨.http _, _⟩ => none
  | ⟨.git _ _, _⟩ => none
  | ⟨.command _ _, _⟩ => none
  | ⟨.cancelled _, _⟩ => none
  | ⟨.log _, _⟩ => none
  | ⟨.appendText _ _, _⟩ => none
  | ⟨.print _, _⟩ => none
  | ⟨.clock, _⟩ => none
  | ⟨.freshName, _⟩ => none

/-- The text that an exchange puts at the end of a file. -/
@[simp]
def append? : Exchange Console.interface → Option Append
  | ⟨.appendText path text, x⟩ => some ⟨path, text, x⟩
  | ⟨.http _, _⟩ => none
  | ⟨.git _ _, _⟩ => none
  | ⟨.command _ _, _⟩ => none
  | ⟨.cancelled _, _⟩ => none
  | ⟨.log _, _⟩ => none
  | ⟨.readText _, _⟩ => none
  | ⟨.print _, _⟩ => none
  | ⟨.clock, _⟩ => none
  | ⟨.freshName, _⟩ => none

/-- An exchange with what lies outside of the command: the server, git, a formatter, or whoever cancels the
run. -/
@[simp]
def outward? : Exchange Console.interface → Option (Exchange Console.interface)
  | ⟨.http q, x⟩ => some ⟨.http q, x⟩
  | ⟨.git directory args, x⟩ => some ⟨.git directory args, x⟩
  | ⟨.command directory c, x⟩ => some ⟨.command directory c, x⟩
  | ⟨.cancelled at_, x⟩ => some ⟨.cancelled at_, x⟩
  | ⟨.log _, _⟩ => none
  | ⟨.readText _, _⟩ => none
  | ⟨.appendText _ _, _⟩ => none
  | ⟨.print _, _⟩ => none
  | ⟨.clock, _⟩ => none
  | ⟨.freshName, _⟩ => none

/-- The files that a command reads, and what they hold, in order. -/
abbrev filesRead : List (Exchange Console.interface) → List (String × Except FileError String) :=
  gather fileRead?

/-- The texts that a command puts at the end of files, in order. -/
abbrev appends : List (Exchange Console.interface) → List Append := gather append?

/-- The exchanges of a command with what lies outside of it, in order. -/
abbrev outwards : List (Exchange Console.interface) → List (Exchange Console.interface) := gather outward?

/-- All that a command asks of the server lies outside of it. -/
theorem webExchanges_outwards : webExchanges (outwards t) = webExchanges t := by
  show (t.filterMap outward?).filterMap webExchange? = t.filterMap webExchange?
  rw [List.filterMap_filterMap]
  refine List.filterMap_congr fun e _ => ?_
  obtain ⟨q, x⟩ := e
  cases q <;> rfl

/-- A command carries out a part of the bot: all that it asks outside of itself belongs to that part. -/
def Carries (site : Site) (u : Bot.Trace) (t : List (Exchange Console.interface)) : Prop :=
  ∃ v, CarriedOut site.answer u v ∧ outwards t = outwards v

/-- The requests of a part of the bot carry its calls of the platform. -/
theorem Carries.web {site : Site} {u : Bot.Trace} (h : Carries site u t) :
    CarriedOut site.client.answer (Bot.platformExchanges u) (webExchanges t) := by
  obtain ⟨v, hcarried, houtwards⟩ := h
  rw [← webExchanges_outwards, houtwards, webExchanges_outwards]
  exact carriedOut_web hcarried

/-- A part of the bot is carried out by all that shows the same on the outside. -/
theorem Carries.congr {site : Site} {u : Bot.Trace} {t' : List (Exchange Console.interface)}
    (h : Carries site u t) (houtwards : outwards t' = outwards t) : Carries site u t' := by
  obtain ⟨v, hcarried, hv⟩ := h
  exact ⟨v, hcarried, houtwards.trans hv⟩

/-- All that a site does lies outside of the command, but for the log. -/
theorem outward_or_log_of_mem {site : Site} {u : Bot.Trace} (h : CarriedOut site.answer u t)
    {e : Exchange Console.interface} (he : e ∈ t) :
    outward? e = some e ∨ ∃ entry, e = ⟨.log entry, ()⟩ := by
  obtain ⟨⟨q, x⟩, -, v, hv, hmem⟩ := h.exists_of_mem he
  cases q with
  | platform call =>
    obtain ⟨w, -, hcarried⟩ := runs_run_iff.1 hv
    rw [carriedOut_request_iff.1 hcarried] at hmem
    obtain ⟨y, -, rfl⟩ := List.mem_map.1 hmem
    exact .inl rfl
  | git args =>
    rw [runs_request_iff.1 hv, List.mem_singleton] at hmem
    exact .inl (hmem ▸ rfl)
  | command c =>
    rw [runs_request_iff.1 hv, List.mem_singleton] at hmem
    exact .inl (hmem ▸ rfl)
  | cancelled at_ =>
    rw [runs_request_iff.1 hv, List.mem_singleton] at hmem
    exact .inl (hmem ▸ rfl)
  | log event =>
    rw [runs_request_iff.1 hv, List.mem_singleton] at hmem
    exact .inr ⟨_, hmem⟩

/-- No part of the bot writes to the file for outputs. -/
theorem appends_of_carriedOut {site : Site} {u : Bot.Trace} (h : CarriedOut site.answer u t) :
    appends t = [] := by
  refine List.filterMap_eq_nil_iff.2 fun e he => ?_
  rcases outward_or_log_of_mem h he with houtward | ⟨entry, rfl⟩
  · obtain ⟨q, x⟩ := e
    cases q <;> first | rfl | cases houtward
  · rfl

/-! ## Commands from their front -/

@[simp]
theorem ends_pure_iff {a : α} {r : Except Failure α} : Ends (pure a) t r ↔ t = [] ∧ r = .ok a := by
  simp [Ends]

@[simp]
theorem ends_throw_iff {e : Failure} {r : Except Failure α} :
    Ends (throw e) t r ↔ t = [] ∧ r = .error e := by
  simp [Ends]

/-- A command goes on after a part that succeeds, and ends with one that fails. -/
theorem ends_bind_iff {x : Action α} {f : α → Action β} {r : Except Failure β} :
    Ends (x >>= f) t r ↔ (∃ e, r = .error e ∧ Ends x t (.error e)) ∨
      ∃ u v a, t = u ++ v ∧ Ends x u (.ok a) ∧ Ends (f a) v r :=
  runs_exceptT_bind_iff

/-- A question is one exchange, and its answer decides how the command goes on. -/
theorem ends_ask_bind_iff {q : Console.Request} {f : Console.Answer q → Action β} {r : Except Failure β} :
    Ends (ask q >>= f) t r ↔ ∃ x u, t = ⟨q, x⟩ :: u ∧ Ends (f x) u r := by
  simp [Ends, ask, Program.request, ExceptT.run_bind]

/-- A part of the bot that is carried out leaves its result to the command. -/
theorem ends_carryOut_bind_iff {site : Site} {x : Bot.Action α} {f : Except BotError α → Action β}
    {r : Except Failure β} :
    Ends (site.carryOut x >>= f) t r ↔
      ∃ u v w y, t = v ++ w ∧ Bot.Ends x u y ∧ CarriedOut site.answer u v ∧ Ends (f y) w r := by
  simp only [Ends, Site.carryOut, ExceptT.run_bind, ExceptT.run_lift, map_eq_pure_bind, bind_assoc,
    pure_eq, done_bind, runs_bind_iff, runs_run_iff, Bot.Ends]
  constructor
  · rintro ⟨v, w, y, rfl, ⟨u, hu, hcarried⟩, hf⟩
    exact ⟨u, v, w, y, rfl, hu, hcarried, hf⟩
  · rintro ⟨u, v, w, y, rfl, hu, hcarried, hf⟩
    exact ⟨v, w, y, rfl, ⟨u, hu, hcarried⟩, hf⟩

/-- An error of the bot ends the command, under a headline. -/
theorem ends_orFail_bind_iff {headline : String} {x : Except BotError α} {f : α → Action β}
    {r : Except Failure β} :
    Ends (orFail headline x >>= f) t r ↔
      (∃ e, x = .error e ∧ t = [] ∧ r = .error ⟨headline, e.causes⟩) ∨
        ∃ a, x = .ok a ∧ Ends (f a) t r := by
  cases x <;> simp [Ends, orFail, failWith]

/-- A value that is missing ends the command. -/
theorem ends_require_bind_iff {headline : String} {x : Option α} {f : α → Action β}
    {r : Except Failure β} :
    Ends (require headline x >>= f) t r ↔
      (x = none ∧ t = [] ∧ r = .error ⟨headline, []⟩) ∨ ∃ a, x = some a ∧ Ends (f a) t r := by
  cases x <;> simp [Ends, require]

/-! ## Before a task -/

/-- The exchange in which a file is read, if one is named. -/
def reading (path : Option String) (file : Option (Except FileError String)) :
    List (Exchange Console.interface) :=
  match path, file with
  | some path, some x => [⟨.readText path, x⟩]
  | _, _ => []

/-- That a file was read is not shown by what shows no files. -/
theorem gather_reading_append {f : Exchange Console.interface → Option β}
    (hread : ∀ path x, f ⟨.readText path, x⟩ = none) {path : Option String}
    {file : Option (Except FileError String)} : gather f (reading path file ++ u) = gather f u := by
  cases path with
  | none => rfl
  | some path =>
    cases file with
    | none => rfl
    | some x => exact List.filterMap_cons_none (hread path x)

/-- A command goes on with its configuration, and has done nothing else if there is none. -/
theorem ends_loadConfig_bind {env : Environment} {path : Option String} {f : Config → Action β}
    {r : Except Failure β} (h : Ends (loadConfig env path >>= f) t r) :
    ∃ file u, file.isSome = path.isSome ∧ t = reading path file ++ u ∧
      ((∀ config, Config.load file env ≠ .ok config) ∧ u = [] ∧ (∃ e, r = .error e) ∨
        ∃ config, Config.load file env = .ok config ∧ Ends (f config) u r) := by
  have hloaded {file : Option (Except FileError String)} {u : List (Exchange Console.interface)}
      (hu : Ends (orFail "Failed to load autoformat configuration" (Config.load file env) >>= f) u r) :
      (∀ config, Config.load file env ≠ .ok config) ∧ u = [] ∧ (∃ e, r = .error e) ∨
        ∃ config, Config.load file env = .ok config ∧ Ends (f config) u r := by
    rcases ends_orFail_bind_iff.1 hu with ⟨e, hload, rfl, rfl⟩ | hload
    · exact .inl ⟨by simp [hload], rfl, _, rfl⟩
    · exact .inr hload
  cases path with
  | none => exact ⟨none, t, rfl, rfl, hloaded (by simpa [loadConfig] using h)⟩
  | some path =>
    change Ends (ask (.readText path) >>= fun x : Except FileError String =>
      orFail "Failed to load autoformat configuration" (Config.load (some x) env) >>= f) t r at h
    obtain ⟨x, u, rfl, hu⟩ := ends_ask_bind_iff.1 h
    exact ⟨some x, u, rfl, rfl, hloaded hu⟩

/-- The client that sends a token to an address. -/
def clientFor (apiUrl token : String) : Rest.Client where
  apiBase := Text.dropTrailing '/' apiUrl
  headers := [
    ("accept", "application/vnd.github+json"),
    ("authorization", "Bearer " ++ token),
    ("user-agent", "autoformat-bot/0.1.0"),
    ("x-github-api-version", "2022-11-28")]
  timeoutMs := 30000

/-- The settings have a token with which the platform can be reached, by this client: what is left of the token
without the blanks around it is not empty, and can be the value of a header. -/
def Usable (s : Settings) (client : Rest.Client) : Prop :=
  ∃ token, s.token = some token ∧ Text.trim token ≠ "" ∧ Http.isHeaderValue (Text.trim token) = true ∧
    client = clientFor s.apiUrl (Text.trim token)

/-- There is at most one client for some settings. -/
theorem Usable.unique {s : Settings} {client client' : Rest.Client} (h : Usable s client) (h' : Usable s client') :
    client = client' := by
  obtain ⟨token, htoken, -, -, rfl⟩ := h
  obtain ⟨token', htoken', -, -, rfl⟩ := h'
  rw [Option.some.inj (htoken.symm.trans htoken')]

/-- A token can be used exactly when it is not blank and can be the value of a header. -/
theorem exists_usable_iff {s : Settings} : (∃ client, Usable s client) ↔
    ∃ token, s.token = some token ∧ Text.trim token ≠ "" ∧ Http.isHeaderValue (Text.trim token) = true := by
  constructor
  · rintro ⟨client, token, htoken, hblank, hheader, -⟩
    exact ⟨token, htoken, hblank, hheader⟩
  · rintro ⟨token, htoken, hblank, hheader⟩
    exact ⟨_, token, htoken, hblank, hheader, rfl⟩

/-- A client is made of a token that is not blank and can be the value of a header, and of no other. -/
theorem ofSettings_eq_ok_iff {apiUrl token : String} {client : Rest.Client} :
    Rest.Client.ofSettings (.new apiUrl token) = .ok client ↔
      Text.trim token ≠ "" ∧ Http.isHeaderValue (Text.trim token) = true ∧
        client = clientFor apiUrl (Text.trim token) := by
  have hagent : Http.isHeaderValue (Rest.Settings.new apiUrl token).userAgent = true :=
    (by decide : Http.isHeaderValue "autoformat-bot/0.1.0" = true)
  have htoken : (Rest.Settings.new apiUrl token).token = token := rfl
  rw [Rest.Client.ofSettings, htoken, hagent]
  by_cases hblank : Text.trim token = ""
  · simp [hblank]
  by_cases hheader : Http.isHeaderValue (Text.trim token) = true
  · simp only [hblank, hheader, if_false, Bool.not_true, Bool.false_eq_true, Except.ok.injEq, ne_eq,
      not_false_eq_true, true_and]
    exact eq_comm
  · simp [hblank, hheader]

/-- A command goes on with its client, and has done nothing else if its token is of no use. -/
theorem ends_connect_bind {s : Settings} {f : Rest.Client → Action β} {r : Except Failure β}
    (h : Ends (connect s >>= f) t r) :
    (∀ client, ¬Usable s client) ∧ t = [] ∧ (∃ e, r = .error e) ∨
      ∃ client, Usable s client ∧ Ends (f client) t r := by
  rw [connect, bind_assoc] at h
  rcases ends_require_bind_iff.1 h with ⟨hnone, rfl, rfl⟩ | ⟨token, htoken, h⟩
  · exact .inl ⟨by simp [Usable, hnone], rfl, _, rfl⟩
  rcases ends_orFail_bind_iff.1 h with ⟨e, hclient, rfl, rfl⟩ | ⟨client, hclient, h⟩
  · refine .inl ⟨?_, rfl, _, rfl⟩
    rintro client ⟨token', htoken', husable⟩
    obtain rfl := Option.some.inj (htoken.symm.trans htoken')
    rw [ofSettings_eq_ok_iff.2 husable] at hclient
    cases hclient
  · refine .inr ⟨client, ⟨token, htoken, ofSettings_eq_ok_iff.1 ?_⟩, h⟩
    cases hsettings : Rest.Client.ofSettings (.new s.apiUrl token) with
    | error e => simp [hsettings, Except.mapError] at hclient
    | ok client' => simpa [hsettings, Except.mapError] using hclient

/-- A command has loaded its configuration and has a client before it begins with its task. -/
theorem ends_setup_bind {env : Environment} {s : Settings} {f : Config → Rest.Client → Action β}
    {r : Except Failure β} (h : Ends (do
      let config ← loadConfig env s.config
      let client ← connect s
      f config client) t r) :
    ∃ file u, file.isSome = s.config.isSome ∧ t = reading s.config file ++ u ∧
      (((∀ config, Config.load file env ≠ .ok config) ∨ ∀ client, ¬Usable s client) ∧
          u = [] ∧ (∃ e, r = .error e) ∨
        ∃ config client, Config.load file env = .ok config ∧ Usable s client ∧
          Ends (f config client) u r) := by
  obtain ⟨file, u, hfile, rfl, ⟨hload, hfailed⟩ | ⟨config, hload, h⟩⟩ := ends_loadConfig_bind h
  · exact ⟨file, u, hfile, rfl, .inl ⟨.inl hload, hfailed⟩⟩
  rcases ends_connect_bind h with ⟨hclient, hfailed⟩ | ⟨client, husable, h⟩
  · exact ⟨file, u, hfile, rfl, .inl ⟨.inr hclient, hfailed⟩⟩
  · exact ⟨file, u, hfile, rfl, .inr ⟨config, client, hload, husable, h⟩⟩

/-- The comment that the text of a file announces. -/
def commentOf (x : Except FileError String) : Except BotError Comment :=
  x.mapError .file >>= Comment.ofPayload

/-- A command goes on with the comment of its file, and has done nothing else if there is none. -/
theorem ends_readComment_bind {path : String} {f : Comment → Action β} {r : Except Failure β}
    (h : Ends (readComment path >>= f) t r) :
    ∃ x u, t = ⟨.readText path, x⟩ :: u ∧
      ((∀ c, commentOf x ≠ .ok c) ∧ u = [] ∧ (∃ e, r = .error e) ∨
        ∃ c, commentOf x = .ok c ∧ Ends (f c) u r) := by
  change Ends (ask (.readText path) >>= fun x : Except FileError String =>
    orFail ("Failed to read event " ++ path) (commentOf x) >>= f) t r at h
  obtain ⟨x, u, rfl, hu⟩ := ends_ask_bind_iff.1 h
  refine ⟨x, u, rfl, ?_⟩
  rcases ends_orFail_bind_iff.1 hu with ⟨e, hc, rfl, rfl⟩ | hc
  · refine .inl ⟨fun c hok => ?_, rfl, _, rfl⟩
    cases hok.symm.trans hc
  · exact .inr hc

/-! ## After a task -/

/-- The link to the page of a run, if the run has a name. -/
def runLink (s : Settings) (repository : String) : Option String :=
  s.runId.map fun name => Text.dropTrailing '/' s.serverUrl ++ "/" ++ repository ++ "/actions/runs/" ++ name

/-- Outputs as they are put at the end of the file for them, if there is one: a line for each. -/
def placed (s : Settings) (outputs : List StepOutput) : List (String × String) :=
  s.output.toList.map fun path =>
    (path, String.join (outputs.map fun output => output.key ++ "=" ++ output.value ++ "\n"))

/-- What is put at the end of the file for outputs is their text. -/
theorem placed_of_output {s : Settings} {outputs : List StepOutput} {path : String} (hpath : s.output = some path) :
    placed s outputs = [(path, StepOutput.text outputs)] := by
  rw [placed, hpath]
  rfl

/-- Outputs are put out when there is a file for them, and nothing else is done. -/
theorem ends_putOut {s : Settings} {outputs : List StepOutput} {r : Except Failure Unit}
    (h : Ends (putOut s outputs) t r) :
    outwards t = [] ∧ (appends t).map Append.entry = placed s outputs ∧
      (r = .ok () ↔ ∀ a ∈ appends t, a.answer = .ok ()) := by
  rw [putOut] at h
  cases hpath : s.output with
  | none =>
    rw [hpath] at h
    obtain ⟨rfl, rfl⟩ := ends_pure_iff.1 h
    simp [placed, hpath]
  | some path =>
    rw [hpath] at h
    obtain ⟨x, u, rfl, hu⟩ := ends_ask_bind_iff.1 h
    match x with
    | .ok () =>
      obtain ⟨rfl, rfl⟩ := ends_pure_iff.1 hu
      simp [placed_of_output hpath, Append.entry]
    | .error (.opening e) =>
      obtain ⟨rfl, rfl⟩ := ends_throw_iff.1 hu
      simp [placed_of_output hpath, Append.entry]
    | .error (.writing e) =>
      obtain ⟨rfl, rfl⟩ := ends_throw_iff.1 hu
      simp [placed_of_output hpath, Append.entry]

/-- That a comment is ignored is one entry of the log. -/
theorem ends_ignoreComment_bind_iff {field reason : String} {f : Unit → Action β} {r : Except Failure β} :
    Ends (ignoreComment field reason >>= f) t r ↔
      ∃ u, t = ⟨.log ⟨.commentIgnored field reason, none⟩, ()⟩ :: u ∧ Ends (f ()) u r := by
  have h := @ends_ask_bind_iff β t (.log ⟨.commentIgnored field reason, none⟩) f r
  exact h.trans ⟨fun ⟨_, u, h⟩ => ⟨u, h⟩, fun ⟨u, h⟩ => ⟨(), u, h⟩⟩

/-- A command that ends with ignoring its comment succeeds. -/
theorem ends_ignoreComment_iff {field reason : String} {r : Except Failure Unit} :
    Ends (ignoreComment field reason) t r ↔
      t = [⟨.log ⟨.commentIgnored field reason, none⟩, ()⟩] ∧ r = .ok () := by
  rw [← bind_pure (ignoreComment field reason), ends_ignoreComment_bind_iff]
  simp

/-- A text that is shown is one exchange. -/
theorem ends_print_bind_iff {text : String} {f : Unit → Action β} {r : Except Failure β} :
    Ends (print text >>= f) t r ↔ ∃ u, t = ⟨.print text, ()⟩ :: u ∧ Ends (f ()) u r := by
  have h := @ends_ask_bind_iff β t (.print text) f r
  exact h.trans ⟨fun ⟨_, u, h⟩ => ⟨u, h⟩, fun ⟨u, h⟩ => ⟨(), u, h⟩⟩

/-- Texts that are shown one after the other. -/
theorem ends_forM_print_bind {texts : List String} {f : Unit → Action β} {r : Except Failure β}
    (h : Ends (texts.forM print >>= f) t r) : ∃ u, outwards t = outwards u ∧ Ends (f ()) u r := by
  induction texts generalizing t with
  | nil => exact ⟨t, rfl, by simpa [List.forM] using h⟩
  | cons text texts ih =>
    have hprint : Ends (print text >>= fun _ => texts.forM print >>= f) t r := by
      simpa [List.forM] using h
    obtain ⟨u, rfl, hu⟩ := ends_print_bind_iff.1 hprint
    obtain ⟨v, houtwards, hv⟩ := ih hu
    exact ⟨v, by simpa using houtwards, hv⟩

/-! ## The evaluation of a comment -/

/-- What the command makes of an evaluation. -/
def finishEvaluation (s : Settings) : Except BotError Evaluation → Action Unit
  | .error (.notApplicable reason) => do
    ignoreComment "reason" reason.message
    putOut s [.ofBool "should_run" false]
  | .error e => failWith "Failed to evaluate comment" e
  | .ok decision => do
    print (Json.encode decision).pretty
    putOut s decision.outputs
    orFail "Comment rejected" decision.ensureAuthorized

/-- The evaluation of a comment that has been read. -/
def evaluateComment (s : Settings) (config : Config) (client : Rest.Client) (c : Comment) :
    Action Unit :=
  Site.carryOut { client := client } (Bot.evaluate config.trigger
    ⟨config.status.context, runLink s c.repository⟩ config.status.reaction c) >>= finishEvaluation s

/-- The task to evaluate reads its comment first. -/
theorem evaluate_eq (s : Settings) (config : Config) (client : Rest.Client) (event : String) :
    evaluate s config client event = readComment event >>= evaluateComment s config client := rfl

/-- What is put out about the evaluation of a comment, if anything. -/
def outputsOf : Except BotError Evaluation → Option (List StepOutput)
  | .ok e => some e.outputs
  | .error (.notApplicable _) => some [.ofBool "should_run" false]
  | .error _ => none

/-- The evaluation of a comment is no failure: the comment cannot start a run, or its author is trusted. -/
def Tolerable : Except BotError Evaluation → Prop
  | .ok e => e.authorized = true
  | .error (.notApplicable _) => True
  | .error _ => False

/-- A decision is put out whatever it is; the author of a comment has to be trusted, and the file to take
what is put at its end. -/
theorem ends_finishEvaluation {s : Settings} {y : Except BotError Evaluation} {r : Except Failure Unit}
    (h : Ends (finishEvaluation s y) t r) :
    outwards t = [] ∧ (appends t).map Append.entry = (outputsOf y).toList.flatMap (placed s) ∧
      (r = .ok () ↔ Tolerable y ∧ ∀ a ∈ appends t, a.answer = .ok ()) := by
  unfold finishEvaluation at h
  split at h
  · obtain ⟨u, rfl, hput⟩ := ends_ignoreComment_bind_iff.1 h
    obtain ⟨houtwards, hentries, hr⟩ := ends_putOut hput
    exact ⟨by simpa using houtwards, by simpa [outputsOf] using hentries,
      by simpa [Tolerable] using hr⟩
  · next e hother =>
    obtain ⟨rfl, rfl⟩ := ends_throw_iff.1 h
    cases e <;> simp_all [outputsOf, Tolerable]
  · next e =>
    obtain ⟨u, rfl, hrest⟩ := ends_print_bind_iff.1 h
    rcases ends_bind_iff.1 hrest with ⟨f, rfl, hput⟩ | ⟨v, w, ⟨⟩, rfl, hput, hauthorized⟩
    · obtain ⟨houtwards, hentries, hr⟩ := ends_putOut hput
      refine ⟨by simpa using houtwards, by simpa [outputsOf] using hentries, ?_⟩
      simpa using fun _ => by simpa using hr
    · obtain ⟨houtwards, hentries, hwritten⟩ := ends_putOut hput
      have haccepted := hwritten.1 rfl
      rw [Evaluation.ensureAuthorized] at hauthorized
      by_cases trusted : e.authorized = true
      · rw [if_pos trusted] at hauthorized
        obtain ⟨rfl, rfl⟩ := ends_pure_iff.1 hauthorized
        refine ⟨by simpa using houtwards, by simpa [outputsOf] using hentries, ?_⟩
        simpa [Tolerable, trusted] using haccepted
      · rw [if_neg trusted] at hauthorized
        obtain ⟨rfl, rfl⟩ := ends_throw_iff.1 hauthorized
        refine ⟨by simpa using houtwards, by simpa [outputsOf] using hentries, ?_⟩
        simp [Tolerable, trusted]

/-- The evaluation of a comment carries out the evaluation of the bot, and what becomes of the command
depends on its result alone. -/
theorem ends_evaluateComment {s : Settings} {config : Config} {client : Rest.Client} {c : Comment}
    {r : Except Failure Unit} (h : Ends (evaluateComment s config client c) t r) :
    ∃ u y, Bot.Ends (Bot.evaluate config.trigger ⟨config.status.context, runLink s c.repository⟩
        config.status.reaction c) u y ∧
      Carries { client := client } u t ∧
      (appends t).map Append.entry = (outputsOf y).toList.flatMap (placed s) ∧
      (r = .ok () ↔ Tolerable y ∧ ∀ a ∈ appends t, a.answer = .ok ()) := by
  obtain ⟨u, v, w, y, rfl, hu, hcarried, hrest⟩ := ends_carryOut_bind_iff.1 h
  obtain ⟨houtwards, hentries, hr⟩ := ends_finishEvaluation hrest
  refine ⟨u, y, hu, ⟨v, hcarried, by simp [houtwards]⟩, ?_, ?_⟩
  · simpa [appends_of_carriedOut hcarried] using hentries
  · simpa [appends_of_carriedOut hcarried] using hr

/-! ## A run -/

/-- What a run is told, besides its configuration and its comment. -/
def optionsOf (s : Settings) (c : Comment) (remote : String) (push mergeBase : Bool) (name : String) :
    RunOptions :=
  ⟨remote, mergeBase, push, name, runLink s c.repository⟩

/-- What the command makes of a run. -/
def finishRun (start : Nat) : Except BotError RunResult → Action Unit
  | .error e =>
    if e.isNotApplicable then ignoreComment "error" e.message
    else failWith "Autoformat run failed" e
  | .ok result => do
    let stop : Nat ← ask .clock
    (result.summary (stop - start)).forM print
    if !result.succeeded then throw ⟨"Autoformat failed", []⟩

/-- The run for a comment that has been read. -/
def runComment (s : Settings) (config : Config) (client : Rest.Client) (workdir remote : String)
    (push mergeBase : Bool) (c : Comment) : Action Unit := do
  let name ← runName s
  let site : Site := ⟨client, workdir, some ⟨name, c.issueNumber⟩⟩
  let start : Nat ← ask .clock
  site.carryOut (Run.run config (optionsOf s c remote push mergeBase name) c) >>= finishRun start

/-- The task to run reads its comment first. -/
theorem run_eq (s : Settings) (config : Config) (client : Rest.Client)
    (event workdir remote : String) (push mergeBase : Bool) :
    run s config client event workdir remote push mergeBase =
      readComment event >>= runComment s config client workdir remote push mergeBase := rfl

/-- A run is no failure: its comment cannot start a run, or it did what was asked for, if anything. -/
def Successful : Except BotError RunResult → Prop
  | .ok result => result.succeeded = true
  | .error e => e.isNotApplicable = true

/-- What is shown of a run is nothing to the outside, and whether it was successful decides how the command
ends. -/
theorem ends_finishRun {start : Nat} {y : Except BotError RunResult} {r : Except Failure Unit}
    (h : Ends (finishRun start y) t r) : outwards t = [] ∧ (r = .ok () ↔ Successful y) := by
  cases y with
  | error e =>
    rw [finishRun] at h
    by_cases hnot : e.isNotApplicable = true
    · rw [if_pos hnot] at h
      obtain ⟨rfl, rfl⟩ := ends_ignoreComment_iff.1 h
      simp [Successful, hnot]
    · rw [if_neg hnot] at h
      obtain ⟨rfl, rfl⟩ := ends_throw_iff.1 h
      simp [Successful, hnot]
  | ok result =>
    obtain ⟨stop, u, rfl, hprint⟩ := ends_ask_bind_iff.1 h
    obtain ⟨v, houtwards, hend⟩ := ends_forM_print_bind hprint
    by_cases hsucceeded : result.succeeded = true
    · rw [if_neg (by simp [hsucceeded])] at hend
      obtain ⟨rfl, rfl⟩ := ends_pure_iff.1 hend
      exact ⟨by simpa using houtwards, by simp [Successful, hsucceeded]⟩
    · rw [if_pos (by simp [hsucceeded])] at hend
      obtain ⟨rfl, rfl⟩ := ends_throw_iff.1 hend
      exact ⟨by simpa using houtwards, by simp [Successful, hsucceeded]⟩

/-- A run has the name that it was given, or a new one. -/
theorem ends_runName_bind {s : Settings} {f : String → Action β} {r : Except Failure β}
    (h : Ends (runName s >>= f) t r) :
    ∃ name u, (∀ given, s.runId = some given → name = given) ∧ outwards t = outwards u ∧
      Ends (f name) u r := by
  rw [runName] at h
  cases hid : s.runId with
  | none =>
    rw [hid] at h
    obtain ⟨name, u, rfl, hu⟩ := ends_ask_bind_iff.1 h
    exact ⟨name, u, by simp, by simp, hu⟩
  | some name =>
    rw [hid] at h
    exact ⟨name, t, by simp, rfl, h⟩

/-- A run carries out the run of the bot, and what becomes of the command depends on its result alone. -/
theorem ends_runComment {s : Settings} {config : Config} {client : Rest.Client} {workdir remote : String}
    {push mergeBase : Bool} {c : Comment} {r : Except Failure Unit}
    (h : Ends (runComment s config client workdir remote push mergeBase c) t r) :
    ∃ name u y, (∀ given, s.runId = some given → name = given) ∧
      Bot.Ends (Run.run config (optionsOf s c remote push mergeBase name) c) u y ∧
      Carries ⟨client, workdir, some ⟨name, c.issueNumber⟩⟩ u t ∧
      (r = .ok () ↔ Successful y) := by
  obtain ⟨name, t', hname, houtwards, hclock⟩ := ends_runName_bind h
  obtain ⟨start, t'', rfl, hsite⟩ := ends_ask_bind_iff.1 hclock
  obtain ⟨u, v, w, y, rfl, hu, hcarried, hrest⟩ := ends_carryOut_bind_iff.1 hsite
  obtain ⟨houtwards', hr⟩ := ends_finishRun hrest
  exact ⟨name, u, y, hname, hu, ⟨v, hcarried, by simpa [houtwards'] using houtwards⟩, hr⟩

/-! ## Whole commands -/

/-- A command line that is understood carries out its task, with a part of the log at most; it succeeds when
the task does. -/
theorem ends_perform_of_runs {env : Environment} {args : List String} {i : Invocation} {exit : Exit}
    (hi : Invocation.ofArguments env args = .ok i) (h : Runs (start env args) t exit) :
    ∃ u r, Ends (perform env i) u r ∧ outwards t = outwards u ∧ filesRead t = filesRead u ∧
      appends t = appends u ∧ (exit.code = 0 ↔ r = .ok ()) := by
  simp only [start, hi] at h
  obtain ⟨v, w, r, rfl, hperform, hexit⟩ := runs_bind_iff.1 h
  obtain ⟨u, hu, hfiltered⟩ := runs_run_iff.1 hperform
  obtain ⟨rfl, hcode⟩ : w = [] ∧ (exit.code = 0 ↔ r = .ok ()) := by
    cases r with
    | ok a =>
      obtain ⟨rfl, rfl⟩ := runs_done_iff.1 hexit
      simp [Exit.code]
    | error f =>
      obtain ⟨rfl, rfl⟩ := runs_done_iff.1 hexit
      simp [Exit.code]
  rw [List.append_nil]
  exact ⟨u, r, hu, gather_filtered (fun _ => rfl) hfiltered, gather_filtered (fun _ => rfl) hfiltered,
    gather_filtered (fun _ => rfl) hfiltered, hcode⟩

/-- A task, once there are a configuration and a client. -/
def performTask (s : Settings) (config : Config) (client : Rest.Client) : Task → Action Unit
  | .evaluate event => evaluate s config client event
  | .route pull => route s config client pull
  | .run event workdir remote push mergeBase => run s config client event workdir remote push mergeBase
  | .report sha verdict outcome => report s config client sha verdict outcome

/-- A task begins once there are a configuration and a client. -/
theorem perform_eq (env : Environment) (i : Invocation) : perform env i = (do
    let config ← loadConfig env i.settings.config
    let client ← connect i.settings
    performTask i.settings config client i.task) := rfl

/-- A command has loaded its configuration and has a client, or it has done nothing else. -/
theorem performTask_of_runs {env : Environment} {args : List String} {i : Invocation} {exit : Exit}
    (hi : Invocation.ofArguments env args = .ok i) (h : Runs (start env args) t exit) :
    ∃ file u r, file.isSome = i.settings.config.isSome ∧
      filesRead t = filesRead (reading i.settings.config file ++ u) ∧ outwards t = outwards u ∧
      appends t = appends u ∧ (exit.code = 0 ↔ r = .ok ()) ∧
      (((∀ config, Config.load file env ≠ .ok config) ∨ ∀ client, ¬Usable i.settings client) ∧
          u = [] ∧ (∃ e, r = .error e) ∨
        ∃ config client, Config.load file env = .ok config ∧ Usable i.settings client ∧
          Ends (performTask i.settings config client i.task) u r) := by
  obtain ⟨v, r, hperform, houtwards, hread, happends, hcode⟩ := ends_perform_of_runs hi h
  rw [perform_eq] at hperform
  obtain ⟨file, u, hfile, rfl, hrest⟩ := ends_setup_bind hperform
  exact ⟨file, u, r, hfile, hread, houtwards.trans (gather_reading_append fun _ _ => rfl),
    happends.trans (gather_reading_append fun _ _ => rfl), hcode, hrest⟩

end Autoformat.CommandLine
