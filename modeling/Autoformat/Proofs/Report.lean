import Autoformat.Proofs.ExitStatus
import Autoformat.Proofs.OutcomeText

/-!
# The command that reports

The command `report` sets the final status of a run whose outcome is in a file, or makes no request at all.
`Reports` says which of the two: an outcome that cannot be read leaves the commit alone, whatever the verdict,
and otherwise the verdict and the table of the file decide, as they do in a run. `Denotes` is the table of a
file.

`report_eq` takes the command apart: the file of the outcome is read first, and what is left is the report of
the bot, which makes one request or none (`ends_reportOutcome`).
-/

namespace Autoformat.CommandLine

open Program Rest
open Outcome (Row)

variable {env : Environment} {i : Invocation} {s : Settings} {config : Config} {client : Client}
  {repository sha : String} {verdict : Verdict} {outcome : Option String} {o : Outcome}
  {t : List (Exchange Console.interface)} {exit : Exit}

/-! ## What a report is about -/

/-- The table of a file: the empty one without a file. -/
def Denotes : Option (Except FileError String) → Outcome → Prop
  | none, o => o = .empty
  | some (.ok text), o => Json.parse Outcome text = .ok o
  | some (.error _), _ => False

/-- What the file of the outcome holds, if one is named: it is the first that a report reads after its
configuration. -/
def outcomeFile (s : Settings) (outcome : Option String) (t : List (Exchange Console.interface)) :
    Option (Except FileError String) :=
  outcome.bind fun _ => (filesRead t)[s.config.toList.length]?.map Prod.snd

/-- The status that a report sets, with a link to the run if this has a name. -/
def reportedStatus (s : Settings) (config : Config) (repository : String) (final : FinalStatus) : StatusUpdate :=
  ⟨final.state, config.status.context, final.description, runLink s repository⟩

/-- What a report does. -/
structure Reports (s : Settings) (config : Config) (client : Client) (repository sha : String) (verdict : Verdict)
    (outcome : Option String) (t : List (Exchange Console.interface)) (exit : Exit) : Prop where
  /-- The configuration is read from the file that was named, before any other. -/
  configured (path : String) (h : s.config = some path) : (filesRead t)[0]?.map Prod.fst = some path
  /-- The outcome is read from the file that was named, after the configuration. -/
  consulted (path : String) (h : outcome = some path) :
    (filesRead t)[s.config.toList.length]?.map Prod.fst = some path
  single : (webExchanges t).length ≤ 1
  unreadable (e : FileError) (h : outcomeFile s outcome t = some (.error e)) : Idle t exit
  invalid (text : String) (h : outcomeFile s outcome t = some (.ok text))
    (refused : ∀ o, Json.parse Outcome text ≠ .ok o) : Idle t exit
  /-- A table that names a job twice is no better than none, however it is written. -/
  twice (rows : List Row) (d : Json.Doc) (text : String) (h : outcomeFile s outcome t = some (.ok text))
    (spelled : d.Spells text) (table : Row.IsTable rows d) (repeated : ¬(rows.map Row.job).Nodup) : Idle t exit
  /-- A table in which all jobs are different is the one that is reported. -/
  denoted (rows : List Row) (d : Json.Doc) (text : String) (h : outcomeFile s outcome t = some (.ok text))
    (spelled : d.Spells text) (table : Row.IsTable rows d) (different : (rows.map Row.job).Nodup) :
    Denotes (outcomeFile s outcome t) (Outcome.table (rows.map Row.record))
  silent (o : Outcome) (denoted : Denotes (outcomeFile s outcome t) o) (h : verdict = .notTriggered) :
    outwards t = [] ∧ exit.code = 0
  posted (o : Outcome) (denoted : Denotes (outcomeFile s outcome t) o) (h : verdict ≠ .notTriggered) :
    ∃ final x, FinalStatus.aggregate verdict o = some final ∧
      outwards t =
        [⟨.http (client.statusRequest repository sha (reportedStatus s config repository final)), x⟩] ∧
      (exit.code = 0 ↔ Succeeds x)

/-! ## Tables in files -/

section
variable {rows : List Row} {d : Json.Doc} {text : String}

/-- The text of a table in which all jobs are different denotes the table. -/
theorem denotes_of_nodup (h : d.Spells text) (table : Row.IsTable rows d) (different : (rows.map Row.job).Nodup) :
    Denotes (some (.ok text)) (Outcome.table (rows.map Row.record)) := by
  rw [← Outcome.map_fst_record] at different
  rw [Denotes, Outcome.parse_of_isTable h table]
  have hall := (Outcome.writeAll_of_nodup (o := .empty) different (by simp [Outcome.jobs])).2
  rw [hall]
  rfl

/-- In a text that denotes an outcome, all jobs are different. -/
theorem nodup_of_denotes (h : d.Spells text) (table : Row.IsTable rows d) (hdenotes : Denotes (some (.ok text)) o) :
    (rows.map Row.job).Nodup := by
  rw [Denotes, Outcome.parse_of_isTable h table, Json.mapError_eq_ok_iff] at hdenotes
  rw [← Outcome.map_fst_record]
  exact (Outcome.nodup_of_recordAll hdenotes).1

end

/-! ## The parts of the command -/

/-- A report, once its outcome is known. -/
def reportOutcome (s : Settings) (config : Config) (client : Client) (repository sha : String) (verdict : Verdict)
    (o : Outcome) : Action Unit := do
  let status : StatusSettings := ⟨config.status.context, runLink s repository⟩
  let site : Site := { client := client, span := some ⟨s.runId.getD "local", 0⟩ }
  let state ← orFail "Failed to report status" (← site.carryOut (Bot.report status repository sha verdict o))
  match state with
  | some state => print s!"Reported {state.name} on {sha}"
  | none => print "Nothing to report"

/-- A report with a repository reads its outcome first. -/
theorem report_eq (given : s.repository = some repository) :
    report s config client sha verdict outcome =
      readOutcome outcome >>= reportOutcome s config client repository sha verdict := by
  rw [report, requireRepository, given]
  rfl

/-- The outcome in a file that has been read. -/
def outcomeIn (path : String) : Except FileError String → Action Outcome
  | .error e => throw ⟨"Failed to read outcome " ++ path, [e.message]⟩
  | .ok text =>
    match Json.parse Outcome text with
    | .error e => throw ⟨"Invalid outcome JSON", [e.message]⟩
    | .ok o => pure o

section
variable {α : Type} {f : Outcome → Action α} {r : Except Failure α}

/-- A report goes on with the outcome of the text, and has done nothing else if there is none. -/
theorem ends_outcomeIn_bind {path : String} {x : Except FileError String} (h : Ends (outcomeIn path x >>= f) t r) :
    (∀ o, ¬Denotes (some x) o) ∧ t = [] ∧ (∃ e, r = .error e) ∨ ∃ o, Denotes (some x) o ∧ Ends (f o) t r := by
  cases x with
  | error e =>
    obtain ⟨rfl, rfl⟩ := ends_throw_iff.1 h
    exact .inl ⟨fun _ => id, rfl, _, rfl⟩
  | ok text =>
    rw [outcomeIn] at h
    cases htext : Json.parse Outcome text with
    | error e =>
      rw [htext] at h
      obtain ⟨rfl, rfl⟩ := ends_throw_iff.1 h
      exact .inl ⟨fun o ho => by simp [Denotes, htext] at ho, rfl, _, rfl⟩
    | ok o =>
      rw [htext] at h
      exact .inr ⟨o, htext, h⟩

/-- A report goes on with the table of its file, and has done nothing else if there is none. -/
theorem ends_readOutcome_bind (h : Ends (readOutcome outcome >>= f) t r) :
    ∃ file u, file.isSome = outcome.isSome ∧ t = reading outcome file ++ u ∧
      ((∀ o, ¬Denotes file o) ∧ u = [] ∧ (∃ e, r = .error e) ∨ ∃ o, Denotes file o ∧ Ends (f o) u r) := by
  cases outcome with
  | none => exact ⟨none, t, rfl, rfl, .inr ⟨.empty, rfl, h⟩⟩
  | some path =>
    change Ends (ask (.readText path) >>= fun x : Except FileError String => outcomeIn path x >>= f) t r at h
    obtain ⟨x, u, rfl, hu⟩ := ends_ask_bind_iff.1 h
    exact ⟨some x, u, rfl, rfl, ends_outcomeIn_bind hu⟩

end

section
variable {site : Site} {status : StatusUpdate} {u v : List (Exchange Console.interface)}

/-- A status is set by one request, and nothing else is done outside of the command. -/
theorem runs_answer_setStatus_iff {x : Except PlatformError Unit} :
    Runs (site.answer (.platform (.setStatus repository sha status))) v x ↔
      ∃ y, v = [⟨.http (site.client.statusRequest repository sha status), y⟩] ∧
        x = (sent "create commit status" y).map fun _ => () := by
  have hrun : Runs (site.answer (.platform (.setStatus repository sha status))) v x ↔ ∃ w,
      Runs (site.client.answer (.setStatus repository sha status)) w x ∧ v = w.map passedOn := by
    refine runs_run_iff.trans (exists_congr fun w => and_congr_right fun _ => ?_)
    exact carriedOut_request_iff
  rw [hrun]
  simp only [runs_answer_status_iff]
  constructor
  · rintro ⟨w, ⟨y, rfl, rfl⟩, rfl⟩
    exact ⟨y, rfl, rfl⟩
  · rintro ⟨y, rfl, rfl⟩
    exact ⟨_, ⟨y, rfl, rfl⟩, rfl⟩

/-- An entry of the log is nothing to the outside. -/
theorem outwards_of_carriedOut_log {e : Log.Event}
    (h : CarriedOut site.answer [(⟨.log e, ()⟩ : Exchange Bot.interface)] v) : outwards v = [] := by
  obtain ⟨w, w', rfl, hlog, hnil⟩ := carriedOut_cons_iff.1 h
  rw [carriedOut_nil_iff.1 hnil, runs_request_iff.1 hlog]
  rfl

/-- The report of the bot makes one request, for the final status if there is one. -/
theorem carriedOut_report {settings : StatusSettings} {w : Bot.Trace} {y : Except BotError (Option CommitState)}
    (h : Bot.Ends (Bot.report settings repository sha verdict o) w y) (hcarried : CarriedOut site.answer w v) :
    FinalStatus.aggregate verdict o = none ∧ y = .ok none ∧ outwards v = [] ∨
      ∃ final x, FinalStatus.aggregate verdict o = some final ∧
        outwards v = [⟨.http (site.client.statusRequest repository sha
          (settings.update final.state final.description)), x⟩] ∧
        (y = .ok (some final.state) ∧ Succeeds x ∨ (∃ e, y = .error e) ∧ ¬Succeeds x) := by
  cases hfinal : FinalStatus.aggregate verdict o with
  | none =>
    simp only [Bot.report, hfinal] at h
    obtain ⟨u, rfl, hpure⟩ := Bot.ends_log_bind_iff.1 h
    obtain ⟨rfl, rfl⟩ := Bot.ends_pure_iff.1 hpure
    exact .inl ⟨rfl, rfl, outwards_of_carriedOut_log hcarried⟩
  | some final =>
    simp only [Bot.report, hfinal] at h
    rcases Bot.ends_call_bind_iff.1 h with ⟨e, rfl, rfl⟩ | ⟨⟨⟩, u, rfl, hlog⟩
    -- the bot takes the request for failed exactly when its answer is no success
    · obtain ⟨a, b, rfl, hcall, hnil⟩ := carriedOut_cons_iff.1 hcarried
      obtain ⟨x, rfl, hx⟩ := runs_answer_setStatus_iff.1 hcall
      rw [carriedOut_nil_iff.1 hnil]
      refine .inr ⟨final, x, rfl, rfl, .inr ⟨⟨_, rfl⟩, fun hsucceeds => ?_⟩⟩
      cases hx.trans (map_sent_eq_ok_iff.2 hsucceeds)
    · obtain ⟨u, rfl, hpure⟩ := Bot.ends_log_bind_iff.1 hlog
      obtain ⟨rfl, rfl⟩ := Bot.ends_pure_iff.1 hpure
      obtain ⟨a, b, rfl, hcall, hrest⟩ := carriedOut_cons_iff.1 hcarried
      obtain ⟨x, rfl, hx⟩ := runs_answer_setStatus_iff.1 hcall
      refine .inr ⟨final, x, rfl, ?_, .inl ⟨rfl, map_sent_eq_ok_iff.1 hx.symm⟩⟩
      simp [outwards_of_carriedOut_log hrest]

end

/-- A command that ends with showing a text succeeds. -/
theorem ends_print_iff {text : String} {r : Except Failure Unit} :
    Ends (print text) t r ↔ t = [⟨.print text, ()⟩] ∧ r = .ok () := by
  rw [← bind_pure (print text), ends_print_bind_iff]
  simp

/-- A report of a table makes one request, for the final status if there is one, and succeeds when that does. -/
theorem ends_reportOutcome {r : Except Failure Unit}
    (h : Ends (reportOutcome s config client repository sha verdict o) t r) :
    FinalStatus.aggregate verdict o = none ∧ outwards t = [] ∧ r = .ok () ∨
      ∃ final x, FinalStatus.aggregate verdict o = some final ∧
        outwards t =
          [⟨.http (client.statusRequest repository sha (reportedStatus s config repository final)), x⟩] ∧
        (r = .ok () ↔ Succeeds x) := by
  obtain ⟨w, u, v, y, rfl, hreport, hcarried, hrest⟩ := ends_carryOut_bind_iff.1 h
  have hshown {state : Option CommitState} (hy : y = .ok state) : outwards v = [] ∧ r = .ok () := by
    subst hy
    cases state <;>
    · obtain ⟨rfl, rfl⟩ := ends_print_iff.1 hrest
      exact ⟨rfl, rfl⟩
  -- what is printed in the end is nothing to the outside
  have houtwards (hv : outwards v = []) : outwards (u ++ v) = outwards u := by
    rw [outwards, gather_append]
    exact (congrArg (outwards u ++ ·) hv).trans (List.append_nil _)
  rcases carriedOut_report hreport hcarried with ⟨hnone, hy, hu⟩ | ⟨final, x, hfinal, hu, ⟨hy, hx⟩ | ⟨⟨e, rfl⟩, hx⟩⟩
  · obtain ⟨hv, hr⟩ := hshown hy
    exact .inl ⟨hnone, (houtwards hv).trans hu, hr⟩
  · obtain ⟨hv, hr⟩ := hshown hy
    exact .inr ⟨final, x, hfinal, (houtwards hv).trans hu, iff_of_true hr hx⟩
  · obtain ⟨rfl, rfl⟩ := ends_throw_iff.1 hrest
    exact .inr ⟨final, x, hfinal, (houtwards rfl).trans hu, iff_of_false (by simp) hx⟩

/-! ## The whole command -/

/-- Where a run was asked for, even in vain, there is a final status. -/
theorem aggregate_ne_none (h : verdict ≠ .notTriggered) : FinalStatus.aggregate verdict o ≠ none := by
  cases verdict with
  | notTriggered => exact absurd rfl h
  | rejected => simp [FinalStatus.aggregate]
  | triggered =>
    by_cases hfree : o.blocking = []
    · simp [FinalStatus.aggregate_of_free hfree]
    · simp [FinalStatus.aggregate_of_blocked hfree]

/-- A file denotes one outcome at most. -/
theorem Denotes.unique {x : Option (Except FileError String)} {o o' : Outcome} (h : Denotes x o)
    (h' : Denotes x o') : o = o' := by
  cases x with
  | none => exact h.trans h'.symm
  | some x =>
    cases x with
    | error e => exact h.elim
    | ok text => exact Except.ok.inj (h.symm.trans h')

section
variable {file : Option (Except FileError String)}

/-- The file of the outcome is read after the configuration. -/
theorem getElem?_filesRead_outcome {x : Option (Except FileError String)} {path : String}
    {v : List (Exchange Console.interface)} (hfile : file.isSome = s.config.isSome)
    (hread : filesRead t = filesRead (reading s.config file ++ (reading (some path) x ++ v)))
    (hx : x.isSome = true) : (filesRead t)[s.config.toList.length]? = x.map (path, ·) := by
  rw [getElem?_filesRead hfile hread]
  obtain ⟨x, rfl⟩ := Option.isSome_iff_exists.1 hx
  rfl

/-- What a command knows as the content of the file of its outcome is what it has read. -/
theorem outcomeFile_eq {x : Option (Except FileError String)} {v : List (Exchange Console.interface)}
    (hfile : file.isSome = s.config.isSome)
    (hread : filesRead t = filesRead (reading s.config file ++ (reading outcome x ++ v)))
    (hx : x.isSome = outcome.isSome) : outcomeFile s outcome t = x := by
  cases outcome with
  | none =>
    cases x with
    | none => rfl
    | some x => cases hx
  | some path =>
    show (filesRead t)[s.config.toList.length]?.map Prod.snd = x
    rw [getElem?_filesRead_outcome hfile hread hx]
    cases x with
    | none => rfl
    | some x => rfl

end

/-- A command that has read its files reports what they denote. -/
theorem reports_of_denoted {x : Option (Except FileError String)} {v : List (Exchange Console.interface)}
    {r : Except Failure Unit} (hx : outcomeFile s outcome t = x) (houtwards : outwards t = outwards v)
    (hcode : exit.code = 0 ↔ r = .ok ())
    (configured : ∀ path, s.config = some path → (filesRead t)[0]?.map Prod.fst = some path)
    (consulted : ∀ path, outcome = some path → (filesRead t)[s.config.toList.length]?.map Prod.fst = some path)
    (h : (∀ o, ¬Denotes x o) ∧ v = [] ∧ (∃ e, r = .error e) ∨
      ∃ o, Denotes x o ∧ Ends (reportOutcome s config client repository sha verdict o) v r) :
    Reports s config client repository sha verdict outcome t exit := by
  subst hx
  -- the file denotes one table or none, and this decides which way the command went
  have hidle (hnone : ∀ o, ¬Denotes (outcomeFile s outcome t) o) : Idle t exit := by
    rcases h with ⟨-, rfl, hr⟩ | ⟨o, ho, -⟩
    · exact idle_of_error houtwards hcode rfl hr
    · exact absurd ho (hnone o)
  have hreported {o : Outcome} (ho : Denotes (outcomeFile s outcome t) o) :
      Ends (reportOutcome s config client repository sha verdict o) v r := by
    rcases h with ⟨hnone, -⟩ | ⟨o', ho', hends⟩
    · exact absurd ho (hnone o)
    · rwa [ho.unique ho']
  exact {
    configured := configured
    consulted := consulted
    single := by
      rw [← webExchanges_outwards, houtwards]
      rcases h with ⟨-, rfl, -⟩ | ⟨o, -, hends⟩
      · exact Nat.zero_le 1
      · rcases ends_reportOutcome hends with ⟨-, hv, -⟩ | ⟨final, y, -, hv, -⟩ <;>
          simp [hv]
    unreadable := by
      intro e hfile
      exact hidle (by simp [hfile, Denotes])
    invalid := by
      intro text hfile refused
      exact hidle (by simpa [hfile, Denotes] using refused)
    twice := by
      intro rows d text hfile spelled table repeated
      refine hidle fun o ho => repeated ?_
      rw [hfile] at ho
      exact nodup_of_denotes spelled table ho
    denoted := by
      intro rows d text hfile spelled table different
      rw [hfile]
      exact denotes_of_nodup spelled table different
    silent := by
      intro o ho hverdict
      rcases ends_reportOutcome (hreported ho) with ⟨-, hv, hr⟩ | ⟨final, y, hfinal, -⟩
      · exact ⟨houtwards.trans hv, hcode.2 hr⟩
      · simp [hverdict, FinalStatus.aggregate] at hfinal
    posted := by
      intro o ho hverdict
      rcases ends_reportOutcome (hreported ho) with ⟨hnone, -⟩ | ⟨final, y, hfinal, hv, hr⟩
      · exact absurd hnone (aggregate_ne_none hverdict)
      · exact ⟨final, y, hfinal, houtwards.trans hv, hcode.trans hr⟩ }

/-- A command line that reports an outcome. -/
def reportArguments : List String :=
  ["report", "--sha", "a1b2c3", "--verdict", "triggered", "--outcome", "outcome.json",
    "--repository", "octo/demo", "--token", "secret", "--run-id", "77"]

/-- What it asks for when the environment is empty. -/
def reportInvocation : Invocation where
  settings := {
    verbose := false
    json := false
    config := none
    token := some "secret"
    repository := some "octo/demo"
    apiUrl := "https://api.github.com"
    serverUrl := "https://github.com"
    runId := some "77"
    output := none }
  task := .report "a1b2c3" .triggered (some "outcome.json")

/-- An outcome in which a job has failed. -/
def exampleReported : String := "\x7b\"style\": \x7b\"result\": \"failed\"\x7d\x7d"

/-- Surroundings in which this is the outcome. -/
def reportDesk : Surroundings Console.interface
  | _, .readText _ => .ok exampleReported
  | past, q => exampleConsole past q

/-- The report of that outcome. -/
def reportCommand : List (Exchange Console.interface) × Exit :=
  play reportDesk [] (start (fun _ => none) reportArguments)

/-- It reads the outcome, makes one request for the status of the failed run, and succeeds. -/
theorem reportCommand_reads : filesRead reportCommand.1 = [("outcome.json", .ok exampleReported)] ∧
    (webExchanges reportCommand.1).length = 1 ∧ reportCommand.2.code = 0 := by
  decide +kernel

end Autoformat.CommandLine
