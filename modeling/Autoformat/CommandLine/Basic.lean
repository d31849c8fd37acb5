import Autoformat.CommandLine.Arguments
import Autoformat.CommandLine.Console
import Autoformat.Run.Basic
import Autoformat.Run.Summary
import Autoformat.StepOutput

/-!
# The command line

`CommandLine.start` carries out a command line. A task begins once the configuration is loaded and there is
a token to reach the platform with. A comment that cannot start a run is no failure; an untrusted
commenter is one, and so is a run that does not succeed.
-/

namespace Autoformat.CommandLine

/-! ## What tasks share -/

/-- The configuration of a file, if one is named, and of the environment. -/
def loadConfig (env : Environment) (path : Option String) : Action Config := do
  let file : Option (Except FileError String) ←
    match path with
    | none => pure none
    | some path => some <$> ask (.readText path)
  orFail "Failed to load autoformat configuration" (Config.load file env)

/-- The client for the platform. -/
def connect (s : Settings) : Action Rest.Client := do
  let token ← require "A GitHub token is required (--token or GITHUB_TOKEN)" s.token
  orFail "Failed to create GitHub client"
    ((Rest.Client.ofSettings (.new s.apiUrl token)).mapError .platform)

/-- The comment that a payload in a file announces. -/
def readComment (path : String) : Action Comment := do
  let text : Except FileError String ← ask (.readText path)
  orFail ("Failed to read event " ++ path) (text.mapError .file >>= Comment.ofPayload)

/-- The repository that a task is about. -/
def requireRepository (s : Settings) : Action String :=
  require "A repository is required (--repository or GITHUB_REPOSITORY)" s.repository

/-- The link to the run, when it has a name. -/
def linkTo (s : Settings) (repository : String) : Option String :=
  s.runId.map (runUrl s.serverUrl repository)

/-- Puts out what came of a step, when there is a file for it. -/
def putOut (s : Settings) (outputs : List StepOutput) : Action Unit := do
  match s.output with
  | none => pure ()
  | some path =>
    let written : Except AppendFault Unit ← ask (.appendText path (StepOutput.text outputs))
    match written with
    | .ok () => pure ()
    | .error (.opening e) => throw ⟨"Failed to open step output file " ++ path, [e.message]⟩
    | .error (.writing e) => throw ⟨e.message, []⟩

/-- Shows a text. -/
def print (text : String) : Action Unit := ask (.print text)

/-- Takes note of a comment that cannot start a run. -/
def ignoreComment (field reason : String) : Action Unit :=
  ask (.log ⟨.commentIgnored field reason, none⟩)

/-! ## Tasks -/

/-- Decides about a comment, acknowledges a request, and puts out the decision. -/
def evaluate (s : Settings) (config : Config) (client : Rest.Client) (event : String) :
    Action Unit := do
  let c ← readComment event
  let status : StatusSettings := ⟨config.status.context, linkTo s c.repository⟩
  let site : Site := { client := client }
  match ← site.carryOut (Bot.evaluate config.trigger status config.status.reaction c) with
  | .error (.notApplicable reason) =>
    ignoreComment "reason" reason.message
    putOut s [.ofBool "should_run" false]
  | .error e => failWith "Failed to evaluate comment" e
  | .ok decision =>
    print (Json.encode decision).pretty
    putOut s decision.outputs
    orFail "Comment rejected" decision.ensureAuthorized

/-- Classifies the changed files of a pull request, and puts out its domains. -/
def route (s : Settings) (config : Config) (client : Rest.Client) (pull : UInt64) :
    Action Unit := do
  let repository ← requireRepository s
  let site : Site := { client := client }
  let pr ← orFail s!"Failed to load pull request {repository}#{pull.toNat}"
    (← site.carryOut (Bot.call (.getPullRequest repository pull)))
  let flags ← orFail "Failed to classify changed files"
    (← site.carryOut (Bot.route config.domains pr))
  print (Json.encode flags).pretty
  putOut s flags.outputs

/-- The name of a run: the given one, or a new one. -/
def runName (s : Settings) : Action String :=
  match s.runId with
  | some name => pure name
  | none => ask .freshName

/-- Carries out a run for a comment and shows what it came to. -/
def run (s : Settings) (config : Config) (client : Rest.Client)
    (event workdir remote : String) (push mergeBase : Bool) : Action Unit := do
  let c ← readComment event
  let name ← runName s
  let options : RunOptions := ⟨remote, mergeBase, push, name, linkTo s c.repository⟩
  let site : Site := ⟨client, workdir, some ⟨name, c.issueNumber⟩⟩
  let start : Nat ← ask .clock
  match ← site.carryOut (Run.run config options c) with
  | .error e =>
    if e.isNotApplicable then ignoreComment "error" e.message
    else failWith "Autoformat run failed" e
  | .ok result =>
    let stop : Nat ← ask .clock
    (result.summary (stop - start)).forM print
    if !result.succeeded then throw ⟨"Autoformat failed", []⟩

/-- The outcome in a file, or the empty one without a file. -/
def readOutcome : Option String → Action Outcome
  | none => pure .empty
  | some path => do
    let text : Except FileError String ← ask (.readText path)
    match text with
    | .error e => throw ⟨"Failed to read outcome " ++ path, [e.message]⟩
    | .ok text =>
      match Json.parse Outcome text with
      | .error e => throw ⟨"Invalid outcome JSON", [e.message]⟩
      | .ok outcome => pure outcome

/-- Sets the final status of a run and shows its state. -/
def report (s : Settings) (config : Config) (client : Rest.Client)
    (sha : String) (verdict : Verdict) (outcome : Option String) : Action Unit := do
  let repository ← requireRepository s
  let outcome ← readOutcome outcome
  let status : StatusSettings := ⟨config.status.context, linkTo s repository⟩
  let site : Site := { client := client, span := some ⟨s.runId.getD "local", 0⟩ }
  let state ← orFail "Failed to report status"
    (← site.carryOut (Bot.report status repository sha verdict outcome))
  match state with
  | some state => print s!"Reported {state.name} on {sha}"
  | none => print "Nothing to report"

/-- Carries out a task. -/
def perform (env : Environment) (i : Invocation) : Action Unit := do
  let config ← loadConfig env i.settings.config
  let client ← connect i.settings
  match i.task with
  | .evaluate event => evaluate i.settings config client event
  | .route pull => route i.settings config client pull
  | .run event workdir remote push mergeBase =>
    run i.settings config client event workdir remote push mergeBase
  | .report sha verdict outcome => report i.settings config client sha verdict outcome

/-! ## Command lines -/

/-- How a command line ends. -/
inductive Exit where
  | done
  | failed (f : Failure)
  | misused (m : Misuse)
  deriving DecidableEq, Repr

/-- The exit code. -/
def Exit.code : Exit → UInt8
  | .done => 0
  | .failed _ => 1
  | .misused _ => 2

/-- What is complained about. -/
def Exit.complaint? : Exit → Option String
  | .done => none
  | .failed f => some f.report
  | .misused m => some ("error: " ++ m.message)

/-- The name and version of the program. -/
def versionText : String := "autoformat 0.1.0"

/-- The parameters of a command, as help shows them. -/
def commandHelp (c : Command) : String :=
  String.join (("  " ++ c.name) :: c.own.map fun p => " --" ++ p.name)

/-- What help shows. -/
def helpText : String :=
  "\n".intercalate <|
    ["Usage: autoformat [OPTIONS] COMMAND", "", "Commands:"] ++
      [Command.evaluate, .route, .run, .report].map commandHelp ++
      ["", "Options:"] ++ shared.map fun p => "  --" ++ p.name

/-- Carries out a command line. -/
def start (env : Environment) (args : List String) : Program Console.interface Exit := do
  match Invocation.ofArguments env args with
  | .error (.misuse m) => pure (.misused m)
  | .error .help =>
    Program.request (I := Console.interface) (.print helpText)
    pure .done
  | .error .version =>
    Program.request (I := Console.interface) (.print versionText)
    pure .done
  | .ok i =>
    let filter := Log.Filter.ofSetting (env Log.Filter.variableName)
    match ← (perform env i).run.run (Console.filtered filter) with
    | .ok () => pure .done
    | .error f => pure (.failed f)

end Autoformat.CommandLine
