import Autoformat.Proofs.Actions
import Autoformat.Run.Basic

/-!
# Runs that meet no resistance

`compliant` answers a run that is refused nothing: the platform accepts every call, git does what it is
told, and nobody cancels the run. Such a run exists for every configuration and every comment
(`exists_compliant_run`), so a statement that fails for it fails for a run that can happen.
-/

namespace Autoformat.Run

open Autoformat.Bot

/-- Answers to a run that is refused nothing: it gets its pull request and the changed files, git does what
it is told and prints the given text, and a formatter exits with the given code. -/
def compliant (pr : PullRequest) (files : ChangedFiles) (output : ByteArray) (code : Command → UInt8) :
    (q : Request) → Answer q
  | .platform (.getPullRequest _ _) => .ok pr
  | .platform (.addReaction _ _ _) => .ok ()
  | .platform (.listFiles _ _) => .ok files
  | .platform (.setStatus _ _ _) => .ok ()
  | .git _ => .ok ⟨some 0, output, .empty⟩
  | .command x => .ended ⟨some (code x), .empty, .empty⟩
  | .cancelled _ => false
  | .log _ => ()

/-- The exchanges of a run that is refused nothing, and its result. -/
def outing (config : Config) (options : RunOptions) (c : Comment) (pr : PullRequest)
    (files : ChangedFiles) (output : ByteArray) (code : Command → UInt8) :
    Trace × Except BotError RunResult :=
  Program.play (Program.steady (compliant pr files output code)) [] (run config options c).run

/-- An outing is a run. -/
theorem ends_outing (config : Config) (options : RunOptions) (c : Comment) (pr : PullRequest)
    (files : ChangedFiles) (output : ByteArray) (code : Command → UInt8) :
    Ends (run config options c) (outing config options c pr files output code).1
      (outing config options c pr files output code).2 :=
  Program.runs_play _ _ _

section
variable {files : ChangedFiles} {output : ByteArray} {code : Command → UInt8} {q : Request}

/-- Compliant surroundings refuse nothing. -/
theorem refusal?_compliant :
    refusal? (⟨q, compliant pr files output code q⟩ : Exchange interface) = none := by
  cases q with
  | platform call => cases call <;> rfl
  | git args => rfl
  | command x => rfl
  | cancelled at_ => rfl
  | log e => rfl

/-- Compliant surroundings cancel nothing. -/
theorem isCancellation_compliant :
    isCancellation (⟨q, compliant pr files output code q⟩ : Exchange interface) = false := by
  cases q <;> rfl

/-- Compliant surroundings list the files that they hold. -/
theorem listing?_compliant {files' : ChangedFiles}
    (h : listing? (⟨q, compliant pr files output code q⟩ : Exchange interface) = some files') :
    files' = files := by
  cases q with
  | platform call =>
    cases call with
    | listFiles repository number => exact (Option.some.inj h).symm
    | getPullRequest repository number => cases h
    | addReaction repository id reaction => cases h
    | setStatus repository sha update => cases h
  | git args => cases h
  | command x => cases h
  | cancelled at_ => cases h
  | log e => cases h

end

/-- There is a run to which nothing is refused and which is not cancelled, whatever its comment and the
changed files. -/
theorem exists_compliant_run (config : Config) (options : RunOptions) (c : Comment)
    (pr : PullRequest) (files : ChangedFiles) :
    ∃ t r, Ends (run config options c) t r ∧ refusals t = [] ∧ ¬IsCancelled t ∧
      ∀ files' ∈ listings t, files' = files := by
  refine ⟨_, _, ends_outing config options c pr files .empty fun _ => 0, ?_, ?_, ?_⟩
  · refine List.filterMap_eq_nil_iff.2 fun e he => ?_
    obtain ⟨q, rfl⟩ := Program.exists_eq_of_mem_play_steady he
    exact refusal?_compliant
  · rintro ⟨e, he, hcancelled⟩
    obtain ⟨q, rfl⟩ := Program.exists_eq_of_mem_play_steady he
    rw [isCancellation_compliant] at hcancelled
    cases hcancelled
  · intro files' hfiles
    obtain ⟨e, he, hlisting⟩ := List.mem_filterMap.1 hfiles
    obtain ⟨q, rfl⟩ := Program.exists_eq_of_mem_play_steady he
    exact listing?_compliant hlisting

/-! ## An example -/

/-- A pull request for examples. -/
def examplePull : PullRequest :=
  ⟨"octo/demo", "fork/demo", 7, "topic", "a1b2c3", "main", "d4e5f6"⟩

/-- A comment that asks for a run on `examplePull`. -/
def exampleComment : Comment :=
  ⟨"octo/demo", 7, true, "created", 41, "maintainer", .member, "@mlflow-automation autoformat"⟩

/-- Options for examples. -/
def exampleOptions : RunOptions := { runId := "1" }

/-- Changed files of one domain. -/
def exampleFiles : ChangedFiles := ⟨["mlflow/store.py", "README.md"]⟩

/-- The run for `exampleComment` with the default configuration, when it is refused nothing. All that git
prints is the name of a commit. -/
def exampleOuting : Trace × Except BotError RunResult :=
  outing {} exampleOptions exampleComment examplePull exampleFiles "f00d".toUTF8 fun _ => 0

/-- The example outing is a run. -/
theorem ends_exampleOuting :
    Ends (run {} exampleOptions exampleComment) exampleOuting.1 exampleOuting.2 :=
  ends_outing {} exampleOptions exampleComment examplePull exampleFiles "f00d".toUTF8 fun _ => 0

end Autoformat.Run
