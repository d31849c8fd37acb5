import Autoformat.Trigger

/-!
# Step outputs

A step tells later steps what came of it by lines `key=value` at the end of a file. `StepOutput.text`
writes such lines, and `StepOutput.ofText` is what a reader makes of the file: lines, each taken apart at
its first equals sign.
-/

namespace Autoformat

/-- An output of a step. -/
structure StepOutput where
  key : String
  value : String
  deriving DecidableEq, Repr

namespace StepOutput

/-- A truth value as an output. -/
def ofBool (key : String) (b : Bool) : StepOutput := ⟨key, if b then "true" else "false"⟩

/-- The line of an output, with its end. -/
def line (o : StepOutput) : String := o.key ++ "=" ++ o.value ++ "\n"

/-- The lines of some outputs. -/
def text (os : List StepOutput) : String := String.join (os.map line)

/-- The lines of a text, each without its end; no line follows the last end. -/
def linesOf : List Char → List (List Char)
  | [] => []
  | c :: cs =>
    if c = '\n' then [] :: linesOf cs
    else
      match linesOf cs with
      | [] => [[c]]
      | line :: lines => (c :: line) :: lines

/-- A line taken apart at its first equals sign; without one it is a key alone. -/
def ofLine (line : List Char) : String × Option String :=
  let key := String.ofList (line.takeWhile (· ≠ '='))
  match line.dropWhile (· ≠ '=') with
  | [] => (key, none)
  | _ :: value => (key, some (String.ofList value))

/-- What a reader makes of a file of outputs. -/
def ofText (s : String) : List (String × Option String) := (linesOf s.toList).map ofLine

end StepOutput

/-- What is put out about a decision. -/
def Evaluation.outputs (e : Evaluation) : List StepOutput := [
  .ofBool "authorized" e.authorized,
  .ofBool "should_run" e.shouldRun,
  ⟨"pull_number", toString e.pullRequest.number.toNat⟩,
  ⟨"repository", e.pullRequest.repository⟩,
  ⟨"head_repository", e.pullRequest.headRepository⟩,
  ⟨"head_ref", e.pullRequest.headRef⟩,
  ⟨"head_sha", e.pullRequest.headSha⟩,
  ⟨"base_ref", e.pullRequest.baseRef⟩,
  ⟨"base_sha", e.pullRequest.baseSha⟩]

/-- What is put out about the domains of a pull request. -/
def DomainFlags.outputs (flags : DomainFlags) : List StepOutput :=
  Domain.all.map fun d => .ofBool d.name (flags.get d)

end Autoformat
