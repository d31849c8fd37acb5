import Autoformat.Json.Record
import Autoformat.Json.Word
import Autoformat.Text.Utf8

/-!
# The outcome of a run

An `Outcome` is a table of job names with their results. Each job is recorded once: recording a name a
second time is refused and changes nothing. The table lists its jobs by the bytes of their names, so that
it does not show the order in which they were recorded.

`Outcome.sorted_place` keeps the order under a new entry. A job blocks a run when it failed or was
cancelled and is not tolerated.
-/

namespace Autoformat

/-- How a job ended. -/
inductive JobResult where
  | succeeded
  | failed
  | skipped
  | cancelled
  deriving DecidableEq, Repr

namespace JobResult

/-- The name of a result. -/
def name : JobResult → String
  | .succeeded => "succeeded"
  | .failed => "failed"
  | .skipped => "skipped"
  | .cancelled => "cancelled"

instance : Named JobResult := ⟨[.succeeded, .failed, .skipped, .cancelled], name⟩

instance : Json.Wire JobResult := Named.wire none

/-- The job failed or was cancelled. -/
def isFailure : JobResult → Bool
  | .failed | .cancelled => true
  | .succeeded | .skipped => false

/-- The result of a job that ran to its end. -/
def ofPassed (passed : Bool) : JobResult := if passed then .succeeded else .failed

end JobResult

/-- What is recorded for one job. -/
structure OutcomeEntry where
  result : JobResult
  /-- A failure of this job does not fail the run. -/
  tolerated : Bool := false
  deriving DecidableEq, Repr

namespace OutcomeEntry

/-- The entry fails the run. -/
def isBlocking (e : OutcomeEntry) : Bool := e.result.isFailure && !e.tolerated

instance : Json.Wire OutcomeEntry where
  encode e := .object [("result", Json.encode e.result), ("tolerated", .bool e.tolerated)]
  decode := Json.Fields.record "OutcomeEntry" <|
    OutcomeEntry.mk <$> .required "result" <*> .defaulted "tolerated" false

end OutcomeEntry

/-- The name of the first entry comes before that of the second. -/
def OutcomeEntry.Before (a b : String × OutcomeEntry) : Prop := Utf8.Before a.1 b.1

/-- A table of jobs and their results, by the bytes of the names. -/
structure Outcome where
  entries : List (String × OutcomeEntry)
  sorted : entries.Pairwise OutcomeEntry.Before
  deriving Repr

/-- The job has been recorded before. -/
structure SlotTaken where
  job : String
  deriving DecidableEq, Repr

/-- The wording of a refused entry. -/
def SlotTaken.message (e : SlotTaken) : String := s!"outcome slot already recorded: {e.job}"

namespace Outcome

/-- The table without jobs. -/
def empty : Outcome := ⟨[], .nil⟩

/-- The entry of a job. -/
def get? (o : Outcome) (job : String) : Option OutcomeEntry := o.entries.lookup job

/-- The names of the jobs, by their bytes. -/
def jobs (o : Outcome) : List String := o.entries.map Prod.fst

/-- The number of jobs. -/
def size (o : Outcome) : Nat := o.entries.length

/-- Nothing has been recorded. -/
def isEmpty (o : Outcome) : Bool := o.entries.isEmpty

/-- Puts an entry in front of the first name that comes after its own. -/
def place (job : String) (e : OutcomeEntry) :
    List (String × OutcomeEntry) → List (String × OutcomeEntry)
  | [] => [(job, e)]
  | x :: rest => if Utf8.Before job x.1 then (job, e) :: x :: rest else x :: place job e rest

theorem mem_place {job : String} {e : OutcomeEntry} {xs : List (String × OutcomeEntry)}
    {x : String × OutcomeEntry} : x ∈ place job e xs ↔ x = (job, e) ∨ x ∈ xs := by
  induction xs with
  | nil => simp [place]
  | cons y ys ih =>
    by_cases h : Utf8.Before job y.1
    · simp [place, h]
    · simp only [place, h, if_false, List.mem_cons, ih]
      exact or_left_comm

theorem sorted_place {job : String} {e : OutcomeEntry} {xs : List (String × OutcomeEntry)}
    (h : xs.Pairwise OutcomeEntry.Before) (hnew : ∀ x ∈ xs, x.1 ≠ job) :
    (place job e xs).Pairwise OutcomeEntry.Before := by
  induction xs with
  | nil => simp [place]
  | cons y ys ih =>
    obtain ⟨hy, hys⟩ := List.pairwise_cons.1 h
    by_cases hb : Utf8.Before job y.1
    · simp only [place, hb, if_true]
      refine List.pairwise_cons.2 ⟨fun z hz => ?_, h⟩
      rcases List.mem_cons.1 hz with rfl | hz
      · exact hb
      · exact hb.trans (hy z hz)
    · simp only [place, hb, if_false]
      refine List.pairwise_cons.2 ⟨fun z hz => ?_, ih hys fun x hx => hnew x (by simp [hx])⟩
      rcases mem_place.1 hz with rfl | hz
      · exact Utf8.Before.of_ne (hnew y (by simp)).symm hb
      · exact hy z hz

/-- The table with one more entry, for a job that it does not hold. -/
def insert (o : Outcome) (job : String) (e : OutcomeEntry) (hnew : ∀ x ∈ o.entries, x.1 ≠ job) :
    Outcome :=
  ⟨place job e o.entries, sorted_place o.sorted hnew⟩

/-- Records a job, unless it has been recorded before. -/
def record (o : Outcome) (job : String) (e : OutcomeEntry) : Except SlotTaken Outcome :=
  if hnew : ∀ x ∈ o.entries, x.1 ≠ job then .ok (o.insert job e hnew) else .error ⟨job⟩

/-- The jobs that fail the run. -/
def blocking (o : Outcome) : List String :=
  (o.entries.filter fun x => x.2.isBlocking).map Prod.fst

/-- The jobs that failed and do not fail the run. -/
def toleratedFailures (o : Outcome) : List String :=
  (o.entries.filter fun x => x.2.result.isFailure && x.2.tolerated).map Prod.fst

/-- Records the members of an object one by one. -/
def recordMembers (o : Outcome) : Json.Members → Json.Decoded Outcome
  | .done => .ok o
  | .fault f => Json.malformed f.read
  | .badKey f => Json.malformed f.read
  | .noColon key e => do
    let _ ← Json.decodedText key
    Json.malformed e
  | .member key x rest => do
    let job ← Json.decodedText key
    let e ← Json.decode x
    match o.record job e with
    | .ok o => o.recordMembers rest
    | .error taken => .error (.refused taken.message)

instance : Json.Wire Outcome where
  encode o := .object (o.entries.map fun x => (x.1, Json.encode x.2))
  decode
    | .object members => empty.recordMembers members
    | d => d.mistyped "a map of job names to results"

end Outcome

end Autoformat
