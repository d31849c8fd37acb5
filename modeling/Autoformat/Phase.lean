import Autoformat.Json.Word

/-!
# The life of a run

A run is received, evaluated, and then rejected, left alone, or carried out; a run that is carried out
succeeds or fails. `Phase.Follows` lists these steps.
-/

namespace Autoformat

/-- Where a run stands. -/
inductive Phase where
  | received
  | evaluated
  | rejected
  | notTriggered
  | running
  | succeeded
  | failed
  deriving DecidableEq, Repr

namespace Phase

/-- The name of a phase. -/
def name : Phase → String
  | .received => "received"
  | .evaluated => "evaluated"
  | .rejected => "rejected"
  | .notTriggered => "not_triggered"
  | .running => "running"
  | .succeeded => "succeeded"
  | .failed => "failed"

instance : Named Phase :=
  ⟨[.received, .evaluated, .rejected, .notTriggered, .running, .succeeded, .failed], name⟩

instance : Json.Wire Phase := Named.wire none

/-- The phases that may come right after a phase. -/
def next : Phase → List Phase
  | .received => [.evaluated]
  | .evaluated => [.rejected, .notTriggered, .running]
  | .running => [.succeeded, .failed]
  | .rejected => []
  | .notTriggered => []
  | .succeeded => []
  | .failed => []

/-- A run ends in this phase. -/
def isTerminal (p : Phase) : Bool := p.next.isEmpty

/-- One phase may come right after another. -/
def Follows (requested current : Phase) : Prop := requested ∈ current.next

instance (requested current : Phase) : Decidable (Follows requested current) :=
  inferInstanceAs (Decidable (requested ∈ current.next))

end Phase

end Autoformat
