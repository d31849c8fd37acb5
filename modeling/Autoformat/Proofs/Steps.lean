import Autoformat.Proofs.Git
import Autoformat.Proofs.Outcome
import Autoformat.Run.Steps

/-!
# How steps end

`StepEnds x p t r p'` says that a step, begun with the progress `p`, ends with a result after the given
exchanges and leaves the progress `p'`. As with actions, the lemmas take a step apart from its front; a
record may come to nothing because its slot is taken (`stepEnds_record_bind_iff`).
-/

namespace Autoformat.Run

open Autoformat.Bot

variable {α β : Type} {p p' : Progress} {t : Trace}

/-- A step ends with a result after the given exchanges, and leaves a progress. -/
def StepEnds (x : Step α) (p : Progress) (t : Trace) (r : Except Halt α) (p' : Progress) : Prop :=
  Program.Runs (x.run.run p) t (r, p')

/-! ## Steps from their front -/

@[simp]
theorem stepEnds_pure_iff {a : α} {r : Except Halt α} :
    StepEnds (pure a) p t r p' ↔ t = [] ∧ r = .ok a ∧ p' = p := by
  have hrun : (pure a : Step α).run.run p = .done (.ok a, p) := rfl
  rw [StepEnds, hrun, Program.runs_done_iff, Prod.mk.injEq]

@[simp]
theorem stepEnds_throw_iff {h : Halt} {r : Except Halt α} :
    StepEnds (throw h) p t r p' ↔ t = [] ∧ r = .error h ∧ p' = p := by
  have hrun : (throw h : Step α).run.run p = .done (.error h, p) := rfl
  rw [StepEnds, hrun, Program.runs_done_iff, Prod.mk.injEq]

/-- Of two steps in a row, the first halts, or the second goes on with its value and its progress. -/
theorem stepEnds_bind_iff {x : Step α} {f : α → Step β} {r : Except Halt β} :
    StepEnds (x >>= f) p t r p' ↔ (∃ h, r = .error h ∧ StepEnds x p t (.error h) p') ∨
      ∃ u v a q, t = u ++ v ∧ StepEnds x p u (.ok a) q ∧ StepEnds (f a) q v r p' := by
  simp only [StepEnds, ExceptT.run_bind, StateT.run_bind, Program.runs_bind_iff]
  constructor
  · rintro ⟨u, v, ⟨y, q⟩, rfl, hx, hf⟩
    cases y with
    | error h =>
      obtain ⟨rfl, hr⟩ := Program.runs_done_iff.1 hf
      obtain ⟨rfl, rfl⟩ := Prod.mk.inj hr
      exact .inl ⟨h, rfl, by simpa using hx⟩
    | ok a => exact .inr ⟨u, v, a, q, rfl, hx, hf⟩
  · rintro (⟨h, rfl, hx⟩ | ⟨u, v, a, q, rfl, hx, hf⟩)
    · exact ⟨t, [], (.error h, p'), by simp, hx, .done _⟩
    · exact ⟨u, v, (.ok a, q), rfl, hx, hf⟩

/-- A question is one exchange, and its answer decides how the steps go on. -/
theorem stepEnds_ask_bind_iff {q : Request} {f : Answer q → Step β} {r : Except Halt β} :
    StepEnds (ask q >>= f) p t r p' ↔ ∃ x u, t = ⟨q, x⟩ :: u ∧ StepEnds (f x) p u r p' := by
  simp [StepEnds, ask, Program.request, ExceptT.run_bind]

/-- A program that keeps the progress comes first, and the step goes on with its value. -/
theorem stepEnds_lift_bind_iff {x : Program interface α} {f : α → Step β} {r : Except Halt β} :
    StepEnds (ExceptT.lift (StateT.lift x) >>= f) p t r p' ↔
      ∃ u v a, t = u ++ v ∧ Program.Runs x u a ∧ StepEnds (f a) p v r p' := by
  simp [StepEnds, ExceptT.run_bind, Program.runs_bind_iff]

/-- What the steps do besides recording may fail, and this is left to what follows. -/
theorem stepEnds_perform_bind_iff {x : Action α} {f : Except BotError α → Step β}
    {r : Except Halt β} :
    StepEnds (perform x >>= f) p t r p' ↔
      ∃ u v y, t = u ++ v ∧ Ends x u y ∧ StepEnds (f y) p v r p' :=
  stepEnds_lift_bind_iff

/-- To look at the progress is no exchange. -/
theorem stepEnds_get_bind_iff {f : Progress → Step β} {r : Except Halt β} :
    StepEnds (get >>= f) p t r p' ↔ StepEnds (f p) p t r p' := Iff.rfl

/-- To change the progress is no exchange. -/
theorem stepEnds_modify_bind_iff {g : Progress → Progress} {f : Unit → Step β}
    {r : Except Halt β} :
    StepEnds (modify g >>= f) p t r p' ↔ StepEnds (f ()) (g p) t r p' := Iff.rfl

/-- An entry of the log comes first, and tells the step nothing. -/
theorem stepEnds_log_bind_iff {e : Log.Event} {f : Unit → Step β} {r : Except Halt β} :
    StepEnds (ask (.log e) >>= f) p t r p' ↔
      ∃ u, t = ⟨.log e, ()⟩ :: u ∧ StepEnds (f ()) p u r p' :=
  stepEnds_ask_bind_iff.trans ⟨fun ⟨_, u, h⟩ => ⟨u, h⟩, fun ⟨u, h⟩ => ⟨(), u, h⟩⟩

/-- A record is reported, and then it adds its entry or stops the run. -/
theorem stepEnds_record_iff {slot : String} {e : OutcomeEntry} {r : Except Halt Unit} :
    StepEnds (record slot e) p t r p' ↔ t = [⟨.log (.stepFinished slot e), ()⟩] ∧
      ((∃ taken, p.outcome.record slot e = .error taken ∧
          r = .error (.stopped (.slotTaken taken)) ∧ p' = p) ∨
        ∃ o, p.outcome.record slot e = .ok o ∧ r = .ok () ∧ p' = { p with outcome := o }) := by
  refine stepEnds_log_bind_iff.trans ?_
  simp only [stepEnds_get_bind_iff]
  cases p.outcome.record slot e with
  | error taken => simp [stop]
  | ok o =>
    have hmodify {u : Trace} : StepEnds (modify fun p => { p with outcome := o }) p u r p' ↔
        u = [] ∧ r = .ok () ∧ p' = { p with outcome := o } :=
      (stepEnds_modify_bind_iff (f := pure)).trans stepEnds_pure_iff
    simp [hmodify]

/-- An entry is logged first; a slot that is taken then stops the steps. -/
theorem stepEnds_record_bind_iff {slot : String} {e : OutcomeEntry} {f : Unit → Step β}
    {r : Except Halt β} :
    StepEnds (record slot e >>= f) p t r p' ↔ ∃ u, t = ⟨.log (.stepFinished slot e), ()⟩ :: u ∧
      ((∃ taken, p.outcome.record slot e = .error taken ∧ u = [] ∧
          r = .error (.stopped (.slotTaken taken)) ∧ p' = p) ∨
        ∃ o, p.outcome.record slot e = .ok o ∧
          StepEnds (f ()) { p with outcome := o } u r p') := by
  simp only [stepEnds_bind_iff, stepEnds_record_iff]
  constructor
  · rintro (⟨h, rfl, rfl, ⟨taken, ht, he, rfl⟩ | ⟨o, ho, he, rfl⟩⟩ |
      ⟨u, v, a, q, rfl, ⟨rfl, ⟨taken, ht, he, rfl⟩ | ⟨o, ho, he, rfl⟩⟩, hf⟩)
    · cases he
      exact ⟨[], rfl, .inl ⟨taken, ht, rfl, rfl, rfl⟩⟩
    · cases he
    · cases he
    · exact ⟨v, rfl, .inr ⟨o, ho, hf⟩⟩
  · rintro ⟨u, rfl, ⟨taken, ht, rfl, rfl, rfl⟩ | ⟨o, ho, hf⟩⟩
    · exact .inl ⟨_, rfl, rfl, .inl ⟨taken, ht, rfl, rfl⟩⟩
    · exact .inr ⟨[_], u, (), _, rfl, ⟨rfl, .inr ⟨o, ho, trivial, rfl⟩⟩, hf⟩

/-- A record whose slot is free goes on with its entry. -/
theorem stepEnds_record_bind_of_free {slot : String} {e : OutcomeEntry} {f : Unit → Step β}
    {r : Except Halt β} (hfree : slot ∉ p.outcome.jobs)
    (h : StepEnds (record slot e >>= f) p t r p') :
    ∃ u o, t = ⟨.log (.stepFinished slot e), ()⟩ :: u ∧ p.outcome.record slot e = .ok o ∧
      StepEnds (f ()) { p with outcome := o } u r p' := by
  obtain ⟨u, rfl, ⟨taken, ht, -⟩ | ⟨o, ho, hf⟩⟩ := stepEnds_record_bind_iff.1 h
  · exact absurd (Outcome.record_eq_error_iff.1 ht).1 hfree
  · exact ⟨u, o, rfl, ho, hf⟩

/-- A pause halts the run exactly when it is cancelled. -/
theorem stepEnds_pause_bind_iff {at_ : Pause} {f : Unit → Step β} {r : Except Halt β} :
    StepEnds (pause at_ >>= f) p t r p' ↔
      (t = [⟨.cancelled at_, true⟩] ∧ r = .error .cancelled ∧ p' = p) ∨
      ∃ u, t = ⟨.cancelled at_, false⟩ :: u ∧ StepEnds (f ()) p u r p' := by
  have hassoc : pause at_ >>= f = ask (.cancelled at_) >>= fun isCancelled : Bool =>
      (if isCancelled then throw .cancelled else pure ()) >>= f := bind_assoc ..
  rw [hassoc]
  refine stepEnds_ask_bind_iff.trans ?_
  constructor
  · rintro ⟨_ | _, u, rfl, h⟩
    · exact .inr ⟨u, rfl, by simpa using h⟩
    · obtain ⟨rfl, rfl, rfl⟩ := stepEnds_throw_iff.1 h
      exact .inl ⟨rfl, rfl, rfl⟩
  · rintro (⟨rfl, rfl, rfl⟩ | ⟨u, rfl, h⟩)
    · exact ⟨true, [], rfl, stepEnds_throw_iff.2 ⟨rfl, rfl, rfl⟩⟩
    · exact ⟨false, u, rfl, by simpa using h⟩

/-- An error stops the steps. -/
theorem stepEnds_orStop_bind_iff {x : Except BotError α} {f : α → Step β} {r : Except Halt β} :
    StepEnds (orStop x >>= f) p t r p' ↔
      (∃ e, x = .error e ∧ t = [] ∧ r = .error (.stopped e) ∧ p' = p) ∨
      ∃ a, x = .ok a ∧ StepEnds (f a) p t r p' := by
  cases x with
  | error e => simp [orStop, stop]
  | ok a => simp [orStop]

end Autoformat.Run
