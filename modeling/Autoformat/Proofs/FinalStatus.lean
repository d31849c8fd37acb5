import Autoformat.Proofs.Search
import Autoformat.Proofs.WriteOnce

/-!
# The final status of a table

`FinalStatus.Decides` says what `aggregate` makes of a verdict and a table of any size: nothing when no run
was asked for, a failure for commenters who are not trusted, and otherwise success unless a job blocks.
The description of a blocked run names its blocking jobs in the order of their bytes, cut to the length
that the platform accepts. Entries that block nothing leave no trace in it.
-/

namespace Autoformat

/-- A description that the platform accepts. -/
def IsDescription (d : String) : Prop := d ≠ "" ∧ d.length ≤ 140

namespace Outcome

variable {o o' : Outcome} {job : String} {e : OutcomeEntry}

/-- A job failed or was cancelled, and this is not tolerated. -/
def BlockedBy (o : Outcome) (job : String) : Prop :=
  ∃ e, o.get? job = some e ∧ (e.result = .failed ∨ e.result = .cancelled) ∧ e.tolerated = false

/-- The blocking jobs of an outcome are those that block it. -/
theorem mem_blocking_iff_blockedBy : job ∈ o.blocking ↔ o.BlockedBy job := by
  simp only [mem_blocking_iff, JobResult.isFailure_iff, BlockedBy]

/-- An outcome lists no blocking jobs exactly when no job blocks it. -/
theorem blocking_eq_nil_iff_blockedBy : o.blocking = [] ↔ ∀ job, ¬o.BlockedBy job := by
  simp only [List.eq_nil_iff_forall_not_mem, mem_blocking_iff_blockedBy]

/-- The blocking jobs of a table are listed in one order alone. -/
theorem blocking_congr (h : ∀ job, o.BlockedBy job ↔ o'.BlockedBy job) : o.blocking = o'.blocking := by
  have hnodup (o : Outcome) : o.blocking.Nodup := o.nodup_jobs.sublist (List.filter_sublist.map _)
  have hperm : o.blocking.Perm o'.blocking :=
    (List.perm_ext_iff_of_nodup (hnodup o) (hnodup o')).2 fun job => by
      rw [mem_blocking_iff_blockedBy, mem_blocking_iff_blockedBy, h]
  refine hperm.eq_of_pairwise ?_ (sorted_picked _ _) (sorted_picked _ _)
  intro a b _ _ hab hba
  exact absurd (hab.trans hba) (Utf8.Before.irrefl _)

/-- A record that is skipped, succeeded or tolerated blocks nothing. -/
theorem blockedBy_iff_of_record (recorded : o.record job e = .ok o')
    (harmless : e.result = .skipped ∨ e.result = .succeeded ∨ e.tolerated = true) (name : String) :
    o'.BlockedBy name ↔ o.BlockedBy name := by
  have hblocks : ¬((e.result = .failed ∨ e.result = .cancelled) ∧ e.tolerated = false) := by
    rcases harmless with hresult | hresult | htolerated
    · simp [hresult]
    · simp [hresult]
    · simp [htolerated]
  simp only [BlockedBy, get?_eq_some_iff, mem_entries_of_record recorded]
  constructor
  · rintro ⟨e', heq | hmem, hblocks'⟩
    · cases heq
      exact absurd hblocks' hblocks
    · exact ⟨e', hmem, hblocks'⟩
  · rintro ⟨e', hmem, hblocks'⟩
    exact ⟨e', .inr hmem, hblocks'⟩

end Outcome

namespace FinalStatus

variable {o o' : Outcome} {verdict : Verdict}

/-- A description is kept within the limit: a longer text is cut, and ends with three dots. -/
structure IsCut (text d : String) : Prop where
  short (h : text.length ≤ 140) : d = text
  long (h : 140 < text.length) : d = String.ofList (text.toList.take 137) ++ "..."

/-- What is decided about a verdict and a table. -/
structure Decides (verdict : Verdict) (o : Outcome) : Prop where
  silent : aggregate verdict o = none ↔ verdict = .notTriggered
  /-- A commenter who is not trusted is told so, whatever the table holds. -/
  rejected (h : verdict = .rejected) :
    aggregate verdict o = some .rejected ∧ FinalStatus.rejected.state = .failure
  succeeded (h : verdict = .triggered) :
    (∃ d, aggregate verdict o = some ⟨.success, d⟩) ↔ ∀ job, ¬o.BlockedBy job
  failed (h : verdict = .triggered) (blocked : ∃ job, o.BlockedBy job) :
    ∃ (jobs : List String) (d : String), aggregate verdict o = some ⟨.failure, d⟩ ∧
      jobs.Pairwise Utf8.Before ∧ (∀ job, job ∈ jobs ↔ o.BlockedBy job) ∧
      IsCut ("Autoformat failed: " ++ ", ".intercalate jobs) d
  described (final : FinalStatus) (h : aggregate verdict o = some final) : IsDescription final.description
  /-- Only blocking jobs matter. -/
  unchanged (o' : Outcome) (h : ∀ job, o.BlockedBy job ↔ o'.BlockedBy job) :
    aggregate verdict o' = aggregate verdict o
  /-- So an entry that blocks nothing may as well be left out. -/
  harmless (o' : Outcome) (job : String) (e : OutcomeEntry) (recorded : o.record job e = .ok o')
    (h : e.result = .skipped ∨ e.result = .succeeded ∨ e.tolerated = true) :
    aggregate verdict o' = aggregate verdict o

/-- A run that no job blocks is a success. -/
theorem aggregate_of_free (h : o.blocking = []) : aggregate .triggered o = some .succeeded := by
  rw [aggregate, h]
  rfl

/-- A run that some job blocks is a failure, and the status names the jobs. -/
theorem aggregate_of_blocked (h : o.blocking ≠ []) :
    aggregate .triggered o = some (.failed o.blocking) := by
  rw [aggregate, if_neg (by simpa using h)]

/-- Only which jobs block an outcome matters for its status. -/
theorem aggregate_congr (h : ∀ job, o.BlockedBy job ↔ o'.BlockedBy job) :
    aggregate verdict o' = aggregate verdict o := by
  simp only [aggregate, Outcome.blocking_congr h]

/-- A description that is too long is cut, and ends with dots. -/
theorem isCut_shorten (text : String) : IsCut text (shorten text) where
  short h := Text.shorten_of_le h
  long h := Text.shorten_of_lt h

/-- A text that is cut to the limit can be a description. -/
theorem isDescription_shorten {text : String} (h : text ≠ "") : IsDescription (shorten text) :=
  ⟨Text.shorten_ne_empty h, Text.length_shorten_le (Nat.le_refl 140)⟩

/-- The status of a failed run has a description of the right length, however many jobs it names. -/
theorem isDescription_failed (jobs : List String) : IsDescription (failed jobs).description := by
  refine isDescription_shorten fun hempty => ?_
  have hlength := congrArg String.length hempty
  rw [String.length_append] at hlength
  have hheadline : "Autoformat failed: ".length = 19 := rfl
  simp [hheadline] at hlength

/-- The status of a rejected run has a description of the right length. -/
theorem isDescription_rejected : IsDescription rejected.description := ⟨by decide, by decide⟩

/-- Every final status has a description of the right length. -/
theorem isDescription_of_aggregate {final : FinalStatus} (h : aggregate verdict o = some final) :
    IsDescription final.description := by
  cases verdict with
  | notTriggered => cases h
  | rejected =>
    cases h
    exact isDescription_rejected
  | triggered =>
    by_cases hfree : o.blocking = []
    · rw [aggregate_of_free hfree] at h
      cases h
      exact ⟨by decide, by decide⟩
    · rw [aggregate_of_blocked hfree] at h
      cases h
      exact isDescription_failed _

/-- A verdict and an outcome decide the final status. -/
theorem decides (verdict : Verdict) (o : Outcome) : Decides verdict o where
  silent := by
    cases verdict with
    | notTriggered => simp [aggregate]
    | rejected => simp [aggregate]
    | triggered =>
      by_cases hfree : o.blocking = []
      · simp [aggregate_of_free hfree]
      · simp [aggregate_of_blocked hfree]
  rejected := by
    rintro rfl
    exact ⟨rfl, rfl⟩
  succeeded := by
    rintro rfl
    rw [← Outcome.blocking_eq_nil_iff_blockedBy]
    by_cases hfree : o.blocking = []
    · simp [aggregate_of_free hfree, hfree, FinalStatus.succeeded]
    · simp [aggregate_of_blocked hfree, hfree, FinalStatus.failed]
  failed := by
    rintro rfl ⟨job, blocked⟩
    have hblocked : o.blocking ≠ [] := List.ne_nil_of_mem (Outcome.mem_blocking_iff_blockedBy.2 blocked)
    exact ⟨o.blocking, _, aggregate_of_blocked hblocked, Outcome.sorted_picked _ _,
      fun _ => Outcome.mem_blocking_iff_blockedBy, isCut_shorten _⟩
  described _ := isDescription_of_aggregate
  unchanged _ := aggregate_congr
  harmless _ _ _ recorded h := aggregate_congr fun name =>
    (Outcome.blockedBy_iff_of_record recorded h name).symm

end FinalStatus

end Autoformat
