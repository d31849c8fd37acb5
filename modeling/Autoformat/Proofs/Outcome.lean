import Autoformat.Outcome
import Mathlib.Data.List.Nodup

/-!
# Recording in an outcome

A record is refused exactly when its job is in the table (`record_eq_error_iff`), and an accepted record
adds its entry and nothing else (`mem_entries_of_record`). `recordAll` writes several records in a row: if
all of them are accepted, their jobs are different (`nodup_of_recordAll`), and the outcome blocks when it
did before or one of them does (`blocking_eq_nil_iff_of_recordAll`).
-/

namespace Autoformat

/-- A cancellation counts as a failure. -/
theorem JobResult.isFailure_iff {r : JobResult} :
    r.isFailure = true ↔ r = .failed ∨ r = .cancelled := by
  cases r <;> simp [isFailure]

/-- An entry blocks when it tells of a failure or a cancellation that is not tolerated. -/
theorem OutcomeEntry.isBlocking_iff {e : OutcomeEntry} : e.isBlocking = true ↔
    (e.result = .failed ∨ e.result = .cancelled) ∧ e.tolerated = false := by
  rw [isBlocking, Bool.and_eq_true, Bool.not_eq_true', JobResult.isFailure_iff]

namespace Outcome

variable {o o' : Outcome} {job : String} {e : OutcomeEntry}

/-- The jobs of an outcome are those with an entry. -/
theorem mem_jobs_iff : job ∈ o.jobs ↔ ∃ e, (job, e) ∈ o.entries := by
  simp [jobs]

@[simp]
theorem entries_empty : empty.entries = [] := rfl

/-- No entry belongs to a job exactly when the job is not in the outcome. -/
theorem forall_entries_ne_iff : (∀ x ∈ o.entries, x.1 ≠ job) ↔ job ∉ o.jobs := by
  rw [mem_jobs_iff]
  constructor
  · rintro h ⟨e, he⟩
    exact h _ he rfl
  · rintro h ⟨job', e⟩ hx rfl
    exact h ⟨e, hx⟩

/-- A record is refused when its job has been recorded before. -/
theorem record_eq_error_iff {s : SlotTaken} :
    o.record job e = .error s ↔ job ∈ o.jobs ∧ s = ⟨job⟩ := by
  simp only [record, forall_entries_ne_iff]
  by_cases h : job ∈ o.jobs
  · simp [h, eq_comm]
  · simp [h]

/-- A record of a job that has not been recorded before is accepted. -/
theorem exists_record (h : job ∉ o.jobs) : ∃ o', o.record job e = .ok o' := by
  cases hr : o.record job e with
  | ok o' => exact ⟨o', rfl⟩
  | error s => exact absurd (record_eq_error_iff.1 hr).1 h

/-- A record is accepted for a new job only. -/
theorem not_mem_jobs_of_record (h : o.record job e = .ok o') : job ∉ o.jobs := by
  intro hm
  rw [record_eq_error_iff.2 ⟨hm, rfl⟩] at h
  cases h

/-- An accepted record adds its entry and keeps the others. -/
theorem mem_entries_of_record (h : o.record job e = .ok o') {x : String × OutcomeEntry} :
    x ∈ o'.entries ↔ x = (job, e) ∨ x ∈ o.entries := by
  simp only [record] at h
  split at h
  · cases h
    exact mem_place
  · cases h

/-- An accepted record adds its job. -/
theorem mem_jobs_of_record (h : o.record job e = .ok o') {name : String} :
    name ∈ o'.jobs ↔ name = job ∨ name ∈ o.jobs := by
  simp [mem_jobs_iff, mem_entries_of_record h, exists_or]

/-- An accepted record adds its entry, wherever it is placed. -/
theorem entries_perm_of_record (h : o.record job e = .ok o') :
    o'.entries.Perm ((job, e) :: o.entries) := by
  have place_perm (xs : List (String × OutcomeEntry)) : (place job e xs).Perm ((job, e) :: xs) := by
    induction xs with
    | nil => exact .refl _
    | cons x xs ih =>
      rw [place]
      split
      · exact .refl _
      · exact (ih.cons x).trans (.swap (job, e) x xs)
  simp only [record] at h
  split at h
  · cases h
    exact place_perm _
  · cases h

/-- No job is listed twice. -/
theorem nodup_jobs (o : Outcome) : o.jobs.Nodup := by
  rw [jobs, List.Nodup, List.pairwise_map]
  refine o.sorted.imp fun {a b} h hab => ?_
  rw [OutcomeEntry.Before, hab] at h
  exact Utf8.Before.irrefl _ h

/-- The entry of a job is the one that the table lists. -/
theorem get?_eq_some_iff : o.get? job = some e ↔ (job, e) ∈ o.entries := by
  rw [get?, List.lookup_eq_some_iff]
  constructor
  · rintro ⟨xs, ys, hsplit, -⟩
    simp [hsplit]
  · intro h
    obtain ⟨xs, ys, hsplit⟩ := List.append_of_mem h
    refine ⟨xs, ys, hsplit, fun x hx => ?_⟩
    have hnodup := o.nodup_jobs
    rw [jobs, hsplit, List.map_append, List.map_cons] at hnodup
    have := (List.nodup_append.1 hnodup).2.2 x.1 (List.mem_map_of_mem hx) job (by simp)
    exact bne_iff_ne.2 this.symm

/-- No job blocks when no entry does. -/
theorem blocking_eq_nil_iff : o.blocking = [] ↔ ∀ x ∈ o.entries, x.2.isBlocking = false := by
  simp [blocking]

/-- Some job blocks when its entry tells of a failure or a cancellation that is not tolerated. -/
theorem blocking_ne_nil_iff : o.blocking ≠ [] ↔ ∃ job e, o.get? job = some e ∧
    (e.result = .failed ∨ e.result = .cancelled) ∧ e.tolerated = false := by
  simp only [Ne, blocking_eq_nil_iff, not_forall, Bool.not_eq_false, get?_eq_some_iff,
    ← OutcomeEntry.isBlocking_iff, Prod.exists, exists_prop]

/-- Records in a row; the first that is refused ends them. -/
def recordAll (o : Outcome) : List (String × OutcomeEntry) → Except SlotTaken Outcome
  | [] => .ok o
  | (job, e) :: rest => do
    let o ← o.record job e
    o.recordAll rest

@[simp]
theorem recordAll_nil : o.recordAll [] = .ok o := rfl

/-- Records in a row are accepted when the first one is, and then the others. -/
theorem recordAll_cons_eq_ok_iff {rest : List (String × OutcomeEntry)} :
    o.recordAll ((job, e) :: rest) = .ok o' ↔
      ∃ o₁, o.record job e = .ok o₁ ∧ o₁.recordAll rest = .ok o' := by
  rw [recordAll]
  cases o.record job e <;> simp [bind, Except.bind]

/-- Two rows of records are accepted when the first one is, and then the other. -/
theorem recordAll_append_eq_ok_iff {xs ys : List (String × OutcomeEntry)} :
    o.recordAll (xs ++ ys) = .ok o' ↔ ∃ o₁, o.recordAll xs = .ok o₁ ∧ o₁.recordAll ys = .ok o' := by
  induction xs generalizing o with
  | nil => simp
  | cons x xs ih =>
    obtain ⟨job, e⟩ := x
    simp only [List.cons_append, recordAll_cons_eq_ok_iff, ih]
    exact ⟨fun ⟨o₁, h₁, o₂, h₂, h₃⟩ => ⟨o₂, ⟨o₁, h₁, h₂⟩, h₃⟩,
      fun ⟨o₂, ⟨o₁, h₁, h₂⟩, h₃⟩ => ⟨o₁, h₁, o₂, h₂, h₃⟩⟩

/-- Accepted records add their entries and keep the others. -/
theorem mem_entries_of_recordAll {xs : List (String × OutcomeEntry)} (h : o.recordAll xs = .ok o')
    {x : String × OutcomeEntry} : x ∈ o'.entries ↔ x ∈ xs ∨ x ∈ o.entries := by
  induction xs generalizing o with
  | nil =>
    cases h
    simp
  | cons y ys ih =>
    obtain ⟨o₁, h₁, h₂⟩ := recordAll_cons_eq_ok_iff.1 h
    rw [ih h₂, mem_entries_of_record h₁, List.mem_cons]
    exact or_left_comm.trans or_assoc.symm

/-- Accepted records add their entries, in whatever order the table has them. -/
theorem entries_perm_of_recordAll {xs : List (String × OutcomeEntry)} (h : o.recordAll xs = .ok o') :
    o'.entries.Perm (xs ++ o.entries) := by
  induction xs generalizing o with
  | nil =>
    cases h
    exact .refl _
  | cons x xs ih =>
    obtain ⟨o₁, h₁, h₂⟩ := recordAll_cons_eq_ok_iff.1 h
    have hplaced := (entries_perm_of_record h₁).append_left xs
    exact ((ih h₂).trans hplaced).trans List.perm_middle

/-- Accepted records add their jobs and keep the others. -/
theorem mem_jobs_of_recordAll {xs : List (String × OutcomeEntry)} (h : o.recordAll xs = .ok o') :
    job ∈ o'.jobs ↔ job ∈ xs.map Prod.fst ∨ job ∈ o.jobs := by
  simp only [mem_jobs_iff, mem_entries_of_recordAll h, exists_or, List.mem_map, Prod.exists,
    exists_and_right, exists_eq_right]

/-- Accepted records are of different jobs. -/
theorem nodup_of_recordAll {xs : List (String × OutcomeEntry)} (h : o.recordAll xs = .ok o') :
    (xs.map Prod.fst).Nodup ∧ ∀ job ∈ xs.map Prod.fst, job ∉ o.jobs := by
  induction xs generalizing o with
  | nil => simp
  | cons x xs ih =>
    obtain ⟨o₁, h₁, h₂⟩ := recordAll_cons_eq_ok_iff.1 h
    obtain ⟨hnodup, hfree⟩ := ih h₂
    -- what comes later is recorded next to the first job and to those before it
    have hlater : ∀ job ∈ xs.map Prod.fst, job ≠ x.1 ∧ job ∉ o.jobs := by
      intro job hm
      simpa [mem_jobs_of_record h₁, not_or] using hfree job hm
    refine ⟨List.nodup_cons.2 ⟨fun hm => (hlater _ hm).1 rfl, hnodup⟩, ?_⟩
    rintro job (_ | ⟨_, hm⟩)
    · exact not_mem_jobs_of_record h₁
    · exact (hlater job hm).2

/-- Accepted records leave an outcome without blocking jobs exactly when it had none and none of them
blocks. -/
theorem blocking_eq_nil_iff_of_recordAll {xs : List (String × OutcomeEntry)}
    (h : o.recordAll xs = .ok o') :
    o'.blocking = [] ↔ (∀ x ∈ xs, x.2.isBlocking = false) ∧ o.blocking = [] := by
  simp only [blocking_eq_nil_iff, mem_entries_of_recordAll h, or_imp, forall_and]

/-- Accepted records of which one blocks make the outcome block. -/
theorem blocking_ne_nil_of_recordAll {xs : List (String × OutcomeEntry)}
    (h : o.recordAll xs = .ok o') (hblocks : xs.any (fun x => x.2.isBlocking) = true) :
    o'.blocking ≠ [] := by
  rw [Ne, blocking_eq_nil_iff_of_recordAll h]
  rintro ⟨hnone, -⟩
  obtain ⟨x, hx, hblocking⟩ := List.any_eq_true.1 hblocks
  rw [hnone x hx] at hblocking
  cases hblocking

/-- The records of a list that are accepted; those that are refused change nothing. -/
def accepted (o : Outcome) : List (String × OutcomeEntry) → List (String × OutcomeEntry)
  | [] => []
  | (job, e) :: rest =>
    match o.record job e with
    | .ok o' => (job, e) :: o'.accepted rest
    | .error _ => o.accepted rest

@[simp]
theorem accepted_nil : o.accepted [] = [] := rfl

/-- A record that can be made is among the accepted ones. -/
theorem accepted_cons_of_record {rest : List (String × OutcomeEntry)} (h : o.record job e = .ok o') :
    o.accepted ((job, e) :: rest) = (job, e) :: o'.accepted rest := by
  rw [accepted, h]

/-- A record for a job that has an entry is passed over. -/
theorem accepted_cons_of_mem_jobs {rest : List (String × OutcomeEntry)} (h : job ∈ o.jobs) :
    o.accepted ((job, e) :: rest) = o.accepted rest := by
  rw [accepted, record_eq_error_iff.2 ⟨h, rfl⟩]

/-- If no record is refused, all are accepted. -/
theorem accepted_eq_of_recordAll {xs : List (String × OutcomeEntry)} (h : o.recordAll xs = .ok o') :
    o.accepted xs = xs := by
  induction xs generalizing o with
  | nil => rfl
  | cons x xs ih =>
    obtain ⟨o₁, h₁, h₂⟩ := recordAll_cons_eq_ok_iff.1 h
    rw [accepted_cons_of_record h₁, ih h₂]

/-- What is accepted of a list goes on with what the outcome after it accepts. -/
theorem accepted_append {xs ys : List (String × OutcomeEntry)}
    (h : o.recordAll (o.accepted xs) = .ok o') :
    o.accepted (xs ++ ys) = o.accepted xs ++ o'.accepted ys := by
  induction xs generalizing o with
  | nil =>
    cases h
    rfl
  | cons x xs ih =>
    obtain ⟨job, e⟩ := x
    by_cases hmem : job ∈ o.jobs
    · rw [accepted_cons_of_mem_jobs hmem] at h
      rw [List.cons_append, accepted_cons_of_mem_jobs hmem, accepted_cons_of_mem_jobs hmem, ih h]
    · obtain ⟨o₁, h₁⟩ := exists_record (e := e) hmem
      rw [accepted_cons_of_record h₁] at h
      obtain ⟨o₂, h₂, hrest⟩ := recordAll_cons_eq_ok_iff.1 h
      obtain rfl : o₁ = o₂ := Except.ok.inj (h₁.symm.trans h₂)
      rw [List.cons_append, accepted_cons_of_record h₁, accepted_cons_of_record h₁, ih hrest,
        List.cons_append]

/-- Later records do not change what is accepted of earlier ones. -/
theorem accepted_prefix {xs ys : List (String × OutcomeEntry)} (h : xs <+: ys) :
    o.accepted xs <+: o.accepted ys := by
  induction xs generalizing o ys with
  | nil => exact List.nil_prefix
  | cons x xs ih =>
    obtain ⟨ys, rfl, hrest⟩ := List.cons_prefix_iff.1 h
    obtain ⟨job, e⟩ := x
    by_cases hmem : job ∈ o.jobs
    · rw [accepted_cons_of_mem_jobs hmem, accepted_cons_of_mem_jobs hmem]
      exact ih hrest
    · obtain ⟨o₁, h₁⟩ := exists_record (e := e) hmem
      rw [accepted_cons_of_record h₁, accepted_cons_of_record h₁]
      exact List.cons_prefix_cons.2 ⟨rfl, ih hrest⟩

end Outcome

end Autoformat
