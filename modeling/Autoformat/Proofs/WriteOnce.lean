import Autoformat.Proofs.Outcome
import Autoformat.Status
import Mathlib.Data.List.Dedup
import Mathlib.Data.List.Induction
import Mathlib.Data.List.Sort

/-!
# A table that is written once

`Outcome.writeAll` carries out records one after the other; a record that is refused leaves the table as it is.
`IsWrittenOnce` says what comes of this on an empty table, whatever the records are: the first record of a job
is accepted and its entry stays, every later one is refused, and the table lists the jobs by their bytes. An entry
says of itself whether a failure of its job is tolerated, so records of either kind may come in any order.

So the table does not show the order of the records. Two tables with the same entries are equal
(`eq_of_entries_perm`), hence two sequences of accepted records that are permutations of each other give equal
tables, with the same text and the same final status.
-/

namespace Autoformat.Outcome

variable {o o' : Outcome} {job : String} {e : OutcomeEntry} {x : String × OutcomeEntry}
  {xs ys : List (String × OutcomeEntry)}

/-! ## Records one after the other -/

/-- A record and the answer to it. A refused record leaves the table as it is. -/
def write (o : Outcome) (x : String × OutcomeEntry) : Except SlotTaken Unit × Outcome :=
  match o.record x.1 x.2 with
  | .ok o' => (.ok (), o')
  | .error taken => (.error taken, o)

/-- Records one after the other, with the answers to them and the table that they leave. -/
def writeAll (o : Outcome) :
    List (String × OutcomeEntry) → List (Except SlotTaken Unit) × Outcome
  | [] => ([], o)
  | x :: rest =>
    let first := o.write x
    let others := first.2.writeAll rest
    (first.1 :: others.1, others.2)

/-- The answers to records on an empty table. -/
def answers (xs : List (String × OutcomeEntry)) : List (Except SlotTaken Unit) := (empty.writeAll xs).1

/-- The table that records on an empty one leave. -/
def table (xs : List (String × OutcomeEntry)) : Outcome := (empty.writeAll xs).2

/-- The answer to a record of a job, by whether the job has been named before. -/
def answerOf (job : String) (named : Bool) : Except SlotTaken Unit :=
  if named then .error ⟨job⟩ else .ok ()

/-- A job that has an entry is not written again, and the outcome stays as it is. -/
theorem write_of_mem (h : job ∈ o.jobs) : o.write (job, e) = (.error ⟨job⟩, o) := by
  rw [write, record_eq_error_iff.2 ⟨h, rfl⟩]

/-- A job without an entry is written. -/
theorem write_of_record (h : o.record job e = .ok o') : o.write (job, e) = (.ok (), o') := by
  rw [write, h]

/-- After a record its job is in the table, whether the record is accepted or not. -/
theorem mem_jobs_write {name : String} : name ∈ (o.write x).2.jobs ↔ name = x.1 ∨ name ∈ o.jobs := by
  obtain ⟨job, e⟩ := x
  by_cases h : job ∈ o.jobs
  · rw [write_of_mem h]
    refine (or_iff_right_of_imp ?_).symm
    rintro rfl
    exact h
  · obtain ⟨o', hr⟩ := exists_record (e := e) h
    rw [write_of_record hr]
    exact mem_jobs_of_record hr

/-- Writes in two rows are made one after the other. -/
theorem writeAll_append : o.writeAll (xs ++ ys) =
    ((o.writeAll xs).1 ++ ((o.writeAll xs).2.writeAll ys).1, ((o.writeAll xs).2.writeAll ys).2) := by
  induction xs generalizing o with
  | nil => rfl
  | cons x xs ih => simp [writeAll, ih]

/-- Every write is answered. -/
theorem length_writeAll : (o.writeAll xs).1.length = xs.length := by
  induction xs generalizing o with
  | nil => rfl
  | cons x xs ih => simp [writeAll, ih]

/-- The jobs of a table are those that it had and those that were named since. -/
theorem mem_jobs_writeAll : job ∈ (o.writeAll xs).2.jobs ↔ job ∈ xs.map Prod.fst ∨ job ∈ o.jobs := by
  induction xs generalizing o with
  | nil => simp [writeAll]
  | cons x xs ih =>
    rw [writeAll, ih, mem_jobs_write, List.map_cons, List.mem_cons]
    exact or_left_comm.trans or_assoc.symm

/-- A table has the jobs that were written. -/
theorem mem_jobs_table : job ∈ (table xs).jobs ↔ job ∈ xs.map Prod.fst := by
  rw [table, mem_jobs_writeAll]
  simp [jobs]

/-- Every record is answered by whether its job was named before it. -/
theorem answers_append_cons : answers (xs ++ (job, e) :: ys) =
    answers xs ++ answerOf job (job ∈ xs.map Prod.fst) :: ((table (xs ++ [(job, e)])).writeAll ys).1 := by
  have hwrite : ((table xs).write (job, e)).1 = answerOf job (job ∈ xs.map Prod.fst) := by
    by_cases h : job ∈ (table xs).jobs
    · rw [write_of_mem h, answerOf, if_pos (decide_eq_true (mem_jobs_table.1 h))]
    · obtain ⟨o', hr⟩ := exists_record (e := e) h
      rw [write_of_record hr, answerOf, if_neg (by simpa using mt mem_jobs_table.2 h)]
  rw [← hwrite]
  simp [answers, table, writeAll_append, writeAll]

/-- The record that comes next decides what becomes of the table. -/
theorem table_concat : table (xs ++ [x]) = ((table xs).write x).2 := by
  simp [table, writeAll_append, writeAll]

/-! ## What the table holds -/

/-- A job is not found exactly when it has no entry. -/
theorem get?_eq_none_iff : o.get? job = none ↔ job ∉ o.jobs := by
  rw [get?, List.lookup_eq_none_iff, ← forall_entries_ne_iff]
  exact forall₂_congr fun x _ => bne_iff_ne.trans ne_comm

/-- An accepted record adds the entry of its job. -/
theorem get?_of_record (h : o.record job e = .ok o') (name : String) :
    o'.get? name = if name = job then some e else o.get? name := by
  refine Option.ext fun e' => ?_
  rw [get?_eq_some_iff, mem_entries_of_record h, Prod.mk.injEq]
  split
  · next heq =>
    subst heq
    have hnew : (name, e') ∉ o.entries :=
      fun hmem => not_mem_jobs_of_record h (mem_jobs_iff.2 ⟨e', hmem⟩)
    simp [hnew, eq_comm]
  · next hne => simp [hne, get?_eq_some_iff]

/-- The entry of a job is the first that is written for it. -/
theorem get?_writeAll : (o.writeAll xs).2.get? job = (o.get? job).or (xs.lookup job) := by
  induction xs generalizing o with
  | nil => simp [writeAll]
  | cons x xs ih =>
    obtain ⟨name, e⟩ := x
    rw [writeAll, ih, List.lookup_cons]
    by_cases h : name ∈ o.jobs
    · rw [write_of_mem h]
      by_cases heq : job = name
      · obtain ⟨e', he'⟩ := mem_jobs_iff.1 h
        rw [heq, get?_eq_some_iff.2 he']
        rfl
      · rw [beq_eq_false_iff_ne.2 heq]
    · obtain ⟨o', hr⟩ := exists_record (e := e) h
      rw [write_of_record hr, get?_of_record hr]
      by_cases heq : job = name
      · simp [heq, get?_eq_none_iff.2 h]
      · rw [beq_eq_false_iff_ne.2 heq, if_neg heq]

/-- A job is found with the entry that was written first. -/
theorem get?_table : (table xs).get? job = xs.lookup job := by
  rw [table, get?_writeAll]
  simp [get?]

/-- The jobs of a table are listed by their bytes. -/
theorem sorted_jobs (o : Outcome) : o.jobs.Pairwise Utf8.Before := List.pairwise_map.2 o.sorted

/-- A table has one entry for every job that was written. -/
theorem size_table : (table xs).size = (xs.map Prod.fst).dedup.length := by
  have hperm : (table xs).jobs.Perm (xs.map Prod.fst).dedup :=
    (List.perm_ext_iff_of_nodup (nodup_jobs _) (List.nodup_dedup _)).2 fun job => by
      rw [mem_jobs_table, List.mem_dedup]
  rw [← hperm.length_eq, size, jobs, List.length_map]

/-- Jobs that are picked from a table are listed by their bytes. -/
theorem sorted_picked (o : Outcome) (p : String × OutcomeEntry → Bool) :
    ((o.entries.filter p).map Prod.fst).Pairwise Utf8.Before :=
  List.pairwise_map.2 (o.sorted.filter p)

/-- A job is picked exactly when its entry is. -/
theorem mem_picked_iff {p : String × OutcomeEntry → Bool} :
    job ∈ (o.entries.filter p).map Prod.fst ↔ ∃ e, o.get? job = some e ∧ p (job, e) = true := by
  simp [get?_eq_some_iff]

/-- A job blocks when it has failed and this is not tolerated. -/
theorem mem_blocking_iff : job ∈ o.blocking ↔
    ∃ e, o.get? job = some e ∧ e.result.isFailure = true ∧ e.tolerated = false := by
  simp [blocking, mem_picked_iff, OutcomeEntry.isBlocking]

/-- A job is a tolerated failure when it has failed and this is tolerated. -/
theorem mem_toleratedFailures_iff : job ∈ o.toleratedFailures ↔
    ∃ e, o.get? job = some e ∧ e.result.isFailure = true ∧ e.tolerated = true := by
  simp [toleratedFailures, mem_picked_iff]

/-! ## The order of the records -/

/-- Tables with the same entries are equal: the entries stand in the order of their names. -/
theorem eq_of_entries_perm (h : o.entries.Perm o'.entries) : o = o' := by
  have hentries : o.entries = o'.entries := by
    refine h.eq_of_pairwise ?_ o.sorted o'.sorted
    intro a b _ _ hab hba
    exact absurd (hab.trans hba) (Utf8.Before.irrefl _)
  cases o
  cases o'
  cases hentries
  rfl

/-- Records of different jobs that are not in the table are all accepted. -/
theorem writeAll_of_nodup (h : (xs.map Prod.fst).Nodup) (hnew : ∀ job ∈ xs.map Prod.fst, job ∉ o.jobs) :
    (∀ a ∈ (o.writeAll xs).1, a = .ok ()) ∧ o.recordAll xs = .ok (o.writeAll xs).2 := by
  induction xs generalizing o with
  | nil => simp [writeAll]
  | cons x xs ih =>
    obtain ⟨job, e⟩ := x
    obtain ⟨hjob, hnodup⟩ := List.nodup_cons.1 h
    obtain ⟨o', hr⟩ := exists_record (e := e) (hnew job (by simp))
    have hnew' : ∀ name ∈ xs.map Prod.fst, name ∉ o'.jobs := by
      intro name hname
      rw [mem_jobs_of_record hr, not_or]
      refine ⟨?_, hnew name (List.mem_cons_of_mem _ hname)⟩
      rintro rfl
      exact hjob hname
    obtain ⟨haccepted, hrest⟩ := ih hnodup hnew'
    simp only [writeAll, write_of_record hr, List.forall_mem_cons]
    exact ⟨⟨trivial, haccepted⟩, recordAll_cons_eq_ok_iff.2 ⟨o', hr, hrest⟩⟩

/-- All records on an empty table are accepted exactly when they are of different jobs. -/
theorem forall_answers_ok_iff : (∀ a ∈ answers xs, a = .ok ()) ↔ (xs.map Prod.fst).Nodup := by
  refine ⟨fun h => ?_, fun h => (writeAll_of_nodup h (by simp [jobs])).1⟩
  induction xs using List.reverseRecOn with
  | nil => simp
  | append_singleton xs x ih =>
    obtain ⟨job, e⟩ := x
    rw [answers_append_cons] at h
    have hjob := h (answerOf job (job ∈ xs.map Prod.fst)) (by simp)
    have hfresh : job ∉ xs.map Prod.fst := by
      intro hmem
      rw [answerOf, if_pos (decide_eq_true hmem)] at hjob
      cases hjob
    have hnodup := ih fun a ha => h a (by simp [ha])
    rw [List.map_append, List.map_singleton, List.nodup_append]
    refine ⟨hnodup, List.nodup_singleton _, fun name hname other hother => ?_⟩
    rw [List.mem_singleton.1 hother]
    exact ne_of_mem_of_not_mem hname hfresh

/-- A table holds just the records of different jobs that were written to it. -/
theorem entries_perm_table (h : (xs.map Prod.fst).Nodup) : (table xs).entries.Perm xs := by
  have hall := (writeAll_of_nodup (o := empty) h (by simp [jobs])).2
  rw [table]
  simpa using entries_perm_of_recordAll hall

/-- The order of writes does not matter when all jobs are different. -/
theorem table_eq_of_perm (h : (xs.map Prod.fst).Nodup) (hperm : xs.Perm ys) : table xs = table ys := by
  have hys : (ys.map Prod.fst).Nodup := (hperm.map Prod.fst).nodup_iff.1 h
  exact eq_of_entries_perm
    (((entries_perm_table h).trans hperm).trans (entries_perm_table hys).symm)

/-! ## Any records -/

/-- What comes of records on an empty table. -/
structure IsWrittenOnce (xs : List (String × OutcomeEntry)) : Prop where
  /-- There is one answer to each record. -/
  answered : (answers xs).length = xs.length
  /-- A record is refused, by the name of its job, exactly when an earlier one named the job. -/
  refused {u v : List (String × OutcomeEntry)} {job : String} {e : OutcomeEntry}
    (split : xs = u ++ (job, e) :: v) (taken : SlotTaken) :
    (answers xs)[u.length]? = some (.error taken) ↔ job ∈ u.map Prod.fst ∧ taken = ⟨job⟩
  /-- A refused record leaves the table as it was. -/
  kept {u v : List (String × OutcomeEntry)} {x : String × OutcomeEntry} (split : xs = u ++ x :: v)
    {taken : SlotTaken} (h : (answers xs)[u.length]? = some (.error taken)) : table (u ++ [x]) = table u
  /-- The entry of a job is the first that was written for it. -/
  first (job : String) : (table xs).get? job = xs.lookup job
  /-- There are as many entries as different names. -/
  counted : (table xs).size = (xs.map Prod.fst).dedup.length
  /-- The jobs are listed by their bytes, each once. -/
  sorted : (table xs).jobs.Pairwise Utf8.Before
  /-- So are the jobs that block. -/
  sortedBlocking : (table xs).blocking.Pairwise Utf8.Before
  /-- So are the jobs whose failure is tolerated. -/
  sortedTolerated : (table xs).toleratedFailures.Pairwise Utf8.Before
  disjoint : (table xs).blocking.Disjoint (table xs).toleratedFailures
  /-- Together they are the jobs that failed or were cancelled. -/
  failures (job : String) : job ∈ (table xs).blocking ∨ job ∈ (table xs).toleratedFailures ↔
    ∃ e, (table xs).get? job = some e ∧ (e.result = .failed ∨ e.result = .cancelled)
  /-- Records that are all accepted are so in any order, and the table does not show in which. -/
  unordered {ys : List (String × OutcomeEntry)} (perm : xs.Perm ys) (accepted : ∀ a ∈ answers xs, a = .ok ()) :
    (∀ a ∈ answers ys, a = .ok ()) ∧ table ys = table xs ∧
      Json.print (table ys) = Json.print (table xs) ∧
      ∀ verdict, FinalStatus.aggregate verdict (table ys) = FinalStatus.aggregate verdict (table xs)

/-- A write is refused exactly when its job was written before. -/
theorem getElem?_answers_eq_error_iff {u v : List (String × OutcomeEntry)} {taken : SlotTaken} :
    (answers (u ++ (job, e) :: v))[u.length]? = some (.error taken) ↔
      job ∈ u.map Prod.fst ∧ taken = ⟨job⟩ := by
  have hlength : (answers u).length = u.length := length_writeAll
  rw [answers_append_cons, List.getElem?_append_right (by rw [hlength]), hlength, Nat.sub_self,
    List.getElem?_cons_zero, Option.some.injEq, answerOf]
  by_cases h : job ∈ u.map Prod.fst
  · rw [if_pos (decide_eq_true h), Except.error.injEq, eq_comm, and_iff_right h]
  · rw [if_neg (by simpa using h)]
    constructor
    · intro heq
      cases heq
    · intro heq
      exact absurd heq.1 h

/-- An outcome is written once, and does not depend on the order of what is written. -/
theorem isWrittenOnce (xs : List (String × OutcomeEntry)) : IsWrittenOnce xs where
  answered := length_writeAll
  refused := by
    rintro u v job e rfl taken
    exact getElem?_answers_eq_error_iff
  kept := by
    rintro u v ⟨job, e⟩ rfl taken h
    have hnamed := (getElem?_answers_eq_error_iff.1 h).1
    rw [table_concat, write_of_mem (mem_jobs_table.2 hnamed)]
  first job := get?_table
  counted := size_table
  sorted := sorted_jobs _
  sortedBlocking := sorted_picked _ _
  sortedTolerated := sorted_picked _ _
  disjoint job hblocking htolerated := by
    obtain ⟨e, he, -, hb⟩ := mem_blocking_iff.1 hblocking
    obtain ⟨e', he', -, ht⟩ := mem_toleratedFailures_iff.1 htolerated
    obtain rfl : e = e' := Option.some.inj (he.symm.trans he')
    exact Bool.false_ne_true (hb.symm.trans ht)
  failures job := by
    rw [mem_blocking_iff, mem_toleratedFailures_iff, ← exists_or]
    refine exists_congr fun e => ?_
    rw [← JobResult.isFailure_iff, ← and_or_left, ← and_or_left]
    simp
  unordered perm accepted := by
    have hnodup := forall_answers_ok_iff.1 accepted
    have htable := table_eq_of_perm hnodup perm
    refine ⟨forall_answers_ok_iff.2 ((perm.map Prod.fst).nodup_iff.1 hnodup), htable.symm, ?_, ?_⟩
    · rw [htable]
    · intro verdict
      rw [htable]

end Autoformat.Outcome
