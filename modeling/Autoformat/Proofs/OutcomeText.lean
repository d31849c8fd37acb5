import Autoformat.Proofs.Objects
import Autoformat.Proofs.WriteOnce
import Mathlib.Data.List.Forall2

/-!
# Outcomes as texts

Reading the text of a table is recording its entries one after the other, in the order of the text
(`Outcome.recordMembers_of_spelled`).

An outcome that is printed and read back is the same outcome (`Outcome.parse_print`): its entries are read in
the order of their names, and recording them in this order puts each at the end.

`Outcome.isRecorded_parse` is about tables that others write: with entries in any order, names in any escapes,
blanks anywhere, and entries that say more than they are asked for.
-/

namespace Autoformat

open Json

instance : LawfulWire JobResult := ⟨fun a => Named.decode_encode (by cases a <;> rfl)⟩

instance : LawfulWire OutcomeEntry where
  decode_encode e := by
    obtain ⟨result, tolerated⟩ := e
    cases result <;> cases tolerated <;> rfl

namespace Outcome

variable {o o' : Outcome}

/-- The members of an object are recorded as the entries that their values are, up to the first that is refused. -/
theorem recordMembers_of_spelled {o : Outcome} {first : Bool} {cs : List Char} (members : Members)
    (h : SpelledMembers first members cs) {xs : List (String × OutcomeEntry)}
    (entries : List.Forall₂ (fun x m => m.1 = x.1 ∧ decode m.2 = .ok x.2) xs members.pairs) :
    o.recordMembers members = (o.recordAll xs).mapError fun taken => .refused taken.message := by
  match members with
  | .done =>
    cases entries
    rfl
  | .fault f => cases h
  | .badKey f => cases h
  | .noColon key e => cases h
  | .member key d members =>
    cases h with
    | member separated text blank blank' value more =>
      obtain - | @⟨x, -, xs, -, ⟨rfl, hentry⟩, hrest⟩ := entries
      rw [recordMembers, decodedText, ok_bind, hentry, ok_bind, recordAll]
      cases o.record x.1 x.2 with
      | error taken => rfl
      | ok o₁ => exact recordMembers_of_spelled (o := o₁) members more hrest

/-- A name that comes after all others is placed at the end. -/
theorem place_eq_append {job : String} {e : OutcomeEntry} {xs : List (String × OutcomeEntry)}
    (h : ∀ x ∈ xs, Utf8.Before x.1 job) : place job e xs = xs ++ [(job, e)] := by
  induction xs with
  | nil => rfl
  | cons x xs ih =>
    have hx : ¬Utf8.Before job x.1 := fun hlt => Utf8.Before.irrefl _ (hlt.trans (h x (by simp)))
    rw [place, if_neg hx, ih fun y hy => h y (by simp [hy])]
    rfl

/-- Entries that come in the order of their names, after those that are there, are all accepted. -/
theorem recordAll_of_sorted {xs : List (String × OutcomeEntry)}
    (h : (o.entries ++ xs).Pairwise OutcomeEntry.Before) : o.recordAll xs = .ok ⟨o.entries ++ xs, h⟩ := by
  induction xs generalizing o with
  | nil => simp
  | cons x xs ih =>
    obtain ⟨job, e⟩ := x
    have hbefore (y : String × OutcomeEntry) (hy : y ∈ o.entries) : Utf8.Before y.1 job :=
      (List.pairwise_append.1 h).2.2 y hy (job, e) (by simp)
    have hnew (y : String × OutcomeEntry) (hy : y ∈ o.entries) : y.1 ≠ job := by
      intro heq
      exact Utf8.Before.irrefl job (heq ▸ hbefore y hy)
    have hplace : (o.insert job e hnew).entries = o.entries ++ [(job, e)] := place_eq_append hbefore
    have hrecord : o.record job e = .ok (o.insert job e hnew) := dif_pos hnew
    have hentries : (o.insert job e hnew).entries ++ xs = o.entries ++ (job, e) :: xs := by
      rw [hplace, List.append_assoc, List.singleton_append]
    have hrest := ih (o := o.insert job e hnew) (hentries ▸ h)
    simp only [hentries] at hrest
    exact recordAll_cons_eq_ok_iff.2 ⟨_, hrecord, hrest⟩

/-- An outcome holds what recording its entries gives. -/
theorem recordAll_entries (o : Outcome) : empty.recordAll o.entries = .ok o :=
  recordAll_of_sorted (o := empty) o.sorted

instance : LawfulWire Outcome where
  decode_encode o := by
    show (decode (Doc.ofJson (.object (o.entries.map fun x => (x.1, encode x.2)))) : Decoded Outcome) = _
    rw [Doc.ofJson]
    have hentries : List.Forall₂ (fun x m => m.1 = x.1 ∧ decode m.2 = .ok x.2) o.entries
        (Members.ofList (o.entries.map fun x => (x.1, encode x.2))).pairs := by
      rw [pairs_ofList, List.map_map, List.forall₂_map_right_iff, List.forall₂_same]
      exact fun x _ => ⟨rfl, decode_encode x.2⟩
    refine (recordMembers_of_spelled _ (spelledMembers_render _) hentries).trans ?_
    rw [recordAll_entries]
    rfl

/-- An outcome that is printed is read as itself. -/
theorem parse_print (o : Outcome) : parse Outcome (print o) = .ok o := Json.parse_print o

/-- Records are refused by the first of them whose job has been recorded before. -/
theorem exists_of_recordAll_eq_error {xs : List (String × OutcomeEntry)} {taken : SlotTaken}
    (h : o.recordAll xs = .error taken) : ∃ u e v o', xs = u ++ (taken.job, e) :: v ∧
      o.recordAll u = .ok o' ∧ taken.job ∈ o'.jobs := by
  induction xs generalizing o with
  | nil => cases h
  | cons x xs ih =>
    obtain ⟨job, e⟩ := x
    rw [recordAll] at h
    cases hr : o.record job e with
    | error s =>
      obtain ⟨hjob, rfl⟩ := record_eq_error_iff.1 hr
      rw [hr] at h
      obtain rfl := Except.error.inj h
      exact ⟨[], e, xs, o, rfl, rfl, hjob⟩
    | ok o₁ =>
      rw [hr] at h
      obtain ⟨u, e', v, o', rfl, hu, hjob⟩ := ih h
      exact ⟨(job, e) :: u, e', v, o', rfl, recordAll_cons_eq_ok_iff.2 ⟨o₁, hr, hu⟩, hjob⟩

/-! ## Tables that others write -/

/-- A job with its result, and whether it is tolerated, which may be left out. -/
structure Row where
  job : String
  result : JobResult
  tolerated : Option Bool

namespace Row

/-- What is recorded for a row: a job is not tolerated unless the row says so. -/
def record (r : Row) : String × OutcomeEntry := (r.job, ⟨r.result, r.tolerated.getD false⟩)

/-- An object that holds the result of a row and whether it is tolerated, among whatever else it says. -/
def IsEntry (r : Row) (d : Doc) : Prop :=
  ∃ members, d = .object members ∧ members.values "result" = [.string (.ok r.result.name)] ∧
    members.values "tolerated" = (r.tolerated.map Doc.bool).toList

/-- An object that holds the rows in order. -/
def IsTable (rows : List Row) (d : Doc) : Prop :=
  ∃ members, d = .object members ∧
    List.Forall₂ (fun r m => m.1 = r.job ∧ r.IsEntry m.2) rows members.pairs

/-- A row is read as what is recorded for it, whatever else is said with it. -/
theorem decode_of_isEntry {r : Row} {d : Doc} {cs : List Char} (h : Spelled d cs) (entry : r.IsEntry d) :
    decode d = .ok r.record.2 := by
  obtain ⟨members, rfl, hresult, htolerated⟩ := entry
  obtain ⟨job, result, tolerated⟩ := r
  cases h with
  | object more =>
    refine Fields.record_of_reads more ?_ ?_
    · refine List.forall_mem_cons.2 ⟨Members.length_values_le_one hresult,
        List.forall_mem_singleton.2 ?_⟩
      rw [htolerated]
      exact Option.length_toList_le
    · refine .seq (.map _ (Fields.reads_field (congrArg List.head? hresult) (decode_encode result))) ?_
      cases tolerated with
      | none => exact Fields.reads_absent (congrArg List.head? htolerated)
      | some tolerated => exact Fields.reads_field (congrArg List.head? htolerated) rfl

/-- The rows of a table are read as what is recorded for them. -/
theorem entries_of_spelled {first : Bool} {cs : List Char} (members : Members)
    (h : SpelledMembers first members cs) {rows : List Row}
    (table : List.Forall₂ (fun r m => m.1 = r.job ∧ r.IsEntry m.2) rows members.pairs) :
    List.Forall₂ (fun x m => m.1 = x.1 ∧ decode m.2 = .ok x.2) (rows.map record) members.pairs := by
  have hspelled := (List.forall₂_and_left members.pairs rows).2
    ⟨fun _ hm => h.exists_spelled members hm, table.flip⟩
  rw [List.forall₂_map_left_iff]
  refine hspelled.flip.imp fun r m hr => ?_
  obtain ⟨⟨ds, hm⟩, hjob, hentry⟩ := hr
  exact ⟨hjob, decode_of_isEntry hm hentry⟩

end Row

/-- A text of a table is read by recording its rows. -/
theorem parse_of_isTable {rows : List Row} {d : Doc} {text : String} (h : d.Spells text)
    (table : Row.IsTable rows d) : parse Outcome text =
      (empty.recordAll (rows.map Row.record)).mapError fun taken => .refused taken.message := by
  refine (parseWith_of_spells h).trans ?_
  obtain ⟨members, rfl, hrows⟩ := table
  obtain ⟨blank, value, blank', chars⟩ := h
  cases value with
  | object more => exact recordMembers_of_spelled members more (Row.entries_of_spelled members more hrows)

/-- What a table with the given rows is read as. -/
structure IsRecorded (rows : List Row) (read : Decoded Outcome) : Prop where
  /-- The table is accepted exactly when its jobs are different. -/
  accepted_iff : (∃ o, read = .ok o) ↔ (rows.map Row.job).Nodup
  /-- What is accepted is what records of the rows make of an empty table. -/
  recorded_iff {o : Outcome} : read = .ok o ↔ empty.recordAll (rows.map Row.record) = .ok o
  /-- A table with a job that is named again is refused by the first such job. -/
  refused (repeated : ¬(rows.map Row.job).Nodup) : ∃ before r after, rows = before ++ r :: after ∧
    (before.map Row.job).Nodup ∧ r.job ∈ before.map Row.job ∧
    read = .error (.refused (SlotTaken.message ⟨r.job⟩))
  /-- Nothing is hidden: every row of a table that is accepted is the entry of its job. -/
  shown {o : Outcome} (accepted : read = .ok o) {r : Row} (hr : r ∈ rows) :
    o.get? r.job = some r.record.2

/-- The rows of a table record their jobs. -/
theorem map_fst_record (rows : List Row) : (rows.map Row.record).map Prod.fst = rows.map Row.job := by
  rw [List.map_map]
  rfl

/-- A table is read as what records of its rows make, however it is written. -/
theorem isRecorded_parse {rows : List Row} {d : Doc} {text : String} (h : d.Spells text)
    (table : Row.IsTable rows d) : IsRecorded rows (parse Outcome text) := by
  have hrecorded {o : Outcome} :
      parse Outcome text = .ok o ↔ empty.recordAll (rows.map Row.record) = .ok o := by
    rw [parse_of_isTable h table]
    cases empty.recordAll (rows.map Row.record) <;> simp [Except.mapError]
  have haccepted : (∃ o, parse Outcome text = .ok o) ↔ (rows.map Row.job).Nodup := by
    simp only [hrecorded, ← map_fst_record]
    constructor
    · rintro ⟨o, ho⟩
      exact (nodup_of_recordAll ho).1
    · intro hnodup
      exact ⟨_, (writeAll_of_nodup hnodup (by simp [jobs])).2⟩
  refine ⟨haccepted, hrecorded, fun repeated => ?_, fun accepted r hr => ?_⟩
  · rw [parse_of_isTable h table]
    cases hall : empty.recordAll (rows.map Row.record) with
    | ok o => exact absurd (haccepted.1 ⟨o, hrecorded.2 hall⟩) repeated
    | error taken =>
      -- the records before the refused one were accepted, so their jobs are different
      obtain ⟨u, e, v, o', hsplit, hu, hjob⟩ := exists_of_recordAll_eq_error hall
      obtain ⟨before, rest, rfl, rfl, hrest⟩ := List.map_eq_append_iff.1 hsplit
      obtain ⟨r, after, rfl, hr, -⟩ := List.map_eq_cons_iff.1 hrest
      obtain ⟨job⟩ := taken
      obtain rfl : r.job = job := congrArg Prod.fst hr
      rw [mem_jobs_of_recordAll hu, map_fst_record] at hjob
      refine ⟨before, r, after, rfl, ?_, by simpa [jobs] using hjob, ?_⟩
      · rw [← map_fst_record]
        exact (nodup_of_recordAll hu).1
      · rw [Except.mapError]
  · rw [get?_eq_some_iff, mem_entries_of_recordAll (hrecorded.1 accepted)]
    exact .inl (List.mem_map_of_mem hr)

/-- A job that failed, and the same job again. -/
def exampleRows : List Row := [⟨"docs", .failed, none⟩, ⟨"docs", .succeeded, some false⟩]

/-- A table of these rows, in which the name of the job is written in two ways. -/
def exampleTable : String :=
  "\x7b\"docs\":\x7b\"log\":[-1,null],\"result\":\"failed\"\x7d, " ++
    "\"\\u0064ocs\" :\x7b\"tolerated\":false,\"result\":\"succeeded\"\x7d\x7d\n"

/-- The members of the table as they are found. -/
def exampleMembers : Members :=
  .member (.ok "docs")
    (.ofJson (.object [("log", .array [.number (-1), .null]), ("result", .string "failed")]))
    (.member (.ok "docs")
      (.ofJson (.object [("tolerated", .bool false), ("result", .string "succeeded")])) .done)

/-- The example text is that of the example table. -/
theorem spells_exampleTable : (Doc.object exampleMembers).Spells exampleTable := by
  have space : Blanks [' '] := by simp [Blanks, isBlank]
  have newline : Blanks ['\n'] := by simp [Blanks, isBlank]
  have name : SpellsText "docs".toList "\\u0064ocs".toList :=
    .unit (n := 0x64) (by decide) (by decide) (by decide) (spellsText_escape "ocs".toList)
  have table : Spelled (.object exampleMembers) _ :=
    .object (.member (.first blanks_nil) (spellsText_escape "docs".toList) blanks_nil blanks_nil
      (spelled_render _) (.member (.comma blanks_nil space) name space blanks_nil (spelled_render _)
        (.done blanks_nil)))
  exact ⟨blanks_nil, table, newline, by decide +kernel⟩

/-- The example rows are those of the example table. -/
theorem isTable_exampleRows : Row.IsTable exampleRows (.object exampleMembers) :=
  ⟨_, rfl, .cons ⟨rfl, _, rfl, rfl, rfl⟩ (.cons ⟨rfl, _, rfl, rfl, rfl⟩ .nil)⟩

/-- A job that failed is not hidden behind a success of the same job. -/
theorem refused_exampleTable :
    parse Outcome exampleTable = .error (.refused "outcome slot already recorded: docs") := by
  obtain ⟨before, r, after, hsplit, -, -, hread⟩ :=
    (isRecorded_parse spells_exampleTable isTable_exampleRows).refused (by decide)
  have hr : r ∈ exampleRows := by simp [hsplit]
  have hjobs : ∀ r ∈ exampleRows, r.job = "docs" := by simp [exampleRows]
  rw [hread, hjobs r hr]
  rfl

end Outcome

end Autoformat
