import Autoformat.Proofs.Commands
import Autoformat.Proofs.Interchange

/-!
# What a reader makes of step outputs

Outputs are put at the end of a file as they are, one line for each, and a reader takes the file apart again:
`StepOutput.ofText`. In a file whose lines have their ends, what is read of former lines stays as it was
(`ofText_append`), and an output is read as it is exactly when its value has no line break
(`ofText_append_text_iff`).

`CommandLine.readsBack_iff` says this of any number of reports that commands put out in one file: domains are
always read as they are, and a decision exactly when no text of its pull request has a line break.
-/

namespace Autoformat

namespace StepOutput

/-! ## Lines -/

section
variable {front rest : List Char}

/-- A text that is not empty has a line. -/
theorem linesOf_ne_nil (h : front ≠ []) : linesOf front ≠ [] := by
  cases front with
  | nil => exact absurd rfl h
  | cons c cs =>
    rw [linesOf]
    split
    · exact List.cons_ne_nil _ _
    · split <;> exact List.cons_ne_nil _ _

/-- A line break keeps what follows it apart from what stands before it. -/
theorem linesOf_append_newline (front rest : List Char) :
    linesOf (front ++ '\n' :: rest) = linesOf (front ++ ['\n']) ++ linesOf rest := by
  induction front with
  | nil => simp [linesOf]
  | cons c cs ih =>
    simp only [List.cons_append, linesOf, ih]
    split
    · rfl
    · cases hlines : linesOf (cs ++ ['\n']) with
      | nil => exact absurd hlines (linesOf_ne_nil (by simp))
      | cons line lines => rfl

/-- There are as many lines as line breaks. -/
theorem length_linesOf : (linesOf (front ++ ['\n'])).length = front.count '\n' + 1 := by
  induction front with
  | nil => rfl
  | cons c cs ih =>
    simp only [List.cons_append, linesOf, List.count_cons]
    by_cases hc : c = '\n'
    · simp [hc, ih]
    · cases hlines : linesOf (cs ++ ['\n']) with
      | nil => exact absurd hlines (linesOf_ne_nil (by simp))
      | cons line lines =>
        rw [hlines] at ih
        simpa [hc] using ih

/-- Without another line break there is one line. -/
theorem linesOf_of_not_mem (h : '\n' ∉ front) : linesOf (front ++ ['\n']) = [front] := by
  induction front with
  | nil => rfl
  | cons c cs ih =>
    rw [List.mem_cons, not_or] at h
    obtain ⟨hc, hcs⟩ := h
    simp [linesOf, Ne.symm hc, ih hcs]

end

/-! ## Files whose lines have their ends -/

/-- The file is empty, or its last line has its end. -/
def EndsLine (file : String) : Prop := file = "" ∨ ∃ front, file = front ++ "\n"

/-- The text has no line break. -/
def IsOneLine (s : String) : Prop := '\n' ∉ s.toList

/-- The text can stand before the first equals sign of a line. -/
def IsKey (key : String) : Prop := IsOneLine key ∧ '=' ∉ key.toList

/-- An output as a reader should find it. -/
def entry (o : StepOutput) : String × Option String := (o.key, some o.value)

/-- The value of a key for a reader who takes the last one. -/
def lastValue (key : String) (entries : List (String × Option String)) : Option (Option String) :=
  entries.reverse.lookup key

section
variable {file s : String} {o : StepOutput} {os : List StepOutput}

/-- What has been read of a file is read again when something is put at its end. -/
theorem ofText_append (h : EndsLine file) : ofText (file ++ s) = ofText file ++ ofText s := by
  rcases h with rfl | ⟨front, rfl⟩
  · simp [ofText, linesOf]
  · have hsplit := linesOf_append_newline front.toList s.toList
    simp [ofText, hsplit]

@[simp]
theorem text_nil : text [] = "" := rfl

theorem text_cons : text (o :: os) = line o ++ text os := by
  simp [text, String.join_cons]

/-- Outputs are put out one after the other. -/
theorem text_append {os' : List StepOutput} : text (os ++ os') = text os ++ text os' := by
  simp [text, String.join_append]

/-- A line is a key, an equals sign, a value and a break. -/
theorem toList_line : (line o).toList = (o.key.toList ++ '=' :: o.value.toList) ++ ['\n'] := by
  simp [line]

/-- A line ends with a break. -/
theorem endsLine_line : EndsLine (line o) := .inr ⟨o.key ++ "=" ++ o.value, rfl⟩

/-- What ends with a line may follow what does. -/
theorem EndsLine.append (h : EndsLine file) (h' : EndsLine s) : EndsLine (file ++ s) := by
  rcases h' with rfl | ⟨front, rfl⟩
  · simpa using h
  · exact .inr ⟨file ++ front, by rw [String.append_assoc]⟩

/-- Outputs end with a line. -/
theorem endsLine_text : EndsLine (text os) := by
  induction os with
  | nil => exact .inl rfl
  | cons o os ih =>
    rw [text_cons]
    exact endsLine_line.append ih

/-- The first output is read from its line, and the others from what follows. -/
theorem ofText_text_cons : ofText (text (o :: os)) = ofText (line o) ++ ofText (text os) := by
  rw [text_cons, ofText_append endsLine_line]

/-! ## Outputs -/

/-- Every line break in an output makes one more line. -/
theorem length_ofText_line : (ofText (line o)).length = o.key.toList.count '\n' + o.value.toList.count '\n' + 1 := by
  simp only [ofText, List.length_map, toList_line, length_linesOf, List.count_append]
  simp

/-- A line is taken apart at the first equals sign. -/
theorem ofLine_of_key {key : List Char} (value : List Char) (h : '=' ∉ key) :
    ofLine (key ++ '=' :: value) = (String.ofList key, some (String.ofList value)) := by
  have hkey : ∀ c ∈ key, (decide (c ≠ '=')) = true := by
    intro c hc
    exact decide_eq_true (ne_of_mem_of_not_mem hc h)
  have htake : (key ++ '=' :: value).takeWhile (· ≠ '=') = key := by
    rw [List.takeWhile_append_of_pos hkey, List.takeWhile_cons_of_neg (by simp), List.append_nil]
  have hdrop : (key ++ '=' :: value).dropWhile (· ≠ '=') = '=' :: value := by
    rw [List.dropWhile_append_of_pos hkey, List.dropWhile_cons_of_neg (by simp)]
  rw [ofLine, htake, hdrop]

/-- An output whose value has no line break is one line, and is read as it is. -/
theorem ofText_line (key : IsKey o.key) (value : IsOneLine o.value) : ofText (line o) = [entry o] := by
  have hline : '\n' ∉ o.key.toList ++ '=' :: o.value.toList := by
    simp only [List.mem_append, List.mem_cons, not_or]
    exact ⟨key.1, by decide, value⟩
  rw [ofText, toList_line, linesOf_of_not_mem hline, List.map_singleton, ofLine_of_key _ key.2]
  simp [entry]

/-- Outputs are read as they were put out, if keys hold no equals sign and nothing breaks a line. -/
theorem ofText_text (keys : ∀ o ∈ os, IsKey o.key) (values : ∀ o ∈ os, IsOneLine o.value) :
    ofText (text os) = os.map entry := by
  induction os with
  | nil => rfl
  | cons o os ih =>
    obtain ⟨key, keys⟩ := List.forall_mem_cons.1 keys
    obtain ⟨value, values⟩ := List.forall_mem_cons.1 values
    rw [ofText_text_cons, ofText_line key value, ih keys values]
    rfl

/-- No output is lost on reading. -/
theorem length_le_length_ofText (os : List StepOutput) : os.length ≤ (ofText (text os)).length := by
  induction os with
  | nil => exact Nat.le_refl 0
  | cons o os ih =>
    rw [ofText_text_cons, List.length_append, length_ofText_line, List.length_cons]
    omega

/-- As many lines as outputs are read only if no value has a line break. -/
theorem isOneLine_of_length (h : (ofText (text os)).length = os.length) : ∀ o ∈ os, IsOneLine o.value := by
  induction os with
  | nil => simp
  | cons o os ih =>
    rw [ofText_text_cons, List.length_append, length_ofText_line, List.length_cons] at h
    have hrest := length_le_length_ofText os
    refine List.forall_mem_cons.2 ⟨?_, ih (by omega)⟩
    exact List.count_eq_zero.1 (by omega)

/-- Outputs are read as they are, after what the file held, exactly when no value has a line break. -/
theorem ofText_append_text_iff (whole : EndsLine file) (keys : ∀ o ∈ os, IsKey o.key) :
    ofText (file ++ text os) = ofText file ++ os.map entry ↔ ∀ o ∈ os, IsOneLine o.value := by
  rw [ofText_append whole, List.append_cancel_left_eq]
  constructor
  · intro h
    exact isOneLine_of_length (by rw [h, List.length_map])
  · exact ofText_text keys

/-- The last output with a key is what a reader finds under it. -/
theorem lastValue_append {entries : List (String × Option String)} {later : List StepOutput}
    (fresh : ∀ o' ∈ later, o'.key ≠ o.key) :
    lastValue o.key (entries ++ entry o :: later.map entry) = some (some o.value) := by
  have hlater : (later.map entry).reverse.lookup o.key = none := by
    rw [List.lookup_eq_none_iff]
    intro p hp
    obtain ⟨o', ho', rfl⟩ := List.mem_map.1 (List.mem_reverse.1 hp)
    simpa [entry] using (fresh o' ho').symm
  simp [lastValue, List.lookup_append, hlater, entry]

/-- A line break in a value starts a line that is taken for another output. -/
theorem line_append_newline (key value key' value' : String) :
    line ⟨key, value ++ "\n" ++ key' ++ "=" ++ value'⟩ = text [⟨key, value⟩, ⟨key', value'⟩] := by
  simp [line, text, String.append_assoc]

end

end StepOutput

namespace CommandLine

open Program
open StepOutput (EndsLine IsKey IsOneLine entry lastValue ofText)

/-! ## Reports -/

/-- What a step puts out. -/
inductive StepReport where
  /-- A comment cannot start a run. -/
  | ignored
  | decision (e : Evaluation)
  | domains (flags : DomainFlags)

namespace StepReport

/-- The outputs of a report. -/
def outputs : StepReport → List StepOutput
  | .ignored => [.ofBool "should_run" false]
  | .decision e => e.outputs
  | .domains flags => flags.outputs

/-- No text of the report has a line break. -/
def IsOneLined : StepReport → Prop
  | .ignored => True
  | .decision e => ∀ s ∈ [e.pullRequest.repository, e.pullRequest.headRepository, e.pullRequest.headRef,
      e.pullRequest.headSha, e.pullRequest.baseRef, e.pullRequest.baseSha], IsOneLine s
  | .domains _ => True

end StepReport

/-- A truth value does not break a line. -/
theorem isOneLine_ofBool (key : String) (b : Bool) : IsOneLine (StepOutput.ofBool key b).value := by
  cases b <;> simp [StepOutput.ofBool, IsOneLine]

/-- A number does not break a line. -/
theorem isOneLine_repr (n : Nat) : IsOneLine n.repr := by
  intro h
  rw [Nat.repr, String.toList_ofList] at h
  exact absurd ((Json.digits_toDigits n).2 _ h) (by decide)

/-- Only the texts of a pull request can break lines. -/
theorem isOneLined_iff {report : StepReport} : report.IsOneLined ↔ ∀ o ∈ report.outputs, IsOneLine o.value := by
  cases report with
  | ignored => simp [StepReport.IsOneLined, StepReport.outputs, isOneLine_ofBool]
  | decision e =>
    simp [StepReport.IsOneLined, StepReport.outputs, Evaluation.outputs, isOneLine_ofBool, isOneLine_repr]
  | domains flags =>
    simp [StepReport.IsOneLined, StepReport.outputs, DomainFlags.outputs, isOneLine_ofBool]

/-- The keys are fixed. -/
theorem isKey_of_mem_outputs (report : StepReport) : ∀ o ∈ report.outputs, IsKey o.key := by
  cases report with
  | ignored => simp [StepReport.outputs, StepOutput.ofBool, IsKey, IsOneLine]
  | decision e =>
    simp [StepReport.outputs, Evaluation.outputs, StepOutput.ofBool, IsKey, IsOneLine]
  | domains flags =>
    simp [StepReport.outputs, DomainFlags.outputs, StepOutput.ofBool, IsKey, IsOneLine, Domain.all, Domain.name]

/-! ## Reports in a file -/

/-- What a file holds after a text has been put at its end, if it takes the text. -/
def Append.applied (a : Append) (path file : String) : String :=
  match a.answer with
  | .ok () => if a.path = path then file ++ a.text else file
  | .error _ => file

/-- What a file holds after all that is put at its end. -/
def fileAfter (path : String) (t : List (Exchange Console.interface)) (file : String) : String :=
  (appends t).foldl (fun file a => a.applied path file) file

/-- Commands put out reports in a file, one after another, and none of them fails. -/
inductive PutsOut (path : String) : List StepReport → List (Exchange Console.interface) → Prop where
  | nil : PutsOut path [] []
  | cons {s : Settings} {report : StepReport} {reports : List StepReport}
    {t u : List (Exchange Console.interface)} (hpath : s.output = some path)
    (put : Ends (putOut s report.outputs) t (.ok ())) (rest : PutsOut path reports u) :
    PutsOut path (report :: reports) (t ++ u)

section
variable {path former file : String} {reports : List StepReport} {t : List (Exchange Console.interface)}

/-- A file holds what was put at its end in both parts, in order. -/
theorem fileAfter_append {u : List (Exchange Console.interface)} :
    fileAfter path (t ++ u) file = fileAfter path u (fileAfter path t file) := by
  simp [fileAfter]

/-- A report that is put out is at the end of the file. -/
theorem fileAfter_of_ends_putOut {s : Settings} {outputs : List StepOutput} (hpath : s.output = some path)
    (put : Ends (putOut s outputs) t (.ok ())) : fileAfter path t file = file ++ StepOutput.text outputs := by
  obtain ⟨-, hentries, hanswers⟩ := ends_putOut put
  rw [placed_of_output hpath] at hentries
  obtain ⟨a, ha, hentry⟩ := List.map_eq_singleton_iff.1 hentries
  have hanswer : a.answer = .ok () := hanswers.1 rfl a (ha ▸ List.mem_singleton_self a)
  obtain ⟨hp, htext⟩ := Prod.mk.inj hentry
  simp [fileAfter, ha, Append.applied, hanswer, hp, htext]

/-- All reports together are at the end of the file. -/
theorem fileAfter_of_putsOut (h : PutsOut path reports t) :
    fileAfter path t file = file ++ StepOutput.text (reports.flatMap StepReport.outputs) := by
  induction h generalizing file with
  | nil => simp [fileAfter, StepOutput.text]
  | cons hpath put rest ih =>
    rw [fileAfter_append, ih, fileAfter_of_ends_putOut hpath put, List.flatMap_cons, StepOutput.text_append,
      String.append_assoc]

/-- What a reader makes of a file in which reports have been put out. -/
structure ReadsBack (former : String) (reports : List StepReport) (file : String) : Prop where
  /-- The former lines are followed by the outputs in order, just as they are. -/
  lines : ofText file = ofText former ++ (reports.flatMap StepReport.outputs).map entry
  /-- The last value of a key is that of the last report with this key. -/
  last (front later : List StepReport) (report : StepReport) (h : reports = front ++ report :: later)
    (o : StepOutput) (ho : o ∈ report.outputs) (fresh : ∀ r ∈ later, ∀ o' ∈ r.outputs, o'.key ≠ o.key) :
    lastValue o.key (ofText file) = some (some o.value)

/-- The keys of a report differ. -/
theorem nodup_keys (report : StepReport) : (report.outputs.map StepOutput.key).Nodup := by
  cases report with
  | ignored => exact List.nodup_singleton _
  | decision e => simp [StepReport.outputs, Evaluation.outputs, StepOutput.ofBool]
  | domains flags => simp [StepReport.outputs, DomainFlags.outputs, StepOutput.ofBool, Domain.all, Domain.name]

/-- A file whose lines are the outputs of the reports, after what was there before, reads back. -/
theorem readsBack_of_lines
    (lines : ofText file = ofText former ++ (reports.flatMap StepReport.outputs).map entry) :
    ReadsBack former reports file where
  lines := lines
  last := by
    rintro front later report rfl o ho fresh
    -- no output after this one has its key: those of the same report differ, later ones are fresh
    obtain ⟨before, after, hsplit⟩ := List.append_of_mem ho
    have hafter : ∀ o' ∈ after ++ later.flatMap StepReport.outputs, o'.key ≠ o.key := by
      intro o' ho'
      rcases List.mem_append.1 ho' with ho' | ho'
      · have hnodup := nodup_keys report
        rw [hsplit, List.map_append, List.map_cons] at hnodup
        have hfresh := (List.nodup_cons.1 (List.Nodup.of_append_right hnodup)).1
        exact fun heq => hfresh (List.mem_map.2 ⟨o', ho', heq⟩)
      · obtain ⟨r, hr, ho'⟩ := List.mem_flatMap.1 ho'
        exact fresh r hr o' ho'
    have hfile : ofText file = (ofText former ++ (front.flatMap StepReport.outputs ++ before).map entry) ++
        entry o :: (after ++ later.flatMap StepReport.outputs).map entry := by
      rw [lines]
      simp [hsplit]
    rw [hfile, StepOutput.lastValue_append hafter]

/-- Reports put out in a file whose lines have their ends are read as they are exactly when no text of them has a
line break, and the lines of the file still have their ends. -/
theorem readsBack_iff (whole : EndsLine former) (h : PutsOut path reports t) :
    EndsLine (fileAfter path t former) ∧
      (ReadsBack former reports (fileAfter path t former) ↔ ∀ r ∈ reports, r.IsOneLined) := by
  have hkeys : ∀ o ∈ reports.flatMap StepReport.outputs, IsKey o.key := by
    intro o ho
    obtain ⟨r, -, ho⟩ := List.mem_flatMap.1 ho
    exact isKey_of_mem_outputs r o ho
  have hlines := StepOutput.ofText_append_text_iff whole hkeys
  rw [List.forall_mem_flatMap] at hlines
  simp only [isOneLined_iff]
  rw [fileAfter_of_putsOut h, ← hlines]
  exact ⟨whole.append StepOutput.endsLine_text, ⟨fun h => h.lines, readsBack_of_lines⟩⟩

end

/-- The exchange in which a report is put out. -/
def putOutExchange (path : String) (report : StepReport) : Exchange Console.interface :=
  ⟨.appendText path (StepOutput.text report.outputs), .ok ()⟩

/-- Reports are put out when the file takes them. -/
theorem putsOut_map (path : String) (reports : List StepReport) :
    PutsOut path reports (reports.map (putOutExchange path)) := by
  induction reports with
  | nil => exact .nil
  | cons report reports ih =>
    have hput : Ends (putOut ⟨false, false, none, none, none, "", "", none, some path⟩ report.outputs)
        [putOutExchange path report] (.ok ()) :=
      ends_ask_bind_iff.2 ⟨Except.ok (), [], rfl, ends_pure_iff.2 ⟨rfl, rfl⟩⟩
    exact .cons rfl hput ih

/-- The decision that a trusted commenter asks for nothing. -/
def exampleDecision : Evaluation := ⟨true, false, Run.examplePull, "maintainer", .member⟩

/-- A decision after the domains of its pull request, in a file that holds another output already. -/
theorem readsBack_example :
    EndsLine "formatted=false\n" ∧
      PutsOut "out.txt" [.domains ⟨true, false, false, true⟩, .decision exampleDecision]
        ([.domains ⟨true, false, false, true⟩, .decision exampleDecision].map (putOutExchange "out.txt")) ∧
      ReadsBack "formatted=false\n" [.domains ⟨true, false, false, true⟩, .decision exampleDecision]
        (fileAfter "out.txt" ([.domains ⟨true, false, false, true⟩, .decision exampleDecision].map
          (putOutExchange "out.txt")) "formatted=false\n") := by
  have hwhole : EndsLine "formatted=false\n" := .inr ⟨"formatted=false", by decide⟩
  refine ⟨hwhole, putsOut_map _ _, (readsBack_iff hwhole (putsOut_map _ _)).2.2 ?_⟩
  simp [StepReport.IsOneLined, exampleDecision, Run.examplePull, IsOneLine]

/-! ## Outputs that are forged -/

/-- The outputs of a decision on a pull request whose head branch is named as given. -/
def outputsWithRef (e : Evaluation) (ref : String) : List StepOutput :=
  Evaluation.outputs { e with pullRequest := { e.pullRequest with headRef := ref } }

/-- What stands after a line break in the name of the head branch is put out as if it were an output of its own. -/
theorem text_of_forged {e : Evaluation} {ref key value : String}
    (forged : e.pullRequest.headRef = ref ++ "\n" ++ key ++ "=" ++ value) :
    StepOutput.text e.outputs =
      StepOutput.text ((outputsWithRef e ref).take 6 ++ ⟨key, value⟩ :: e.outputs.drop 6) := by
  have hline := StepOutput.line_append_newline "head_ref" ref key value
  rw [← forged] at hline
  simp [outputsWithRef, Evaluation.outputs, StepOutput.text_cons, hline, String.append_assoc]

/-- The name of a head branch can put out any value under any key, but for the keys that follow. -/
theorem lastValue_of_forged {e : Evaluation} {former ref key value : String} (whole : EndsLine former)
    (forged : e.pullRequest.headRef = ref ++ "\n" ++ key ++ "=" ++ value) (isKey : IsKey key)
    (oneLine : IsOneLine value) (others : ∀ o ∈ e.outputs.drop 6, IsOneLine o.value)
    (fresh : ∀ o ∈ e.outputs.drop 6, o.key ≠ key) :
    lastValue key (ofText (former ++ StepOutput.text e.outputs)) = some (some value) := by
  have hkeys : ∀ o ∈ (⟨key, value⟩ :: e.outputs.drop 6 : List StepOutput), IsKey o.key :=
    List.forall_mem_cons.2 ⟨isKey, fun o ho =>
      isKey_of_mem_outputs (.decision e) o (List.mem_of_mem_drop ho)⟩
  have hvalues : ∀ o ∈ (⟨key, value⟩ :: e.outputs.drop 6 : List StepOutput), IsOneLine o.value :=
    List.forall_mem_cons.2 ⟨oneLine, others⟩
  rw [text_of_forged forged, StepOutput.text_append, StepOutput.ofText_append whole,
    StepOutput.ofText_append StepOutput.endsLine_text, StepOutput.ofText_text hkeys hvalues, List.map_cons,
    ← List.append_assoc]
  exact StepOutput.lastValue_append (o := ⟨key, value⟩) fresh

/-- A decision on a pull request whose head branch has such a name. -/
def forgedDecision : Evaluation :=
  { exampleDecision with pullRequest := { Run.examplePull with headRef := "topic\nshould_run=true" } }

/-- The decision is that no run is asked for, on a pull request that a server can very well deliver; whoever reads
it finds that one is. -/
theorem forged_decision :
    Rest.Delivers (Rest.IsPullRequest forgedDecision.pullRequest) (.ok (pullAnswer forgedDecision.pullRequest)) ∧
      forgedDecision.shouldRun = false ∧
      EndsLine "" ∧
      PutsOut "out.txt" [.decision forgedDecision] [putOutExchange "out.txt" (.decision forgedDecision)] ∧
      lastValue "should_run" (ofText (fileAfter "out.txt" [putOutExchange "out.txt" (.decision forgedDecision)] "")) =
        some (some "true") ∧
      ¬ReadsBack "" [.decision forgedDecision]
        (fileAfter "out.txt" [putOutExchange "out.txt" (.decision forgedDecision)] "") := by
  have hput : PutsOut "out.txt" [.decision forgedDecision] [putOutExchange "out.txt" (.decision forgedDecision)] :=
    putsOut_map _ _
  have hforged : forgedDecision.pullRequest.headRef = "topic" ++ "\n" ++ "should_run" ++ "=" ++ "true" := by
    decide
  have hlast : lastValue "should_run" (ofText (fileAfter "out.txt"
      [putOutExchange "out.txt" (.decision forgedDecision)] "")) = some (some "true") := by
    rw [fileAfter_of_putsOut hput]
    refine lastValue_of_forged (.inl rfl) hforged ?_ ?_ ?_ ?_
    all_goals simp [forgedDecision, exampleDecision, Evaluation.outputs, Run.examplePull, IsKey, IsOneLine]
  refine ⟨delivers_pullAnswer _, rfl, .inl rfl, hput, hlast, fun h => ?_⟩
  have hown := h.last [] [] _ rfl ⟨"should_run", "false"⟩ (.tail _ (.head _)) (by simp)
  rw [hlast] at hown
  simp at hown

end CommandLine

end Autoformat
