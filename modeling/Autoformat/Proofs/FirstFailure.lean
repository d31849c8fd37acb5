import Autoformat.Proofs.Git
import Autoformat.Proofs.Layering

/-!
# Git commands stop at the first failure

`answering` lets git give its answers in order, whatever they are: an exit code with any bytes on its two
outputs, or no start at all. `CommitsAll` says what then comes of a commit of all changes, and `Merges` what
comes of a merge.

A commit goes in one of the ways of `CommitCourse`: there is nothing to commit, a command fails, the commit has
no name, or it has one. Which of them it is, and after how many commands, is settled by the answers alone
(`commitCourse_play`).
-/

namespace Autoformat

/-! ## Texts between blanks -/

namespace Text

/-- Every character of the text is blank. -/
def IsBlank (s : String) : Prop := ∀ c ∈ s.toList, isBlank c = true

/-- What is left of a text without the blanks at its ends. -/
structure Trims (s t : String) : Prop where
  between : ∃ before after, s.toList = before ++ t.toList ++ after ∧ (∀ c ∈ before, isBlank c = true) ∧
    ∀ c ∈ after, isBlank c = true
  first : ∀ c ∈ t.toList.head?, isBlank c = false
  last : ∀ c ∈ t.toList.getLast?, isBlank c = false

/-- Without the blank characters at its beginning, a text begins with another one or is empty. -/
theorem head?_dropWhile_isBlank (cs : List Char) : ∀ c ∈ (cs.dropWhile isBlank).head?, isBlank c = false := by
  intro c hc
  have := List.head?_dropWhile_not isBlank cs
  rw [Option.mem_def.1 hc] at this
  exact this

/-- The first character that trimming leaves is the first that is not blank. -/
theorem head?_trimChars (cs : List Char) : ∀ c ∈ (trimChars cs).head?, isBlank c = false := by
  intro c hc
  have hprefix : trimChars cs <+: cs.dropWhile isBlank :=
    List.reverse_suffix.1 (by simpa [trimChars] using List.dropWhile_suffix isBlank)
  refine head?_dropWhile_isBlank cs c ?_
  obtain ⟨after, hafter⟩ := hprefix
  rw [← hafter]
  exact List.mem_head?_append_of_mem_head? hc

/-- A text is trimmed at both ends, and nowhere else. -/
theorem trims_trim (s : String) : Trims s (trim s) where
  between := by
    simpa [trim] using exists_eq_trimChars s.toList
  first := by
    simpa [trim] using head?_trimChars s.toList
  last := by
    simpa [trim, trimChars] using head?_dropWhile_isBlank (s.toList.dropWhile isBlank).reverse

/-- Of a blank text nothing is left. -/
theorem trim_eq_empty_of_isBlank {s : String} (h : IsBlank s) : trim s = "" := by
  simp [trim, trimChars, List.dropWhile_eq_nil_iff.2 h]

/-- Only one text is left of a text. -/
theorem trims_iff {s t : String} : Trims s t ↔ trim s = t := by
  constructor
  · rintro ⟨⟨before, after, hs, blank, blank'⟩, first, last⟩
    by_cases ht : t.toList = []
    · have hblank : IsBlank s := by
        intro c hc
        rw [hs, ht, List.append_nil] at hc
        exact (List.mem_append.1 hc).elim (blank c) (blank' c)
      rw [trim_eq_empty_of_isBlank hblank, String.toList_eq_nil_iff.1 ht]
    · rw [trim, hs, trimChars_eq blank blank' ht first last, String.ofList_toList]
  · rintro rfl
    exact trims_trim s

/-- Nothing is left of a blank text, and of no other. -/
theorem trims_empty_iff {s : String} : Trims s "" ↔ IsBlank s := by
  refine ⟨fun h => ?_, fun h => trims_iff.2 (trim_eq_empty_of_isBlank h)⟩
  obtain ⟨⟨before, after, hs, blank, blank'⟩, -, -⟩ := h
  intro c hc
  rw [hs] at hc
  simp only [String.toList_empty, List.append_nil, List.mem_append] at hc
  exact hc.elim (blank c) (blank' c)

end Text

namespace Bot

open Program

/-! ## What git answers -/

/-- Git exits with a code of zero after it has printed the text. -/
def Prints (x : Except FileError Ending) (text : String) : Prop :=
  ∃ ending, x = .ok ending ∧ ending.code = some 0 ∧ Utf8.decodeLossy ending.stdout = text

/-- Git exits with a code of zero. -/
def Succeeds (x : Except FileError Ending) : Prop := ∃ text, Prints x text

/-- Git exits with a code of zero and prints nothing but blanks. -/
def PrintsNothing (x : Except FileError Ending) : Prop := ∃ text, Prints x text ∧ Text.IsBlank text

/-- Git does not start, or it exits with another code and a complaint. -/
inductive FailsWith (args : List String) : Except FileError Ending → GitFault → Prop where
  | notStarted (e : FileError) : FailsWith args (.error e) (.notStarted e)
  | exited {ending : Ending} {complaint : String} (code : ending.code ≠ some 0)
    (trims : Text.Trims (Utf8.decodeLossy ending.stderr) complaint) :
    FailsWith args (.ok ending) (.failed args complaint)

section
variable {args : List String} {x : Except FileError Ending} {fault : GitFault} {output : String}

/-- A git command goes well when it prints something and ends with zero; what it prints is trimmed. -/
theorem result_eq_ok_iff :
    (GitCall.mk args x).result = .ok output ↔ ∃ text, Prints x text ∧ Text.Trims text output := by
  cases x with
  | error e => simp [GitCall.result, Prints]
  | ok ending =>
    by_cases hcode : ending.code = some 0
    · simp [GitCall.result, Prints, hcode, Text.trims_iff]
    · simp [GitCall.result, Prints, hcode]

/-- A git command goes wrong in the ways of `FailsWith`. -/
theorem result_eq_error_iff :
    (GitCall.mk args x).result = .error (.git fault) ↔ FailsWith args x fault := by
  constructor
  · intro h
    cases x with
    | error e =>
      cases h
      exact .notStarted e
    | ok ending =>
      by_cases hcode : ending.code = some 0
      · simp [GitCall.result, hcode] at h
      · simp only [GitCall.result, hcode, if_false,
          Except.error.injEq, BotError.git.injEq] at h
        exact h ▸ .exited hcode (Text.trims_trim _)
  · intro h
    cases h with
    | notStarted e => rfl
    | exited code trims => simp [GitCall.result, code, Text.trims_iff.1 trims]

/-- The output of a git command is empty exactly when it prints nothing but blanks. -/
theorem result_eq_empty_iff : (GitCall.mk args x).result = .ok "" ↔ PrintsNothing x := by
  simp only [result_eq_ok_iff, Text.trims_empty_iff, PrintsNothing]

/-- A command that fails does not succeed. -/
theorem FailsWith.not_succeeds (h : FailsWith args x fault) : ¬Succeeds x := by
  rintro ⟨text, ending, rfl, hcode, -⟩
  cases h with
  | exited code trims => exact code hcode

/-- A command that ends with zero and prints nothing succeeds. -/
theorem PrintsNothing.succeeds (h : PrintsNothing x) : Succeeds x := by
  obtain ⟨text, hprints, -⟩ := h
  exact ⟨text, hprints⟩

end

/-! ## Commands in a row -/

/-- Surroundings in which git gives its answers in order. -/
def answering (answers : Nat → Except FileError Ending) (other : Surroundings interface) :
    Surroundings interface
  | past, .git _ => answers past.length
  | past, q => other past q

/-- The commands of a script with the answers to them. -/
def callsOf (script : List (List String)) (answers : Nat → Except FileError Ending) : List GitCall :=
  script.mapIdx fun i args => ⟨args, answers i⟩

variable {answers : Nat → Except FileError Ending} {other : Surroundings interface}

/-- A git command is asked for once. -/
theorem play_run {args : List String} {past : Trace} :
    play (answering answers other) past (Git.run args).run =
      ([GitCall.exchange ⟨args, answers past.length⟩], (GitCall.mk args (answers past.length)).result) := by
  have hends : Ends (Git.run args) (play (answering answers other) past (Git.run args).run).1
      (play (answering answers other) past (Git.run args).run).2 := runs_play _ _ _
  obtain ⟨⟨_, x⟩, rfl, ht, hr⟩ := Git.ends_run_iff.1 hends
  have hx : x = answers past.length := by
    have := answer_eq_of_play_eq (u := []) (v := []) ht
    rwa [List.append_nil] at this
  subst hx
  exact Prod.ext ht hr

/-- What follows a command goes on with its output, unless it fails. -/
theorem play_run_bind {β : Type} {args : List String} {f : String → Action β} {past : Trace} :
    play (answering answers other) past (Git.run args >>= f).run =
      match (GitCall.mk args (answers past.length)).result with
      | .error e => ([GitCall.exchange ⟨args, answers past.length⟩], .error e)
      | .ok output =>
        (GitCall.exchange ⟨args, answers past.length⟩ ::
          (play (answering answers other) (past ++ [GitCall.exchange ⟨args, answers past.length⟩])
            (f output).run).1,
        (play (answering answers other) (past ++ [GitCall.exchange ⟨args, answers past.length⟩])
          (f output).run).2) := by
  rw [ExceptT.run_bind, play_bind, play_run]
  cases (GitCall.mk args (answers past.length)).result <;> rfl

/-! ## A commit of all changes -/

open Git (commitScript headArgs statusArgs)

/-- What is wrong with a command of a commit: it fails, or it names no commit. -/
inductive GoesWrong (args : List String) (x : Except FileError Ending) : GitFault → Prop where
  | failed {fault : GitFault} (fails : FailsWith args x fault) : GoesWrong args x fault
  | nameless (head : args = headArgs) (nothing : PrintsNothing x) : GoesWrong args x .emptyHead

/-- The first command of a commit with which something is wrong; all commands before it succeed, and there is
something to commit. -/
structure StopsAt (identity : CommitConfig) (message : String) (answers : Nat → Except FileError Ending)
    (k : Nat) (fault : GitFault) : Prop where
  before : ∀ i < k, Succeeds (answers i)
  changed : 0 < k → ¬PrintsNothing (answers 0)
  wrong : ∃ args, (commitScript identity message)[k]? = some args ∧ GoesWrong args (answers k) fault

/-- How a commit goes, by the answers of git: after so many commands, and with such a result. -/
inductive CommitCourse (identity : CommitConfig) (message : String) (answers : Nat → Except FileError Ending) :
    Nat → Except BotError (Option String) → Prop where
  | clean (nothing : PrintsNothing (answers 0)) : CommitCourse identity message answers 1 (.ok none)
  | stopped {k : Nat} {fault : GitFault} (stops : StopsAt identity message answers k fault) :
    CommitCourse identity message answers (k + 1) (.error (.git fault))
  | committed {text sha : String} (before : ∀ i < 3, Succeeds (answers i)) (changed : ¬PrintsNothing (answers 0))
    (head : Prints (answers 3) text) (trims : Text.Trims text sha) (named : ¬Text.IsBlank text) :
    CommitCourse identity message answers 4 (.ok (some sha))

variable {identity : CommitConfig} {message : String}

/-- A git command whose output is used has ended with zero. -/
theorem succeeds_of_result {args : List String} {x : Except FileError Ending} {output : String}
    (h : (GitCall.mk args x).result = .ok output) : Succeeds x := by
  obtain ⟨text, hprints, -⟩ := result_eq_ok_iff.1 h
  exact ⟨text, hprints⟩

/-- A command that fails ends the commit. -/
theorem stopped_of_result {k : Nat} {args : List String} {e : BotError}
    (before : ∀ i < k, Succeeds (answers i)) (changed : 0 < k → ¬PrintsNothing (answers 0))
    (script : (commitScript identity message)[k]? = some args)
    (h : (GitCall.mk args (answers k)).result = .error e) :
    CommitCourse identity message answers (k + 1) (.error e) := by
  obtain ⟨fault, rfl⟩ := GitCall.exists_fault h
  exact .stopped ⟨before, changed, args, script, .failed (result_eq_error_iff.1 h)⟩

/-- The exchanges of a commit are the first commands of its script, and the answers say how it goes. -/
theorem commitCourse_play : ∃ k r, CommitCourse identity message answers k r ∧
    play (answering answers other) [] (Git.commitAll identity message).run =
      (((callsOf (commitScript identity message) answers).take k).map GitCall.exchange, r) := by
  simp only [Git.commitAll, Git.hasChanges, Git.headSha, bind_assoc, pure_bind, play_run_bind, List.length_nil,
    List.nil_append]
  -- one command after another: if it fails the course ends, and if not it joins those before it
  have before₀ : ∀ i < 0, Succeeds (answers i) := by simp
  cases h₀ : (GitCall.mk ["status", "--porcelain"] (answers 0)).result with
  | error e => exact ⟨1, _, stopped_of_result before₀ (by simp) rfl h₀, rfl⟩
  | ok changes =>
  have before₁ := Nat.forall_lt_succ_right.2 ⟨before₀, succeeds_of_result h₀⟩
  by_cases hclean : changes = ""
  · subst hclean
    exact ⟨1, _, .clean (result_eq_empty_iff.1 h₀), rfl⟩
  have changed : ¬PrintsNothing (answers 0) := by
    rw [← result_eq_empty_iff, h₀]
    simpa using hclean
  simp only [ne_eq, hclean, not_false_eq_true, decide_true, if_true, play_run_bind, List.length_singleton]
  cases h₁ : (GitCall.mk ["add", "--all"] (answers 1)).result with
  | error e => exact ⟨2, _, stopped_of_result before₁ (fun _ => changed) rfl h₁, rfl⟩
  | ok output =>
  have before₂ := Nat.forall_lt_succ_right.2 ⟨before₁, succeeds_of_result h₁⟩
  simp only [List.length_append, List.length_singleton, Nat.reduceAdd]
  cases h₂ : (GitCall.mk (Git.commitArgs identity message) (answers 2)).result with
  | error e => exact ⟨3, _, stopped_of_result before₂ (fun _ => changed) rfl h₂, rfl⟩
  | ok output =>
  have before₃ := Nat.forall_lt_succ_right.2 ⟨before₂, succeeds_of_result h₂⟩
  cases h₃ : (GitCall.mk ["rev-parse", "HEAD"] (answers 3)).result with
  | error e => exact ⟨4, _, stopped_of_result before₃ (fun _ => changed) rfl h₃, rfl⟩
  | ok sha =>
  by_cases hnameless : sha = ""
  · subst hnameless
    exact ⟨4, _, .stopped ⟨before₃, fun _ => changed, _, rfl, .nameless rfl (result_eq_empty_iff.1 h₃)⟩, rfl⟩
  · obtain ⟨text, head, trims⟩ := result_eq_ok_iff.1 h₃
    refine ⟨4, _, .committed before₃ changed head trims fun hblank => ?_, ?_⟩
    · exact hnameless ((Text.trims_iff.1 trims).symm.trans (Text.trim_eq_empty_of_isBlank hblank))
    · simp only [hnameless, if_false]
      rfl

/-- What comes of a commit of all changes, whatever git answers. -/
structure CommitsAll (identity : CommitConfig) (message : String) (answers : Nat → Except FileError Ending)
    (t : Trace) (r : Except BotError (Option String)) : Prop where
  /-- The commands are the first ones of the script. -/
  calls : ∃ k ≤ 4, t = ((callsOf (commitScript identity message) answers).take k).map GitCall.exchange
  /-- There is nothing to commit exactly when the status is empty, and then nothing else is asked. -/
  clean : r = .ok none ↔ PrintsNothing (answers 0)
  clean_calls (h : r = .ok none) : t.length = 1
  /-- There is a commit exactly when all commands succeed, the status is not empty, and the commit has a name. -/
  committed (sha : String) : r = .ok (some sha) ↔ (∀ i < 4, Succeeds (answers i)) ∧ ¬PrintsNothing (answers 0) ∧
    ¬PrintsNothing (answers 3) ∧ ∃ text, Prints (answers 3) text ∧ Text.Trims text sha
  committed_calls (sha : String) (h : r = .ok (some sha)) : t.length = 4 ∧ sha ≠ ""
  /-- All else is the fault of the first command with which something is wrong, and it is the last. -/
  stopped (e : BotError) : r = .error e ↔ ∃ k fault, StopsAt identity message answers k fault ∧ e = .git fault
  stopped_calls (k : Nat) (fault : GitFault) (h : StopsAt identity message answers k fault) : t.length = k + 1

section
variable {k k' : Nat} {r : Except BotError (Option String)} {fault fault' : GitFault} {args : List String}
  {x : Except FileError Ending}

/-- A command prints one text. -/
theorem Prints.unique {text text' : String} (h : Prints x text) (h' : Prints x text') : text = text' := by
  obtain ⟨ending, rfl, -, rfl⟩ := h
  obtain ⟨ending', heq, -, rfl⟩ := h'
  cases heq
  rfl

/-- A command goes wrong in one way. -/
theorem GoesWrong.unique (h : GoesWrong args x fault) (h' : GoesWrong args x fault') : fault = fault' := by
  cases h with
  | failed fails =>
    cases h' with
    | failed fails' =>
      have := (result_eq_error_iff.2 fails).symm.trans (result_eq_error_iff.2 fails')
      simpa using this
    | nameless head nothing => exact absurd nothing.succeeds fails.not_succeeds
  | nameless head nothing =>
    cases h' with
    | failed fails => exact absurd nothing.succeeds fails.not_succeeds
    | nameless => rfl

namespace StopsAt

variable (h : StopsAt identity message answers k fault)
include h

/-- A script that fails does so at one of its four commands. -/
theorem lt : k < 4 := by
  obtain ⟨args, hargs, -⟩ := h.wrong
  exact (List.getElem?_eq_some_iff.1 hargs).1

/-- The command fails, or it is the last one and names no commit. -/
theorem cases_wrong : ¬Succeeds (answers k) ∨ k = 3 ∧ PrintsNothing (answers 3) := by
  obtain ⟨args, hargs, wrong⟩ := h.wrong
  cases wrong with
  | failed fails => exact .inl fails.not_succeeds
  | nameless head nothing =>
    -- no other command of the script has the arguments of the last one
    have hlast : k = 3 := by
      match k, hargs with
      | 0, hargs | 1, hargs | 2, hargs =>
        simp [commitScript, head, statusArgs, headArgs, Git.recordArgs] at hargs
      | 3, _ => rfl
      | k + 4, hargs => simp [commitScript] at hargs
    exact .inr ⟨hlast, hlast ▸ nothing⟩

/-- A script that fails has found something to commit, or could not look for it. -/
theorem not_clean : ¬PrintsNothing (answers 0) := by
  intro hnothing
  rcases Nat.eq_zero_or_pos k with rfl | hpos
  · rcases h.cases_wrong with hfails | ⟨hlast, -⟩
    · exact hfails hnothing.succeeds
    · cases hlast
  · exact h.changed hpos hnothing

/-- Something is wrong with one command at most. -/
theorem unique (h' : StopsAt identity message answers k' fault') : k' = k ∧ fault' = fault := by
  have not_before {j j' : Nat} {f f' : GitFault} (hj : StopsAt identity message answers j f)
      (hj' : StopsAt identity message answers j' f') : ¬j < j' := by
    intro hlt
    rcases hj.cases_wrong with hfails | ⟨rfl, -⟩
    · exact hfails (hj'.before j hlt)
    · exact absurd hj'.lt (by omega)
  obtain rfl : k' = k := Nat.le_antisymm (Nat.not_lt.1 (not_before h h')) (Nat.not_lt.1 (not_before h' h))
  obtain ⟨args, hargs, wrong⟩ := h.wrong
  obtain ⟨args', hargs', wrong'⟩ := h'.wrong
  obtain rfl : args' = args := Option.some.inj (hargs'.symm.trans hargs)
  exact ⟨rfl, wrong'.unique wrong⟩

end StopsAt

/-- Nothing is wrong with commands that succeed, if the last of them names a commit. -/
theorem not_stopsAt (all : ∀ i < 4, Succeeds (answers i)) (named : ¬PrintsNothing (answers 3)) :
    ¬StopsAt identity message answers k fault := by
  intro h
  rcases h.cases_wrong with hfails | ⟨-, hnothing⟩
  · exact hfails (all k h.lt)
  · exact named hnothing

/-- A commit in which nothing is wrong ends with no error. -/
theorem stopped_iff_of_not_stopsAt {e : BotError} (hr : r ≠ .error e)
    (h : ∀ k fault, ¬StopsAt identity message answers k fault) :
    r = .error e ↔ ∃ k fault, StopsAt identity message answers k fault ∧ e = .git fault := by
  refine iff_of_false hr ?_
  rintro ⟨k, fault, stops, -⟩
  exact h k fault stops

/-- What comes of a commit is settled by the answers. -/
theorem CommitCourse.commitsAll (course : CommitCourse identity message answers k r) :
    CommitsAll identity message answers
      (((callsOf (commitScript identity message) answers).take k).map GitCall.exchange) r := by
  cases course with
  | clean nothing =>
    exact {
      calls := ⟨1, by decide, rfl⟩
      clean := iff_of_true rfl nothing
      clean_calls := fun _ => rfl
      committed := fun sha => iff_of_false (by simp) fun h => h.2.1 nothing
      committed_calls := by simp
      stopped := fun e => stopped_iff_of_not_stopsAt (by simp) fun k fault h => h.not_clean nothing
      stopped_calls := fun k fault h => absurd nothing h.not_clean }
  | @stopped k fault stops =>
    have hlength : (((callsOf (commitScript identity message) answers).take (k + 1)).map
        GitCall.exchange).length = k + 1 := by
      simpa [callsOf, commitScript] using Nat.le_of_lt_succ stops.lt
    exact {
      calls := ⟨k + 1, stops.lt, rfl⟩
      clean := iff_of_false (by simp) stops.not_clean
      clean_calls := by simp
      committed := fun sha => iff_of_false (by simp) fun h => not_stopsAt h.1 h.2.2.1 stops
      committed_calls := by simp
      stopped := by
        intro e
        constructor
        · intro he
          exact ⟨k, fault, stops, (Except.error.inj he).symm⟩
        · rintro ⟨k', fault', h', rfl⟩
          rw [(stops.unique h').2]
      stopped_calls := fun k' fault' h' => hlength.trans (congrArg (· + 1) (stops.unique h').1.symm) }
  | @committed text sha before changed head trims named =>
    have hall := Nat.forall_lt_succ_right.2 ⟨before, text, head⟩
    have hnamed : ¬PrintsNothing (answers 3) := by
      rintro ⟨text', head', blank⟩
      exact named (head.unique head' ▸ blank)
    exact {
      calls := ⟨4, by decide, rfl⟩
      clean := iff_of_false (by simp) changed
      clean_calls := by simp
      committed := by
        intro sha'
        constructor
        · intro hsha
          cases hsha
          exact ⟨hall, changed, hnamed, text, head, trims⟩
        · rintro ⟨-, -, -, text', head', trims'⟩
          rw [head.unique head', Text.trims_iff] at trims
          rw [← Text.trims_iff.1 trims', trims]
      committed_calls := by
        rintro sha' hsha
        cases hsha
        refine ⟨rfl, ?_⟩
        rintro rfl
        exact named (Text.trims_empty_iff.1 trims)
      stopped := fun e => stopped_iff_of_not_stopsAt (by simp) fun k fault => not_stopsAt hall hnamed
      stopped_calls := fun k fault h => absurd h (not_stopsAt hall hnamed) }

end

/-! ## A merge -/

open Git (mergeArgs abortArgs)

/-- What comes of a merge, whatever git answers. -/
structure Merges (identity : CommitConfig) (rev : String) (answers : Nat → Except FileError Ending)
    (t : Trace) (r : Except BotError Unit) : Prop where
  merged : r = .ok () ↔ Succeeds (answers 0)
  /-- A merge fails with its own error, whatever comes of taking it back. -/
  refused (e : BotError) : r = .error e ↔
    ∃ fault, FailsWith (mergeArgs identity rev) (answers 0) fault ∧ e = .git fault
  /-- A merge that succeeds is the only command. -/
  alone (h : Succeeds (answers 0)) : t = [GitCall.exchange ⟨mergeArgs identity rev, answers 0⟩]
  /-- A merge that fails is taken back once. -/
  takenBack (h : ¬Succeeds (answers 0)) : t =
    [GitCall.exchange ⟨mergeArgs identity rev, answers 0⟩, GitCall.exchange ⟨abortArgs, answers 1⟩]

/-- A git command that is attempted is asked for once, and what follows sees its result. -/
theorem play_attempt_run_bind {β : Type} {args : List String} {f : Except BotError String → Action β}
    {past : Trace} :
    play (answering answers other) past (attempt (Git.run args) >>= f).run =
      (GitCall.exchange ⟨args, answers past.length⟩ ::
          (play (answering answers other) (past ++ [GitCall.exchange ⟨args, answers past.length⟩])
            (f (GitCall.mk args (answers past.length)).result).run).1,
        (play (answering answers other) (past ++ [GitCall.exchange ⟨args, answers past.length⟩])
          (f (GitCall.mk args (answers past.length)).result).run).2) := by
  rw [attempt, ExceptT.run_bind, ExceptT.run_lift, map_eq_pure_bind, bind_assoc, play_bind, play_run]
  rfl

/-- A merge is one command, and a second one if that fails. -/
theorem play_merge {rev : String} : play (answering answers other) [] (Git.merge rev identity).run =
    match (GitCall.mk (mergeArgs identity rev) (answers 0)).result with
    | .ok _ => ([GitCall.exchange ⟨mergeArgs identity rev, answers 0⟩], .ok ())
    | .error e => ([GitCall.exchange ⟨mergeArgs identity rev, answers 0⟩,
        GitCall.exchange ⟨abortArgs, answers 1⟩], .error e) := by
  have hmerge : Git.merge rev identity = (attempt (Git.run (mergeArgs identity rev)) >>= fun y =>
      match y with
      | .ok _ => pure ()
      | .error e => attempt (Git.run abortArgs) >>= fun _ => throw e) := rfl
  rw [hmerge, play_attempt_run_bind]
  cases (GitCall.mk (mergeArgs identity rev) (answers ([] : Trace).length)).result with
  | ok output => rfl
  | error e =>
    dsimp only
    rw [play_attempt_run_bind]
    rfl

/-- A merge asks for its commands up to the first one that fails. -/
theorem merges_play {rev : String} : Merges identity rev answers
    (play (answering answers other) [] (Git.merge rev identity).run).1
    (play (answering answers other) [] (Git.merge rev identity).run).2 := by
  rw [play_merge]
  cases hresult : (GitCall.mk (mergeArgs identity rev) (answers 0)).result with
  | ok output =>
    have hsucceeds := succeeds_of_result hresult
    exact {
      merged := iff_of_true rfl hsucceeds
      refused := by
        intro e
        refine iff_of_false (by simp) ?_
        rintro ⟨fault, fails, -⟩
        exact fails.not_succeeds hsucceeds
      alone := fun _ => rfl
      takenBack := fun h => absurd hsucceeds h }
  | error e =>
    have hfails : ¬Succeeds (answers 0) := by
      obtain ⟨fault, rfl⟩ := GitCall.exists_fault hresult
      exact (result_eq_error_iff.1 hresult).not_succeeds
    exact {
      merged := iff_of_false (by simp) hfails
      refused := by
        intro e'
        constructor
        · rintro ⟨⟩
          obtain ⟨fault, rfl⟩ := GitCall.exists_fault hresult
          exact ⟨fault, result_eq_error_iff.1 hresult, rfl⟩
        · rintro ⟨fault, fails, rfl⟩
          rw [Except.error.inj (hresult.symm.trans (result_eq_error_iff.2 fails))]
      alone := fun h => absurd h hfails
      takenBack := fun _ => rfl }

/-- What git helpers come to when git gives its answers in order. -/
structure StopsAtFirstFailure (identity : CommitConfig) (answers : Nat → Except FileError Ending)
    (other : Surroundings interface) : Prop where
  commit (message : String) : CommitsAll identity message answers
    (play (answering answers other) [] (Git.commitAll identity message).run).1
    (play (answering answers other) [] (Git.commitAll identity message).run).2
  merge (rev : String) : Merges identity rev answers
    (play (answering answers other) [] (Git.merge rev identity).run).1
    (play (answering answers other) [] (Git.merge rev identity).run).2

/-- A commit stops at the first failure and returns it, and a merge that fails is taken back and returns its own
error, whatever git answers. -/
theorem stopsAtFirstFailure (identity : CommitConfig) (answers : Nat → Except FileError Ending)
    (other : Surroundings interface) : StopsAtFirstFailure identity answers other where
  commit message := by
    obtain ⟨k, r, course, hplay⟩ := @commitCourse_play answers other identity message
    rw [hplay]
    exact course.commitsAll
  merge rev := merges_play

end Bot

end Autoformat
