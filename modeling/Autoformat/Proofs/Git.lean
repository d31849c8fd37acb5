import Autoformat.Bot.Git
import Autoformat.Proofs.Actions

/-!
# How git commands follow each other

Git commands come in scripts: each command is called only if the one before it went on. `Follows` says
that the calls of a trace are a script carried out as far as it goes. A merge is the script of
`MergeCalls`, and `follows_of_ends_publish` says that a commit and its push are the script of
`publishScript`: it ends at the first command that fails, and also where the status or the name of the
head commit is empty.
-/

namespace Autoformat.Bot

variable {t : Trace}

namespace GitCall

/-- What a git command comes to: its output without the blanks at its ends, or what is wrong. -/
def result (g : GitCall) : Except BotError String :=
  match g.answer with
  | .error e => .error (.git (.notStarted e))
  | .ok ending =>
    if ending.code = some 0 then .ok (Text.trim (Utf8.decodeLossy ending.stdout))
    else .error (.git (.failed g.args (Text.trim (Utf8.decodeLossy ending.stderr))))

/-- The command succeeded. -/
def succeeded (g : GitCall) : Bool := g.result.isOk

/-- The exchange of a git command. -/
def exchange (g : GitCall) : Exchange interface := ⟨.git g.args, g.answer⟩

/-- What is wrong with a command is a fault of git. -/
theorem exists_fault {g : GitCall} {e : BotError} (h : g.result = .error e) :
    ∃ fault, e = .git fault := by
  rw [result] at h
  cases hanswer : g.answer with
  | error reason =>
    rw [hanswer] at h
    cases h
    exact ⟨_, rfl⟩
  | ok ending =>
    simp only [hanswer] at h
    split at h
    · cases h
    · cases h
      exact ⟨_, rfl⟩

end GitCall

namespace Git

/-- The exchanges of git commands show these commands and nothing else. -/
@[simp]
theorem gitCalls_map_exchange (gs : List GitCall) : gitCalls (gs.map GitCall.exchange) = gs := by
  simp [collect, GitCall.exchange, Function.comp_def]

/-- The exchanges of git commands show nothing of a kind that shows none of them. -/
theorem collect_map_exchange_eq_nil {α : Type} {f : Exchange interface → Option α}
    (hgit : ∀ g : GitCall, f g.exchange = none) (gs : List GitCall) :
    collect f (gs.map GitCall.exchange) = [] := by
  rw [collect, List.filterMap_map, List.filterMap_eq_nil_iff]
  exact fun g _ => hgit g

/-- Git commands are no calls of the platform. -/
@[simp]
theorem platformCalls_map_exchange (gs : List GitCall) :
    platformCalls (gs.map GitCall.exchange) = [] :=
  collect_map_exchange_eq_nil (fun _ => rfl) gs

/-- Git commands list no changed files of the platform. -/
@[simp]
theorem listings_map_exchange (gs : List GitCall) : listings (gs.map GitCall.exchange) = [] :=
  collect_map_exchange_eq_nil (fun _ => rfl) gs

/-- Git commands are nothing that the platform refuses. -/
@[simp]
theorem refusals_map_exchange (gs : List GitCall) : refusals (gs.map GitCall.exchange) = [] :=
  collect_map_exchange_eq_nil (fun _ => rfl) gs

/-- Git commands are no formatters. -/
@[simp]
theorem commandCalls_map_exchange (gs : List GitCall) :
    commandCalls (gs.map GitCall.exchange) = [] :=
  collect_map_exchange_eq_nil (fun _ => rfl) gs

/-- Git commands are no places to take notice of a cancellation. -/
@[simp]
theorem pauses_map_exchange (gs : List GitCall) : pauses (gs.map GitCall.exchange) = [] :=
  collect_map_exchange_eq_nil (fun _ => rfl) gs

/-- Git commands are not interrupted. -/
@[simp]
theorem not_isCancelled_map_exchange (gs : List GitCall) :
    ¬IsCancelled (gs.map GitCall.exchange) := by
  simp [IsCancelled, GitCall.exchange]

/-- A git command is one exchange, and its result is that of the command. -/
theorem ends_run_iff {args : List String} {r : Except BotError String} :
    Ends (run args) t r ↔ ∃ g : GitCall, g.args = args ∧ t = [g.exchange] ∧ r = g.result := by
  rw [run, ends_ask_bind_iff]
  constructor
  · rintro ⟨e | ending, u, rfl, h⟩
    · obtain ⟨rfl, rfl⟩ := ends_throw_iff.1 h
      exact ⟨⟨args, .error e⟩, rfl, rfl, rfl⟩
    · refine ⟨⟨args, .ok ending⟩, rfl, ?_⟩
      by_cases hs : ending.code = some 0 <;>
        simp_all [GitCall.exchange, GitCall.result, Ending.success, textOf]
  · rintro ⟨⟨args, e | ending⟩, rfl, rfl, rfl⟩
    · exact ⟨.error e, [], rfl, ends_throw_iff.2 ⟨rfl, rfl⟩⟩
    · refine ⟨.ok ending, [], rfl, ?_⟩
      by_cases hs : ending.code = some 0 <;> simp_all [GitCall.result, Ending.success, textOf]

/-- A git command comes first, and what follows it goes on with its output. -/
theorem ends_run_bind_iff {β : Type} {args : List String} {f : String → Action β}
    {r : Except BotError β} :
    Ends (run args >>= f) t r ↔ ∃ g : GitCall, g.args = args ∧
      ((∃ e, g.result = .error e ∧ t = [g.exchange] ∧ r = .error e) ∨
        ∃ s u, g.result = .ok s ∧ t = g.exchange :: u ∧ Ends (f s) u r) := by
  rw [ends_bind_iff]
  simp only [ends_run_iff]
  constructor
  · rintro (⟨e, rfl, g, hg, rfl, he⟩ | ⟨u, v, s, rfl, ⟨g, hg, rfl, hs⟩, hf⟩)
    · exact ⟨g, hg, .inl ⟨e, he.symm, rfl, rfl⟩⟩
    · exact ⟨g, hg, .inr ⟨s, v, hs.symm, rfl, hf⟩⟩
  · rintro ⟨g, hg, ⟨e, he, rfl, rfl⟩ | ⟨s, u, hs, rfl, hf⟩⟩
    · exact .inl ⟨e, rfl, g, hg, rfl, he.symm⟩
    · exact .inr ⟨[g.exchange], u, s, rfl, ⟨g, hg, rfl, hs.symm⟩, hf⟩

/-! ## The merge of the base commit -/

/-- The arguments that fetch a branch. -/
def fetchArgs (remote branch : String) : List String := ["fetch", "--no-tags", remote, branch]

/-- The arguments that merge a commit, in the name of the author. -/
def mergeArgs (identity : CommitConfig) (rev : String) : List String :=
  ["-c", "user.name=" ++ identity.authorName, "-c", "user.email=" ++ identity.authorEmail,
    "merge", "--no-edit", rev]

/-- The arguments that take a merge back. -/
def abortArgs : List String := ["merge", "--abort"]

/-- The git commands of a merge, and whether it succeeds. A commit is merged only if its branch could
be fetched, and a merge that fails is taken back. -/
inductive MergeCalls (fetch merge : List String) : List GitCall → Bool → Prop where
  | notFetched {g : GitCall} (hg : g.args = fetch) (failed : ¬g.succeeded) :
    MergeCalls fetch merge [g] false
  | notMerged {g m a : GitCall} (hg : g.args = fetch) (fetched : g.succeeded) (hm : m.args = merge)
    (failed : ¬m.succeeded) (ha : a.args = abortArgs) : MergeCalls fetch merge [g, m, a] false
  | merged {g m : GitCall} (hg : g.args = fetch) (fetched : g.succeeded) (hm : m.args = merge)
    (done : m.succeeded) : MergeCalls fetch merge [g, m] true

/-- A merge calls no other commands than its three. -/
theorem MergeCalls.args_mem {fetch merge : List String} {gs : List GitCall} {merged : Bool}
    (h : MergeCalls fetch merge gs merged) {g : GitCall} (hg : g ∈ gs) :
    g.args ∈ [fetch, merge, abortArgs] := by
  cases h with
  | notFetched hf failed =>
    rw [List.mem_singleton.1 hg, hf]
    simp
  | notMerged hf fetched hm failed ha =>
    simp only [List.mem_cons, List.not_mem_nil, or_false] at hg
    rcases hg with rfl | rfl | rfl <;> simp [hf, hm, ha]
  | merged hf fetched hm done =>
    simp only [List.mem_cons, List.not_mem_nil, or_false] at hg
    rcases hg with rfl | rfl <;> simp [hf, hm]

/-- A branch is fetched and its commit merged by the commands of `MergeCalls`. -/
theorem mergeCalls_of_ends {remote branch rev : String} {identity : CommitConfig}
    {r : Except BotError Unit} (h : Ends (do
      fetch remote branch
      merge rev identity) t r) :
    ∃ gs : List GitCall, t = gs.map GitCall.exchange ∧
      MergeCalls (fetchArgs remote branch) (mergeArgs identity rev) gs r.isOk := by
  simp only [fetch, merge, bind_assoc, pure_bind, ends_run_bind_iff, ends_attempt_bind_iff] at h
  obtain ⟨g, hg, ⟨e, he, rfl, rfl⟩ | ⟨s, u, hs, rfl, v, w, y, rfl, hm, h⟩⟩ := h
  · refine ⟨[g], rfl, .notFetched hg ?_⟩
    simp [GitCall.succeeded, he, Except.isOk, Except.toBool]
  obtain ⟨m, hma, rfl, rfl⟩ := ends_run_iff.1 hm
  cases hr : m.result with
  | ok s' =>
    obtain ⟨rfl, rfl⟩ : w = [] ∧ r = .ok () := by simpa [hr] using h
    refine ⟨[g, m], rfl, .merged hg ?_ hma ?_⟩ <;>
      simp [GitCall.succeeded, hs, hr, Except.isOk, Except.toBool]
  | error e =>
    simp only [hr, ends_attempt_bind_iff] at h
    obtain ⟨u', v', y, rfl, ha, h⟩ := h
    obtain ⟨a, haa, rfl, rfl⟩ := ends_run_iff.1 ha
    obtain ⟨rfl, rfl⟩ := ends_throw_iff.1 h
    refine ⟨[g, m, a], rfl, .notMerged hg ?_ hma ?_ haa⟩ <;>
      simp [GitCall.succeeded, hs, hr, Except.isOk, Except.toBool]

/-- What is wrong with a merge is a fault of git. -/
theorem exists_fault_of_ends_merge {remote branch rev : String} {identity : CommitConfig}
    {e : BotError} (h : Ends (do
      fetch remote branch
      merge rev identity) t (.error e)) : ∃ fault, e = .git fault := by
  simp only [fetch, merge, bind_assoc, pure_bind, ends_run_bind_iff, ends_attempt_bind_iff] at h
  obtain ⟨g, -, ⟨e', he, -, hfetch⟩ | ⟨s, u, -, -, v, w, y, -, hm, h⟩⟩ := h
  · cases hfetch
    exact g.exists_fault he
  obtain ⟨m, -, -, rfl⟩ := ends_run_iff.1 hm
  cases hr : m.result with
  | ok s' =>
    rw [hr] at h
    cases (ends_pure_iff.1 h).2
  | error e' =>
    simp only [hr, ends_attempt_bind_iff, ends_throw_iff] at h
    obtain ⟨-, -, -, -, -, -, hthrow⟩ := h
    cases hthrow
    exact m.exists_fault hr

/-! ## Committing and pushing -/

/-- The commands of a script are called one after the other, for as long as each goes on. -/
def Follows (goesOn : GitCall → Bool) : List (List String) → List GitCall → Prop
  | [], gs => gs = []
  | args :: rest, gs => ∃ g gs', gs = g :: gs' ∧ g.args = args ∧
      if goesOn g then Follows goesOn rest gs' else gs' = []

/-- The arguments that show what differs from the head commit. -/
def statusArgs : List String := ["status", "--porcelain"]

/-- The arguments that commit what has been added, in the name of the author. -/
def recordArgs (identity : CommitConfig) (message : String) : List String :=
  ["-c", "user.name=" ++ identity.authorName, "-c", "user.email=" ++ identity.authorEmail,
    "commit", "--no-verify", "-m", message] ++ if identity.signoff then ["--signoff"] else []

/-- The arguments that name the head commit. -/
def headArgs : List String := ["rev-parse", "HEAD"]

/-- The arguments that push the head commit to a branch. -/
def pushArgs (remote branch : String) : List String := ["push", remote, "HEAD:refs/heads/" ++ branch]

/-- A command goes on unless it fails; a status without changes and a head commit without a name do
not go on either. -/
def goesOn (g : GitCall) : Bool :=
  match g.result with
  | .error _ => false
  | .ok output => !(output = "" && (g.args = statusArgs || g.args = headArgs))

section
variable {g : GitCall} {gs : List GitCall} {args : List String} {rest : List (List String)}

/-- A script does not go on after a command that fails. -/
theorem goesOn_of_error {e : BotError} (h : g.result = .error e) : goesOn g = false := by
  simp [goesOn, h]

/-- A script goes on after a command that succeeds, unless it looks for an output and there is none. -/
theorem goesOn_of_ok {output : String} (h : g.result = .ok output)
    (hne : output ≠ "" ∨ g.args ≠ statusArgs ∧ g.args ≠ headArgs) : goesOn g = true := by
  simp only [goesOn, h]
  rcases hne with hne | ⟨hs, hh⟩
  · simp [hne]
  · simp [hs, hh]

/-- A script does not go on where it looks for an output and there is none. -/
theorem goesOn_of_empty (h : g.result = .ok "") (ha : g.args = statusArgs ∨ g.args = headArgs) :
    goesOn g = false := by
  rcases ha with ha | ha <;> simp [goesOn, h, ha]

/-- A script may end with a command after which it does not go on. -/
theorem follows_stop (ha : g.args = args) (h : goesOn g = false) :
    Follows goesOn (args :: rest) [g] := ⟨g, [], rfl, ha, by simp [h]⟩

/-- A script goes on with its next command. -/
theorem follows_next (ha : g.args = args) (h : goesOn g = true) (hrest : Follows goesOn rest gs) :
    Follows goesOn (args :: rest) (g :: gs) := ⟨g, gs, rfl, ha, by simpa [h] using hrest⟩

end

/-- The commands that are called are the first ones of the script. -/
theorem Follows.prefix {goesOn : GitCall → Bool} {script : List (List String)} {gs : List GitCall}
    (h : Follows goesOn script gs) : gs.map GitCall.args <+: script := by
  induction script generalizing gs with
  | nil =>
    obtain rfl : gs = [] := h
    exact List.nil_prefix
  | cons args rest ih =>
    obtain ⟨g, gs', rfl, rfl, hrest⟩ := h
    split at hrest
    · exact (List.prefix_cons_inj _).2 (ih hrest)
    · subst hrest
      exact (List.prefix_cons_inj _).2 List.nil_prefix

/-- Either a script is carried out in full, or its last call did not go on. -/
theorem Follows.cases {script : List (List String)} {gs : List GitCall} {last : GitCall}
    (h : Follows goesOn script (gs ++ [last])) :
    ((gs ++ [last]).map GitCall.args = script ∧ ∀ g ∈ gs ++ [last], goesOn g = true) ∨
      goesOn last = false ∧ (gs ++ [last]).map GitCall.args <+: script := by
  induction gs generalizing script with
  | nil =>
    cases script with
    | nil => simp [Follows] at h
    | cons args rest =>
      obtain ⟨g, gs, heq, rfl, h⟩ := h
      obtain ⟨rfl, rfl⟩ := List.cons.inj heq
      cases hg : goesOn last with
      | false => exact .inr ⟨rfl, by simp⟩
      | true =>
        rw [if_pos hg] at h
        cases rest with
        | nil => simp [hg]
        | cons args rest => simp [Follows] at h
  | cons g₀ gs ih =>
    cases script with
    | nil => simp [Follows] at h
    | cons args rest =>
      obtain ⟨g, gs', heq, rfl, h⟩ := h
      obtain ⟨rfl, rfl⟩ := List.cons.inj heq
      cases hg : goesOn g₀ with
      | false => simp [hg] at h
      | true =>
        rw [if_pos hg] at h
        rcases ih h with ⟨rfl, hall⟩ | ⟨hlast, hpre⟩
        · exact .inl ⟨rfl, by simpa [hg] using hall⟩
        · exact .inr ⟨hlast, by simpa using hpre⟩

/-- A script carried out in full goes on with what comes after it. -/
theorem follows_append {script rest : List (List String)} {gs gs' : List GitCall}
    (hargs : gs.map GitCall.args = script) (hall : ∀ g ∈ gs, goesOn g = true)
    (h : Follows goesOn rest gs') : Follows goesOn (script ++ rest) (gs ++ gs') := by
  induction gs generalizing script with
  | nil =>
    subst hargs
    exact h
  | cons g gs ih =>
    subst hargs
    exact follows_next rfl (hall g (by simp)) (ih rfl fun g' hg' => hall g' (by simp [hg']))

/-- A script that stopped stays as it is when more is put after it. -/
theorem Follows.append_of_stopped {script rest : List (List String)} {gs : List GitCall}
    {g : GitCall} (h : Follows goesOn script (gs ++ [g])) (hg : goesOn g = false) :
    Follows goesOn (script ++ rest) (gs ++ [g]) := by
  induction gs generalizing script with
  | nil =>
    cases script with
    | nil => simp [Follows] at h
    | cons args script =>
      obtain ⟨g', gs', heq, rfl, -⟩ := h
      obtain ⟨rfl, -⟩ := List.cons.inj heq
      exact follows_stop rfl hg
  | cons g₀ gs ih =>
    cases script with
    | nil => simp [Follows] at h
    | cons args script =>
      obtain ⟨g', gs', heq, rfl, h⟩ := h
      obtain ⟨rfl, rfl⟩ := List.cons.inj heq
      by_cases hgo : goesOn g₀
      · rw [if_pos hgo] at h
        exact follows_next rfl hgo (ih h)
      · rw [if_neg hgo] at h
        simp at h

/-- The commands of a commit of all changes. -/
def commitScript (identity : CommitConfig) (message : String) : List (List String) :=
  [statusArgs, ["add", "--all"], recordArgs identity message, headArgs]

/-- What comes of a commit of all changes, by its last command. -/
def commitResult (last : GitCall) : Except BotError (Option String) :=
  match last.result with
  | .error e => .error e
  | .ok output =>
    if last.args = headArgs then if output = "" then .error (.git .emptyHead) else .ok (some output)
    else .ok none

/-- All changes are committed by the commands of `commitScript`, and the last of them tells what comes
of it. -/
theorem follows_of_ends_commitAll {identity : CommitConfig} {message : String}
    {r : Except BotError (Option String)} (h : Ends (commitAll identity message) t r) :
    ∃ gs last, t = (gs ++ [last]).map GitCall.exchange ∧
      Follows goesOn (commitScript identity message) (gs ++ [last]) ∧ r = commitResult last := by
  simp only [commitAll, hasChanges, headSha, bind_assoc, pure_bind, ends_run_bind_iff] at h
  -- one command after the other: it fails, or the script goes on behind it
  obtain ⟨g₁, h₁, ⟨e, he, rfl, rfl⟩ | ⟨s₁, u, hs₁, rfl, h⟩⟩ := h
  · exact ⟨[], g₁, rfl, follows_stop h₁ (goesOn_of_error he), by simp [commitResult, he]⟩
  by_cases hclean : s₁ = ""
  · subst hclean
    obtain ⟨rfl, rfl⟩ : u = [] ∧ r = .ok none := by simpa using h
    exact ⟨[], g₁, rfl, follows_stop h₁ (goesOn_of_empty hs₁ (.inl h₁)),
      by simp [commitResult, hs₁, h₁, headArgs]⟩
  have next₁ := goesOn_of_ok hs₁ (.inl hclean)
  simp only [hclean, ne_eq, not_false_eq_true, decide_true, if_true, ends_run_bind_iff] at h
  obtain ⟨g₂, h₂, ⟨e, he, rfl, rfl⟩ | ⟨s₂, v, hs₂, rfl, h⟩⟩ := h
  · exact ⟨[g₁], g₂, rfl, follows_next h₁ next₁ (follows_stop h₂ (goesOn_of_error he)),
      by simp [commitResult, he]⟩
  have next₂ := goesOn_of_ok hs₂ (.inr (by simp [h₂, statusArgs, headArgs]))
  obtain ⟨g₃, h₃, ⟨e, he, rfl, rfl⟩ | ⟨s₃, w, hs₃, rfl, h⟩⟩ := h
  · exact ⟨[g₁, g₂], g₃, rfl, follows_next h₁ next₁ (follows_next h₂ next₂
      (follows_stop h₃ (goesOn_of_error he))), by simp [commitResult, he]⟩
  have next₃ := goesOn_of_ok hs₃
    (.inr (by simp [h₃, statusArgs, headArgs, commitArgs, identityArgs]))
  obtain ⟨g₄, h₄, ⟨e, he, rfl, rfl⟩ | ⟨s₄, x, hs₄, rfl, h⟩⟩ := h
  · exact ⟨[g₁, g₂, g₃], g₄, rfl, follows_next h₁ next₁ (follows_next h₂ next₂
      (follows_next h₃ next₃ (follows_stop h₄ (goesOn_of_error he)))), by simp [commitResult, he]⟩
  by_cases hname : s₄ = ""
  · subst hname
    obtain ⟨rfl, rfl⟩ : x = [] ∧ r = .error (.git .emptyHead) := by simpa using h
    exact ⟨[g₁, g₂, g₃], g₄, rfl, follows_next h₁ next₁ (follows_next h₂ next₂
      (follows_next h₃ next₃ (follows_stop h₄ (goesOn_of_empty hs₄ (.inr h₄))))),
      by simp [commitResult, hs₄, h₄, headArgs]⟩
  · obtain ⟨rfl, rfl⟩ : x = [] ∧ r = .ok (some s₄) := by simpa [hname] using h
    exact ⟨[g₁, g₂, g₃], g₄, rfl, follows_next h₁ next₁ (follows_next h₂ next₂
      (follows_next h₃ next₃ (follows_next h₄ (goesOn_of_ok hs₄ (.inl hname)) rfl))),
      by simp [commitResult, hs₄, h₄, headArgs, hname]⟩

/-- What is wrong with a commit is a fault of git. -/
theorem exists_fault_of_commitResult {g : GitCall} {e : BotError} (h : commitResult g = .error e) :
    ∃ fault, e = .git fault := by
  rw [commitResult] at h
  cases hr : g.result with
  | error e' =>
    rw [hr] at h
    cases h
    exact g.exists_fault hr
  | ok output =>
    simp only [hr] at h
    split at h
    · split at h
      · cases h
        exact ⟨_, rfl⟩
      · cases h
    · cases h

/-- A command that does not go on gives no commit. -/
theorem commitResult_of_stopped {g : GitCall} (hg : goesOn g = false) (sha : String) :
    commitResult g ≠ .ok (some sha) := by
  intro h
  simp only [commitResult] at h
  cases hr : g.result with
  | error e => simp [hr] at h
  | ok output =>
    by_cases ha : g.args = headArgs <;> by_cases he : output = "" <;> simp [hr, ha, he] at h
    simp [goesOn_of_ok hr (.inl he)] at hg

/-- A last command that goes on gives the name of the commit. -/
theorem commitResult_of_goesOn {g : GitCall} (hg : goesOn g = true) (ha : g.args = headArgs) :
    ∃ sha, g.result = .ok sha ∧ commitResult g = .ok (some sha) := by
  simp only [goesOn] at hg
  cases hr : g.result with
  | error e => simp [hr] at hg
  | ok output => exact ⟨output, rfl, by simp_all [commitResult]⟩

/-- The commands of a commit of all changes and a push of it. -/
def publishScript (identity : CommitConfig) (message remote branch : String) :
    List (List String) :=
  commitScript identity message ++ [pushArgs remote branch]

/-- The calls name a commit and push it. -/
def IsPushed (remote branch sha : String) (gs : List GitCall) : Prop :=
  (∃ g ∈ gs, g.args = headArgs ∧ g.result = .ok sha) ∧
    ∃ g ∈ gs, g.args = pushArgs remote branch ∧ g.succeeded

/-- Without commands nothing is pushed. -/
@[simp]
theorem not_isPushed_nil {remote branch sha : String} : ¬IsPushed remote branch sha [] := by
  simp [IsPushed]

/-- A push is one command. -/
theorem ends_push_iff {α : Type} {remote branch : String} {a : α} {r : Except BotError α} :
    Ends (do
      push remote branch
      pure a) t r ↔
      ∃ g : GitCall, g.args = pushArgs remote branch ∧ t = [g.exchange] ∧
        r = g.result.map fun _ => a := by
  simp only [push, bind_assoc, pure_bind, ends_run_bind_iff, ends_pure_iff]
  constructor
  · rintro ⟨g, hg, ⟨e, he, rfl, rfl⟩ | ⟨s, u, hs, rfl, rfl, rfl⟩⟩
    · exact ⟨g, hg, rfl, by rw [he]; rfl⟩
    · exact ⟨g, hg, rfl, by rw [hs]; rfl⟩
  · rintro ⟨g, hg, rfl, rfl⟩
    cases hr : g.result with
    | error e => exact ⟨g, hg, .inl ⟨e, hr, rfl, rfl⟩⟩
    | ok s => exact ⟨g, hg, .inr ⟨s, [], hr, rfl, rfl, rfl⟩⟩

/-- The name of the commit of a full script is the output of its last command. -/
theorem isHead_iff {identity : CommitConfig} {message sha sha' : String} {gs : List GitCall}
    {last : GitCall} (hargs : (gs ++ [last]).map GitCall.args = commitScript identity message)
    (hsha : last.result = .ok sha) :
    (∃ g ∈ gs ++ [last], g.args = headArgs ∧ g.result = .ok sha') ↔ sha' = sha := by
  have hsplit : commitScript identity message =
      [statusArgs, ["add", "--all"], recordArgs identity message] ++ [headArgs] := rfl
  rw [List.map_append, hsplit] at hargs
  obtain ⟨hgs, hlast⟩ := List.append_inj' hargs rfl
  have hhead : ∀ g ∈ gs, g.args ≠ headArgs := by
    intro g hg ha
    have : headArgs ∈ gs.map GitCall.args := ha ▸ List.mem_map_of_mem hg
    simp [hgs, headArgs, statusArgs, recordArgs] at this
  constructor
  · rintro ⟨g, hg, ha, hr⟩
    rcases List.mem_append.1 hg with hg | hg
    · exact absurd ha (hhead g hg)
    · obtain rfl := List.mem_singleton.1 hg
      simpa [hsha] using hr.symm
  · rintro rfl
    exact ⟨last, by simp, by simpa using hlast, hsha⟩

/-- A commit pushes nothing. -/
theorem pushArgs_not_mem_commitScript {identity : CommitConfig} {message remote branch : String} :
    pushArgs remote branch ∉ commitScript identity message := by
  simp [commitScript, pushArgs, statusArgs, headArgs, recordArgs]

/-- After a commit with a name, the calls push it exactly when the push succeeds. -/
theorem isPushed_append_iff {identity : CommitConfig} {message remote branch sha sha' : String}
    {gs : List GitCall} {last p : GitCall}
    (hargs : (gs ++ [last]).map GitCall.args = commitScript identity message)
    (hsha : last.result = .ok sha) (hp : p.args = pushArgs remote branch) :
    IsPushed remote branch sha' (gs ++ [last] ++ [p]) ↔ sha' = sha ∧ p.succeeded := by
  have hother : ∀ g ∈ gs ++ [last], g.args ≠ pushArgs remote branch := by
    intro g hg ha
    have hmem : g.args ∈ (gs ++ [last]).map GitCall.args := List.mem_map_of_mem hg
    rw [hargs, ha] at hmem
    exact pushArgs_not_mem_commitScript hmem
  have hpne : p.args ≠ headArgs := by simp [hp, pushArgs, headArgs]
  rw [← isHead_iff hargs hsha, IsPushed]
  constructor
  · rintro ⟨⟨g, hg, ha, hr⟩, g', hg', ha', hs⟩
    rcases List.mem_append.1 hg with hold | hnew
    · rcases List.mem_append.1 hg' with hold' | hnew'
      · exact absurd ha' (hother g' hold')
      · obtain rfl := List.mem_singleton.1 hnew'
        exact ⟨⟨g, hold, ha, hr⟩, hs⟩
    · obtain rfl := List.mem_singleton.1 hnew
      exact absurd ha hpne
  · rintro ⟨⟨g, hg, ha, hr⟩, hs⟩
    exact ⟨⟨g, List.mem_append_left _ hg, ha, hr⟩, p, by simp, hp, hs⟩

/-- Changes are committed and pushed by the commands of `publishScript`, and what comes of it is the
name of the commit if the push succeeded. -/
theorem follows_of_ends_publish {identity : CommitConfig} {message remote branch : String}
    {r : Except BotError (Option String)} (h : Ends (do
      match ← commitAll identity message with
      | some sha =>
        push remote branch
        pure (some sha)
      | none => pure none) t r) :
    ∃ gs : List GitCall, t = gs.map GitCall.exchange ∧
      Follows goesOn (publishScript identity message remote branch) gs ∧
      ∀ sha, r = .ok (some sha) ↔ IsPushed remote branch sha gs := by
  -- the commit comes first; a push follows only if it gave a name
  obtain ⟨u, v, y, rfl, hc, hy⟩ : ∃ u v y, t = u ++ v ∧ Ends (commitAll identity message) u y ∧
      ((v = [] ∧ (∀ sha, y ≠ .ok (some sha)) ∧ ∀ sha, r ≠ .ok (some sha)) ∨
        ∃ sha, y = .ok (some sha) ∧ Ends (do push remote branch; pure (some sha)) v r) := by
    rcases ends_bind_iff.1 h with ⟨e, rfl, hc⟩ | ⟨u, v, _ | sha, rfl, hc, h⟩
    · exact ⟨t, [], .error e, by simp, hc, .inl ⟨rfl, by simp, by simp⟩⟩
    · obtain ⟨rfl, rfl⟩ := ends_pure_iff.1 h
      exact ⟨u, [], _, rfl, hc, .inl ⟨rfl, by simp, by simp⟩⟩
    · exact ⟨u, v, _, rfl, hc, .inr ⟨sha, rfl, h⟩⟩
  obtain ⟨gs, last, rfl, hf, rfl⟩ := follows_of_ends_commitAll hc
  rcases hf.cases with ⟨hargs, hall⟩ | ⟨hlast, hpre⟩
  · -- the commit has a name, so the push is called
    have hhead : last.args = headArgs := by
      have := congrArg List.getLast? hargs
      simpa [commitScript] using this
    obtain ⟨sha, hsha, hcommit⟩ := commitResult_of_goesOn (hall last (by simp)) hhead
    rcases hy with ⟨-, hne, -⟩ | ⟨sha', hsha', hpush⟩
    · exact absurd hcommit (hne sha)
    obtain rfl : sha = sha' := by simpa using hcommit.symm.trans hsha'
    obtain ⟨p, hp, rfl, rfl⟩ := ends_push_iff.1 hpush
    refine ⟨gs ++ [last] ++ [p], by simp, follows_append hargs hall ?_, fun sha' => ?_⟩
    · cases hr : p.result with
      | error e => exact follows_stop hp (goesOn_of_error hr)
      | ok s =>
        exact follows_next hp (goesOn_of_ok hr (.inr (by simp [hp, pushArgs, statusArgs, headArgs]))) rfl
    · rw [isPushed_append_iff hargs hsha hp]
      cases hr : p.result <;>
        simp [GitCall.succeeded, hr, Except.map, Except.isOk, Except.toBool, eq_comm]
  · -- the commit stopped before it had a name, so there is nothing to push
    rcases hy with ⟨rfl, -, hr⟩ | ⟨sha, hsha, -⟩
    · refine ⟨gs ++ [last], by simp, hf.append_of_stopped hlast, fun sha => ?_⟩
      refine ⟨fun h => absurd h (hr sha), ?_⟩
      rintro ⟨-, g, hg, ha, -⟩
      have hmem := hpre.subset (List.mem_map_of_mem hg)
      rw [ha] at hmem
      exact absurd hmem pushArgs_not_mem_commitScript
    · exact absurd hsha (commitResult_of_stopped hlast sha)

/-- What is wrong with a commit and its push is a fault of git. -/
theorem exists_fault_of_ends_publish {identity : CommitConfig} {message remote branch : String}
    {e : BotError} (h : Ends (do
      match ← commitAll identity message with
      | some sha =>
        push remote branch
        pure (some sha)
      | none => pure none) t (.error e)) : ∃ fault, e = .git fault := by
  rcases ends_bind_iff.1 h with ⟨e', he, hc⟩ | ⟨u, v, _ | sha, -, -, hpush⟩
  · cases he
    obtain ⟨gs, last, -, -, hlast⟩ := follows_of_ends_commitAll hc
    exact exists_fault_of_commitResult hlast.symm
  · cases (ends_pure_iff.1 hpush).2
  · obtain ⟨g, -, -, hr⟩ := ends_push_iff.1 hpush
    cases hresult : g.result with
    | ok s =>
      rw [hresult] at hr
      cases hr
    | error e' =>
      rw [hresult] at hr
      cases hr
      exact g.exists_fault hresult

end Git

end Autoformat.Bot
