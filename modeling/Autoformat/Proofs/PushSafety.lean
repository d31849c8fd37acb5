import Autoformat.Proofs.CallProtocol
import Autoformat.Proofs.Completion

/-!
# What a run does to the branch of a contributor

`GitProtocol` lists the git commands of a run with a valid configuration. The base commit is merged once
the steps begin; what the stages made of the files is committed and pushed exactly when `MayPublish`
holds, so nothing is pushed after a failed stage or a cancellation. `gitCalls_run` says that every run
follows the protocol, and that a push is its last git command.
-/

namespace Autoformat.Run

open Autoformat.Bot Autoformat.Bot.Git

variable {config : Config} {options : RunOptions} {c : Comment} {pr : PullRequest} {t : Trace}

/-- When changes are committed and pushed: the merge did not fail, the run was not cancelled, pushing was
asked for, and the files were listed and every stage that is enabled for them cleared. -/
structure MayPublish (config : Config) (options : RunOptions) (m : JobResult) (t : Trace) : Prop where
  merged : m ≠ .failed
  uncancelled : ¬IsCancelled t
  asked : options.push = true
  cleared : ∃ files ∈ listings t, List.Forall₂ Clears
    (Plan.ofConfig config (config.domains.classify files)).enabledStages (commandCalls t)

/-- The git commands after the merge. -/
inductive PublishCalls (config : Config) (options : RunOptions) (pr : PullRequest) (m : JobResult)
    (t : Trace) : List GitCall → Prop where
  | withheld (h : ¬MayPublish config options m t) : PublishCalls config options pr m t []
  | attempted {gs : List GitCall} (h : MayPublish config options m t)
    (follows : Follows goesOn (publishScript config.commit (messageOf config options)
      options.remote pr.headRef) gs) :
    PublishCalls config options pr m t gs

/-- The git commands of a run, and the name of the commit that it reports as pushed. -/
inductive GitProtocol (config : Config) (options : RunOptions) (c : Comment) (t : Trace)
    (r : Except BotError RunResult) : List GitCall → Prop where
  | untouched (unbegun : (.starting, false) ∉ pauses t)
    (unpushed : ∀ result, r = .ok result → result.progress.pushedSha = none) :
    GitProtocol config options c t r []
  | begun {pr : PullRequest} {gs gs' : List GitCall} {m : JobResult}
    (fetched : (⟨.platform (fetchCall c), .ok pr⟩ : Exchange interface) ∈ t)
    (begun : (.starting, false) ∈ pauses t) (merging : Merging config options pr gs m)
    (publishing : PublishCalls config options pr m t gs')
    (pushed : ∀ result, r = .ok result → ∀ sha,
      result.progress.pushedSha = some sha ↔ IsPushed options.remote pr.headRef sha gs') :
    GitProtocol config options c t r (gs ++ gs')

/-- The command is a push. -/
def IsPush (g : GitCall) : Prop := g.args.head? = some "push"

/-- A push is the last command, the only push, and one of the head commit to the head branch. -/
def PushesLast (options : RunOptions) (c : Comment) (t : Trace) (gs : List GitCall) : Prop :=
  ∀ before g after, gs = before ++ g :: after → IsPush g →
    after = [] ∧ (∀ g' ∈ before, ¬IsPush g') ∧
      ∃ pr, (⟨.platform (fetchCall c), .ok pr⟩ : Exchange interface) ∈ t ∧
        g.args = ["push", options.remote, "HEAD:refs/heads/" ++ pr.headRef]

/-- Of a list whose last element alone is marked, a beginning that holds a marked element is all of it. -/
private theorem eq_of_prefix_concat {α : Type} {P : α → Prop} {xs before after : List α} {x y : α}
    (hxs : ∀ a ∈ xs, ¬P a) (h : before ++ x :: after <+: xs ++ [y]) (hx : P x) :
    after = [] ∧ x = y ∧ before = xs := by
  rcases List.prefix_concat_iff.1 h with heq | hpre
  · rcases List.eq_nil_or_concat after with rfl | ⟨init, last, rfl⟩
    · obtain ⟨hbefore, hlast⟩ := List.append_inj' heq rfl
      exact ⟨rfl, List.cons.inj hlast |>.1, hbefore⟩
    · have hinit : before ++ x :: init ++ [last] = xs ++ [y] := by simpa using heq
      obtain ⟨rfl, -⟩ := List.append_inj' hinit rfl
      exact absurd hx (hxs x (by simp))
  · exact absurd hx (hxs x (hpre.subset (by simp)))

/-- The commands of a merge are no pushes. -/
theorem Merging.not_isPush {gs : List GitCall} {m : JobResult} (h : Merging config options pr gs m)
    {g : GitCall} (hg : g ∈ gs) : ¬IsPush g := by
  cases h with
  | leftOut off => cases hg
  | tried on calls =>
    have hargs := calls.args_mem hg
    simp only [List.mem_cons, List.not_mem_nil, or_false] at hargs
    rcases hargs with hargs | hargs | hargs <;>
      simp [IsPush, hargs, fetchArgs, mergeArgs, abortArgs]

/-- The push is the last command of a merge followed by a commit and a push. -/
theorem pushesLast_of_merging {gs gs' : List GitCall} {m : JobResult}
    (fetched : (⟨.platform (fetchCall c), .ok pr⟩ : Exchange interface) ∈ t)
    (merging : Merging config options pr gs m)
    (hpre : gs'.map GitCall.args <+: publishScript config.commit (messageOf config options)
      options.remote pr.headRef) : PushesLast options c t (gs ++ gs') := by
  intro before g after heq hg
  have hcommit : ∀ args ∈ gs.map GitCall.args ++
      commitScript config.commit (messageOf config options), ¬args.head? = some "push" := by
    intro args hargs
    rcases List.mem_append.1 hargs with hargs | hargs
    · obtain ⟨g', hg', rfl⟩ := List.mem_map.1 hargs
      exact merging.not_isPush hg'
    · simp only [commitScript, List.mem_cons, List.not_mem_nil, or_false] at hargs
      rcases hargs with rfl | rfl | rfl | rfl <;> simp [statusArgs, recordArgs, headArgs]
  have hscript : before.map GitCall.args ++ g.args :: after.map GitCall.args <+:
      gs.map GitCall.args ++ commitScript config.commit (messageOf config options) ++
        [pushArgs options.remote pr.headRef] := by
    have hmap : before.map GitCall.args ++ g.args :: after.map GitCall.args =
        gs.map GitCall.args ++ gs'.map GitCall.args := by
      simpa using (congrArg (List.map GitCall.args) heq).symm
    rw [hmap, List.append_assoc]
    exact (List.prefix_append_right_inj _).2 hpre
  obtain ⟨hafter, hargs, hbefore⟩ := eq_of_prefix_concat hcommit hscript hg
  refine ⟨List.map_eq_nil_iff.1 hafter, fun g' hg' => ?_, pr, fetched, hargs⟩
  exact hcommit g'.args (hbefore ▸ List.mem_map_of_mem hg')

/-- Whether a run may publish depends on its steps alone. -/
theorem mayPublish_append_outer {m : JobResult} {a u b : Trace} (ha : ∀ e ∈ a, isOuter e = true)
    (hb : ∀ e ∈ b, isOuter e = true) :
    MayPublish config options m (a ++ u ++ b) ↔ MayPublish config options m u := by
  have hcommands : commandCalls (a ++ u ++ b) = commandCalls u :=
    collect_append_outer (fun _ => commandCall?_of_isOuter) ha hb
  have hlistings : listings (a ++ u ++ b) = listings u :=
    collect_append_outer (fun _ => listing?_of_isOuter) ha hb
  have hcancelled := isCancelled_append_outer (u := u) ha hb
  constructor
  · rintro ⟨merged, uncancelled, asked, cleared⟩
    exact ⟨merged, mt hcancelled.2 uncancelled, asked, by rwa [hlistings, hcommands] at cleared⟩
  · rintro ⟨merged, uncancelled, asked, cleared⟩
    exact ⟨merged, mt hcancelled.1 uncancelled, asked, by rwa [hlistings, hcommands]⟩

/-- Steps that went through all stages may publish exactly when no stage blocks and a push was asked
for. -/
theorem Complete.mayPublish_iff {o : Outcome} {p : Progress} {gs gs' : List GitCall} {m x : JobResult}
    {files : ChangedFiles} {fates : List Fate} (valid : config.validate = .ok ())
    (h : Complete config options pr o t p gs gs' m x files fates) :
    MayPublish config options m t ↔ fates.any Fate.blocks = false ∧ options.push = true := by
  have hcommand : ∀ f ∈ fates, f.stage.command ≠ [] := by
    intro f hf
    obtain ⟨d, formatter, hformatter, hstage⟩ := h.exists_formatter hf
    rw [hstage]
    exact Config.command_ne_nil_of_validate valid hformatter
  have hclears : List.Forall₂ Clears
      (Plan.ofConfig config (config.domains.classify files)).enabledStages (Bot.commandCalls t) ↔
      fates.any Fate.blocks = false := by
    rw [Plan.enabledStages, h.planned, h.commandCalls]
    exact forall₂_clears_iff h.failFast hcommand
  constructor
  · rintro ⟨-, -, asked, files', hfiles, cleared⟩
    rw [h.listings] at hfiles
    obtain rfl := List.mem_singleton.1 hfiles
    exact ⟨hclears.1 cleared, asked⟩
  · rintro ⟨free, asked⟩
    exact ⟨h.merged, h.uncancelled, asked, files, by simp [h.listings], hclears.2 free⟩

/-- What a run publishes belongs to its steps. -/
theorem publishCalls_append_outer {m : JobResult} {gs : List GitCall} {a u b : Trace}
    (ha : ∀ e ∈ a, isOuter e = true) (hb : ∀ e ∈ b, isOuter e = true)
    (h : PublishCalls config options pr m u gs) :
    PublishCalls config options pr m (a ++ u ++ b) gs := by
  have hmay : MayPublish config options m (a ++ u ++ b) ↔ MayPublish config options m u :=
    mayPublish_append_outer ha hb
  cases h with
  | withheld hwithheld => exact .withheld (mt hmay.1 hwithheld)
  | attempted may follows => exact .attempted (hmay.2 may) follows

/-- The git commands after a merge are the first ones of the script that commits and pushes. -/
theorem PublishCalls.prefix {m : JobResult} {gs : List GitCall}
    (h : PublishCalls config options pr m t gs) :
    gs.map GitCall.args <+: publishScript config.commit (messageOf config options)
      options.remote pr.headRef := by
  cases h with
  | withheld hwithheld => exact List.nil_prefix
  | attempted may follows => exact follows.prefix

/-- Steps that went through all stages publish exactly when they may. -/
theorem Complete.publishCalls {o : Outcome} {p : Progress} {gs gs' : List GitCall} {m x : JobResult}
    {files : ChangedFiles} {fates : List Fate} (valid : config.validate = .ok ())
    (h : Complete config options pr o t p gs gs' m x files fates) :
    PublishCalls config options pr m t gs' ∧
      ∀ sha, p.pushedSha = some sha ↔ IsPushed options.remote pr.headRef sha gs' := by
  have hmay := h.mayPublish_iff valid
  have closing := h.closing
  generalize p.pushedSha = pushedSha at closing
  cases closing with
  | withheld hwhy =>
    refine ⟨.withheld fun may => ?_, by simp⟩
    obtain ⟨free, asked⟩ := hmay.1 may
    rcases hwhy with hblocked | hoff
    · simp [free] at hblocked
    · simp [asked] at hoff
  | @published gs' y free on publishing =>
    refine ⟨.attempted (hmay.2 ⟨free, on⟩) publishing.follows, fun sha => ?_⟩
    rw [← publishing.pushed_iff]
    match y with
    | .ok (some sha') => simp [Except.toOption]
    | .ok none => simp [Except.toOption]
    | .error e => simp [Except.toOption]

/-- Steps that have begun merge, and publish exactly when they may. -/
theorem exists_publishCalls {o : Outcome} {p : Progress} {r : Except Halt Unit}
    (valid : config.validate = .ok ()) (hfresh : ∀ name ∈ o.jobs, name = ReservedSlot.trigger.name)
    (course : Course config options pr o t r p) (begun : (.starting, false) ∈ pauses t) :
    ∃ gs gs' m, Merging config options pr gs m ∧ gitCalls t = gs ++ gs' ∧
      PublishCalls config options pr m t gs' ∧
      ∀ sha, p.pushedSha = some sha ↔ IsPushed options.remote pr.headRef sha gs' := by
  obtain ⟨gs, m, merging, ⟨hcalls, hnone, hwhy⟩ | ⟨gs', x, files, fates, complete⟩⟩ :=
    complete_of_course valid hfresh course begun
  · -- the steps do not go through all stages, so nothing may be published
    refine ⟨gs, [], m, merging, by simp [hcalls], .withheld ?_, by simp [hnone]⟩
    rintro ⟨-, uncancelled, -, files, hfiles, -⟩
    rcases hwhy with hcancelled | hlistings
    · exact uncancelled hcancelled
    · simp [hlistings] at hfiles
  · obtain ⟨publishing, hpushed⟩ := complete.publishCalls valid
    exact ⟨gs, gs', m, merging, complete.gitCalls, publishing, hpushed⟩

/-- A run with a valid configuration calls git by the rules of `GitProtocol`, whatever becomes of it, and
pushes last. -/
theorem gitCalls_run {r : Except BotError RunResult} (valid : config.validate = .ok ())
    (h : Ends (run config options c) t r) :
    GitProtocol config options c t r (gitCalls t) ∧ PushesLast options c t (gitCalls t) := by
  have huntouched (hcalls : gitCalls t = []) (unbegun : (.starting, false) ∉ pauses t)
      (unpushed : ∀ result, r = .ok result → result.progress.pushedSha = none) :
      GitProtocol config options c t r (gitCalls t) ∧ PushesLast options c t (gitCalls t) := by
    rw [hcalls]
    exact ⟨.untouched unbegun unpushed, fun before g after heq => by simp at heq⟩
  -- git is called only within the steps of an acknowledged run
  rcases within_of_history (history_of_ends h) with ⟨houter, hunpushed⟩ | ⟨pr, o, u, ended, p, within⟩
  · have hpauses : pauses t = [] :=
      List.filterMap_eq_nil_iff.2 fun e he => pause?_of_isOuter (houter e he)
    exact huntouched (List.filterMap_eq_nil_iff.2 fun e he => gitCall?_of_isOuter (houter e he))
      (by simp [hpauses]) hunpushed
  obtain ⟨a, b, rfl, ha, hb⟩ := within.framed
  obtain ⟨q, final, -, -, hsha, -, hresult⟩ := within.concluded
  have hgit : gitCalls (a ++ u ++ b) = gitCalls u :=
    collect_append_outer (fun _ => gitCall?_of_isOuter) ha hb
  have hpauses : pauses (a ++ u ++ b) = pauses u :=
    collect_append_outer (fun _ => pause?_of_isOuter) ha hb
  have hshown (result : RunResult) (hr : r = .ok result) :
      result.progress.pushedSha = p.pushedSha := by
    rw [(hresult result hr).1, hsha]
  rcases within.course.eq_or_begun with ⟨rfl, rfl⟩ | begun
  · refine huntouched (hgit.trans (by simp)) ?_ hshown
    rw [hpauses]
    simp
  obtain ⟨gs, gs', m, merging, hcalls, publishing, hpushed⟩ :=
    exists_publishCalls valid (fresh_of_recordAll within.acknowledged) within.course begun
  have hbegun : (.starting, false) ∈ pauses (a ++ u ++ b) := hpauses ▸ begun
  rw [hgit, hcalls]
  refine ⟨.begun within.fetched hbegun merging (publishCalls_append_outer ha hb publishing) ?_,
    pushesLast_of_merging within.fetched merging publishing.prefix⟩
  intro result hr sha
  rw [hshown result hr]
  exact hpushed sha

/-- A run that is refused nothing merges the base commit, and pushes what its formatters change. -/
theorem gitCalls_run_example :
    Config.validate {} = .ok () ∧
      Ends (run {} exampleOptions exampleComment) exampleOuting.1 exampleOuting.2 ∧
      (gitCalls exampleOuting.1).map GitCall.args =
        [fetchArgs "origin" "main", mergeArgs {} "d4e5f6", statusArgs, ["add", "--all"],
          recordArgs {} "Autoformat", headArgs, pushArgs "origin" "topic"] ∧
      GitProtocol {} exampleOptions exampleComment exampleOuting.1 exampleOuting.2
        (gitCalls exampleOuting.1) ∧
      PushesLast exampleOptions exampleComment exampleOuting.1 (gitCalls exampleOuting.1) := by
  have valid : Config.validate {} = .ok () := by decide +kernel
  have calls : (gitCalls exampleOuting.1).map GitCall.args =
      [fetchArgs "origin" "main", mergeArgs {} "d4e5f6", statusArgs, ["add", "--all"],
        recordArgs {} "Autoformat", headArgs, pushArgs "origin" "topic"] := by
    decide +kernel
  exact ⟨valid, ends_exampleOuting, calls, gitCalls_run valid ends_exampleOuting⟩

end Autoformat.Run
