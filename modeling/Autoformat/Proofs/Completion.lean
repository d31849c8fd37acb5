import Autoformat.Proofs.CallProtocol

/-!
# Steps that go through all stages

With a valid configuration every stage has a slot of its own, so the steps of a run go through all stages
unless the changed files are not listed, or the run is cancelled
(`complete_of_course`). `Complete` says what such steps show and record.

`within_of_history` finds the steps of a run in its history: what stands around them shows nothing of git
and of the formatters.
-/

namespace Autoformat.Run

open Autoformat.Bot Autoformat.Bot.Git

variable {config : Config} {options : RunOptions} {c : Comment} {pr : PullRequest} {o : Outcome}
  {p : Progress} {t : Trace}

/-- What becomes of the changes that the stages made: they are withheld, or committed and pushed. -/
inductive Closing (config : Config) (options : RunOptions) (pr : PullRequest) (blocked : Bool) :
    List GitCall → JobResult → Option String → Prop where
  | withheld (h : blocked = true ∨ options.push = false) :
    Closing config options pr blocked [] .skipped none
  | published {gs : List GitCall} {y : Except BotError (Option String)} (free : blocked = false)
    (on : options.push = true) (publishing : Publishing config options pr gs y) :
    Closing config options pr blocked gs (pushResult y) y.toOption.join

/-- What steps that go through all stages show, and what they record. -/
structure Complete (config : Config) (options : RunOptions) (pr : PullRequest) (o : Outcome) (t : Trace)
    (p : Progress) (gs gs' : List GitCall) (m x : JobResult) (files : ChangedFiles)
    (fates : List Fate) : Prop where
  merging : Merging config options pr gs m
  merged : m ≠ .failed
  listings : listings t = [files]
  uncancelled : ¬IsCancelled t
  gitCalls : gitCalls t = gs ++ gs'
  commandCalls : commandCalls t = fates.flatMap Fate.calls
  planned : (Plan.ofConfig config (config.domains.classify files)).stages = fates.map Fate.stage
  failFast : FailFast false fates
  recorded : o.recordAll ([ownEntry .mergeBase m, ownEntry .route .succeeded] ++
    fates.map Fate.slotEntry ++ [ownEntry .push x]) = .ok p.outcome
  stages : p.stages = fates.flatMap Fate.results
  closing : Closing config options pr (fates.any Fate.blocks) gs' x p.pushedSha

/-- The stages that get their fates are those of the configured formatters. -/
theorem Complete.exists_formatter {gs gs' : List GitCall} {m x : JobResult} {files : ChangedFiles}
    {fates : List Fate} (h : Complete config options pr o t p gs gs' m x files fates) {f : Fate}
    (hf : f ∈ fates) : ∃ d, ∃ g ∈ config.formatters.get d,
      f.stage = Plan.stageOf config (config.domains.classify files) d g := by
  have hmem : f.stage ∈ fates.map Fate.stage := List.mem_map_of_mem hf
  rw [← h.planned] at hmem
  exact Plan.mem_stages_iff.1 hmem

/-- The stages of a run are named for the formatters of all domains. -/
theorem Complete.mem_slots_iff {gs gs' : List GitCall} {m x : JobResult} {files : ChangedFiles}
    {fates : List Fate} (h : Complete config options pr o t p gs gs' m x files fates) (name : String) :
    name ∈ (fates.map Fate.slotEntry).map Prod.fst ↔
      ∃ d, ∃ f ∈ config.formatters.get d, name = Stage.slotOf d f.name := by
  have hslots : (fates.map Fate.slotEntry).map Prod.fst =
      (Plan.ofConfig config (config.domains.classify files)).stages.map Stage.slot := by
    rw [h.planned, List.map_map, List.map_map]
    rfl
  rw [hslots, List.mem_map]
  constructor
  · rintro ⟨s, hs, rfl⟩
    obtain ⟨d, f, hf, rfl⟩ := Plan.mem_stages_iff.1 hs
    exact ⟨d, f, hf, rfl⟩
  · rintro ⟨d, f, hf, rfl⟩
    exact ⟨_, Plan.mem_stages_iff.2 ⟨d, f, hf, rfl⟩, rfl⟩

/-- The exchanges of the steps up to the last stage. -/
def upToStages (config : Config) (pr : PullRequest) (gs : List GitCall) (m : JobResult)
    (files : ChangedFiles) (fates : List Fate) : Trace :=
  ⟨.cancelled .starting, false⟩ :: gs.map GitCall.exchange ++
    finishedLog (ownEntry .mergeBase m) :: listing pr files (config.domains.classify files) ++
      fates.flatMap Fate.trace

section
variable {gs : List GitCall} {m : JobResult} {files : ChangedFiles} {fates : List Fate}

/-- A run that has come to its stages has listed the changed files once. -/
theorem listings_upToStages : listings (upToStages config pr gs m files fates) = [files] := by
  have hfates (f : Fate) : collect listing? f.trace = [] :=
    Fate.collect_trace_eq_nil (fun _ => rfl) fun _ => rfl
  simp [upToStages, finishedLog, listing, hfates]

/-- The git commands of a run that has come to its stages are those of the merge. -/
theorem gitCalls_upToStages : gitCalls (upToStages config pr gs m files fates) = gs := by
  have hfates (f : Fate) : collect gitCall? f.trace = [] :=
    Fate.collect_trace_eq_nil (fun _ => rfl) fun _ => rfl
  simp [upToStages, finishedLog, listing, hfates]

/-- The formatters of such a run are those of its stages. -/
theorem commandCalls_upToStages :
    commandCalls (upToStages config pr gs m files fates) = fates.flatMap Fate.calls := by
  simp [upToStages, finishedLog, listing, -Fate.calls]

/-- A run that has come to the end of its stages was not cancelled. -/
theorem not_isCancelled_upToStages : ¬IsCancelled (upToStages config pr gs m files fates) := by
  simp [upToStages, finishedLog, listing]

end

/-- Stages that are all through make the steps complete, whatever becomes of their changes. -/
private theorem complete_of_stages {u v : Trace} {flags : DomainFlags} {blocked : Bool}
    {p' : Progress} {o' : Outcome} {gs' : List GitCall} {x : JobResult} {sha : Option String}
    (opening : Opening config options pr o t (.ok flags) p)
    (stages : LoopRuns p false (Plan.ofConfig config flags).stages u (.ok blocked) p')
    (hlistings : listings v = []) (huncancelled : ¬IsCancelled v) (hgit : gitCalls v = gs')
    (hcommands : commandCalls v = [])
    (pushed : p'.outcome.recordAll [ownEntry .push x] = .ok o')
    (closing : Closing config options pr blocked gs' x sha) :
    ∃ gs m files fates, Merging config options pr gs m ∧
      Complete config options pr o (t ++ u ++ v) { p' with outcome := o', pushedSha := sha }
        gs gs' m x files fates := by
  cases opening with
  | @listed gs m o₁ files _ merging merged classified recorded =>
    subst classified
    obtain ⟨fates, hstages, rfl, hff, hrec, hresults, rfl⟩ := stages.exists_fates
    refine ⟨gs, m, files, fates, merging, ?_⟩
    have htrace : ⟨.cancelled .starting, false⟩ :: gs.map GitCall.exchange ++
        finishedLog (ownEntry .mergeBase m) :: listing pr files (config.domains.classify files) ++
          fates.flatMap Fate.trace ++ v = upToStages config pr gs m files fates ++ v := rfl
    rw [htrace]
    exact {
      merging := merging
      merged := merged
      listings := by simp [listings_upToStages, hlistings]
      uncancelled := by simp [not_isCancelled_upToStages, huncancelled]
      gitCalls := by simp [gitCalls_upToStages, hgit]
      commandCalls := by simp [commandCalls_upToStages, hcommands]
      planned := hstages
      failFast := hff
      recorded := Outcome.recordAll_append_eq_ok_iff.2
        ⟨_, Outcome.recordAll_append_eq_ok_iff.2 ⟨o₁, recorded, hrec⟩, pushed⟩
      stages := hresults
      closing := by simpa using closing }

/-- Where no domain names a step twice, the stages halt only when the run is cancelled. -/
theorem LoopRuns.isCancelled_of_opening {u : Trace} {flags : DomainFlags} {e : Halt} {p' : Progress}
    (hnames : ∀ d, ((config.formatters.get d).map Formatter.name).Nodup)
    (hfresh : ∀ name ∈ o.jobs, name = ReservedSlot.trigger.name)
    (opening : Opening config options pr o t (.ok flags) p)
    (stages : LoopRuns p false (Plan.ofConfig config flags).stages u (.error e) p') :
    e = .cancelled ∧ IsCancelled u := by
  refine stages.isCancelled (fun s _ hm => ?_) (Plan.nodup_slots_iff.2 hnames)
  have hne (slot : ReservedSlot) : s.slot ≠ slot.name := Stage.slotOf_ne_name s.domain s.name slot
  rcases opening.eq_of_mem_jobs hm with hm | hm | hm
  · exact hne .trigger (hfresh _ hm)
  · exact hne .mergeBase hm
  · exact hne .route hm

/-- The steps are cancelled before the first of them, or have begun. -/
theorem Course.eq_or_begun {r : Except Halt Unit} (h : Course config options pr o t r p) :
    (t = [⟨.cancelled .starting, true⟩] ∧ p = { outcome := o }) ∨ (.starting, false) ∈ pauses t := by
  have hopening {u : Trace} {r : Except Halt DomainFlags} {q : Progress}
      (opening : Opening config options pr o u r q) :
      (u = [⟨.cancelled .starting, true⟩] ∧ q = { outcome := o } ∧ r = .error .cancelled) ∨
        (.starting, false) ∈ pauses u := by
    cases opening with
    | cancelledAtStart => exact .inl ⟨rfl, rfl, rfl⟩
    | notMerged merging recorded => exact .inr (by simp)
    | cancelledWhileListing merging merged recorded => exact .inr (by simp)
    | notListed merging merged recorded => exact .inr (by simp)
    | listed merging merged classified recorded => exact .inr (by simp)
  cases h with
  | haltedInOpening opening =>
    rcases hopening opening with ⟨ht, hp, -⟩ | hbegun
    · exact .inl ⟨ht, hp⟩
    · exact .inr hbegun
  | haltedInStages opening stages =>
    rcases hopening opening with ⟨-, -, hr⟩ | hbegun
    · cases hr
    · exact .inr (by simp [hbegun])
  | unpublished opening stages withheld recorded =>
    rcases hopening opening with ⟨-, -, hr⟩ | hbegun
    · cases hr
    · exact .inr (by simp [hbegun])
  | published opening stages on publishing recorded =>
    rcases hopening opening with ⟨-, -, hr⟩ | hbegun
    · cases hr
    · exact .inr (by simp [hbegun])

/-- Steps that halt because the run is cancelled took notice of it. -/
theorem Course.isCancelled (h : Course config options pr o t (.error .cancelled) p) :
    IsCancelled t := by
  generalize hr : (.error .cancelled : Except Halt Unit) = r at h
  cases h with
  | haltedInOpening opening =>
    cases hr
    cases opening with
    | cancelledAtStart => simp
    | cancelledWhileListing merging merged recorded => simp
  | haltedInStages opening stages =>
    cases hr
    obtain ⟨fates, rest, u, o', -, rfl, -, -, -, hend⟩ := stages
    cases hend with
    | interrupted enabled free hx => simp [hx]
  | unpublished opening stages withheld recorded => cases hr
  | @published _ _ _ _ _ _ gs y opening stages on publishing recorded =>
    cases y with
    | ok sha => cases hr
    | error e => cases hr

/-- Steps that have begun go through all stages of a valid configuration, unless the run is cancelled or
the changed files are not listed. -/
theorem complete_of_course {r : Except Halt Unit} (valid : config.validate = .ok ())
    (hfresh : ∀ name ∈ o.jobs, name = ReservedSlot.trigger.name)
    (h : Course config options pr o t r p) (begun : (.starting, false) ∈ pauses t) :
    ∃ gs m, Merging config options pr gs m ∧
      ((Bot.gitCalls t = gs ∧ p.pushedSha = none ∧
          (IsCancelled t ∨ Bot.listings t = [])) ∨
        ∃ gs' x files fates, Complete config options pr o t p gs gs' m x files fates) := by
  cases h with
  | haltedInOpening opening =>
    cases opening with
    | cancelledAtStart => simp at begun
    | notMerged merging recorded =>
      exact ⟨_, _, merging, .inl ⟨by simp [finishedLog], rfl, .inr (by simp [finishedLog])⟩⟩
    | cancelledWhileListing merging merged recorded =>
      exact ⟨_, _, merging, .inl ⟨by simp [finishedLog], rfl, .inl (by simp)⟩⟩
    | notListed merging merged recorded =>
      exact ⟨_, _, merging, .inl ⟨by simp [finishedLog], rfl, .inr (by simp [finishedLog])⟩⟩
  | haltedInStages opening stages =>
    -- the names of a valid configuration differ, so only a cancellation halts the stages
    obtain ⟨-, hcancelled⟩ :=
      stages.isCancelled_of_opening (Config.nodup_names_of_validate valid) hfresh opening
    have hnone := stages.gitCalls_eq_nil
    cases opening with
    | listed merging merged classified recorded =>
      refine ⟨_, _, merging, .inl ⟨?_, stages.pushedSha_eq, .inl (by simp [hcancelled])⟩⟩
      simp [finishedLog, listing, hnone]
  | @unpublished _ _ _ blocked _ q _ opening stages withheld recorded =>
    have hnone : q.pushedSha = none := stages.pushedSha_eq.trans opening.pushedSha_eq_none
    have closing : Closing config options pr blocked [] .skipped q.pushedSha := by
      rw [hnone]
      exact .withheld withheld
    obtain ⟨gs, m, files, fates, merging, complete⟩ :=
      complete_of_stages (v := [finishedLog (ownEntry .push .skipped)]) opening stages
        (by simp [finishedLog]) (by simp [finishedLog]) (by simp [finishedLog])
        (by simp [finishedLog]) recorded closing
    exact ⟨gs, m, merging, .inr ⟨[], .skipped, files, fates, complete⟩⟩
  | @published _ _ _ _ q _ gs' y opening stages on publishing recorded =>
    obtain ⟨gs, m, files, fates, merging, complete⟩ :=
      complete_of_stages (v := gs'.map GitCall.exchange ++ pushLog pr.headRef y ++
        [finishedLog (ownEntry .push (pushResult y))]) opening stages
        (by simp [finishedLog]) (by simp [finishedLog]) (by simp [finishedLog])
        (by simp [finishedLog]) recorded (.published rfl on publishing)
    refine ⟨gs, m, merging, .inr ⟨gs', pushResult y, files, fates, ?_⟩⟩
    simpa only [List.append_assoc] using complete

/-! ## The steps of a run within its history -/

/-- The steps of an acknowledged run within its history, and what comes of them. -/
structure Within (config : Config) (options : RunOptions) (c : Comment) (pr : PullRequest) (t : Trace)
    (r : Except BotError RunResult) (o : Outcome) (u : Trace) (ended : Except Halt Unit)
    (p : Progress) : Prop where
  fetched : (⟨.platform (fetchCall c), .ok pr⟩ : Exchange interface) ∈ t
  acknowledged : Outcome.empty.recordAll [ownEntry .trigger .succeeded] = .ok o
  course : Course config options pr o u ended p
  opened : ∃ b, t = prelude config options c pr ++ u ++ b ∧ ∀ e ∈ b, isOuter e = true
  finalCalls : ∃ final, finalCalls t = [finalCall config options pr final]
  concluded : ∃ q final, FinalStatus.aggregate .triggered q.outcome = some final ∧
    statusCall pr (finalUpdate config options final) ∈ platformCalls t ∧
    q.pushedSha = p.pushedSha ∧ (ended ≠ .error .cancelled → q = p) ∧
    ∀ result, r = .ok result → result.progress = q ∧ result.reported = some final.state

/-- The evaluation of a comment belongs to no step. -/
theorem isOuter_evaluated {e : Exchange interface} (he : e ∈ evaluated config c pr) :
    isOuter e = true := by
  rw [evaluated, evaluationLog] at he
  split at he
  · simp only [List.mem_append, List.mem_cons, List.not_mem_nil, or_false] at he
    rcases he with (rfl | rfl | rfl) | rfl <;> rfl
  · simp only [List.mem_append, List.mem_cons, List.not_mem_nil, or_false] at he
    rcases he with (rfl | rfl) | rfl <;> rfl

/-- What comes before the first step belongs to no step. -/
theorem isOuter_prelude {e : Exchange interface} (he : e ∈ prelude config options c pr) :
    isOuter e = true := by
  simp only [prelude, acknowledgement, List.mem_append, List.mem_cons, List.not_mem_nil,
    or_false] at he
  rcases he with (he | rfl | rfl) | rfl | rfl
  · exact isOuter_evaluated he
  all_goals rfl

/-- What stands around the steps of a run belongs to none of them. -/
theorem Within.framed {r : Except BotError RunResult} {u : Trace} {ended : Except Halt Unit}
    (h : Within config options c pr t r o u ended p) :
    ∃ a b, t = a ++ u ++ b ∧ (∀ e ∈ a, isOuter e = true) ∧ ∀ e ∈ b, isOuter e = true := by
  obtain ⟨b, ht, hb⟩ := h.opened
  exact ⟨_, b, ht, fun e => isOuter_prelude, hb⟩

/-- A run that was asked for either is not acknowledged, or goes through its steps. -/
theorem steps_of_conduct {u : Trace} {halt : Option Halt} {q : Progress}
    (h : Conduct config options c pr u halt q) :
    ((∀ e ∈ u, isOuter e = true) ∧ q.pushedSha = none) ∨
      ∃ o u' ended p b, Outcome.empty.recordAll [ownEntry .trigger .succeeded] = .ok o ∧
        Course config options pr o u' ended p ∧
        u = acknowledgement config options c pr ++ u' ++ b ∧ (∀ e ∈ b, isOuter e = true) ∧
        q.pushedSha = p.pushedSha ∧ (ended ≠ .error .cancelled → q = p) := by
  cases h with
  | notReacted recorded => exact .inl ⟨by simp, rfl⟩
  | notPending recorded => exact .inl ⟨by simp, rfl⟩
  | ended recorded course =>
    exact .inr ⟨_, _, _, _, [], recorded, course, by simp, by simp, rfl, fun _ => rfl⟩
  | stopped recorded course =>
    exact .inr ⟨_, _, _, _, _, recorded, course, rfl, by simp, rfl, fun _ => rfl⟩
  | cancelled recorded course marked =>
    exact .inr ⟨_, _, _, _, _, recorded, course, rfl, by simp, rfl, fun hne => absurd rfl hne⟩

/-- A run that was asked for comes to no step, or consists of its steps with nothing of theirs around them. -/
private theorem within_requested {u v : Trace} {halt : Option Halt} {q : Progress}
    {final : FinalStatus} {r : Except BotError RunResult}
    (conduct : Conduct config options c pr u halt q) (hv : ∀ e ∈ v, isOuter e = true)
    (hcalls : platformCalls v = [finalCall config options pr final])
    (aggregated : FinalStatus.aggregate .triggered q.outcome = some final)
    (hresult : ∀ result, r = .ok result → result.progress = q ∧ result.reported = some final.state) :
    ((∀ e ∈ requested config c pr u v, isOuter e = true) ∧
      ∀ result, r = .ok result → result.progress.pushedSha = none) ∨
    ∃ pr' o u' ended p, Within config options c pr' (requested config c pr u v) r o u' ended p := by
  have hopen : ∀ e ∈ evaluated config c pr ++ [⟨.log (.phaseChanged .evaluated .running), ()⟩,
      ⟨.log (.runStarted pr), ()⟩], isOuter e = true := by
    intro e he
    rcases List.mem_append.1 he with he | he
    · exact isOuter_evaluated he
    · simp only [List.mem_cons, List.not_mem_nil, or_false] at he
      rcases he with rfl | rfl <;> rfl
  rcases steps_of_conduct conduct with ⟨hu, hsha⟩ | ⟨o, u', ended, p, b, ho, course, rfl, hb, hsha, hq⟩
  · refine .inl ⟨fun e he => ?_, fun result hr => ?_⟩
    · rcases List.mem_append.1 he with he | he
      · rcases List.mem_append.1 he with he | he
        · exact hopen e he
        · exact hu e he
      · exact hv e he
    · rw [(hresult result hr).1, hsha]
  · refine .inr ⟨pr, o, u', ended, p, ?_⟩
    exact {
      fetched := by simp [requested, evaluated]
      acknowledged := ho
      course := course
      opened := by
        refine ⟨b ++ v, by simp [requested, prelude], fun e he => ?_⟩
        exact (List.mem_append.1 he).elim (hb e) (hv e)
      finalCalls := ⟨final, finalCalls_requested conduct (state_ne_pending aggregated) hcalls⟩
      concluded := by
        refine ⟨q, final, aggregated, ?_, hsha, hq, hresult⟩
        have hcall : finalCall config options pr final ∈ platformCalls v := by simp [hcalls]
        simp [requested, hcall] }

/-- A run either comes to nothing before its steps, or its steps stand within its history. -/
theorem within_of_history {r : Except BotError RunResult} (h : History config options c t r) :
    ((∀ e ∈ t, isOuter e = true) ∧ ∀ result, r = .ok result → result.progress.pushedSha = none) ∨
      ∃ pr o u ended p, Within config options c pr t r o u ended p := by
  cases h with
  | inapplicable applicable => exact .inl ⟨by simp, fun _ hr => by cases hr⟩
  | notFetched applicable => exact .inl ⟨by simp, fun _ hr => by cases hr⟩
  | rejected applicable verdict =>
    refine .inl ⟨fun e he => ?_, fun _ hr => by cases hr⟩
    rcases List.mem_append.1 he with he | he
    · exact isOuter_evaluated he
    · simp only [List.mem_cons, List.not_mem_nil, or_false] at he
      rcases he with rfl | rfl | rfl <;> rfl
  | notTriggered applicable verdict =>
    refine .inl ⟨fun e he => ?_, fun result hr => ?_⟩
    · rcases List.mem_append.1 he with he | he
      · exact isOuter_evaluated he
      · rw [List.mem_singleton.1 he]
        rfl
    · cases hr
      rfl
  | unreported applicable verdict conduct aggregated =>
    exact within_requested conduct (by simp) (by simp) aggregated fun _ hr => by cases hr
  | reported applicable verdict conduct aggregated =>
    refine within_requested conduct (by simp) (by simp) aggregated fun result hr => ?_
    cases hr
    exact ⟨rfl, rfl⟩

end Autoformat.Run
