import Autoformat.Proofs.Stages

/-!
# The course of the steps

The steps of a run open with a merge and the listing of the changed files (`Opening`), go through the
stages (`LoopRuns`), and close with a commit and a push. `Course` lists the ways in which all of this can
go, each with its exchanges, its result and the progress that it leaves. `course_of_stepEnds` says that
there are no others: whatever the configuration, the steps of a run itself never find their slots taken.
-/

namespace Autoformat.Run

open Autoformat.Bot Autoformat.Bot.Git

variable {config : Config} {options : RunOptions} {pr : PullRequest} {o : Outcome}
  {p p' : Progress} {t : Trace}

/-- A slot of a run itself and its entry. -/
def ownEntry (slot : ReservedSlot) (result : JobResult) : String × OutcomeEntry :=
  (slot.name, ⟨result, false⟩)

/-- The entry of the log for a step that finished. -/
def finishedLog (x : String × OutcomeEntry) : Exchange interface := ⟨.log (.stepFinished x.1 x.2), ()⟩

/-- An own slot of the run that is free takes its entry, and this is logged. -/
theorem stepEnds_recordOwn_bind {α : Type} {slot : ReservedSlot} {result : JobResult}
    {f : Unit → Step α} {r : Except Halt α} (hfree : slot.name ∉ p.outcome.jobs)
    (h : StepEnds (recordOwn slot result >>= f) p t r p') :
    ∃ u o, t = finishedLog (ownEntry slot result) :: u ∧
      p.outcome.recordAll [ownEntry slot result] = .ok o ∧
      StepEnds (f ()) { p with outcome := o } u r p' := by
  obtain ⟨u, o, rfl, ho, hf⟩ := stepEnds_record_bind_of_free hfree h
  exact ⟨u, o, rfl, Outcome.recordAll_cons_eq_ok_iff.2 ⟨o, ho, rfl⟩, hf⟩

/-- A step that ends with recording an own slot ends well. -/
theorem stepEnds_recordOwn {slot : ReservedSlot} {result : JobResult} {r : Except Halt Unit}
    (hfree : slot.name ∉ p.outcome.jobs) (h : StepEnds (recordOwn slot result) p t r p') :
    ∃ o, t = [finishedLog (ownEntry slot result)] ∧ r = .ok () ∧
      p.outcome.recordAll [ownEntry slot result] = .ok o ∧ p' = { p with outcome := o } := by
  rw [← bind_pure (recordOwn slot result)] at h
  obtain ⟨u, o, rfl, ho, hend⟩ := stepEnds_recordOwn_bind hfree h
  obtain ⟨rfl, rfl, rfl⟩ := stepEnds_pure_iff.1 hend
  exact ⟨o, rfl, rfl, ho, rfl⟩

/-! ## The merge of the base commit -/

/-- The git commands of the step that merges the base commit, and what is recorded of it. -/
inductive Merging (config : Config) (options : RunOptions) (pr : PullRequest) :
    List GitCall → JobResult → Prop where
  | leftOut (off : options.mergeBase = false) : Merging config options pr [] .skipped
  | tried {gs : List GitCall} {merged : Bool} (on : options.mergeBase = true)
    (calls : MergeCalls (fetchArgs options.remote pr.baseRef) (mergeArgs config.commit pr.baseSha)
      gs merged) : Merging config options pr gs (.ofPassed merged)

/-- The step that merges the base branch goes as `Merging` says, and is recorded. -/
theorem merging_of_stepEnds {r : Except Halt Unit}
    (hfree : ReservedSlot.mergeBase.name ∉ p.outcome.jobs)
    (h : StepEnds (mergeBase config options pr) p t r p') :
    ∃ gs m o, Merging config options pr gs m ∧
      t = gs.map GitCall.exchange ++ [finishedLog (ownEntry .mergeBase m)] ∧
      p.outcome.recordAll [ownEntry .mergeBase m] = .ok o ∧ p' = { p with outcome := o } ∧
      ((m ≠ .failed ∧ r = .ok ()) ∨ m = .failed ∧ ∃ fault, r = .error (.stopped (.git fault))) := by
  rw [mergeBase] at h
  cases hon : options.mergeBase with
  | false =>
    rw [if_neg (by simp [hon])] at h
    obtain ⟨o, rfl, rfl, ho, rfl⟩ := stepEnds_recordOwn hfree h
    exact ⟨[], .skipped, o, .leftOut hon, rfl, ho, rfl, .inl ⟨nofun, rfl⟩⟩
  | true =>
    rw [if_pos hon] at h
    obtain ⟨u, v, y, rfl, hmerge, hrec⟩ := stepEnds_perform_bind_iff.1 h
    obtain ⟨gs, rfl, hcalls⟩ := mergeCalls_of_ends hmerge
    obtain ⟨w, o, rfl, ho, hstop⟩ := stepEnds_recordOwn_bind hfree hrec
    rw [← bind_pure (orStop y)] at hstop
    rcases stepEnds_orStop_bind_iff.1 hstop with ⟨e, rfl, rfl, rfl, rfl⟩ | ⟨a, rfl, hend⟩
    · obtain ⟨fault, rfl⟩ := exists_fault_of_ends_merge hmerge
      exact ⟨gs, _, o, .tried hon hcalls, rfl, ho, rfl, .inr ⟨rfl, fault, rfl⟩⟩
    · obtain ⟨rfl, rfl, rfl⟩ := stepEnds_pure_iff.1 hend
      exact ⟨gs, _, o, .tried hon hcalls, rfl, ho, rfl, .inl ⟨nofun, rfl⟩⟩

/-! ## The listing of the changed files -/

/-- The exchanges in which the changed files are listed and classified. -/
def listing (pr : PullRequest) (files : ChangedFiles) (flags : DomainFlags) : Trace :=
  [⟨.platform (listCall pr), .ok files⟩, ⟨.cancelled .listing, false⟩,
    ⟨.log (.diffRouted pr.number files.size flags), ()⟩, finishedLog (ownEntry .route .succeeded)]

/-- The step that lists the changed files is cancelled, fails or classifies them. -/
theorem stepEnds_route {r : Except Halt DomainFlags} (hfree : ReservedSlot.route.name ∉ p.outcome.jobs)
    (h : StepEnds (route config pr) p t r p') :
    (∃ x, t = [⟨.platform (listCall pr), x⟩, ⟨.cancelled .listing, true⟩] ∧
      r = .error .cancelled ∧ p' = p) ∨
    (∃ (e : PlatformError) (o : Outcome), t = [⟨.platform (listCall pr), .error e⟩,
        ⟨.cancelled .listing, false⟩, finishedLog (ownEntry .route .failed)] ∧
      p.outcome.recordAll [ownEntry .route .failed] = .ok o ∧
      r = .error (.stopped (.platform e)) ∧ p' = { p with outcome := o }) ∨
    ∃ files flags o, flags = config.domains.classify files ∧ t = listing pr files flags ∧
      p.outcome.recordAll [ownEntry .route .succeeded] = .ok o ∧ r = .ok flags ∧
      p' = { p with outcome := o, flags := some flags } := by
  obtain ⟨u, v, y, rfl, hcall, hpause⟩ := stepEnds_perform_bind_iff.1 h
  rcases stepEnds_pause_bind_iff.1 hpause with ⟨rfl, rfl, rfl⟩ | ⟨w, rfl, hfiles⟩
  · rcases ends_call_iff.1 hcall with ⟨e, rfl, -⟩ | ⟨files, rfl, -⟩
    · exact .inl ⟨.error e, rfl, rfl, rfl⟩
    · exact .inl ⟨.ok files, rfl, rfl, rfl⟩
  rcases ends_call_iff.1 hcall with ⟨e, rfl, rfl⟩ | ⟨files, rfl, rfl⟩
  · obtain ⟨x, o, rfl, ho, hstop⟩ := stepEnds_recordOwn_bind hfree hfiles
    obtain ⟨rfl, rfl, rfl⟩ := stepEnds_throw_iff.1 hstop
    exact .inr (.inl ⟨e, o, rfl, ho, rfl, rfl⟩)
  · obtain ⟨x, z, y, rfl, hroute, hstop⟩ := stepEnds_perform_bind_iff.1 hfiles
    obtain ⟨x', rfl, hflags⟩ := ends_log_bind_iff.1 hroute
    obtain ⟨rfl, rfl⟩ := ends_pure_iff.1 hflags
    obtain ⟨w', o, rfl, ho, hend⟩ := stepEnds_recordOwn_bind hfree hstop
    have hend := stepEnds_modify_bind_iff.1 hend
    obtain ⟨rfl, rfl, rfl⟩ := stepEnds_pure_iff.1 hend
    exact .inr (.inr ⟨files, _, o, rfl, rfl, ho, rfl, rfl⟩)

/-! ## The commit and the push -/

/-- What is recorded of a commit and a push that come to this. -/
def pushResult : Except BotError (Option String) → JobResult
  | .ok (some _) => .succeeded
  | .ok none => .skipped
  | .error _ => .failed

/-- What the log says of a commit and a push that come to this. -/
def pushLog (branch : String) : Except BotError (Option String) → Trace
  | .ok (some sha) => [⟨.log (.pushed sha branch), ()⟩]
  | .ok none => [⟨.log .nothingToPush, ()⟩]
  | .error _ => []

section
variable (branch : String) (y : Except BotError (Option String))

/-- Of the entry about a push, nothing is shown by what shows no such entries. -/
theorem collect_pushLog_eq_nil {α : Type} {f : Exchange interface → Option α}
    (hpushed : ∀ sha branch, f ⟨.log (.pushed sha branch), ()⟩ = none)
    (hnothing : f ⟨.log .nothingToPush, ()⟩ = none) : collect f (pushLog branch y) = [] := by
  match y with
  | .ok (some sha) => simp [pushLog, hpushed]
  | .ok none => simp [pushLog, hnothing]
  | .error e => rfl

/-- The entry about a push is no call of the platform. -/
@[simp]
theorem platformCalls_pushLog : platformCalls (pushLog branch y) = [] :=
  collect_pushLog_eq_nil branch y (fun _ _ => rfl) rfl

/-- The entry about a push lists nothing. -/
@[simp]
theorem listings_pushLog : listings (pushLog branch y) = [] :=
  collect_pushLog_eq_nil branch y (fun _ _ => rfl) rfl

/-- The entry about a push is no git command. -/
@[simp]
theorem gitCalls_pushLog : gitCalls (pushLog branch y) = [] :=
  collect_pushLog_eq_nil branch y (fun _ _ => rfl) rfl

/-- The entry about a push runs no formatter. -/
@[simp]
theorem commandCalls_pushLog : commandCalls (pushLog branch y) = [] :=
  collect_pushLog_eq_nil branch y (fun _ _ => rfl) rfl

/-- The entry about a push is no place to take notice of a cancellation. -/
@[simp]
theorem pauses_pushLog : pauses (pushLog branch y) = [] :=
  collect_pushLog_eq_nil branch y (fun _ _ => rfl) rfl

/-- The entry about a push cancels nothing. -/
@[simp]
theorem not_isCancelled_pushLog : ¬IsCancelled (pushLog branch y) := by
  match y with
  | .ok (some sha) => simp [pushLog]
  | .ok none => simp [pushLog]
  | .error e => simp [pushLog]

end

/-- The message of a commit, with a link to the run if there is one. -/
def messageOf (config : Config) (options : RunOptions) : String :=
  config.commit.message ++ options.runUrl.elim "" (": " ++ ·)

/-- The message of a commit is the configured one, with the link to the run if there is one. -/
theorem commitMessage_eq : commitMessage config options = messageOf config options := by
  cases hurl : options.runUrl with
  | none => simp [commitMessage, messageOf, hurl]
  | some url => simp [commitMessage, messageOf, hurl, String.append_assoc]

/-- The git commands of a commit and its push, and what they come to. -/
structure Publishing (config : Config) (options : RunOptions) (pr : PullRequest) (gs : List GitCall)
    (y : Except BotError (Option String)) : Prop where
  follows : Follows goesOn (publishScript config.commit (messageOf config options)
    options.remote pr.headRef) gs
  pushed_iff (sha : String) : y = .ok (some sha) ↔ IsPushed options.remote pr.headRef sha gs
  exists_fault (e : BotError) : y = .error e → ∃ fault, e = .git fault

/-- The step that commits and pushes goes as `Publishing` says, and is recorded. -/
theorem publishing_of_stepEnds {r : Except Halt Unit} (hfree : ReservedSlot.push.name ∉ p.outcome.jobs)
    (h : StepEnds (publish config options pr) p t r p') :
    ∃ gs y o, Publishing config options pr gs y ∧
      t = gs.map GitCall.exchange ++ pushLog pr.headRef y ++
        [finishedLog (ownEntry .push (pushResult y))] ∧
      p.outcome.recordAll [ownEntry .push (pushResult y)] = .ok o ∧
      p' = { p with outcome := o, pushedSha := y.toOption.join.or p.pushedSha } ∧
      r = (y.mapError .stopped).map fun _ => () := by
  obtain ⟨u, v, y, rfl, hgit, hend⟩ := stepEnds_perform_bind_iff.1 h
  obtain ⟨gs, rfl, hfollows, hpushed⟩ := follows_of_ends_publish hgit
  rw [commitMessage_eq] at hfollows
  have hfault (e : BotError) (he : y = .error e) : ∃ fault, e = .git fault := by
    subst he
    exact exists_fault_of_ends_publish hgit
  match y with
  | .ok (some sha) =>
    obtain ⟨w, rfl, hmod⟩ := stepEnds_log_bind_iff.1 hend
    have hrec := stepEnds_modify_bind_iff.1 hmod
    obtain ⟨o, rfl, rfl, ho, rfl⟩ :=
      stepEnds_recordOwn (p := { p with pushedSha := some sha }) hfree hrec
    exact ⟨gs, _, o, ⟨hfollows, hpushed, hfault⟩, by simp [pushLog, pushResult], ho, rfl, rfl⟩
  | .ok none =>
    obtain ⟨w, rfl, hrec⟩ := stepEnds_log_bind_iff.1 hend
    obtain ⟨o, rfl, rfl, ho, rfl⟩ := stepEnds_recordOwn hfree hrec
    exact ⟨gs, _, o, ⟨hfollows, hpushed, hfault⟩, by simp [pushLog, pushResult], ho, rfl, rfl⟩
  | .error e =>
    obtain ⟨w, o, rfl, ho, hstop⟩ := stepEnds_recordOwn_bind hfree hend
    obtain ⟨rfl, rfl, rfl⟩ := stepEnds_throw_iff.1 hstop
    exact ⟨gs, _, o, ⟨hfollows, hpushed, hfault⟩, by simp [pushLog, pushResult], ho, rfl, rfl⟩

/-! ## All steps -/

/-- How the steps open, up to the classification of the changed files. -/
inductive Opening (config : Config) (options : RunOptions) (pr : PullRequest) (o : Outcome) :
    Trace → Except Halt DomainFlags → Progress → Prop where
  | cancelledAtStart :
    Opening config options pr o [⟨.cancelled .starting, true⟩] (.error .cancelled) { outcome := o }
  | notMerged {gs : List GitCall} {o' : Outcome} {fault : GitFault}
    (merging : Merging config options pr gs .failed)
    (recorded : o.recordAll [ownEntry .mergeBase .failed] = .ok o') :
    Opening config options pr o
      (⟨.cancelled .starting, false⟩ :: gs.map GitCall.exchange ++
        [finishedLog (ownEntry .mergeBase .failed)])
      (.error (.stopped (.git fault))) { outcome := o' }
  | cancelledWhileListing {gs : List GitCall} {m : JobResult} {o' : Outcome}
    {x : Except PlatformError ChangedFiles} (merging : Merging config options pr gs m)
    (merged : m ≠ .failed) (recorded : o.recordAll [ownEntry .mergeBase m] = .ok o') :
    Opening config options pr o
      (⟨.cancelled .starting, false⟩ :: gs.map GitCall.exchange ++
        [finishedLog (ownEntry .mergeBase m), ⟨.platform (listCall pr), x⟩,
          ⟨.cancelled .listing, true⟩])
      (.error .cancelled) { outcome := o' }
  | notListed {gs : List GitCall} {m : JobResult} {o' : Outcome} {e : PlatformError}
    (merging : Merging config options pr gs m) (merged : m ≠ .failed)
    (recorded : o.recordAll [ownEntry .mergeBase m, ownEntry .route .failed] = .ok o') :
    Opening config options pr o
      (⟨.cancelled .starting, false⟩ :: gs.map GitCall.exchange ++
        [finishedLog (ownEntry .mergeBase m), ⟨.platform (listCall pr), .error e⟩,
          ⟨.cancelled .listing, false⟩, finishedLog (ownEntry .route .failed)])
      (.error (.stopped (.platform e))) { outcome := o' }
  | listed {gs : List GitCall} {m : JobResult} {o' : Outcome} {files : ChangedFiles}
    {flags : DomainFlags} (merging : Merging config options pr gs m) (merged : m ≠ .failed)
    (classified : flags = config.domains.classify files)
    (recorded : o.recordAll [ownEntry .mergeBase m, ownEntry .route .succeeded] = .ok o') :
    Opening config options pr o
      (⟨.cancelled .starting, false⟩ :: gs.map GitCall.exchange ++
        finishedLog (ownEntry .mergeBase m) :: listing pr files flags)
      (.ok flags) { outcome := o', flags := some flags }

/-- How the steps go. -/
inductive Course (config : Config) (options : RunOptions) (pr : PullRequest) (o : Outcome) :
    Trace → Except Halt Unit → Progress → Prop where
  | haltedInOpening {t : Trace} {h : Halt} {p : Progress}
    (opening : Opening config options pr o t (.error h) p) :
    Course config options pr o t (.error h) p
  | haltedInStages {t u : Trace} {flags : DomainFlags} {h : Halt} {p p' : Progress}
    (opening : Opening config options pr o t (.ok flags) p)
    (stages : LoopRuns p false (Plan.ofConfig config flags).stages u (.error h) p') :
    Course config options pr o (t ++ u) (.error h) p'
  | unpublished {t u : Trace} {flags : DomainFlags} {blocked : Bool} {p p' : Progress} {o' : Outcome}
    (opening : Opening config options pr o t (.ok flags) p)
    (stages : LoopRuns p false (Plan.ofConfig config flags).stages u (.ok blocked) p')
    (withheld : blocked = true ∨ options.push = false)
    (recorded : p'.outcome.recordAll [ownEntry .push .skipped] = .ok o') :
    Course config options pr o (t ++ u ++ [finishedLog (ownEntry .push .skipped)]) (.ok ())
      { p' with outcome := o' }
  | published {t u : Trace} {flags : DomainFlags} {p p' : Progress} {o' : Outcome}
    {gs : List GitCall} {y : Except BotError (Option String)}
    (opening : Opening config options pr o t (.ok flags) p)
    (stages : LoopRuns p false (Plan.ofConfig config flags).stages u (.ok false) p')
    (on : options.push = true) (publishing : Publishing config options pr gs y)
    (recorded : p'.outcome.recordAll [ownEntry .push (pushResult y)] = .ok o') :
    Course config options pr o
      (t ++ u ++ gs.map GitCall.exchange ++ pushLog pr.headRef y ++
        [finishedLog (ownEntry .push (pushResult y))])
      ((y.mapError .stopped).map fun _ => ())
      { p' with outcome := o', pushedSha := y.toOption.join }

/-- The steps before the stages go as `Opening` says. -/
theorem opening_of_stepEnds {α : Type} {f : DomainFlags → Step α} {r : Except Halt α}
    (hfresh : ∀ name ∈ o.jobs, name = ReservedSlot.trigger.name)
    (h : StepEnds (do
      pause .starting
      mergeBase config options pr
      let flags ← route config pr
      f flags) { outcome := o } t r p') :
    (∃ e, r = .error e ∧ Opening config options pr o t (.error e) p') ∨
      ∃ u v flags p, t = u ++ v ∧ Opening config options pr o u (.ok flags) p ∧
        StepEnds (f flags) p v r p' := by
  have hfree (slot : ReservedSlot) (hne : slot ≠ .trigger) : slot.name ∉ o.jobs :=
    fun hm => hne (ReservedSlot.name_inj.1 (hfresh _ hm))
  rcases stepEnds_pause_bind_iff.1 h with ⟨rfl, rfl, rfl⟩ | ⟨u, rfl, hmerge⟩
  · exact .inl ⟨_, rfl, .cancelledAtStart⟩
  -- the merge stops the run, or has its slot and does not stand in the way of the listing
  rcases stepEnds_bind_iff.1 hmerge with ⟨e, rfl, hm⟩ | ⟨u, v, ⟨⟩, q, rfl, hm, hroute⟩
  · obtain ⟨gs, m, o', merging, rfl, ho, rfl, ⟨-, he⟩ | ⟨rfl, fault, he⟩⟩ :=
      merging_of_stepEnds (hfree .mergeBase nofun) hm
    · cases he
    · cases he
      exact .inl ⟨_, rfl, .notMerged merging ho⟩
  obtain ⟨gs, m, o', merging, rfl, ho, rfl, ⟨merged, -⟩ | ⟨-, fault, he⟩⟩ :=
    merging_of_stepEnds (hfree .mergeBase nofun) hm
  swap
  · cases he
  have hroute' : ReservedSlot.route.name ∉ o'.jobs := by
    rw [Outcome.mem_jobs_of_recordAll ho]
    simp [ownEntry, hfree .route nofun, ReservedSlot.name_inj]
  have hrecorded {result : JobResult} {o₂ : Outcome}
      (ho₂ : o'.recordAll [ownEntry .route result] = .ok o₂) :
      o.recordAll [ownEntry .mergeBase m, ownEntry .route result] = .ok o₂ :=
    Outcome.recordAll_append_eq_ok_iff.2 ⟨o', ho, ho₂⟩
  rcases stepEnds_bind_iff.1 hroute with ⟨e, rfl, hr⟩ | ⟨u, w, flags, q, rfl, hr, hf⟩
  · rcases stepEnds_route hroute' hr with ⟨x, rfl, he, rfl⟩ | ⟨e', o₂, rfl, ho₂, he, rfl⟩ |
      ⟨files, flags, o₂, -, -, -, he, -⟩
    · cases he
      exact .inl ⟨_, rfl, by simpa using .cancelledWhileListing merging merged ho⟩
    · cases he
      exact .inl ⟨_, rfl, by simpa using .notListed merging merged (hrecorded ho₂)⟩
    · cases he
  · rcases stepEnds_route hroute' hr with ⟨x, -, he, -⟩ | ⟨e', o₂, -, -, he, -⟩ |
      ⟨files, flags', o₂, hflags, rfl, ho₂, he, rfl⟩
    · cases he
    · cases he
    · cases he
      refine .inr ⟨_, w, flags, _, ?_, .listed merging merged hflags (hrecorded ho₂), hf⟩
      simp

/-- The steps before the stages record nothing but the merge and the listing. -/
theorem Opening.eq_of_mem_jobs {r : Except Halt DomainFlags}
    (h : Opening config options pr o t r p) {name : String} (hm : name ∈ p.outcome.jobs) :
    name ∈ o.jobs ∨ name = ReservedSlot.mergeBase.name ∨ name = ReservedSlot.route.name := by
  have hone {m : JobResult} {o' : Outcome} (ho : o.recordAll [ownEntry .mergeBase m] = .ok o')
      (hm : name ∈ o'.jobs) :
      name ∈ o.jobs ∨ name = ReservedSlot.mergeBase.name ∨ name = ReservedSlot.route.name := by
    rcases (Outcome.mem_jobs_of_recordAll ho).1 hm with hm | hm
    · exact .inr (.inl (List.mem_singleton.1 hm))
    · exact .inl hm
  have htwo {m m' : JobResult} {o' : Outcome}
      (ho : o.recordAll [ownEntry .mergeBase m, ownEntry .route m'] = .ok o') (hm : name ∈ o'.jobs) :
      name ∈ o.jobs ∨ name = ReservedSlot.mergeBase.name ∨ name = ReservedSlot.route.name := by
    rcases (Outcome.mem_jobs_of_recordAll ho).1 hm with hm | hm
    · exact .inr (List.mem_pair.1 hm)
    · exact .inl hm
  cases h with
  | cancelledAtStart => exact .inl hm
  | notMerged merging recorded => exact hone recorded hm
  | cancelledWhileListing merging merged recorded => exact hone recorded hm
  | notListed merging merged recorded => exact htwo recorded hm
  | listed merging merged classified recorded => exact htwo recorded hm

/-- Nothing is pushed before the stages. -/
theorem Opening.pushedSha_eq_none {r : Except Halt DomainFlags}
    (h : Opening config options pr o t r p) : p.pushedSha = none := by
  cases h <;> rfl

/-- No stage has a result before the stages. -/
theorem Opening.stages_eq_nil {r : Except Halt DomainFlags}
    (h : Opening config options pr o t r p) : p.stages = [] := by
  cases h <;> rfl

/-- Every way in which the steps go is a `Course`. -/
theorem course_of_stepEnds {r : Except Halt Unit}
    (hfresh : ∀ name ∈ o.jobs, name = ReservedSlot.trigger.name)
    (h : StepEnds (do
      pause .starting
      steps config options pr) { outcome := o } t r p') : Course config options pr o t r p' := by
  rcases opening_of_stepEnds hfresh h with ⟨e, rfl, opening⟩ | ⟨u, v, flags, p, rfl, opening, hrest⟩
  · exact .haltedInOpening opening
  rcases stepEnds_bind_iff.1 hrest with ⟨e, rfl, hs⟩ | ⟨v, w, blocked, q, rfl, hs, hpublish⟩
  · exact .haltedInStages opening (loopRuns_of_stepEnds hs)
  have stages := loopRuns_of_stepEnds hs
  -- neither the steps before the stages nor the stages can take the slot of the push
  have hfree : ReservedSlot.push.name ∉ q.outcome.jobs := by
    rw [stages.name_mem_jobs_iff]
    intro hm
    rcases opening.eq_of_mem_jobs hm with hm | hm | hm
    · exact absurd (hfresh _ hm) (by decide)
    · exact absurd hm (by decide)
    · exact absurd hm (by decide)
  by_cases hwithheld : blocked || !options.push
  · rw [if_pos hwithheld] at hpublish
    obtain ⟨o', rfl, rfl, ho', rfl⟩ := stepEnds_recordOwn hfree hpublish
    rw [← List.append_assoc]
    exact .unpublished opening stages (by simpa using hwithheld) ho'
  · rw [if_neg hwithheld] at hpublish
    obtain ⟨gs, y, o', publishing, rfl, ho', rfl, rfl⟩ := publishing_of_stepEnds hfree hpublish
    obtain ⟨rfl, on⟩ : blocked = false ∧ options.push = true := by simpa using hwithheld
    have hnone : q.pushedSha = none := stages.pushedSha_eq.trans opening.pushedSha_eq_none
    simpa [hnone] using Course.published opening stages on publishing ho'

/-- No step has the slot that tells of a cancelled run. -/
theorem Course.run_not_mem_jobs {r : Except Halt Unit} (h : Course config options pr o t r p)
    (hfresh : ∀ name ∈ o.jobs, name = ReservedSlot.trigger.name) :
    ReservedSlot.run.name ∉ p.outcome.jobs := by
  have hopening {u : Trace} {r : Except Halt DomainFlags} {q : Progress}
      (opening : Opening config options pr o u r q) : ReservedSlot.run.name ∉ q.outcome.jobs := by
    intro hm
    rcases opening.eq_of_mem_jobs hm with hm | hm | hm
    · exact absurd (hfresh _ hm) (by decide)
    · exact absurd hm (by decide)
    · exact absurd hm (by decide)
  have hpush {q : Outcome} {m : JobResult} {o' : Outcome} (hq : ReservedSlot.run.name ∉ q.jobs)
      (ho : q.recordAll [ownEntry .push m] = .ok o') : ReservedSlot.run.name ∉ o'.jobs := by
    have hne : ReservedSlot.run.name ≠ ReservedSlot.push.name := by decide
    rw [Outcome.mem_jobs_of_recordAll ho, not_or]
    exact ⟨fun hm => hne (List.mem_singleton.1 hm), hq⟩
  cases h with
  | haltedInOpening opening => exact hopening opening
  | haltedInStages opening stages =>
    rw [stages.name_mem_jobs_iff]
    exact hopening opening
  | unpublished opening stages withheld recorded =>
    refine hpush ?_ recorded
    rw [stages.name_mem_jobs_iff]
    exact hopening opening
  | published opening stages on publishing recorded =>
    refine hpush ?_ recorded
    rw [stages.name_mem_jobs_iff]
    exact hopening opening

end Autoformat.Run
