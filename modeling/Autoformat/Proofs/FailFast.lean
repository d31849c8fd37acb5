import Autoformat.Proofs.Compliant
import Autoformat.Proofs.Completion

/-!
# What a run records of its stages

A run with a valid configuration that lists the changed files and is not cancelled goes through the
stages of all domains, in their order. `StagesReport` says which of them it executes, and what its
outcome and its result hold: a stage is executed while its domain is touched and no stage before it
failed without being tolerated, and nothing is missing from the outcome. `stagesReport_run` says that
every such run reports its stages in this way, also when pushing fails in the end.
-/

namespace Autoformat.Run

open Autoformat.Bot

variable {config : Config} {options : RunOptions} {c : Comment} {t : Trace}

/-- What an outcome holds of the stages of a run and of the run itself. -/
structure StagesReport (config : Config) (options : RunOptions) (flags : DomainFlags) (t : Trace)
    (outcome : Outcome) (fates : List Fate) : Prop where
  /-- The stages are those of all domains, in their order. -/
  planned : fates.map Fate.stage =
    Domain.all.flatMap fun d => (config.formatters.get d).map (Plan.stageOf config flags d)
  /-- A stage is executed exactly when its domain is touched and no executed stage before it failed
  without being tolerated. -/
  executed_iff (before : List Fate) (f : Fate) (after : List Fate) (h : fates = before ++ f :: after) :
    f.isExecuted = true ↔ flags.get f.stage.domain = true ∧ ∀ g ∈ before, g.isExecuted = true →
      g.entry.result = .failed → g.stage.allowFailure = true
  /-- The executed stages, and no others, run their formatters, in order. -/
  calls : commandCalls t = fates.flatMap Fate.calls
  jobs (name : String) : name ∈ outcome.jobs ↔
    name ∈ ["trigger", "merge-base", "route", "push"] ∨
      ∃ d, ∃ f ∈ config.formatters.get d, name = Stage.slotOf d f.name
  leftOut (s : Stage) (h : .leftOut s ∈ fates) : outcome.get? s.slot = some ⟨.skipped, false⟩
  /-- An executed stage succeeds exactly when its command exits with a code of zero. -/
  executed (s : Stage) (x : CommandResult) (r : StageResult) (hr : s.result? x = some r)
    (h : .executed s x r hr ∈ fates) :
    outcome.get? s.slot = some ⟨if x.passes then .succeeded else .failed, s.allowFailure⟩
  trigger : outcome.get? "trigger" = some ⟨.succeeded, false⟩
  mergeBase : outcome.get? "merge-base" =
    some ⟨if options.mergeBase then .succeeded else .skipped, false⟩
  route : outcome.get? "route" = some ⟨.succeeded, false⟩
  /-- Nothing is pushed after a failure that counts. -/
  push (f : Fate) (hf : f ∈ fates) (executed : f.isExecuted = true) (failed : f.entry.result = .failed)
    (counts : f.stage.allowFailure = false) : outcome.get? "push" = some ⟨.skipped, false⟩

/-- The failure of a stage counts when it was executed, failed and is not tolerated. -/
theorem Fate.blocks_eq_false_iff {f : Fate} : f.blocks = false ↔
    (f.isExecuted = true → f.entry.result = .failed → f.stage.allowFailure = true) := by
  cases f with
  | leftOut s => simp
  | executed s x r h => cases hp : r.passed <;> simp [hp, Fate.entry, JobResult.ofPassed]

section
variable {pr : PullRequest} {o : Outcome} {p : Progress} {gs gs' : List GitCall} {m x : JobResult}
  {files : ChangedFiles} {fates : List Fate}

/-- The outcome of steps that went through all stages holds what was recorded, and nothing else. -/
theorem Complete.mem_entries_iff
    (acknowledged : Outcome.empty.recordAll [ownEntry .trigger .succeeded] = .ok o)
    (h : Complete config options pr o t p gs gs' m x files fates) (e : String × OutcomeEntry) :
    e ∈ p.outcome.entries ↔
      e ∈ [ownEntry .mergeBase m, ownEntry .route .succeeded] ++ fates.map Fate.slotEntry ++
        [ownEntry .push x] ∨ e = ownEntry .trigger .succeeded := by
  rw [Outcome.mem_entries_of_recordAll h.recorded, Outcome.mem_entries_of_recordAll acknowledged]
  simp

/-- The entry of a stage is the one of its fate. -/
theorem Complete.get?_slot
    (acknowledged : Outcome.empty.recordAll [ownEntry .trigger .succeeded] = .ok o)
    (h : Complete config options pr o t p gs gs' m x files fates) (f : Fate) (hf : f ∈ fates) :
    p.outcome.get? f.stage.slot = some f.entry := by
  have hmem : f.slotEntry ∈ fates.map Fate.slotEntry := List.mem_map_of_mem hf
  rw [Outcome.get?_eq_some_iff]
  exact (h.mem_entries_iff acknowledged _).2
    (.inl (List.mem_append_left _ (List.mem_append_right _ hmem)))

/-- The entries of the run itself are those that its steps recorded. -/
theorem Complete.get?_name
    (acknowledged : Outcome.empty.recordAll [ownEntry .trigger .succeeded] = .ok o)
    (h : Complete config options pr o t p gs gs' m x files fates) (slot : ReservedSlot)
    (result : JobResult)
    (hmem : ownEntry slot result ∈ [ownEntry .trigger .succeeded, ownEntry .mergeBase m,
      ownEntry .route .succeeded, ownEntry .push x]) :
    p.outcome.get? slot.name = some ⟨result, false⟩ := by
  rw [Outcome.get?_eq_some_iff]
  refine (h.mem_entries_iff acknowledged (ownEntry slot result)).2 ?_
  simp only [List.mem_cons, List.not_mem_nil, or_false] at hmem
  simp only [List.mem_append, List.mem_cons, List.not_mem_nil, or_false]
  tauto

/-- The merge is left out or has succeeded once the stages are reached. -/
theorem Complete.merge_eq (h : Complete config options pr o t p gs gs' m x files fates) :
    m = if options.mergeBase then .succeeded else .skipped := by
  have hmerged := h.merged
  cases h.merging with
  | leftOut off => simp [off]
  | @tried _ merged on calls => cases merged <;> simp_all [JobResult.ofPassed]

/-- Nothing is pushed once a stage blocks. -/
theorem Complete.push_eq (h : Complete config options pr o t p gs gs' m x files fates)
    (blocked : fates.any Fate.blocks = true) : x = .skipped := by
  have closing := h.closing
  rw [blocked] at closing
  generalize p.pushedSha = sha at closing
  cases closing with
  | withheld hwhy => rfl
  | published free on publishing => cases free

/-- The report of a run follows from its steps. -/
theorem Complete.stagesReport (valid : config.validate = .ok ())
    (acknowledged : Outcome.empty.recordAll [ownEntry .trigger .succeeded] = .ok o)
    (h : Complete config options pr o t p gs gs' m x files fates) :
    StagesReport config options (config.domains.classify files) t p.outcome fates := by
  exact {
    planned := h.planned.symm.trans Plan.stages_ofConfig
    executed_iff := by
      rintro before f after rfl
      obtain ⟨d, g, -, hstage⟩ := h.exists_formatter (f := f) (by simp)
      have henabled : f.stage.enabled = (config.domains.classify files).get f.stage.domain := by
        rw [hstage]
        rfl
      rw [failFast_iff.1 h.failFast before f after rfl, henabled, Bool.false_or, Bool.and_eq_true,
        Bool.not_eq_true', List.any_eq_false]
      simp only [Bool.not_eq_true, Fate.blocks_eq_false_iff]
    calls := h.commandCalls
    jobs := by
      intro name
      have hslots := h.mem_slots_iff name
      rw [Outcome.mem_jobs_of_recordAll h.recorded, Outcome.mem_jobs_of_recordAll acknowledged,
        List.map_append, List.map_append, List.mem_append, List.mem_append, hslots]
      simp only [ownEntry, ReservedSlot.name, Outcome.jobs, Outcome.entries_empty, List.map_cons,
        List.map_nil, List.mem_cons, List.not_mem_nil, or_false]
      grind
    leftOut := fun s hs => h.get?_slot acknowledged (.leftOut s) hs
    executed := by
      intro s x r hr hs
      obtain ⟨d, g, hg, hstage⟩ := h.exists_formatter hs
      have hcommand : s.command ≠ [] := by
        rw [show s = _ from hstage]
        exact Config.command_ne_nil_of_validate valid hg
      have hpassed : r.passed = x.passes := by
        rw [Stage.passed_of_result? hr]
        simp [hcommand]
      rw [← hpassed]
      exact h.get?_slot acknowledged (.executed s x r hr) hs
    trigger := h.get?_name acknowledged .trigger .succeeded (by simp)
    mergeBase := by
      have hm := h.get?_name acknowledged .mergeBase m (by simp)
      rw [h.merge_eq] at hm
      exact hm
    route := h.get?_name acknowledged .route .succeeded (by simp)
    push := by
      intro f hf executed failed counts
      have hblocks : f.blocks = true := by
        rw [← Bool.not_eq_false, Fate.blocks_eq_false_iff]
        intro htolerated
        rw [htolerated executed failed] at counts
        cases counts
      have hx := h.push_eq (List.any_eq_true.2 ⟨f, hf, hblocks⟩)
      subst hx
      exact h.get?_name acknowledged .push .skipped (by simp) }

end

end Autoformat.Run
