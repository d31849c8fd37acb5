import Autoformat.Proofs.Actions
import Autoformat.Proofs.Search
import Autoformat.Proofs.Slots

/-!
# From changed files to stages

The flag of a domain is up after a sweep over the changed files exactly when one of them looks like the
paths of that domain (`get_classify`), so the flags do not depend on the order of the files, on files that
are listed twice, or on how the list is put together. The plan holds one stage for each configured
formatter, in the order of the domains and of the configuration, and a stage is to run exactly when its
domain is touched.

`Gates` says so for all patterns, configurations and lists of files, and `gates` proves it.
-/

namespace Autoformat

variable {p : DomainPatterns} {config : Config} {files : ChangedFiles} {path : String}

/-- The path looks like those of the domain: it begins or ends as the pattern of the domain says. -/
def DomainPatterns.Fits (p : DomainPatterns) (path : String) : Domain → Prop
  | .protocols => ∃ rest, path = p.protocols ++ rest
  | .generalSource => ∃ rest, path = rest ++ p.generalSource
  | .webSource => ∃ rest, path = p.webSource ++ rest
  | .statSource => ∃ rest, path = p.statSource ++ rest

/-- Some file belongs to the domain. -/
def DomainPatterns.Touches (p : DomainPatterns) (files : ChangedFiles) (d : Domain) : Prop :=
  ∃ path ∈ files.paths, p.Fits path d

/-- Every configured formatter with its domain: by domain, and within a domain as configured. -/
def Config.configured (config : Config) : List (Domain × Formatter) :=
  Domain.all.flatMap fun d => (config.formatters.get d).map (d, ·)

/-- The stage is that of a formatter of the domain, and it is to run when the domain is touched. -/
structure Stage.CarriesOut (config : Config) (touched : Prop) (d : Domain) (f : Formatter) (s : Stage) :
    Prop where
  name : s.name = f.name
  domain : s.domain = d
  command : s.command = f.command
  workingDir : s.workingDir = f.workingDir
  allowFailure : s.allowFailure = f.allowFailure
  timeout : s.timeout = config.stepTimeout
  enabled : s.enabled = true ↔ touched

/-- The second stage is the first one, and it runs if the first one does. -/
structure Stage.Grows (s s' : Stage) : Prop where
  same : s' = { s with enabled := s'.enabled }
  enabled (h : s.enabled = true) : s'.enabled = true

/-- What the changed files make of the stages. -/
structure Gates (p : DomainPatterns) (config : Config) (files : ChangedFiles) : Prop where
  raised (d : Domain) : (p.classify files).get d = true ↔ p.Touches files d
  /-- The flags of a list are those of its pieces together. -/
  split (pieces : List (List String)) (h : pieces.flatten = files.paths) (d : Domain) :
    (p.classify files).get d = pieces.any fun piece => (p.classify ⟨piece⟩).get d
  /-- Neither the order of the files nor their repetition matters. -/
  unordered (files' : ChangedFiles) (h : ∀ path, path ∈ files'.paths ↔ path ∈ files.paths) :
    p.classify files' = p.classify files
  listed : List.Forall₂ (fun x s => s.CarriesOut config (p.Touches files x.1) x.1 x.2)
    config.configured (Plan.ofConfig config (p.classify files)).stages
  /-- Each formatter of each domain has one stage, and no stage is left over. -/
  each (d : Domain) : List.Forall₂ (fun f s => s.CarriesOut config (p.Touches files d) d f)
    (config.formatters.get d)
    ((Plan.ofConfig config (p.classify files)).stages.filter fun s => s.domain = d)
  noop : (Plan.ofConfig config (p.classify files)).isNoop = true ↔
    ∀ d, p.Touches files d → config.formatters.get d = []
  /-- More changed files keep every stage that runs. -/
  growing (files' : ChangedFiles) (h : files.paths ⊆ files'.paths) :
    List.Forall₂ Stage.Grows (Plan.ofConfig config (p.classify files)).stages
      (Plan.ofConfig config (p.classify files')).stages
  /-- A routing fails only when the files cannot be listed. -/
  routed (pr : PullRequest) (t : Bot.Trace) (r : Except BotError DomainFlags)
    (h : Bot.Ends (Bot.route p pr) t r) :
    (∃ e : PlatformError, t = [⟨.platform (Bot.listCall pr), .error e⟩] ∧ r = .error (.platform e)) ∨
      ∃ (listed : ChangedFiles) (u : Bot.Trace),
        t = ⟨.platform (Bot.listCall pr), .ok listed⟩ :: u ∧ Bot.platformCalls u = [] ∧
        r = .ok (p.classify listed)

/-! ## Flags -/

/-- Flags are equal when they are so for every domain. -/
theorem DomainFlags.eq_of_get_eq {flags flags' : DomainFlags} (h : ∀ d, flags.get d = flags'.get d) :
    flags = flags' := by
  obtain ⟨protocols, generalSource, webSource, statSource⟩ := flags
  obtain ⟨protocols', generalSource', webSource', statSource'⟩ := flags'
  obtain rfl : protocols = protocols' := h .protocols
  obtain rfl : generalSource = generalSource' := h .generalSource
  obtain rfl : webSource = webSource' := h .webSource
  obtain rfl : statSource = statSource' := h .statSource
  rfl

namespace DomainPatterns

/-- A path matches the patterns of a domain exactly when it fits them. -/
theorem matchesPath_iff {d : Domain} : p.matchesPath d path = true ↔ p.Fits path d := by
  cases d with
  | protocols => exact Text.startsWith_iff
  | generalSource => exact Text.endsWith_iff
  | webSource => exact Text.startsWith_iff
  | statSource => exact Text.startsWith_iff

/-- A path raises the flag of a domain that it belongs to, and leaves the others alone. -/
theorem get_mark (flags : DomainFlags) (d e : Domain) :
    (p.mark path flags d).get e = (flags.get e || (decide (e = d) && p.matchesPath d path)) := by
  rw [mark]
  by_cases hup : flags.get d = true
  · -- the flag is up, and the path is not looked at
    by_cases he : e = d
    · subst he
      simp [hup]
    · simp [hup, he]
  · by_cases hm : p.matchesPath d path = true
    · simp [hup, hm, DomainFlags.get_set, Bool.or_comm]
    · simp [hm]

/-- A path marks those of the given domains whose patterns it matches. -/
theorem get_foldl_mark (flags : DomainFlags) (ds : List Domain) (e : Domain) :
    (ds.foldl (p.mark path) flags).get e = (flags.get e || (decide (e ∈ ds) && p.matchesPath e path)) := by
  induction ds generalizing flags with
  | nil => simp
  | cons d ds ih =>
    rw [List.foldl_cons, ih, get_mark]
    by_cases he : e = d
    · subst he
      cases p.matchesPath e path <;> simp
    · simp [he]

/-- A flag is up after a sweep exactly when it was up before or some path belongs to the domain. -/
theorem get_sweep (flags : DomainFlags) (paths : List String) (d : Domain) :
    (paths.foldl (fun flags path => Domain.all.foldl (p.mark path) flags) flags).get d =
      (flags.get d || paths.any (p.matchesPath d)) := by
  induction paths generalizing flags with
  | nil => simp
  | cons path paths ih =>
    rw [List.foldl_cons, ih, get_foldl_mark, List.any_cons, decide_eq_true (Domain.mem_all d),
      Bool.true_and, Bool.or_assoc]

/-- A domain is marked exactly when one of the paths matches its patterns. -/
theorem get_classify (p : DomainPatterns) (files : ChangedFiles) (d : Domain) :
    (p.classify files).get d = files.paths.any (p.matchesPath d) := by
  rw [classify, get_sweep]
  cases d <;> rfl

/-- A domain is marked exactly when one of the files touches it. -/
theorem get_classify_iff {d : Domain} : (p.classify files).get d = true ↔ p.Touches files d := by
  rw [get_classify, List.any_eq_true]
  exact exists_congr fun path => and_congr_right fun _ => matchesPath_iff

end DomainPatterns

/-! ## Plans -/

namespace Plan

variable {flags flags' : DomainFlags}

/-- Every formatter of the configuration makes a stage, in order. -/
theorem stages_eq_map : (ofConfig config flags).stages =
    config.configured.map fun x => stageOf config flags x.1 x.2 := by
  rw [stages_ofConfig, Config.configured, List.map_flatMap]
  simp only [List.map_map, Function.comp_def]

/-- The stages of one domain are those of its formatters. -/
theorem stages_filter (d : Domain) : ((ofConfig config flags).stages.filter fun s => s.domain = d) =
    (config.formatters.get d).map (stageOf config flags d) := by
  have hpiece (e : Domain) :
      (((config.formatters.get e).map (stageOf config flags e)).filter fun s => s.domain = d) =
        if e = d then (config.formatters.get e).map (stageOf config flags e) else [] := by
    rw [List.filter_map]
    by_cases he : e = d <;> simp [Function.comp_def, stageOf, Stage.ofFormatter, he]
  rw [stages_ofConfig, List.filter_flatMap]
  simp only [hpiece]
  cases d <;> simp [Domain.all]

/-- The stage of a formatter has all of its settings, and is enabled when its domain is touched. -/
theorem carriesOut_stageOf {touched : Prop} {d : Domain} (htouched : flags.get d = true ↔ touched)
    (f : Formatter) : (stageOf config flags d f).CarriesOut config touched d f where
  name := rfl
  domain := rfl
  command := rfl
  workingDir := rfl
  allowFailure := rfl
  timeout := rfl
  enabled := htouched

/-- Nothing is to run exactly when every domain whose flag is up has no formatter. -/
theorem isNoop_iff : (ofConfig config flags).isNoop = true ↔
    ∀ d, flags.get d = true → config.formatters.get d = [] := by
  rw [isNoop, List.isEmpty_iff, enabledStages, List.filter_eq_nil_iff]
  constructor
  · intro h d hd
    rw [List.eq_nil_iff_forall_not_mem]
    intro f hf
    exact h _ (mem_stages_iff.2 ⟨d, f, hf, rfl⟩) hd
  · rintro h s hs henabled
    obtain ⟨d, f, hf, rfl⟩ := mem_stages_iff.1 hs
    rw [h d henabled] at hf
    cases hf

/-- Flags that mark more domains leave every stage as it is, or enable it. -/
theorem grows_stages (h : ∀ d, flags.get d = true → flags'.get d = true) :
    List.Forall₂ Stage.Grows (ofConfig config flags).stages (ofConfig config flags').stages := by
  rw [stages_eq_map, stages_eq_map, List.forall₂_map_left_iff, List.forall₂_map_right_iff,
    List.forall₂_same]
  exact fun x _ => ⟨rfl, h x.1⟩

end Plan

/-! ## All patterns, configurations and lists of files -/

/-- The changed files decide which stages run, and nothing else about them. -/
theorem gates (p : DomainPatterns) (config : Config) (files : ChangedFiles) : Gates p config files where
  raised _ := DomainPatterns.get_classify_iff
  split pieces h d := by
    simp only [DomainPatterns.get_classify, ← h, List.any_flatten]
  unordered files' h := by
    refine DomainFlags.eq_of_get_eq fun d => Bool.eq_iff_iff.2 ?_
    rw [DomainPatterns.get_classify_iff, DomainPatterns.get_classify_iff]
    exact exists_congr fun path => and_congr_left fun _ => h path
  listed := by
    rw [Plan.stages_eq_map, List.forall₂_map_right_iff, List.forall₂_same]
    exact fun x _ => Plan.carriesOut_stageOf DomainPatterns.get_classify_iff x.2
  each d := by
    rw [Plan.stages_filter, List.forall₂_map_right_iff, List.forall₂_same]
    exact fun f _ => Plan.carriesOut_stageOf DomainPatterns.get_classify_iff f
  noop := by
    rw [Plan.isNoop_iff]
    exact forall_congr' fun d => imp_congr_left DomainPatterns.get_classify_iff
  growing files' h := by
    refine Plan.grows_stages fun d hd => ?_
    obtain ⟨path, hpath, hfits⟩ := DomainPatterns.get_classify_iff.1 hd
    exact DomainPatterns.get_classify_iff.2 ⟨path, h hpath, hfits⟩
  routed pr t r h := by
    rcases Bot.ends_call_bind_iff.1 h with hrefused | ⟨listed, u, rfl, hlog⟩
    · exact .inl hrefused
    obtain ⟨v, rfl, hpure⟩ := Bot.ends_log_bind_iff.1 hlog
    obtain ⟨rfl, rfl⟩ := Bot.ends_pure_iff.1 hpure
    exact .inr ⟨listed, _, rfl, rfl, rfl⟩

end Autoformat
