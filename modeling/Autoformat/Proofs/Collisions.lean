import Autoformat.Proofs.EarlyStop

/-!
# Slots that do not collide

`runSlots` lists the slots that a run may record: its own, and those of the stages of its plan. They are
all different exactly when no domain names a step twice, whatever the steps are called
(`nodup_runSlots_iff`).

A valid configuration names no step of a domain twice and gives every step a command. With it no run
finds a slot taken, and every stage that starts runs its command (`Unhindered`).
-/

namespace Autoformat

/-- All slots that belong to a run itself. -/
def ReservedSlot.all : List ReservedSlot := [.trigger, .mergeBase, .route, .push, .run]

/-- The stages of a valid configuration have commands. -/
theorem Config.command_ne_nil_of_mem_stages {config : Config} (valid : config.validate = .ok ())
    {flags : DomainFlags} {s : Stage} (hs : s ∈ (Plan.ofConfig config flags).stages) :
    s.command ≠ [] := by
  obtain ⟨d, f, hf, rfl⟩ := Plan.mem_stages_iff.1 hs
  exact command_ne_nil_of_validate valid hf

namespace Run

open Autoformat.Bot

variable {config : Config} {options : RunOptions} {c : Comment} {pr : PullRequest} {o : Outcome}
  {p : Progress} {t u : Trace}

/-- The slots that a run may record when the changed files touch the given domains. -/
def runSlots (config : Config) (flags : DomainFlags) : List String :=
  ReservedSlot.all.map ReservedSlot.name ++ (Plan.ofConfig config flags).stages.map Stage.slot

/-- The slots of a run differ exactly when no domain names a step twice. -/
theorem nodup_runSlots_iff {flags : DomainFlags} :
    (runSlots config flags).Nodup ↔ NamesDiffer config := by
  rw [runSlots, List.nodup_append]
  constructor
  · rintro ⟨-, hstages, -⟩
    exact Plan.nodup_slots_iff.1 hstages
  · intro hnames
    refine ⟨by decide, Plan.nodup_slots_iff.2 hnames, ?_⟩
    rintro own hown slot hslot rfl
    obtain ⟨r, -, rfl⟩ := List.mem_map.1 hown
    obtain ⟨s, -, hs⟩ := List.mem_map.1 hslot
    exact Stage.slotOf_ne_name s.domain s.name r hs

/-! ## Runs that find their slots free -/

/-- Where no domain names a step twice, the steps do not stop because a slot is taken. -/
theorem Course.ne_slotTaken {e : BotError} (hnames : NamesDiffer config)
    (hfresh : ∀ name ∈ o.jobs, name = ReservedSlot.trigger.name)
    (h : Course config options pr o t (.error (.stopped e)) p) (taken : SlotTaken) :
    e ≠ .slotTaken taken := by
  rintro rfl
  generalize hr : (.error (.stopped (.slotTaken taken)) : Except Halt Unit) = r at h
  cases h with
  | haltedInOpening opening =>
    cases hr
    cases opening
  | haltedInStages opening stages =>
    cases hr
    obtain ⟨hcancelled, -⟩ := stages.isCancelled_of_opening hnames hfresh opening
    cases hcancelled
  | unpublished opening stages withheld recorded => cases hr
  | @published _ _ _ _ _ _ gs y opening stages on publishing recorded =>
    cases y with
    | ok sha => cases hr
    | error e =>
      cases hr
      obtain ⟨fault, hfault⟩ := publishing.exists_fault _ rfl
      cases hfault

/-- Where no domain names a step twice, a run does not halt because a slot is taken. -/
theorem Conduct.ne_slotTaken {h : Halt} (hnames : NamesDiffer config)
    (conduct : Conduct config options c pr t (some h) p) (taken : SlotTaken) :
    h ≠ .stopped (.slotTaken taken) := by
  rintro rfl
  cases conduct with
  | stopped recorded course =>
    exact course.ne_slotTaken hnames (fresh_of_recordAll recorded) taken rfl

/-- Whatever the configuration, a taken slot is no error of a run: it is why a run halts, if anything. -/
theorem ne_slotTaken_of_ends {r : Except BotError RunResult} (h : Ends (run config options c) t r)
    (taken : SlotTaken) : r ≠ .error (.slotTaken taken) := by
  rintro rfl
  cases history_of_ends h with
  | inapplicable applicable =>
    obtain ⟨-, reason, hreason⟩ := notApplicable_of_error applicable
    cases hreason

/-! ## Stages that run their commands -/

/-- Every stage that starts runs a command next. -/
def StartsRunCommands (t : Trace) : Prop :=
  ∀ before slot after, t = before ++ ⟨.log (.stageStarted slot), ()⟩ :: after →
    ∃ command x rest, after = ⟨.command command, x⟩ :: rest

/-- The slot of a stage that starts. -/
@[simp]
def started? : Exchange interface → Option String
  | ⟨.log (.stageStarted slot), _⟩ => some slot
  | ⟨.log _, _⟩ => none
  | ⟨.platform _, _⟩ => none
  | ⟨.git _, _⟩ => none
  | ⟨.command _, _⟩ => none
  | ⟨.cancelled _, _⟩ => none

/-- Where no stage starts there is nothing to show. -/
theorem StartsRunCommands.of_collect (h : collect started? t = []) : StartsRunCommands t := by
  rintro before slot after rfl
  simp at h

/-- A stage that starts and runs its command may stand in front. -/
theorem StartsRunCommands.started {slot : String} {command : Command} {x : CommandResult}
    (h : collect started? t = []) :
    StartsRunCommands (⟨.log (.stageStarted slot), ()⟩ :: ⟨.command command, x⟩ :: t) := by
  intro before slot' after heq
  cases before with
  | nil =>
    obtain ⟨-, rfl⟩ := List.cons.inj heq
    exact ⟨command, x, t, rfl⟩
  | cons e before =>
    obtain ⟨-, htail⟩ := List.cons.inj heq
    exact StartsRunCommands.of_collect (t := ⟨.command command, x⟩ :: t) h before slot' after htail

/-- In two parts one after the other, every stage that starts runs its command if this is so in each. -/
theorem StartsRunCommands.append (ht : StartsRunCommands t) (hu : StartsRunCommands u) :
    StartsRunCommands (t ++ u) := by
  intro before slot after heq
  -- the stage starts in the one part or in the other
  rcases List.append_eq_append_iff.1 heq with ⟨as, rfl, hafter⟩ | ⟨bs, rfl, hafter⟩
  · exact hu as slot after hafter
  · cases bs with
    | nil => exact hu [] slot after (by simpa using hafter.symm)
    | cons b bs =>
      obtain ⟨rfl, rfl⟩ := List.cons.inj hafter
      obtain ⟨command, x, rest, rfl⟩ := ht before slot bs rfl
      exact ⟨command, x, rest ++ u, rfl⟩

/-- The same holds of any number of parts. -/
theorem StartsRunCommands.flatMap {α : Type} {l : List α} {f : α → Trace}
    (h : ∀ a ∈ l, StartsRunCommands (f a)) : StartsRunCommands (l.flatMap f) := by
  induction l with
  | nil => exact .of_collect rfl
  | cons a l ih => exact .append (h a (by simp)) (ih fun b hb => h b (by simp [hb]))

/-- A stage that has a command runs it when it starts. -/
private theorem startsRunCommands_trace {f : Fate} (hcmd : f.stage.command ≠ []) :
    StartsRunCommands f.trace := by
  cases f with
  | leftOut s => exact .of_collect rfl
  | executed s x r hr =>
    obtain ⟨command, hcall⟩ : ∃ command, s.call? = some command := Stage.exists_call hcmd
    rw [Fate.trace, Stage.exchanges_of_call hcall]
    exact .started rfl

/-- Every stage of a loop that starts runs its command, when all of them have one. -/
theorem LoopRuns.startsRunCommands {blocked : Bool} {stages : List Stage} {r : Except Halt Bool}
    {p' : Progress} (hcmd : ∀ s ∈ stages, s.command ≠ []) (h : LoopRuns p blocked stages t r p') :
    StartsRunCommands t := by
  obtain ⟨fates, rest, u, o, rfl, rfl, -, -, -, hend⟩ := h
  refine .append (.flatMap fun f hf => startsRunCommands_trace (hcmd _ ?_)) ?_
  · exact List.mem_append_left _ (List.mem_map_of_mem hf)
  · cases hend with
    | finished => exact .of_collect rfl
    | @interrupted s rest x enabled free hx =>
      obtain ⟨command, hcall⟩ := Stage.exists_call (hcmd s (by simp))
      rw [Stage.exchanges_of_call hcall]
      exact .started rfl
    | taken hf slot => exact startsRunCommands_trace (hcmd _ (by simp))

/-- Git commands start no stages. -/
private theorem collect_started?_exchanges (gs : List GitCall) :
    collect started? (gs.map GitCall.exchange) = [] :=
  Git.collect_map_exchange_eq_nil (fun _ => rfl) gs

/-- No stage starts before the stages are planned. -/
theorem Opening.collect_started? {r : Except Halt DomainFlags}
    (h : Opening config options pr o t r p) : collect started? t = [] := by
  cases h <;> simp [finishedLog, listing, collect_started?_exchanges]

/-- With a valid configuration, every stage of the steps that starts runs its command. -/
theorem Course.startsRunCommands (valid : config.validate = .ok ()) {r : Except Halt Unit}
    (h : Course config options pr o t r p) : StartsRunCommands t := by
  have hstages {v : Trace} {flags : DomainFlags} {r : Except Halt Bool} {q q' : Progress}
      (stages : LoopRuns q false (Plan.ofConfig config flags).stages v r q') : StartsRunCommands v :=
    stages.startsRunCommands fun _ hs => Config.command_ne_nil_of_mem_stages valid hs
  have hopening {v : Trace} {r : Except Halt DomainFlags} {q : Progress}
      (opening : Opening config options pr o v r q) : StartsRunCommands v :=
    .of_collect opening.collect_started?
  cases h with
  | haltedInOpening opening => exact hopening opening
  | haltedInStages opening stages => exact .append (hopening opening) (hstages stages)
  | unpublished opening stages withheld recorded =>
    exact .append (.append (hopening opening) (hstages stages)) (.of_collect rfl)
  | @published _ _ _ _ _ _ gs y opening stages on publishing recorded =>
    refine .append (.append (.append (.append (hopening opening) (hstages stages)) ?_) ?_) ?_
    · exact .of_collect (collect_started?_exchanges gs)
    · exact .of_collect (collect_pushLog_eq_nil _ y (fun _ _ => rfl) rfl)
    · exact .of_collect rfl

/-- With a valid configuration, every stage that starts after the acknowledgement runs its command. -/
theorem Conduct.startsRunCommands (valid : config.validate = .ok ()) {halt : Option Halt}
    (h : Conduct config options c pr t halt p) : StartsRunCommands t := by
  have hack : StartsRunCommands (acknowledgement config options c pr) := .of_collect rfl
  cases h with
  | notReacted recorded => exact .of_collect rfl
  | notPending recorded => exact .of_collect rfl
  | ended recorded course => exact .append hack (course.startsRunCommands valid)
  | stopped recorded course =>
    exact .append (.append hack (course.startsRunCommands valid)) (.of_collect rfl)
  | cancelled recorded course marked =>
    exact .append (.append hack (course.startsRunCommands valid)) (.of_collect rfl)

/-- With a valid configuration, every stage of a run that starts runs its command. -/
theorem startsRunCommands_of_history (valid : config.validate = .ok ())
    {r : Except BotError RunResult} (h : History config options c t r) : StartsRunCommands t := by
  have hevaluated (pr : PullRequest) : StartsRunCommands (evaluated config c pr) := by
    refine .of_collect ?_
    rw [evaluated, evaluationLog]
    split <;> rfl
  have hrequested {pr : PullRequest} {u v : Trace} {halt : Option Halt} {q : Progress}
      (conduct : Conduct config options c pr u halt q) (hv : collect started? v = []) :
      StartsRunCommands (requested config c pr u v) :=
    .append (.append (.append (hevaluated pr) (.of_collect rfl)) (conduct.startsRunCommands valid))
      (.of_collect hv)
  cases h with
  | inapplicable applicable => exact .of_collect rfl
  | notFetched applicable => exact .of_collect rfl
  | @rejected pr o x applicable verdict =>
    refine .append (hevaluated pr) (.of_collect ?_)
    cases x <;> rfl
  | notTriggered applicable verdict => exact .append (hevaluated _) (.of_collect rfl)
  | unreported applicable verdict conduct aggregated => exact hrequested conduct rfl
  | reported applicable verdict conduct aggregated => exact hrequested conduct rfl

/-! ## Results that commands came to -/

/-- A stage result is that of a command which the run ran for a planned stage. -/
def Ran (config : Config) (t : Trace) (result : StageResult) : Prop :=
  ∃ flags, ∃ s ∈ (Plan.ofConfig config flags).stages, ∃ command x, s.call? = some command ∧
    (⟨.command command, x⟩ : Exchange interface) ∈ t ∧ s.result? x = some result

/-- A stage that ran in a part of a trace ran in the whole. -/
theorem Ran.mono {result : StageResult} (hsub : t ⊆ u) (h : Ran config t result) :
    Ran config u result := by
  obtain ⟨flags, s, hs, command, x, hcall, hmem, hx⟩ := h
  exact ⟨flags, s, hs, command, x, hcall, hsub hmem, hx⟩

/-- Every result of a loop belongs to a stage of the plan that ran. -/
theorem LoopRuns.ran (valid : config.validate = .ok ()) {flags : DomainFlags} {blocked : Bool}
    {r : Except Halt Bool} {p' : Progress}
    (h : LoopRuns p blocked (Plan.ofConfig config flags).stages t r p') (hnone : p.stages = []) :
    ∀ result ∈ p'.stages, Ran config t result := by
  obtain ⟨fates, rest, u, o, hplanned, rfl, -, -, rfl, -⟩ := h
  intro result hresult
  rw [hnone, List.nil_append, List.mem_flatMap] at hresult
  obtain ⟨f, hf, hresult⟩ := hresult
  have hs : f.stage ∈ (Plan.ofConfig config flags).stages := by
    rw [hplanned]
    exact List.mem_append_left _ (List.mem_map_of_mem hf)
  cases f with
  | leftOut s => cases hresult
  | executed s x r hx =>
    obtain rfl := List.mem_singleton.1 hresult
    obtain ⟨command, hcall⟩ : ∃ command, s.call? = some command :=
      Stage.exists_call (Config.command_ne_nil_of_mem_stages valid hs)
    refine ⟨flags, s, hs, command, x, hcall, List.mem_append_left _ ?_, hx⟩
    refine List.mem_flatMap.2 ⟨_, hf, ?_⟩
    simp [Fate.trace, Stage.exchanges_of_call hcall]

/-- Every result of the steps belongs to a stage that ran. -/
theorem Course.ran (valid : config.validate = .ok ()) {r : Except Halt Unit}
    (h : Course config options pr o t r p) : ∀ result ∈ p.stages, Ran config t result := by
  cases h with
  | haltedInOpening opening => simp [opening.stages_eq_nil]
  | haltedInStages opening stages =>
    exact fun result hr => (stages.ran valid opening.stages_eq_nil result hr).mono (by simp)
  | unpublished opening stages withheld recorded =>
    exact fun result hr => (stages.ran valid opening.stages_eq_nil result hr).mono (by simp)
  | published opening stages on publishing recorded =>
    exact fun result hr => (stages.ran valid opening.stages_eq_nil result hr).mono (by simp)

/-- Every result of a run that was asked for belongs to a stage that ran. -/
theorem Conduct.ran (valid : config.validate = .ok ()) {halt : Option Halt}
    (h : Conduct config options c pr t halt p) : ∀ result ∈ p.stages, Ran config t result := by
  cases h with
  | notReacted recorded => simp
  | notPending recorded => simp
  | ended recorded course => exact fun result hr => (course.ran valid result hr).mono (by simp)
  | stopped recorded course => exact fun result hr => (course.ran valid result hr).mono (by simp)
  | cancelled recorded course marked =>
    exact fun result hr => (course.ran valid result hr).mono (by simp)

/-- A stage that has a command does not fail for want of one. -/
theorem failure_ne_emptyCommand {s : Stage} (hcmd : s.command ≠ []) {e : StageError}
    (h : Program.Runs (execute s) t (some (.error e))) : e.failure ≠ .emptyCommand := by
  cases hc : s.command with
  | nil => exact absurd hc hcmd
  | cons program args =>
    simp only [execute, hc, Program.request, Program.ask_bind, Program.runs_ask_iff] at h
    obtain ⟨x, u, rfl, h⟩ := h
    cases x <;> obtain ⟨-, hend⟩ := Program.runs_done_iff.1 h <;> cases hend <;> simp

/-! ## Valid configurations -/

/-- No run finds a slot taken or a stage without a command. -/
structure Unhindered (config : Config) (t : Trace) (r : Except BotError RunResult) : Prop where
  returned (taken : SlotTaken) : r ≠ .error (.slotTaken taken)
  halted (result : RunResult) (hr : r = .ok result) (taken : SlotTaken) :
    result.halt ≠ some (.stopped (.slotTaken taken))
  started : StartsRunCommands t
  ran (result : RunResult) (hr : r = .ok result) : ∀ s ∈ result.progress.stages, Ran config t s

/-- The slots of a run collide exactly when a domain names a step twice. With a valid configuration no run
finds a slot taken, and no stage fails because it has no command. -/
theorem unhindered_run (config : Config) :
    (∀ flags, (runSlots config flags).Nodup ↔ NamesDiffer config) ∧
    (config.validate = .ok () →
      (∀ (options : RunOptions) (c : Comment) (t : Trace) (r : Except BotError RunResult),
        Ends (run config options c) t r → Unhindered config t r) ∧
      ∀ (flags : DomainFlags), ∀ s ∈ (Plan.ofConfig config flags).stages,
        ∀ (t : Trace) (e : StageError),
          Program.Runs (execute s) t (some (.error e)) → e.failure ≠ .emptyCommand) := by
  refine ⟨fun flags => nodup_runSlots_iff, fun valid => ⟨fun options c t r ended => ?_, ?_⟩⟩
  · exact {
      returned := ne_slotTaken_of_ends ended
      halted := by
        rintro result rfl taken halted
        cases history_of_ends ended with
        | notTriggered applicable verdict => cases halted
        | reported applicable verdict conduct aggregated =>
          obtain rfl := halted
          exact conduct.ne_slotTaken (Config.nodup_names_of_validate valid) taken rfl
      started := startsRunCommands_of_history valid (history_of_ends ended)
      ran := by
        rintro result rfl
        cases history_of_ends ended with
        | notTriggered applicable verdict => simp
        | @reported pr _ _ _ _ applicable verdict conduct aggregated =>
          have hsub {u v : Trace} : u ⊆ requested config c pr u v := fun e he => by
            simp [requested, he]
          exact fun s hs => (conduct.ran valid s hs).mono hsub }
  · exact fun flags s hs t e => failure_ne_emptyCommand (Config.command_ne_nil_of_mem_stages valid hs)

/-- The default configuration is valid, so its example run is unhindered. -/
theorem unhindered_run_example : Config.validate {} = .ok () ∧ NamesDiffer {} ∧
    Ends (run {} exampleOptions exampleComment) exampleOuting.1 exampleOuting.2 ∧
    Unhindered {} exampleOuting.1 exampleOuting.2 := by
  have valid : Config.validate {} = .ok () := by decide +kernel
  have hslots : (runSlots {} (.ofTest fun _ => true)).Nodup := by decide +kernel
  exact ⟨valid, ((unhindered_run {}).1 _).1 hslots, ends_exampleOuting,
    ((unhindered_run {}).2 valid).1 _ _ _ _ ends_exampleOuting⟩

end Run

end Autoformat
