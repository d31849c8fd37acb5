import Autoformat.Bot.Basic

/-!
# What the exchanges of a run show

A `Trace` lists the exchanges of a run in order. The calls of the platform, those that it refused, the git
commands, the formatters and the pauses of a run are all read off its trace, each in their order, by
`platformCalls`, `refusals`, `gitCalls`, `commandCalls` and `pauses`. `IsCancelled` says that the run took
notice of being cancelled.
-/

namespace Autoformat.Bot

/-- The exchanges of a run, in order. -/
abbrev Trace := List (Exchange interface)

/-- A git command and how it went. -/
structure GitCall where
  args : List String
  answer : Except FileError Ending

/-- A formatter that was run and how it went. -/
structure CommandCall where
  command : Command
  result : CommandResult

/-- The run was cancelled while the formatter ran. -/
def CommandCall.isInterrupted (c : CommandCall) : Bool :=
  match c.result with
  | .interrupted => true
  | .notStarted _ => false
  | .timedOut => false
  | .lost _ => false
  | .ended _ => false

/-- The call of the platform in an exchange. -/
@[simp]
def platformCall? : Exchange interface → Option Platform.Call
  | ⟨.platform c, _⟩ => some c
  | ⟨.git _, _⟩ => none
  | ⟨.command _, _⟩ => none
  | ⟨.cancelled _, _⟩ => none
  | ⟨.log _, _⟩ => none

/-- The call of the platform in an exchange that refuses it. -/
@[simp]
def refusal? : Exchange interface → Option Platform.Call
  | ⟨.platform c, .error _⟩ => some c
  | ⟨.platform _, .ok _⟩ => none
  | ⟨.git _, _⟩ => none
  | ⟨.command _, _⟩ => none
  | ⟨.cancelled _, _⟩ => none
  | ⟨.log _, _⟩ => none

/-- The changed files in an exchange that lists them. -/
@[simp]
def listing? : Exchange interface → Option ChangedFiles
  | ⟨.platform (.listFiles _ _), .ok files⟩ => some files
  | ⟨.platform (.listFiles _ _), .error _⟩ => none
  | ⟨.platform (.getPullRequest _ _), _⟩ => none
  | ⟨.platform (.addReaction _ _ _), _⟩ => none
  | ⟨.platform (.setStatus _ _ _), _⟩ => none
  | ⟨.git _, _⟩ => none
  | ⟨.command _, _⟩ => none
  | ⟨.cancelled _, _⟩ => none
  | ⟨.log _, _⟩ => none

/-- The git command in an exchange. -/
@[simp]
def gitCall? : Exchange interface → Option GitCall
  | ⟨.git args, x⟩ => some ⟨args, x⟩
  | ⟨.platform _, _⟩ => none
  | ⟨.command _, _⟩ => none
  | ⟨.cancelled _, _⟩ => none
  | ⟨.log _, _⟩ => none

/-- The formatter in an exchange. -/
@[simp]
def commandCall? : Exchange interface → Option CommandCall
  | ⟨.command c, x⟩ => some ⟨c, x⟩
  | ⟨.platform _, _⟩ => none
  | ⟨.git _, _⟩ => none
  | ⟨.cancelled _, _⟩ => none
  | ⟨.log _, _⟩ => none

/-- The place where the run asks whether it is cancelled, and the answer. -/
@[simp]
def pause? : Exchange interface → Option (Pause × Bool)
  | ⟨.cancelled at_, x⟩ => some (at_, x)
  | ⟨.platform _, _⟩ => none
  | ⟨.git _, _⟩ => none
  | ⟨.command _, _⟩ => none
  | ⟨.log _, _⟩ => none

/-- The exchange tells the run that it is cancelled. -/
@[simp]
def isCancellation : Exchange interface → Bool
  | ⟨.cancelled _, x⟩ => x
  | ⟨.command _, .interrupted⟩ => true
  | ⟨.command _, .notStarted _⟩ => false
  | ⟨.command _, .timedOut⟩ => false
  | ⟨.command _, .lost _⟩ => false
  | ⟨.command _, .ended _⟩ => false
  | ⟨.platform _, _⟩ => false
  | ⟨.git _, _⟩ => false
  | ⟨.log _, _⟩ => false

/-- The exchange belongs to no step of a run: an entry of the log, or a call of the platform that does
not list the changed files. -/
@[simp]
def isOuter : Exchange interface → Bool
  | ⟨.log _, _⟩ => true
  | ⟨.platform (.getPullRequest _ _), _⟩ => true
  | ⟨.platform (.addReaction _ _ _), _⟩ => true
  | ⟨.platform (.setStatus _ _ _), _⟩ => true
  | ⟨.platform (.listFiles _ _), _⟩ => false
  | ⟨.git _, _⟩ => false
  | ⟨.command _, _⟩ => false
  | ⟨.cancelled _, _⟩ => false

/-- What a trace shows of one kind, in order. -/
def collect {α : Type} (f : Exchange interface → Option α) (t : Trace) : List α := t.filterMap f

/-- The calls of the platform, in order. -/
abbrev platformCalls : Trace → List Platform.Call := collect platformCall?

/-- The calls that the platform refused, in order. -/
abbrev refusals : Trace → List Platform.Call := collect refusal?

/-- The changed files, as often as they are listed. -/
abbrev listings : Trace → List ChangedFiles := collect listing?

/-- The git commands, in order. -/
abbrev gitCalls : Trace → List GitCall := collect gitCall?

/-- The formatters that were run, in order. -/
abbrev commandCalls : Trace → List CommandCall := collect commandCall?

/-- The places outside of a command where the run asked whether it is cancelled, in order. -/
abbrev pauses : Trace → List (Pause × Bool) := collect pause?

/-- The run took notice of being cancelled. -/
def IsCancelled (t : Trace) : Prop := ∃ e ∈ t, isCancellation e

instance (t : Trace) : Decidable (IsCancelled t) :=
  inferInstanceAs (Decidable (∃ e ∈ t, isCancellation e))

section
variable {α : Type} {f : Exchange interface → Option α} {e : Exchange interface} {t u : Trace}

@[simp]
theorem collect_nil : collect f [] = [] := rfl

@[simp]
theorem collect_cons : collect f (e :: t) = (f e).toList ++ collect f t := by
  cases h : f e <;> simp [collect, h]

/-- What is shown of two parts is shown one after the other. -/
@[simp]
theorem collect_append : collect f (t ++ u) = collect f t ++ collect f u := List.filterMap_append

/-- What is shown of a beginning comes first. -/
theorem collect_isPrefix (h : t <+: u) : collect f t <+: collect f u := h.filterMap f

@[simp]
theorem collect_flatMap {β : Type} {l : List β} {g : β → Trace} :
    collect f (l.flatMap g) = l.flatMap fun b => collect f (g b) := List.filterMap_flatMap

@[simp]
theorem isCancelled_nil : ¬IsCancelled [] := by
  simp [IsCancelled]

@[simp]
theorem isCancelled_cons : IsCancelled (e :: t) ↔ isCancellation e = true ∨ IsCancelled t := by
  simp [IsCancelled]

@[simp]
theorem isCancelled_append : IsCancelled (t ++ u) ↔ IsCancelled t ∨ IsCancelled u := by
  simp [IsCancelled, or_and_right, exists_or]

@[simp]
theorem isCancelled_flatMap {β : Type} {l : List β} {g : β → Trace} :
    IsCancelled (l.flatMap g) ↔ ∃ b ∈ l, IsCancelled (g b) := by
  simp only [IsCancelled, List.mem_flatMap]
  exact ⟨fun ⟨e, ⟨b, hb, he⟩, hc⟩ => ⟨b, hb, e, he, hc⟩,
    fun ⟨b, hb, e, he, hc⟩ => ⟨e, ⟨b, hb, he⟩, hc⟩⟩

/-- A call that is made is among the calls. -/
theorem mem_platformCalls {c : Platform.Call} {x : Answer (.platform c)}
    (h : (⟨.platform c, x⟩ : Exchange interface) ∈ t) : c ∈ platformCalls t :=
  List.mem_filterMap.2 ⟨_, h, rfl⟩

/-- A formatter among those that were run was run. -/
theorem mem_of_mem_commandCalls {c : CommandCall} (h : c ∈ commandCalls t) :
    (⟨.command c.command, c.result⟩ : Exchange interface) ∈ t := by
  obtain ⟨⟨q, x⟩, he, hq⟩ := List.mem_filterMap.1 h
  cases q with
  | command command =>
    obtain rfl := Option.some.inj hq
    exact he
  | platform call => cases hq
  | git args => cases hq
  | cancelled at_ => cases hq
  | log event => cases hq

/-- A call among the refused ones was answered with an error. -/
theorem exists_of_mem_refusals {c : Platform.Call} (h : c ∈ refusals t) :
    ∃ e : PlatformError, (⟨.platform c, .error e⟩ : Exchange interface) ∈ t := by
  obtain ⟨⟨q, x⟩, he, hq⟩ := List.mem_filterMap.1 h
  cases q with
  | platform call =>
    cases x with
    | error e =>
      obtain rfl := Option.some.inj hq
      exact ⟨e, he⟩
    | ok y => cases hq
  | git args => cases hq
  | command command => cases hq
  | cancelled at_ => cases hq
  | log event => cases hq

/-- The platform refuses only calls that are made. -/
theorem refusals_subset_platformCalls : refusals t ⊆ platformCalls t := by
  intro c hc
  obtain ⟨e, he⟩ := exists_of_mem_refusals hc
  exact mem_platformCalls he

/-- What belongs to no step is no git command. -/
theorem gitCall?_of_isOuter (h : isOuter e = true) : gitCall? e = none := by
  obtain ⟨q, x⟩ := e
  cases q <;> first | rfl | cases h

/-- What belongs to no step is no formatter. -/
theorem commandCall?_of_isOuter (h : isOuter e = true) : commandCall? e = none := by
  obtain ⟨q, x⟩ := e
  cases q <;> first | rfl | cases h

/-- What belongs to no step is no place to take notice of a cancellation. -/
theorem pause?_of_isOuter (h : isOuter e = true) : pause? e = none := by
  obtain ⟨q, x⟩ := e
  cases q <;> first | rfl | cases h

/-- What belongs to no step lists no files. -/
theorem listing?_of_isOuter (h : isOuter e = true) : listing? e = none := by
  obtain ⟨q, x⟩ := e
  cases q with
  | platform call => cases call <;> first | rfl | cases h
  | git args => rfl
  | command command => rfl
  | cancelled at_ => rfl
  | log event => rfl

/-- What belongs to no step does not cancel the run. -/
theorem not_isCancellation_of_isOuter (h : isOuter e = true) : ¬isCancellation e = true := by
  obtain ⟨q, x⟩ := e
  cases q <;> first | exact Bool.false_ne_true | cases h

/-- What the steps of a run show is not changed by what stands around them. -/
theorem collect_append_outer {v : Trace} (hf : ∀ e, isOuter e = true → f e = none)
    (ht : ∀ e ∈ t, isOuter e = true) (hv : ∀ e ∈ v, isOuter e = true) :
    collect f (t ++ u ++ v) = collect f u := by
  have hnil {w : Trace} (hw : ∀ e ∈ w, isOuter e = true) : collect f w = [] :=
    List.filterMap_eq_nil_iff.2 fun e he => hf e (hw e he)
  simp [hnil ht, hnil hv]

/-- A run is cancelled in its steps or not at all. -/
theorem isCancelled_append_outer {v : Trace} (ht : ∀ e ∈ t, isOuter e = true)
    (hv : ∀ e ∈ v, isOuter e = true) : IsCancelled (t ++ u ++ v) ↔ IsCancelled u := by
  have hnot {w : Trace} (hw : ∀ e ∈ w, isOuter e = true) : ¬IsCancelled w :=
    fun ⟨e, he, hc⟩ => not_isCancellation_of_isOuter (hw e he) hc
  simp [hnot ht, hnot hv]

end

end Autoformat.Bot
