import Autoformat.Proofs.EarlyStop
import Autoformat.Proofs.Interruption
import Autoformat.Proofs.Recorded

/-!
# Cancellation is a clean cut

`interruptAt` cancels a run at one of the places where it waits: before its first step, while the changed
files are listed, or while a stage runs its command. `CleanCut` compares such a run with the one that is
not cancelled. Everything that the cancelled run has done, recorded and found out is the beginning of what
the other one does, records and finds out; it adds the one slot that tells of the cancellation, and a
failure as its final status, and it commits and pushes nothing.

`cleanCut_of_ends` compares any two runs that have the same exchanges up to the cancellation of the one;
`cleanCut_run` says that all surroundings lead to two such runs.
-/

namespace Autoformat.Run

open Autoformat.Bot Autoformat.Bot.Git

variable {config : Config} {options : RunOptions} {c : Comment} {pr : PullRequest} {o o' : Outcome}
  {p : Progress} {t t' u v v' : Trace} {q : Request} {r r' : Except BotError RunResult}

/-! ## Places where a run can be cancelled -/

/-- The run waits at this question, and may be cancelled there. -/
def suspends : Request → Bool
  | .cancelled _ => true
  | .command _ => true
  | .platform _ => false
  | .git _ => false
  | .log _ => false

/-- The answer that tells a run that it is cancelled, where it waits. -/
def interruption : (q : Request) → Answer q → Answer q
  | .cancelled _, _ => true
  | .command _, _ => .interrupted
  | .platform _, x => x
  | .git _, x => x
  | .log _, x => x

/-- The surroundings, which cancel the run at its question of the given number. -/
def interruptAt (n : Nat) (s : Program.Surroundings interface) : Program.Surroundings interface :=
  fun past q => if past.length = n then interruption q (s past q) else s past q

/-- Wherever a run waits, the answer that interrupts it tells it that it is cancelled. -/
theorem isCancellation_interruption (h : suspends q = true) (x : Answer q) :
    isCancellation ⟨q, interruption q x⟩ = true := by
  cases q <;> first | rfl | cases h

/-- A run waits only in its steps. -/
theorem not_isOuter_of_suspends (h : suspends q = true) (x : Answer q) :
    isOuter (⟨q, x⟩ : Exchange interface) = false := by
  cases q <;> first | rfl | cases h

/-- A run is told that it is cancelled only where it waits. -/
theorem suspends_of_isCancellation {x : Answer q}
    (h : isCancellation (⟨q, x⟩ : Exchange interface) = true) : suspends q = true := by
  cases q <;> first | rfl | cases h

/-! ## What two runs have in common -/

/-- The run with the trace `t` and the result `r` is cancelled at the question `q`, after the exchanges `u`
that it shares with the run with the trace `t'` and the result `r'`. -/
structure CleanCut (config : Config) (options : RunOptions) (c : Comment) (pr : PullRequest) (u : Trace)
    (q : Request) (t : Trace) (r : Except BotError RunResult) (t' : Trace)
    (r' : Except BotError RunResult) : Prop where
  cut : ∃ x v, isCancellation ⟨q, x⟩ = true ∧ t = u ++ ⟨q, x⟩ :: v
  acknowledged : (⟨.platform (fetchCall c), .ok pr⟩ : Exchange interface) ∈ u ∧
    (⟨.platform (pendingCall config options pr), .ok ()⟩ : Exchange interface) ∈ u
  /-- The slots up to the cut are the first of the other run, and the cut adds its own. -/
  recorded : slots t = slots u ++ [ownEntry .run .cancelled] ∧ slots u <+: slots t'
  /-- The slot that tells of the cancellation is free. -/
  marked : ∃ o o', Outcome.empty.recordAll (slots u) = .ok o ∧
    o.record ReservedSlot.run.name ⟨.cancelled, false⟩ = .ok o'
  git : gitCalls t <+: gitCalls t'
  /-- Nothing is committed or pushed. -/
  merged (g : GitCall) (hg : g ∈ gitCalls t) : g.args ∈ mergeCommands config options pr ∧
    g.args ∉ publishScript config.commit (messageOf config options) options.remote pr.headRef
  finished : (commandCalls t).filter (!·.isInterrupted) <+: commandCalls t'
  /-- The stage in flight has started and recorded nothing. -/
  inFlight (command : Command) (hq : q = .command command) :
    ∃ flags, ∃ s ∈ (Plan.ofConfig config flags).stages, ∃ before, s.call? = some command ∧
      u = before ++ [⟨.log (.stageStarted s.slot), ()⟩] ∧ slots u = slots before ∧
      (NamesDiffer config → s.slot ∉ (slots t).map Prod.fst)
  /-- Both runs set one final status, for the same commit. -/
  status : ∃ final final', final.state = .failure ∧
    finalCalls t = [finalCall config options pr final] ∧
    finalCalls t' = [finalCall config options pr final'] ∧ Concluded config options pr final t r
  stages (result result' : RunResult) (hr : r = .ok result) (hr' : r' = .ok result') :
    result.progress.stages <+: result'.progress.stages
  result (result : RunResult) (hr : r = .ok result) : result.progress.pushedSha = none ∧
    result.halt.map Halt.message = some "run cancelled" ∧ result.phase = .failed ∧
    result.reported = some .failure
  /-- The slots are what the outcomes hold. -/
  outcome (result result' : RunResult) : (r = .ok result →
      Outcome.empty.recordAll (slots t) = .ok result.progress.outcome) ∧
    (r' = .ok result' → Outcome.empty.recordAll (slots t') = .ok result'.progress.outcome)

/-! ## Runs taken apart -/

/-- A run is not cancelled while its comment is evaluated. -/
theorem not_isCancelled_evaluated : ¬IsCancelled (evaluated config c pr) := fun ⟨_, he, hc⟩ =>
  not_isCancellation_of_isOuter (isOuter_evaluated he) hc

/-- A run is not cancelled before its first step. -/
theorem not_isCancelled_prelude : ¬IsCancelled (prelude config options c pr) := fun ⟨_, he, hc⟩ =>
  not_isCancellation_of_isOuter (isOuter_prelude he) hc

/-- How a run ends that was cancelled, once its final status is answered. -/
inductive Closes (config : Config) (options : RunOptions) (pr : PullRequest) (p : Progress)
    (final : FinalStatus) : Trace → Except BotError RunResult → Prop where
  | refused {e : PlatformError} :
    Closes config options pr p final
      [⟨.platform (finalCall config options pr final), .error e⟩] (.error (.platform e))
  | reported {result : RunResult} (progress : result.progress = p)
    (halted : result.halt = some .cancelled) (reported : result.reported = some final.state)
    (phase : result.phase = finalPhase final) :
    Closes config options pr p final
      [⟨.platform (finalCall config options pr final), .ok ()⟩,
        ⟨.log (.statusReported pr.repository pr.headSha final.state p.outcome.size), ()⟩,
        ⟨.log (.phaseChanged .running (finalPhase final)), ()⟩]
      (.ok result)

/-- A run that is cancelled at the exchange `e` of its steps, after the exchanges `u`. -/
structure CancelledAt (config : Config) (options : RunOptions) (c : Comment) (pr : PullRequest)
    (u : Trace) (e : Exchange interface) (t : Trace) (r : Except BotError RunResult) (o o' : Outcome)
    (p : Progress) (final : FinalStatus) : Prop where
  acknowledged : Outcome.empty.recordAll [ownEntry .trigger .succeeded] = .ok o
  course : Course config options pr o (u ++ [e]) (.error .cancelled) p
  cancellation : isCancellation e = true
  earlier : ¬IsCancelled u
  marked : p.outcome.recordAll [ownEntry .run .cancelled] = .ok o'
  aggregated : FinalStatus.aggregate .triggered o' = some final
  closed : ∃ v, t = prelude config options c pr ++ u ++ e :: ⟨.log .runCancelled, ()⟩ :: v ∧
    Closes config options pr { p with outcome := o' } final v r
  finalCalls : finalCalls t = [finalCall config options pr final]

/-- A run that was asked for is cancelled in its steps, and records so. -/
theorem Conduct.exists_cut {halt : Option Halt} (h : Conduct config options c pr t halt p)
    (hcancelled : IsCancelled t) :
    halt = some .cancelled ∧ ∃ o q u e,
      Outcome.empty.recordAll [ownEntry .trigger .succeeded] = .ok o ∧
      Course config options pr o (u ++ [e]) (.error .cancelled) q ∧
      isCancellation e = true ∧ ¬IsCancelled u ∧
      q.outcome.recordAll [ownEntry .run .cancelled] = .ok p.outcome ∧
      p = { q with outcome := p.outcome } ∧
      t = acknowledgement config options c pr ++ u ++ e :: [⟨.log .runCancelled, ()⟩] := by
  have hcourse {u : Trace} {o : Outcome} {q : Progress} {r : Except Halt Unit}
      (course : Course config options pr o u r q) (hr : r ≠ .error .cancelled) : ¬IsCancelled u := by
    rcases course.cutOff with ⟨hr', -⟩ | ⟨-, hu⟩
    · exact absurd hr' hr
    · exact hu
  cases h with
  | notReacted recorded => simp at hcancelled
  | notPending recorded => simp at hcancelled
  | ended recorded course => simp [acknowledgement, hcourse course] at hcancelled
  | stopped recorded course => simp [acknowledgement, hcourse course] at hcancelled
  | cancelled recorded course marked =>
    rcases course.cutOff with ⟨-, u, e, rfl, he, hu⟩ | ⟨hr, -⟩
    · exact ⟨rfl, _, _, u, e, recorded, course, he, hu, marked, rfl, by simp⟩
    · exact absurd rfl hr

/-- A run that is cancelled is so in its steps. -/
theorem exists_cancelledAt (h : History config options c t r) (hcancelled : IsCancelled t) :
    ∃ pr u e o o' p final, CancelledAt config options c pr u e t r o o' p final := by
  have hrequested {pr : PullRequest} {u v : Trace} {halt : Option Halt} {p : Progress}
      {final : FinalStatus} (conduct : Conduct config options c pr u halt p)
      (aggregated : FinalStatus.aggregate .triggered p.outcome = some final) (hu : IsCancelled u)
      (hv : platformCalls v = [finalCall config options pr final])
      (closes : halt = some .cancelled → Closes config options pr p final v r) :
      ∃ w e o q, CancelledAt config options c pr w e (requested config c pr u v) r o p.outcome q
        final := by
    obtain ⟨rfl, o, q, w, e, recorded, course, he, hw, marked, hp, rfl⟩ := conduct.exists_cut hu
    refine ⟨w, e, o, q, ?_⟩
    exact {
      acknowledged := recorded
      course := course
      cancellation := he
      earlier := hw
      marked := marked
      aggregated := aggregated
      closed := ⟨v, by simp [requested, prelude], hp ▸ closes rfl⟩
      finalCalls := finalCalls_requested conduct (state_ne_pending aggregated) hv }
  cases h with
  | inapplicable applicable => simp at hcancelled
  | notFetched applicable => simp at hcancelled
  | rejected applicable verdict => simp [not_isCancelled_evaluated] at hcancelled
  | notTriggered applicable verdict => simp [not_isCancelled_evaluated] at hcancelled
  | @unreported pr u halt p final e applicable verdict conduct aggregated =>
    have hu : IsCancelled u := by simpa [requested, not_isCancelled_evaluated] using hcancelled
    obtain ⟨w, e, o, q, hcut⟩ := hrequested conduct aggregated hu (by simp) fun _ => .refused
    exact ⟨pr, w, e, o, _, q, final, hcut⟩
  | @reported pr u halt p final applicable verdict conduct aggregated =>
    have hu : IsCancelled u := by simpa [requested, not_isCancelled_evaluated] using hcancelled
    obtain ⟨w, e, o, q, hcut⟩ := hrequested conduct aggregated hu (by simp)
      fun hhalt => .reported rfl hhalt rfl rfl
    exact ⟨pr, w, e, o, _, q, final, hcut⟩

/-! ## Two runs with the same exchanges up to a cancellation -/

/-- Until a run is cancelled, no formatter of it is interrupted. -/
theorem filter_commandCalls (h : ¬IsCancelled t) :
    (commandCalls t).filter (!·.isInterrupted) = commandCalls t := by
  refine List.filter_eq_self.2 fun call hcall => ?_
  have hmem := mem_of_mem_commandCalls hcall
  obtain ⟨command, x⟩ := call
  cases x with
  | interrupted => exact absurd ⟨_, hmem, rfl⟩ h
  | notStarted e => rfl
  | timedOut => rfl
  | lost e => rfl
  | ended e => rfl

/-- A formatter that is cancelled is interrupted. -/
theorem filter_commandCalls_cancellation {e : Exchange interface} (h : isCancellation e = true) :
    (commandCalls [e]).filter (!·.isInterrupted) = [] := by
  obtain ⟨q, x⟩ := e
  cases q with
  | command command => cases x <;> first | rfl | cases h
  | platform call => rfl
  | git args => rfl
  | cancelled at_ => rfl
  | log e => rfl

/-- What tells a run that it is cancelled records nothing. -/
theorem entry?_of_isCancellation {e : Exchange interface} (h : isCancellation e = true) :
    entry? e = none := by
  obtain ⟨q, x⟩ := e
  cases q <;> first | rfl | cases h

/-- What tells a run that it is cancelled is no git command. -/
theorem gitCall?_of_isCancellation {e : Exchange interface} (h : isCancellation e = true) :
    gitCall? e = none := by
  obtain ⟨q, x⟩ := e
  cases q <;> first | rfl | cases h

/-- An exchange that shows nothing may stand anywhere. -/
theorem collect_append_cons {α : Type} {f : Exchange interface → Option α} {e : Exchange interface}
    (he : f e = none) : collect f (u ++ e :: v) = collect f u ++ collect f v := by
  simp [he]

/-- Up to its first step, a run records that it was triggered. -/
theorem records_prelude (h : Outcome.empty.recordAll [ownEntry .trigger .succeeded] = .ok o) :
    Records .empty (prelude config options c pr) o := by
  have hevaluated : Records .empty (evaluated config c pr) .empty :=
    .of_nil collect_entry?_evaluated
  exact (hevaluated.append_nil rfl).append (records_acknowledgement h)

section
variable {final : FinalStatus}

/-- No git command is run after the steps. -/
theorem Closes.gitCalls_eq_nil (h : Closes config options pr p final v r) : gitCalls v = [] := by
  cases h <;> rfl

/-- No formatter is run after the steps. -/
theorem Closes.commandCalls_eq_nil (h : Closes config options pr p final v r) :
    commandCalls v = [] := by
  cases h <;> rfl

/-- Nothing is recorded after the steps. -/
theorem Closes.entries_eq_nil (h : Closes config options pr p final v r)
    (settled : final.state ≠ .pending) : collect entry? v = [] := by
  cases h <;> simp [finalUpdate, settled]

/-- A run that closes with its final status is concluded with it. -/
theorem Closes.concluded (h : Closes config options pr p final v r)
    (aggregated : FinalStatus.aggregate .triggered p.outcome = some final) :
    Concluded config options pr final (u ++ v) r := by
  cases h with
  | refused => exact .refused (by simp)
  | reported progress halted reported phase =>
    exact .reported (by simp) (by rw [progress, aggregated]) reported

end

/-! ## What a cancelled run leaves behind -/

namespace CancelledAt

variable {e : Exchange interface} {final : FinalStatus}

/-- The outcome of the steps is what was recorded before the cancellation. -/
theorem records (h : CancelledAt config options c pr u e t r o o' p final) :
    Records .empty (prelude config options c pr ++ u) p.outcome := by
  refine (records_prelude h.acknowledged).append ?_
  have hcourse := h.course.records
  rwa [Records, collect_append_cons (entry?_of_isCancellation h.cancellation), collect_nil,
    List.append_nil] at hcourse

/-- The cancellation is the last that the run records. -/
theorem slots_eq (h : CancelledAt config options c pr u e t r o o' p final) :
    slots t = slots (prelude config options c pr ++ u) ++ [ownEntry .run .cancelled] := by
  obtain ⟨v, ht, closes⟩ := h.closed
  have hlast : collect entry? (⟨.log .runCancelled, ()⟩ :: v) = [ownEntry .run .cancelled] := by
    simp [closes.entries_eq_nil (state_ne_pending h.aggregated)]
  rw [slots, ht, collect_append_cons (entry?_of_isCancellation h.cancellation), hlast,
    Outcome.accepted_append h.records, Outcome.accepted_eq_of_recordAll h.marked, slots]

/-- The git commands of a cancelled run are those before its cancellation. -/
theorem gitCalls_eq (h : CancelledAt config options c pr u e t r o o' p final) :
    gitCalls t = gitCalls (prelude config options c pr ++ u) := by
  obtain ⟨v, ht, closes⟩ := h.closed
  have hlast : collect gitCall? (⟨.log .runCancelled, ()⟩ :: v) = [] := closes.gitCalls_eq_nil
  have hsplit := collect_append_cons (u := prelude config options c pr ++ u)
    (v := ⟨.log .runCancelled, ()⟩ :: v) (gitCall?_of_isCancellation h.cancellation)
  rw [ht]
  exact hsplit.trans (by rw [hlast, List.append_nil])

/-- The run has merged at most. -/
theorem args_mem_mergeCommands (h : CancelledAt config options c pr u e t r o o' p final)
    {g : GitCall} (hg : g ∈ gitCalls t) : g.args ∈ mergeCommands config options pr := by
  have hprelude : gitCalls (prelude config options c pr) = [] :=
    List.filterMap_eq_nil_iff.2 fun e he => gitCall?_of_isOuter (isOuter_prelude he)
  have hg : g ∈ gitCalls u := by simpa [h.gitCalls_eq, hprelude] using hg
  exact h.course.args_mem_mergeCommands g (by simp [hg])

/-- The formatters that have ended are those before the cancellation. -/
theorem filter_commandCalls_eq (h : CancelledAt config options c pr u e t r o o' p final) :
    (commandCalls t).filter (!·.isInterrupted) = commandCalls (prelude config options c pr ++ u) := by
  obtain ⟨v, ht, closes⟩ := h.closed
  have hlast : commandCalls (⟨.log .runCancelled, ()⟩ :: v) = [] := closes.commandCalls_eq_nil
  have hearlier : ¬IsCancelled (prelude config options c pr ++ u) := by
    simp [not_isCancelled_prelude, h.earlier]
  have hsplit : commandCalls t = commandCalls (prelude config options c pr ++ u) ++
      (commandCalls [e] ++ commandCalls (⟨.log .runCancelled, ()⟩ :: v)) := by
    rw [ht, ← List.singleton_append]
    simp only [collect_append]
  rw [hsplit, hlast, List.append_nil, List.filter_append, filter_commandCalls hearlier,
    filter_commandCalls_cancellation h.cancellation, List.append_nil]

/-- The stage in flight has started, and it has no slot where the names differ. -/
theorem inFlight {command : Command} {x : CommandResult}
    (h : CancelledAt config options c pr u ⟨.command command, x⟩ t r o o' p final) :
    ∃ flags, ∃ s ∈ (Plan.ofConfig config flags).stages, ∃ v, s.call? = some command ∧
      u = v ++ [⟨.log (.stageStarted s.slot), ()⟩] ∧
      (NamesDiffer config → s.slot ∉ (slots t).map Prod.fst) := by
  obtain ⟨flags, s, v, hs, hcall, hu, hfree⟩ := h.course.inFlight (fresh_of_recordAll h.acknowledged)
  refine ⟨flags, s, hs, v, hcall, hu, fun hnames hm => ?_⟩
  rw [h.slots_eq, List.map_append, List.mem_append] at hm
  rcases hm with hm | hm
  · exact hfree hnames ((Outcome.mem_jobs_of_recordAll h.records).2 (.inl hm))
  · exact Stage.slotOf_ne_name s.domain s.name .run (List.mem_singleton.1 hm)

/-- The final status of a cancelled run is a failure. -/
theorem state_eq_failure (h : CancelledAt config options c pr u e t r o o' p final) :
    final.state = .failure :=
  Run.state_eq_failure (Outcome.blocking_ne_nil_of_recordAll h.marked rfl) h.aggregated

/-- A cancelled run is concluded with its final status. -/
theorem concluded (h : CancelledAt config options c pr u e t r o o' p final) :
    Concluded config options pr final t r := by
  obtain ⟨v, ht, closes⟩ := h.closed
  rw [ht, List.append_cons, List.append_cons]
  exact closes.concluded h.aggregated

/-- The result of a cancelled run is that of its steps, and says that it was cancelled. -/
theorem result_eq {result : RunResult}
    (h : CancelledAt config options c pr u e t (.ok result) o o' p final) :
    result.progress = { p with outcome := o' } ∧ result.halt = some .cancelled ∧
      result.phase = .failed ∧ result.reported = some .failure := by
  obtain ⟨v, -, closes⟩ := h.closed
  cases closes with
  | reported progress halted reported phase =>
    exact ⟨progress, halted, by rw [phase, finalPhase, h.state_eq_failure]; rfl,
      by rw [reported, h.state_eq_failure]⟩

end CancelledAt

/-- Two runs that share their exchanges up to a cancellation of the first share their pull request, and the
steps of the second go on where those of the first are cut off. -/
theorem exists_shared {x x' : Answer q} (ended : Ends (run config options c) t r)
    (ended' : Ends (run config options c) t' r') (ht : t = u ++ ⟨q, x⟩ :: v)
    (ht' : t' = u ++ ⟨q, x'⟩ :: v') (hcancellation : isCancellation ⟨q, x⟩ = true)
    (huncancelled : ¬IsCancelled t') :
    ∃ pr w o o' p final w' p' r₂ b, u = prelude config options c pr ++ w ∧
      CancelledAt config options c pr w ⟨q, x⟩ t r o o' p final ∧
      Within config options c pr t' r' o w' r₂ p' ∧ w ++ ⟨q, x'⟩ :: v' = w' ++ b := by
  have hsuspends := suspends_of_isCancellation hcancellation
  obtain ⟨pr, w, e, o, o', p, final, at_⟩ :=
    exists_cancelledAt (history_of_ends ended) ⟨⟨q, x⟩, by simp [ht], hcancellation⟩
  obtain ⟨rest, hclosed, -⟩ := at_.closed
  rcases within_of_history (history_of_ends ended') with ⟨houter, -⟩ | ⟨pr', o₂, w', r₂, p', within⟩
  · have hq := houter ⟨q, x'⟩ (by simp [ht'])
    rw [not_isOuter_of_suspends hsuspends] at hq
    cases hq
  obtain ⟨b, hopened, -⟩ := within.opened
  -- the first run has one cancellation, and both fetch the same pull request
  have hbefore : ∀ e ∈ prelude config options c pr ++ w, ¬isCancellation e = true := by
    intro e he hc
    rcases List.mem_append.1 he with he | he
    · exact not_isCancelled_prelude ⟨e, he, hc⟩
    · exact at_.earlier ⟨e, he, hc⟩
  have hshared : ∀ e ∈ u, ¬isCancellation e = true := fun e he hc =>
    huncancelled ⟨e, by simp [ht', he], hc⟩
  obtain ⟨rfl, rfl, -⟩ :=
    first_inj hshared hbefore hcancellation at_.cancellation (ht.symm.trans hclosed)
  have heq := ht'.symm.trans hopened
  obtain rfl : pr = pr' := by
    simp only [prelude, evaluated, List.cons_append] at heq
    obtain ⟨hfetched, -⟩ := List.cons.inj heq
    cases hfetched
    rfl
  obtain rfl : o = o₂ := Except.ok.inj (at_.acknowledged.symm.trans within.acknowledged)
  simp only [List.append_assoc] at heq
  exact ⟨pr, w, o, o', p, final, w', p', r₂, b, rfl, at_, within, List.append_cancel_left heq⟩

/-- Two runs with the same exchanges so far, the one cancelled and the other not, are cut cleanly. -/
theorem cleanCut_of_ends {x x' : Answer q} (ended : Ends (run config options c) t r)
    (ended' : Ends (run config options c) t' r') (ht : t = u ++ ⟨q, x⟩ :: v)
    (ht' : t' = u ++ ⟨q, x'⟩ :: v') (hcancellation : isCancellation ⟨q, x⟩ = true)
    (huncancelled : ¬IsCancelled t') : ∃ pr, CleanCut config options c pr u q t r t' r' := by
  obtain ⟨pr, w, o, o', p, final, w', p', r₂, b, rfl, at_, within, heq⟩ :=
    exists_shared ended ended' ht ht' hcancellation huncancelled
  have hprefix : prelude config options c pr ++ w <+: t' := ⟨_, ht'.symm⟩
  refine ⟨pr, ?_⟩
  exact {
    cut := ⟨x, v, hcancellation, ht⟩
    acknowledged := by simp [prelude, evaluated, acknowledgement, pendingCall]
    recorded := ⟨at_.slots_eq, Outcome.accepted_prefix (collect_isPrefix hprefix)⟩
    marked := by
      obtain ⟨o₁, ho₁, -⟩ := Outcome.recordAll_cons_eq_ok_iff.1 at_.marked
      exact ⟨p.outcome, o₁, at_.records, ho₁⟩
    git := by
      rw [at_.gitCalls_eq]
      exact collect_isPrefix hprefix
    merged := fun g hg =>
      ⟨at_.args_mem_mergeCommands hg, not_mem_publishScript (at_.args_mem_mergeCommands hg)⟩
    finished := by
      rw [at_.filter_commandCalls_eq]
      exact collect_isPrefix hprefix
    inFlight := by
      rintro command rfl
      obtain ⟨flags, s, hs, w₁, hcall, rfl, hfree⟩ := at_.inFlight
      have hbefore := (List.append_assoc (prelude config options c pr) w₁
        [⟨.log (.stageStarted s.slot), ()⟩]).symm
      refine ⟨flags, s, hs, _, hcall, hbefore, ?_, hfree⟩
      rw [slots, slots, hbefore]
      simp
    status := by
      obtain ⟨final', hfinal'⟩ := within.finalCalls
      exact ⟨final, final', at_.state_eq_failure, at_.finalCalls, hfinal', at_.concluded⟩
    stages := by
      rintro result result' rfl rfl
      have hcourse : ¬IsCancelled w' := by
        obtain ⟨b', hopened, -⟩ := within.opened
        exact fun hw => huncancelled (by simp [hopened, hw])
      obtain ⟨p₂, final', -, -, -, hp₂, hresult⟩ := within.concluded
      obtain rfl : p₂ = p' := hp₂ fun hr₂ => hcourse (hr₂ ▸ within.course).isCancelled
      rw [(hresult result' rfl).1, at_.result_eq.1]
      exact at_.course.stages_prefix within.course hcourse heq
    result := by
      rintro result rfl
      obtain ⟨progress, halted, phase, reported⟩ := at_.result_eq
      refine ⟨?_, by rw [halted]; rfl, phase, reported⟩
      rw [progress]
      exact at_.course.pushedSha_eq_none
    outcome := fun result result' =>
      ⟨fun hr => recordAll_slots (hr ▸ ended), fun hr' => recordAll_slots (hr' ▸ ended')⟩ }

/-! ## Runs in their surroundings -/

/-- The exchanges and the result of a run in its surroundings. -/
def runIn (s : Program.Surroundings interface) (config : Config) (options : RunOptions) (c : Comment) :
    Trace × Except BotError RunResult :=
  Program.play s [] (run config options c).run

/-- A run in surroundings ends as the surroundings have it. -/
theorem ends_runIn (s : Program.Surroundings interface) (config : Config) (options : RunOptions)
    (c : Comment) :
    Ends (run config options c) (runIn s config options c).1 (runIn s config options c).2 :=
  Program.runs_play _ _ _

/-- Wherever a run waits, being cancelled there is a clean cut through the run that goes on, whatever the
platform, git and the formatters do. -/
theorem cleanCut_run (config : Config) (options : RunOptions) (c : Comment)
    (s : Program.Surroundings interface) {u v : Trace} {e : Exchange interface}
    (uncancelled : ∀ past q, isCancellation ⟨q, s past q⟩ = false)
    (reached : (runIn s config options c).1 = u ++ e :: v) (suspended : suspends e.request = true) :
    ∃ pr, CleanCut config options c pr u e.request
      (runIn (interruptAt u.length s) config options c).1
      (runIn (interruptAt u.length s) config options c).2
      (runIn s config options c).1 (runIn s config options c).2 := by
  have halike (w : Trace) (q : Request) (hw : w.length < ([] ++ u).length) :
      interruptAt u.length s w q = s w q := if_neg (by simpa using hw.ne)
  obtain ⟨v', hcut⟩ := Program.exists_play_eq reached halike
  have hinterrupted : interruptAt u.length s ([] ++ u) e.request =
      interruption e.request (s u e.request) := if_pos rfl
  have huncancelled : ¬IsCancelled (runIn s config options c).1 := by
    rintro ⟨e, he, hcancelled⟩
    obtain ⟨w, q, rfl⟩ := Program.exists_eq_of_mem_play he
    rw [uncancelled w q] at hcancelled
    cases hcancelled
  refine cleanCut_of_ends (ends_runIn _ config options c) (ends_runIn s config options c) hcut reached
    ?_ huncancelled
  rw [hinterrupted]
  exact isCancellation_interruption suspended _

/-- The example run is cut cleanly where it waits for a formatter. -/
theorem cleanCut_run_example :
    ∃ u v command x, exampleOuting.1 = u ++ ⟨.command command, x⟩ :: v ∧
      ∃ pr, CleanCut {} exampleOptions exampleComment pr u (.command command)
        (runIn (interruptAt u.length (Program.steady (compliant examplePull exampleFiles
          "f00d".toUTF8 fun _ => 0))) {} exampleOptions exampleComment).1
        (runIn (interruptAt u.length (Program.steady (compliant examplePull exampleFiles
          "f00d".toUTF8 fun _ => 0))) {} exampleOptions exampleComment).2
        exampleOuting.1 exampleOuting.2 := by
  have hcalls : commandCalls exampleOuting.1 ≠ [] := by
    have hlength : (commandCalls exampleOuting.1).isEmpty = false := by decide +kernel
    simpa using hlength
  obtain ⟨call, hcall⟩ := List.exists_mem_of_ne_nil _ hcalls
  obtain ⟨command, x, hmem⟩ : ∃ command x,
      (⟨.command command, x⟩ : Exchange interface) ∈ exampleOuting.1 :=
    ⟨_, _, mem_of_mem_commandCalls hcall⟩
  obtain ⟨u, v, reached⟩ := List.append_of_mem hmem
  exact ⟨u, v, command, x, reached, cleanCut_run {} exampleOptions exampleComment _
    (fun _ _ => isCancellation_compliant) reached rfl⟩

end Autoformat.Run
