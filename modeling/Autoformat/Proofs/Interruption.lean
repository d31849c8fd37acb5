import Autoformat.Proofs.CallProtocol

/-!
# Where a cancelled run is cut off

A run halts as soon as it takes notice of being cancelled, so the cancellation is the last exchange of its
steps (`Course.cutOff`). It merged at most, and the stage that it was in has recorded nothing
(`Course.inFlight`).

Two courses that share their exchanges up to the cancellation of the one are the same so far: the stage
results of the cancelled one are the first of the other (`Course.stages_prefix`). This rests on the
exchanges of a stage telling where they end and what they come to (`Fate.eq_of_append_eq`).
-/

namespace Autoformat.Run

open Autoformat.Bot Autoformat.Bot.Git

variable {config : Config} {options : RunOptions} {c : Comment} {pr : PullRequest} {o : Outcome}
  {p p' : Progress} {t u v w : Trace}

/-! ## The last exchange of a cancelled run -/

/-- Steps halt at a cancellation, which is the last of their exchanges, or are not cancelled at all. -/
def CutOff {α : Type} (t : Trace) (r : Except Halt α) : Prop :=
  (r = .error .cancelled ∧ ∃ u e, t = u ++ [e] ∧ isCancellation e = true ∧ ¬IsCancelled u) ∨
    r ≠ .error .cancelled ∧ ¬IsCancelled t

/-- A part that is not cancelled may stand before one that is cut off where it is cancelled. -/
theorem CutOff.append {α : Type} {r : Except Halt α} (ht : ¬IsCancelled t) (h : CutOff u r) :
    CutOff (t ++ u) r := by
  rcases h with ⟨rfl, a, e, rfl, he, ha⟩ | ⟨hr, hu⟩
  · exact .inl ⟨rfl, t ++ a, e, by simp, he, by simp [ht, ha]⟩
  · exact .inr ⟨hr, by simp [ht, hu]⟩

/-- The steps before the stages end where the run is cancelled. -/
theorem Opening.cutOff {r : Except Halt DomainFlags} (h : Opening config options pr o t r p) :
    CutOff t r := by
  cases h with
  | cancelledAtStart => exact .inl ⟨rfl, [], _, rfl, rfl, by simp⟩
  | notMerged merging recorded => exact .inr ⟨by simp, by simp [finishedLog]⟩
  | @cancelledWhileListing gs m _ x merging merged recorded =>
    exact .inl ⟨rfl, ⟨.cancelled .starting, false⟩ :: gs.map GitCall.exchange ++
      [finishedLog (ownEntry .mergeBase m), ⟨.platform (listCall pr), x⟩],
      ⟨.cancelled .listing, true⟩, by simp, rfl, by simp [finishedLog]⟩
  | notListed merging merged recorded => exact .inr ⟨by simp, by simp [finishedLog]⟩
  | listed merging merged classified recorded =>
    exact .inr ⟨by simp, by simp [finishedLog, listing]⟩

/-- A loop that is cancelled is so while a stage runs its command. -/
theorem LoopRuns.exists_inFlight {blocked : Bool} {stages : List Stage}
    (h : LoopRuns p blocked stages t (.error .cancelled) p') :
    ∃ (fates : List Fate) (s : Stage) (rest : List Stage) (command : Command),
      stages = fates.map Fate.stage ++ s :: rest ∧
      s.call? = some command ∧
      t = fates.flatMap Fate.trace ++
        [⟨.log (.stageStarted s.slot), ()⟩, ⟨.command command, .interrupted⟩] ∧
      p.outcome.recordAll (fates.map Fate.slotEntry) = .ok p'.outcome ∧
      p'.stages = p.stages ++ fates.flatMap Fate.results := by
  obtain ⟨fates, rest, u, o, rfl, rfl, -, hrec, rfl, hend⟩ := h
  cases hend with
  | @interrupted s rest x enabled free hx =>
    obtain ⟨hcmd, rfl⟩ := Stage.result?_eq_none_iff.1 hx
    obtain ⟨command, hcall⟩ := Stage.exists_call hcmd
    exact ⟨fates, s, rest, command, rfl, hcall, by rw [Stage.exchanges_of_call hcall], hrec, rfl⟩

/-- A loop over stages ends where the run is cancelled. -/
theorem LoopRuns.cutOff {blocked : Bool} {stages : List Stage} {r : Except Halt Bool}
    (h : LoopRuns p blocked stages t r p') : CutOff t r := by
  by_cases hr : r = .error .cancelled
  · subst hr
    obtain ⟨fates, s, rest, command, -, -, rfl, -⟩ := h.exists_inFlight
    exact .inl ⟨rfl, fates.flatMap Fate.trace ++ [⟨.log (.stageStarted s.slot), ()⟩],
      ⟨.command command, .interrupted⟩, by simp, rfl, by simp⟩
  · obtain ⟨fates, rest, u, o, rfl, rfl, -, -, rfl, hend⟩ := h
    refine .inr ⟨hr, ?_⟩
    cases hend with
    | finished => simp
    | interrupted enabled free hx => exact absurd rfl hr
    | taken hf slot => simp

/-- A run that comes to its stages has not been cancelled before. -/
theorem Opening.not_isCancelled {flags : DomainFlags}
    (h : Opening config options pr o t (.ok flags) p) : ¬IsCancelled t := by
  rcases h.cutOff with ⟨hr, -⟩ | ⟨-, ht⟩
  · cases hr
  · exact ht

/-- Steps that are cancelled are cut off at the cancellation. -/
theorem Course.cutOff {r : Except Halt Unit} (h : Course config options pr o t r p) : CutOff t r := by
  have hstages {v : Trace} {flags : DomainFlags} {blocked : Bool} {q q' : Progress}
      (stages : LoopRuns q false (Plan.ofConfig config flags).stages v (.ok blocked) q') :
      ¬IsCancelled v := by
    rcases stages.cutOff with ⟨hr, -⟩ | ⟨-, hv⟩
    · cases hr
    · exact hv
  cases h with
  | haltedInOpening opening =>
    rcases opening.cutOff with ⟨hr, hcut⟩ | ⟨hr, ht⟩
    · cases hr
      exact .inl ⟨rfl, hcut⟩
    · exact .inr ⟨by simpa using hr, ht⟩
  | haltedInStages opening stages =>
    refine .append opening.not_isCancelled ?_
    rcases stages.cutOff with ⟨hr, hcut⟩ | ⟨hr, hu⟩
    · cases hr
      exact .inl ⟨rfl, hcut⟩
    · exact .inr ⟨by simpa using hr, hu⟩
  | unpublished opening stages withheld recorded =>
    exact .inr ⟨by simp, by simp [opening.not_isCancelled, hstages stages, finishedLog]⟩
  | @published _ _ _ _ _ _ gs y opening stages on publishing recorded =>
    refine .inr ⟨?_, by simp [opening.not_isCancelled, hstages stages, finishedLog]⟩
    cases y with
    | ok sha => simp [Except.mapError, Except.map]
    | error e => simp [Except.mapError, Except.map]

/-! ## What a cancelled run has done -/

/-- Steps that are cancelled halt before the stages, or in one of them. -/
theorem Course.cases_of_cancelled (h : Course config options pr o t (.error .cancelled) p) :
    Opening config options pr o t (.error .cancelled) p ∨
      ∃ a b flags q, t = a ++ b ∧ Opening config options pr o a (.ok flags) q ∧
        LoopRuns q false (Plan.ofConfig config flags).stages b (.error .cancelled) p := by
  generalize hr : (.error .cancelled : Except Halt Unit) = r at h
  cases h with
  | haltedInOpening opening =>
    cases hr
    exact .inl opening
  | haltedInStages opening stages =>
    cases hr
    exact .inr ⟨_, _, _, _, rfl, opening, stages⟩
  | unpublished opening stages withheld recorded => cases hr
  | @published _ _ _ _ _ _ gs y opening stages on publishing recorded => cases y <;> cases hr

/-- A cancelled run has merged at most. -/
theorem Course.args_mem_mergeCommands (h : Course config options pr o t (.error .cancelled) p) :
    ∀ g ∈ gitCalls t, g.args ∈ mergeCommands config options pr := by
  have hmerging {gs : List GitCall} {m : JobResult} (merging : Merging config options pr gs m)
      (merged : m ≠ .failed) : ∀ g ∈ gs, g.args ∈ mergeCommands config options pr := by
    cases merging with
    | leftOut off => simp
    | tried on calls =>
      cases calls with
      | notFetched hg failed => exact absurd rfl merged
      | notMerged hg fetched hm failed ha => exact absurd rfl merged
      | merged hg fetched hm done => simp [mergeCommands, hg, hm]
  have hopening {u : Trace} {r : Except Halt DomainFlags} {q : Progress}
      (opening : Opening config options pr o u r q) (hr : ∀ e, r ≠ .error (.stopped e)) :
      ∀ g ∈ gitCalls u, g.args ∈ mergeCommands config options pr := by
    cases opening with
    | cancelledAtStart => simp
    | notMerged merging recorded => exact absurd rfl (hr _)
    | cancelledWhileListing merging merged recorded =>
      simpa [finishedLog] using hmerging merging merged
    | notListed merging merged recorded => exact absurd rfl (hr _)
    | listed merging merged classified recorded =>
      simpa [finishedLog, listing] using hmerging merging merged
  rcases h.cases_of_cancelled with opening | ⟨a, b, flags, q, rfl, opening, stages⟩
  · exact hopening opening (by simp)
  · have hnone := stages.gitCalls_eq_nil
    simpa [hnone] using hopening opening (by simp)

/-- A run that is cancelled in its steps has pushed nothing. -/
theorem Course.pushedSha_eq_none (h : Course config options pr o t (.error .cancelled) p) :
    p.pushedSha = none := by
  rcases h.cases_of_cancelled with opening | ⟨a, b, flags, q, -, opening, stages⟩
  · exact opening.pushedSha_eq_none
  · exact stages.pushedSha_eq.trans opening.pushedSha_eq_none

/-- No formatter is run before the stages. -/
theorem Opening.commandCalls_eq_nil {r : Except Halt DomainFlags}
    (h : Opening config options pr o t r p) : commandCalls t = [] := by
  cases h <;> simp [finishedLog, listing]

/-- The stage that a cancelled run is in has started, and has no slot where the names differ. -/
theorem Course.inFlight {command : Command} {x : CommandResult}
    (hfresh : ∀ name ∈ o.jobs, name = ReservedSlot.trigger.name)
    (h : Course config options pr o (u ++ [⟨.command command, x⟩]) (.error .cancelled) p) :
    ∃ (flags : DomainFlags) (s : Stage) (v : Trace),
      s ∈ (Plan.ofConfig config flags).stages ∧ s.call? = some command ∧
      u = v ++ [⟨.log (.stageStarted s.slot), ()⟩] ∧
      ((∀ d, ((config.formatters.get d).map Formatter.name).Nodup) → s.slot ∉ p.outcome.jobs) := by
  rcases h.cases_of_cancelled with opening | ⟨a, b, flags, q, ht, opening, stages⟩
  · have hnone := opening.commandCalls_eq_nil
    simp at hnone
  · obtain ⟨fates, s, rest, command', hplanned, hcall, rfl, hrec, -⟩ := stages.exists_inFlight
    have hsplit : u ++ [⟨.command command, x⟩] =
        (a ++ fates.flatMap Fate.trace ++ [⟨.log (.stageStarted s.slot), ()⟩]) ++
          [⟨.command command', .interrupted⟩] := by
      simpa using ht
    obtain ⟨rfl, hlast⟩ := List.append_inj' hsplit rfl
    cases hlast
    refine ⟨flags, s, _, by simp [hplanned], hcall, rfl, fun hnames hm => ?_⟩
    have hnodup : ((Plan.ofConfig config flags).stages.map Stage.slot).Nodup :=
      Plan.nodup_slots_iff.2 hnames
    rw [hplanned, List.map_append, List.nodup_append] at hnodup
    -- the slot belongs to no stage before it, and to no step of the run itself
    rcases (Outcome.mem_jobs_of_recordAll hrec).1 hm with hm | hm
    · rw [List.map_map] at hm
      refine hnodup.2.2 s.slot ?_ s.slot (by simp) rfl
      rwa [List.map_map]
    · have hne (slot : ReservedSlot) : s.slot ≠ slot.name := Stage.slotOf_ne_name s.domain s.name slot
      rcases opening.eq_of_mem_jobs hm with hm | hm | hm
      · exact hne .trigger (hfresh _ hm)
      · exact hne .mergeBase hm
      · exact hne .route hm

/-! ## Courses that share their exchanges -/

/-- The exchanges of a stage that is executed tell where they end, and its result. -/
private theorem Fate.eq_of_executed {s : Stage} {x x' : CommandResult} {r r' : StageResult}
    (hx : s.result? x = some r) (hx' : s.result? x' = some r')
    (h : (executed s x r hx).trace ++ v = (executed s x' r' hx').trace ++ w) : r = r' ∧ v = w := by
  simp only [trace] at h
  cases hc : s.command with
  | nil =>
    -- without a command the result is always the same
    have hexchanges (x : CommandResult) : s.exchanges x = [] := by
      simp [Stage.exchanges, Stage.calls, Stage.call?, hc]
    simp only [Stage.result?, hc, Option.some.injEq] at hx hx'
    obtain rfl : r = r' := hx.symm.trans hx'
    simp only [hexchanges] at h
    exact ⟨rfl, List.append_cancel_left h⟩
  | cons program args =>
    obtain ⟨command, hcall⟩ := Stage.exists_call (s := s) (by simp [hc])
    simp only [Stage.exchanges_of_call hcall] at h
    obtain ⟨-, htail⟩ := List.cons.inj h
    obtain ⟨hcommand, -⟩ := List.cons.inj htail
    cases hcommand
    obtain rfl : r = r' := Option.some.inj (hx.symm.trans hx')
    exact ⟨rfl, List.append_cancel_left h⟩

/-- The exchanges of a stage tell where they end, and what the stage came to. -/
theorem Fate.eq_of_append_eq {f f' : Fate} (hstage : f.stage = f'.stage)
    (h : f.trace ++ v = f'.trace ++ w) :
    f.slotEntry = f'.slotEntry ∧ f.results = f'.results ∧ v = w := by
  cases f with
  | leftOut s =>
    cases f' with
    | leftOut s' =>
      obtain rfl : s = s' := hstage
      exact ⟨rfl, rfl, List.append_cancel_left h⟩
    | executed s' x' r' hx' =>
      obtain ⟨hfirst, -⟩ := List.cons.inj h
      cases hfirst
  | executed s x r hx =>
    cases f' with
    | leftOut s' =>
      obtain ⟨hfirst, -⟩ := List.cons.inj h
      cases hfirst
    | executed s' x' r' hx' =>
      obtain rfl : s = s' := hstage
      obtain ⟨rfl, hvw⟩ := Fate.eq_of_executed hx hx' h
      exact ⟨rfl, rfl, hvw⟩

/-- The entry of the log about a step that has ended tells the step and how it ended. -/
private theorem finishedLog_inj {x y : String × OutcomeEntry}
    (h : finishedLog x = finishedLog y) : x = y := by
  obtain ⟨slot, e⟩ := x
  obtain ⟨slot', e'⟩ := y
  cases h
  rfl

/-- The record of the merge is the first exchange after the git commands of the merge. -/
private theorem mergeBase_inj {gs gs' : List GitCall} {m m' : JobResult}
    (h : gs.map GitCall.exchange ++ finishedLog (ownEntry .mergeBase m) :: v =
      gs'.map GitCall.exchange ++ finishedLog (ownEntry .mergeBase m') :: w) : m = m' ∧ v = w := by
  have hgit (gs : List GitCall) : ∀ e ∈ gs.map GitCall.exchange, ¬gitCall? e = none := by
    intro e he
    obtain ⟨g, -, rfl⟩ := List.mem_map.1 he
    simp [GitCall.exchange]
  obtain ⟨-, hlog, hrest⟩ := first_inj (hgit gs) (hgit gs') rfl rfl h
  have hentry := finishedLog_inj hlog
  simp only [ownEntry, Prod.mk.injEq, OutcomeEntry.mk.injEq, and_true, true_and] at hentry
  exact ⟨hentry, hrest⟩

/-- The exchanges before the stages tell where they end, and what was recorded in them. -/
theorem Opening.eq_of_append_eq {t' : Trace} {flags : DomainFlags} {r' : Except Halt DomainFlags}
    (h : Opening config options pr o t (.ok flags) p) (h' : Opening config options pr o t' r' p')
    (huncancelled : ¬IsCancelled t') (heq : t ++ v = t' ++ w) :
    r' = .ok flags ∧ p' = p ∧ v = w := by
  cases h with
  | @listed gs m o₁ files _ merging merged classified recorded =>
    cases h' with
    | cancelledAtStart => exact absurd (by simp) huncancelled
    | cancelledWhileListing merging' merged' recorded' => exact absurd (by simp) huncancelled
    | notMerged merging' recorded' =>
      simp only [List.cons_append, List.append_assoc, List.nil_append] at heq
      obtain ⟨-, htail⟩ := List.cons.inj heq
      obtain ⟨rfl, -⟩ := mergeBase_inj htail
      exact absurd rfl merged
    | notListed merging' merged' recorded' =>
      simp only [List.cons_append, List.append_assoc, listing] at heq
      obtain ⟨-, htail⟩ := List.cons.inj heq
      obtain ⟨rfl, hlist⟩ := mergeBase_inj htail
      obtain ⟨hfiles, -⟩ := List.cons.inj hlist
      cases hfiles
    | @listed gs' m' o₂ files' _ merging' merged' classified' recorded' =>
      simp only [List.cons_append, List.append_assoc, listing, List.nil_append] at heq
      obtain ⟨-, htail⟩ := List.cons.inj heq
      obtain ⟨rfl, hlist⟩ := mergeBase_inj htail
      obtain ⟨hfiles, hrest⟩ := List.cons.inj hlist
      cases hfiles
      subst classified classified'
      obtain rfl : o₁ = o₂ := Except.ok.inj (recorded.symm.trans recorded')
      simpa using hrest

/-- The stages that a loop gets through before it is cancelled come to the same in a loop that has the same
exchanges so far and is not cancelled. -/
private theorem results_prefix {s : Stage} {rest rest' : List Stage} {fates fates' : List Fate}
    {o o' o₁ o₁' : Outcome} {blocked : Bool} {r' : Except Halt Bool} {u' : Trace}
    (hstages : fates.map Fate.stage ++ s :: rest = fates'.map Fate.stage ++ rest')
    (hrec : o.recordAll (fates.map Fate.slotEntry) = .ok o₁)
    (hrec' : o'.recordAll (fates'.map Fate.slotEntry) = .ok o₁')
    (hjobs : ∀ name ∈ o'.jobs, name ∈ o.jobs) (hend : LoopEnds o₁' blocked rest' u' r')
    (huncancelled : ¬IsCancelled u')
    (heq : fates.flatMap Fate.trace ++ v = fates'.flatMap Fate.trace ++ (u' ++ w)) :
    fates.flatMap Fate.results <+: fates'.flatMap Fate.results := by
  -- on the stages that both got through; the other loop cannot have ended before
  induction fates generalizing fates' o o' with
  | nil => exact List.nil_prefix
  | cons f fates ih =>
    obtain ⟨o₂, hf, hrec⟩ := Outcome.recordAll_cons_eq_ok_iff.1 hrec
    cases fates' with
    | nil =>
      cases hrec'
      cases hend with
      | finished => cases hstages
      | interrupted enabled free hx => exact absurd (by simp [hx]) huncancelled
      | @taken f' _ hf' slot =>
        obtain ⟨hstage, -⟩ := List.cons.inj hstages
        refine absurd (hjobs _ slot) ?_
        rw [← hstage]
        exact Outcome.not_mem_jobs_of_record hf
    | cons f' fates' =>
      obtain ⟨hstage, hstages⟩ := List.cons.inj hstages
      simp only [List.flatMap_cons, List.append_assoc] at heq ⊢
      obtain ⟨hentry, hresults, heq⟩ := Fate.eq_of_append_eq hstage heq
      obtain ⟨o₂', hf', hrec'⟩ := Outcome.recordAll_cons_eq_ok_iff.1 hrec'
      rw [hresults, List.prefix_append_right_inj]
      refine ih hstages hrec hrec' (fun name hm => ?_) heq
      rw [Outcome.mem_jobs_of_record hf]
      rw [Outcome.mem_jobs_of_record hf'] at hm
      exact hm.imp (fun h => h.trans (congrArg Prod.fst hentry).symm) (hjobs name)

/-- Steps halt before the stages, or they go into them. -/
theorem Course.stages_cases {r : Except Halt Unit} (h : Course config options pr o t r p) :
    (∃ e, Opening config options pr o t (.error e) p) ∨
      ∃ a b d flags q q' r', t = a ++ (b ++ d) ∧ Opening config options pr o a (.ok flags) q ∧
        LoopRuns q false (Plan.ofConfig config flags).stages b r' q' ∧ p.stages = q'.stages := by
  cases h with
  | haltedInOpening opening => exact .inl ⟨_, opening⟩
  | haltedInStages opening stages =>
    exact .inr ⟨_, _, [], _, _, _, _, by simp, opening, stages, rfl⟩
  | unpublished opening stages withheld recorded =>
    exact .inr ⟨_, _, _, _, _, _, _, List.append_assoc .., opening, stages, rfl⟩
  | @published _ _ _ _ _ _ gs y opening stages on publishing recorded =>
    exact .inr ⟨_, _, gs.map GitCall.exchange ++ pushLog pr.headRef y ++
      [finishedLog (ownEntry .push (pushResult y))], _, _, _, _, by simp, opening, stages, rfl⟩

/-- The stage results of a cancelled course are the first of those of a course that has the same exchanges up
to the cancellation and is not cancelled. -/
theorem Course.stages_prefix {t' : Trace} {e : Exchange interface} {r' : Except Halt Unit}
    (h : Course config options pr o (t ++ [e]) (.error .cancelled) p)
    (h' : Course config options pr o t' r' p') (huncancelled : ¬IsCancelled t')
    (heq : t ++ v = t' ++ w) : p.stages <+: p'.stages := by
  rcases h.cases_of_cancelled with opening | ⟨a, b, flags, q, ht, opening, stages⟩
  · rw [opening.stages_eq_nil]
    exact List.nil_prefix
  · obtain ⟨fates, s, rest, command, hplanned, -, rfl, hrec, hresults⟩ := stages.exists_inFlight
    have hsplit : t ++ [e] = (a ++ (fates.flatMap Fate.trace ++
        [⟨.log (.stageStarted s.slot), ()⟩])) ++ [⟨.command command, .interrupted⟩] := by
      simpa using ht
    obtain ⟨rfl, -⟩ := List.append_inj' hsplit rfl
    simp only [List.append_assoc, List.singleton_append] at heq
    rcases h'.stages_cases with ⟨e', opening'⟩ |
      ⟨a', b', d, flags', q₁, q₂, r₂, rfl, opening', stages', hstages⟩
    · obtain ⟨hr', -⟩ := opening.eq_of_append_eq opening' huncancelled heq
      cases hr'
    · simp only [isCancelled_append, not_or] at huncancelled
      simp only [List.append_assoc] at heq
      obtain ⟨hflags, rfl, heq⟩ := opening.eq_of_append_eq opening' huncancelled.1 heq
      cases hflags
      obtain ⟨fates', rest', u', o', hplanned', rfl, -, hrec', rfl, hend⟩ := stages'
      simp only [isCancelled_append, not_or] at huncancelled
      simp only [List.append_assoc] at heq
      rw [hstages, hresults, List.prefix_append_right_inj]
      exact results_prefix (hplanned.symm.trans hplanned') hrec hrec' (fun _ hm => hm) hend
        huncancelled.2.1.2 heq

end Autoformat.Run
