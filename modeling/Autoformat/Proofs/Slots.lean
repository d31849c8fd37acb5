import Autoformat.Config.Validate
import Autoformat.Run.Result
import Mathlib.Data.List.Nodup

/-!
# The slots of a run

The slot of a stage is the name of its domain, a slash and the name of its step. Domain names hold no
slash, so a slot tells its domain and its step (`slotOf_eq_slotOf_iff`), and it is none of the slots that
belong to a run itself (`slotOf_ne_name`), whatever the step is called.

The stages of a plan thus have different slots exactly when no domain names a step twice
(`nodup_slots_iff`), which a valid configuration does not (`Config.nodup_names_of_validate`).
-/

namespace Autoformat

/-- A list has one first element of a kind. -/
theorem first_inj {α : Type} {P : α → Prop} {xs ys us vs : List α} {a b : α} (hx : ∀ c ∈ xs, ¬P c)
    (hy : ∀ c ∈ ys, ¬P c) (ha : P a) (hb : P b) (h : xs ++ a :: us = ys ++ b :: vs) :
    xs = ys ∧ a = b ∧ us = vs := by
  induction xs generalizing ys with
  | nil =>
    cases ys with
    | nil => simpa using h
    | cons y ys =>
      obtain ⟨rfl, -⟩ := List.cons.inj h
      exact absurd ha (hy a (by simp))
  | cons x xs ih =>
    cases ys with
    | nil =>
      obtain ⟨rfl, -⟩ := List.cons.inj h
      exact absurd hb (hx x (by simp))
    | cons y ys =>
      obtain ⟨rfl, htail⟩ := List.cons.inj h
      obtain ⟨rfl, rfl, rfl⟩ :=
        ih (fun c hm => hx c (by simp [hm])) (fun c hm => hy c (by simp [hm])) htail
      exact ⟨rfl, rfl, rfl⟩

/-! ## Slots of stages and of runs -/

namespace Stage

/-- The name of a domain holds no slash. -/
private theorem slash_not_mem_name (d : Domain) : '/' ∉ d.name.toList := by
  cases d <;> decide

/-- A slot is the name of its domain, a slash and the name of its step. -/
private theorem toList_slotOf (d : Domain) (name : String) :
    (slotOf d name).toList = d.name.toList ++ '/' :: name.toList := by
  simp [slotOf]

/-- A slot tells its domain and its step. -/
theorem slotOf_eq_slotOf_iff {d d' : Domain} {name name' : String} :
    slotOf d name = slotOf d' name' ↔ d = d' ∧ name = name' := by
  constructor
  · intro h
    have hl := congrArg String.toList h
    rw [toList_slotOf, toList_slotOf] at hl
    -- the first slash of a slot ends the name of the domain
    have hslash (d : Domain) : ∀ c ∈ d.name.toList, ¬c = '/' := fun c hc hslash =>
      slash_not_mem_name d (hslash ▸ hc)
    obtain ⟨hd, -, hn⟩ := first_inj (hslash d) (hslash d') rfl rfl hl
    refine ⟨?_, String.toList_inj.1 hn⟩
    have : d.name = d'.name := String.toList_inj.1 hd
    cases d <;> cases d' <;> first | rfl | exact absurd this (by decide)
  · rintro ⟨rfl, rfl⟩
    rfl

/-- No stage has a slot that belongs to a run itself. -/
theorem slotOf_ne_name (d : Domain) (name : String) (r : ReservedSlot) :
    slotOf d name ≠ r.name := by
  intro h
  have hmem : '/' ∈ (slotOf d name).toList := by simp [toList_slotOf]
  have hnot : '/' ∉ r.name.toList := by cases r <;> decide
  exact hnot (h ▸ hmem)

end Stage

/-- The own slots of a run have different names. -/
theorem ReservedSlot.name_inj {r r' : ReservedSlot} : r.name = r'.name ↔ r = r' := by
  cases r <;> cases r' <;> decide

/-- No domain is left out. -/
theorem Domain.mem_all (d : Domain) : d ∈ Domain.all := by
  cases d <;> decide

/-! ## The stages of a plan -/

namespace Plan

variable {config : Config} {flags : DomainFlags}

/-- A plan has the stages of all domains, in order. -/
theorem stages_ofConfig : (ofConfig config flags).stages =
    Domain.all.flatMap fun d => (config.formatters.get d).map (stageOf config flags d) := by
  simp [stages, ofConfig, List.flatMap_map]

/-- The stages of a plan are those of the configured formatters. -/
theorem mem_stages_iff {s : Stage} : s ∈ (ofConfig config flags).stages ↔
    ∃ d, ∃ f ∈ config.formatters.get d, s = stageOf config flags d f := by
  simp only [stages_ofConfig, List.mem_flatMap, List.mem_map]
  constructor
  · rintro ⟨d, -, f, hf, rfl⟩
    exact ⟨d, f, hf, rfl⟩
  · rintro ⟨d, f, hf, rfl⟩
    exact ⟨d, Domain.mem_all d, f, hf, rfl⟩

/-- The slot of a stage is named for its domain and its formatter. -/
@[simp]
theorem slot_stageOf {d : Domain} {f : Formatter} :
    (stageOf config flags d f).slot = Stage.slotOf d f.name := rfl

/-- The slots of a plan differ exactly when no domain names a step twice. -/
theorem nodup_slots_iff : ((ofConfig config flags).stages.map Stage.slot).Nodup ↔
    ∀ d, ((config.formatters.get d).map Formatter.name).Nodup := by
  have hslots (d : Domain) : ((config.formatters.get d).map (stageOf config flags d)).map Stage.slot =
      ((config.formatters.get d).map Formatter.name).map (Stage.slotOf d) := by
    simp [Function.comp_def]
  have hinj (d : Domain) : Function.Injective (Stage.slotOf d) :=
    fun _ _ h => (Stage.slotOf_eq_slotOf_iff.1 h).2
  rw [stages_ofConfig, List.map_flatMap, List.nodup_flatMap]
  simp only [hslots, List.nodup_map_iff (hinj _)]
  constructor
  · rintro ⟨h, -⟩ d
    exact h d (Domain.mem_all d)
  · refine fun h => ⟨fun d _ => h d, ?_⟩
    refine (by decide : Domain.all.Nodup).imp fun {d d'} hne => ?_
    intro slot hs hs'
    obtain ⟨name, -, rfl⟩ := List.mem_map.1 hs
    obtain ⟨name', -, h'⟩ := List.mem_map.1 hs'
    exact hne (Stage.slotOf_eq_slotOf_iff.1 h').1.symm

end Plan

/-! ## Valid configurations -/

/-- The formatters of a domain have no fault exactly when each has a command and all have names of
their own. -/
theorem Formatters.faultIn?_eq_none_iff {d : Domain} {seen : List String} {fs : List Formatter} :
    faultIn? d seen fs = none ↔
      (∀ f ∈ fs, f.command ≠ []) ∧ (fs.map Formatter.name).Nodup ∧ ∀ f ∈ fs, f.name ∉ seen := by
  induction fs generalizing seen with
  | nil => simp [faultIn?]
  | cons f fs ih =>
    rw [faultIn?]
    by_cases hc : f.command = []
    · simp [hc]
    by_cases hs : f.name ∈ seen
    · simp [hc, hs]
    rw [if_neg (by simpa using hc), if_neg (by simpa using hs), ih]
    simp only [List.map_cons, List.nodup_cons, List.mem_map, List.mem_cons, forall_eq_or_imp,
      not_or, not_exists, not_and]
    constructor
    · rintro ⟨hcmd, hnd, hseen⟩
      exact ⟨⟨hc, hcmd⟩, ⟨fun g hg => (hseen g hg).1, hnd⟩, hs, fun g hg => (hseen g hg).2⟩
    · rintro ⟨⟨-, hcmd⟩, ⟨hne, hnd⟩, -, hseen⟩
      exact ⟨hcmd, hnd, fun g hg => ⟨hne g hg, hseen g hg⟩⟩

namespace Config

variable {c : Config}

/-- The formatters of a valid configuration have no fault. -/
theorem faultIn?_of_validate (h : c.validate = .ok ()) (d : Domain) :
    Formatters.faultIn? d [] (c.formatters.get d) = none := by
  have hnone : c.fault? = none := by
    cases hf : c.fault? with
    | none => rfl
    | some fault => simp [validate, hf] at h
  have hformat : c.formatters.fault? = none := by
    simp only [fault?] at hnone
    split at hnone
    · cases hnone
    split at hnone
    · cases hnone
    split at hnone
    · cases hnone
    exact (Option.or_eq_none_iff.1 hnone).2
  have hall := List.findSome?_eq_none_iff.1 hformat
  exact hall d (Domain.mem_all d)

/-- A valid configuration names no step of a domain twice. -/
theorem nodup_names_of_validate (h : c.validate = .ok ()) (d : Domain) :
    ((c.formatters.get d).map Formatter.name).Nodup :=
  (Formatters.faultIn?_eq_none_iff.1 (faultIn?_of_validate h d)).2.1

/-- Every formatter of a valid configuration has a command. -/
theorem command_ne_nil_of_validate (h : c.validate = .ok ()) {d : Domain} {f : Formatter}
    (hf : f ∈ c.formatters.get d) : f.command ≠ [] :=
  (Formatters.faultIn?_eq_none_iff.1 (faultIn?_of_validate h d)).1 f hf

end Config

end Autoformat
