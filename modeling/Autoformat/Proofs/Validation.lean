import Autoformat.Proofs.Slots

/-!
# Configurations that are accepted, and the first fault of the others

`Config.IsUsable` says what a configuration needs. The `spots` of a configuration are the places where it can
lack something, in the order in which they are looked at, and `FaultAt` says what is wrong at a spot, without
regard to the others. `Validates` puts the two together: a configuration without a fault is accepted, and any
other is refused by the fault at its first faulty spot.

`First` goes through a list of spots up to the first that is faulty. Its rules for lists (`First.append`,
`First.flatMap`) follow the parts of the validation.
-/

namespace Autoformat.Config

variable {c : Config} {fault : ConfigFault}

/-- A configuration with which the bot can work. -/
structure IsUsable (c : Config) : Prop where
  mention : c.trigger.mention ≠ ""
  command : c.trigger.command ≠ ""
  roles : c.trigger.trustedRoles ≠ []
  context : c.status.context ≠ ""
  patterns (d : Domain) : c.domains.get d ≠ ""
  commands (d : Domain) : ∀ f ∈ c.formatters.get d, f.command ≠ []
  /-- No two formatters of one domain have the same name. -/
  names (d : Domain) : ((c.formatters.get d).map Formatter.name).Nodup

/-! ## Faults and where they are -/

/-- A place where a configuration can be at fault. -/
inductive Spot where
  /-- The mention and the command that ask for a run. -/
  | phrases
  | roles
  | context
  | pattern (d : Domain)
  /-- The command of the formatter with the given number in its domain. -/
  | command (d : Domain) (n : Nat)
  /-- The name of this formatter. -/
  | name (d : Domain) (n : Nat)

/-- What is wrong with a configuration at a spot. -/
inductive FaultAt (c : Config) : Spot → ConfigFault → Prop where
  | phrases (empty : c.trigger.mention = "" ∨ c.trigger.command = "") : FaultAt c .phrases .emptyPhrase
  | roles (empty : c.trigger.trustedRoles = []) : FaultAt c .roles .noTrustedRole
  | context (empty : c.status.context = "") : FaultAt c .context .emptyContext
  | pattern {d : Domain} (empty : c.domains.get d = "") :
    FaultAt c (.pattern d) (.emptyPattern (DomainPatterns.field d))
  | command {d : Domain} {n : Nat} {f : Formatter} (there : (c.formatters.get d)[n]? = some f)
    (empty : f.command = []) : FaultAt c (.command d n) (.emptyCommand d f.name)
  /-- The name is that of an earlier formatter of the same domain. -/
  | name {d : Domain} {m n : Nat} {f g : Formatter} (there : (c.formatters.get d)[n]? = some f)
    (before : (c.formatters.get d)[m]? = some g) (earlier : m < n) (repeated : g.name = f.name) :
    FaultAt c (.name d n) (.duplicateStep d f.name)

/-- The spots of some formatters of a domain: of each the command, and then the name. -/
def formatterSpots (d : Domain) (start count : Nat) : List Spot :=
  (List.range' start count).flatMap fun n => [.command d n, .name d n]

/-- The spots of a configuration, in the order in which they are looked at. -/
def spots (c : Config) : List Spot :=
  [.phrases, .roles, .context] ++ Domain.all.map .pattern ++
    Domain.all.flatMap fun d => formatterSpots d 0 (c.formatters.get d).length

/-- The fault at the first of some spots that is faulty, if there is one. -/
inductive First (c : Config) : List Spot → Option ConfigFault → Prop where
  | nil : First c [] none
  | here {s : Spot} {fault : ConfigFault} {rest : List Spot} (h : FaultAt c s fault) :
    First c (s :: rest) (some fault)
  | later {s : Spot} {r : Option ConfigFault} {rest : List Spot} (h : ∀ fault, ¬FaultAt c s fault)
    (more : First c rest r) : First c (s :: rest) r

/-- The formatters of a configuration in one domain alone. -/
def only (c : Config) (d : Domain) : Config :=
  let keep (e : Domain) : List Formatter := if e = d then c.formatters.get e else []
  { c with formatters := ⟨keep .protocols, keep .generalSource, keep .webSource, keep .statSource⟩ }

/-- What is accepted and what is refused. -/
structure Validates (c : Config) : Prop where
  accepted_iff : c.validate = .ok () ↔ c.IsUsable
  refused_iff (e : BotError) : c.validate = .error e ↔
    ∃ fault, e = .config fault ∧ First c c.spots (some fault)
  /-- A name is reported as repeated only if two formatters of the domain itself have it. -/
  repeated (d : Domain) (name : String) (h : c.validate = .error (.config (.duplicateStep d name))) :
    ∃ (m n : Nat) (f g : Formatter), m < n ∧ (c.formatters.get d)[m]? = some f ∧
      (c.formatters.get d)[n]? = some g ∧ f.name = name ∧ g.name = name
  /-- What the formatters of one domain are called is nothing to another domain. -/
  separate : c.validate = .ok () ↔ ∀ d, (c.only d).validate = .ok ()

/-! ## First faults -/

section
variable {s : Spot} {xs ys : List Spot} {r r' : Option ConfigFault}

/-- At most one thing is wrong at a spot. -/
theorem FaultAt.unique {fault' : ConfigFault} (h : FaultAt c s fault) (h' : FaultAt c s fault') :
    fault = fault' := by
  cases h with
  | phrases | roles | context | pattern =>
    cases h'
    rfl
  | command there =>
    cases h' with
    | command there' => rw [Option.some.inj (there.symm.trans there')]
  | name there =>
    cases h' with
    | name there' => rw [Option.some.inj (there.symm.trans there')]

/-- Only one fault comes first. -/
theorem First.unique (h : First c xs r) (h' : First c xs r') : r = r' := by
  induction h with
  | nil =>
    cases h'
    rfl
  | here hfault =>
    cases h' with
    | here hfault' => rw [hfault.unique hfault']
    | later hnone => exact absurd hfault (hnone _)
  | later hnone more ih =>
    cases h' with
    | here hfault' => exact absurd hfault' (hnone _)
    | later hnone' more' => exact ih more'

/-- The first fault of two lists of spots is that of the first list, or else that of the second. -/
theorem First.append (h : First c xs r) (h' : First c ys r') : First c (xs ++ ys) (r.or r') := by
  induction h with
  | nil => exact h'
  | here hfault => exact .here hfault
  | later hnone more ih => exact .later hnone ih

/-- The first fault of all domains is that of the first domain that has one. -/
theorem First.flatMap {spotsOf : Domain → List Spot} {faultOf : Domain → Option ConfigFault}
    (h : ∀ d, First c (spotsOf d) (faultOf d)) (ds : List Domain) :
    First c (ds.flatMap spotsOf) (ds.findSome? faultOf) := by
  induction ds with
  | nil => exact .nil
  | cons d ds ih =>
    have hds := (h d).append ih
    rw [List.findSome?_cons]
    cases hd : faultOf d with
    | none => simpa [hd] using hds
    | some fault => simpa [hd] using hds

/-- A fault that is found is the fault at one of the spots. -/
theorem First.exists_faultAt (h : First c xs (some fault)) : ∃ s ∈ xs, FaultAt c s fault := by
  generalize hr : some fault = r at h
  induction h with
  | nil => cases hr
  | here hfault =>
    obtain rfl := Option.some.inj hr
    exact ⟨_, List.mem_cons_self, hfault⟩
  | later hnone more ih =>
    obtain ⟨s, hs, hfault⟩ := ih hr
    exact ⟨s, List.mem_cons_of_mem _ hs, hfault⟩

/-- A single spot, at which one thing can be wrong. -/
theorem first_singleton {P : Prop} [Decidable P] (h : ∀ fault', FaultAt c s fault' ↔ P ∧ fault' = fault) :
    First c [s] (if P then some fault else none) := by
  by_cases hP : P
  · rw [if_pos hP]
    exact .here ((h fault).2 ⟨hP, rfl⟩)
  · rw [if_neg hP]
    exact .later (fun fault' hfault => hP ((h fault').1 hfault).1) .nil

end

/-! ## The parts of the validation -/

/-- The first empty pattern is that of the first domain that has one. -/
theorem first_patterns (c : Config) (ds : List Domain) :
    First c (ds.map .pattern)
      ((ds.find? fun d => c.domains.get d = "").map fun d => .emptyPattern (DomainPatterns.field d)) := by
  induction ds with
  | nil => exact .nil
  | cons d ds ih =>
    by_cases hd : c.domains.get d = ""
    · rw [List.find?_cons_of_pos (by simpa using hd)]
      exact .here (.pattern hd)
    · rw [List.find?_cons_of_neg (by simpa using hd)]
      refine .later (fun fault hfault => ?_) ih
      cases hfault with
      | pattern empty => exact hd empty

/-- The formatters of a domain after some that were looked at and whose names were seen. -/
theorem first_formatters {d : Domain} {seen : List String} {before rest : List Formatter}
    (hsplit : c.formatters.get d = before ++ rest)
    (hseen : ∀ name, name ∈ seen ↔ name ∈ before.map Formatter.name) :
    First c (formatterSpots d before.length rest.length) (Formatters.faultIn? d seen rest) := by
  induction rest generalizing seen before with
  | nil => exact .nil
  | cons f rest ih =>
    have there : (c.formatters.get d)[before.length]? = some f := by simp [hsplit]
    have hspots : formatterSpots d before.length (f :: rest).length =
        .command d before.length :: .name d before.length ::
          formatterSpots d (before.length + 1) rest.length := rfl
    rw [hspots, Formatters.faultIn?]
    by_cases hcommand : f.command = []
    · rw [if_pos (by simpa using hcommand)]
      exact .here (.command there hcommand)
    rw [if_neg (by simpa using hcommand)]
    refine .later (fun fault hfault => ?_) ?_
    · cases hfault with
      | command there' empty =>
        obtain rfl := Option.some.inj (there.symm.trans there')
        exact hcommand empty
    by_cases hname : f.name ∈ seen
    · rw [if_pos (by simpa using hname)]
      obtain ⟨g, hg, hrepeated⟩ := List.mem_map.1 ((hseen f.name).1 hname)
      obtain ⟨m, hm, hget⟩ := List.mem_iff_getElem.1 hg
      refine .here (.name there (m := m) (g := g) ?_ hm hrepeated)
      rw [hsplit, List.getElem?_append_left hm, List.getElem?_eq_getElem hm, hget]
    · rw [if_neg (by simpa using hname)]
      refine .later (fun fault hfault => ?_) ?_
      · cases hfault with
        | @name _ m _ _ g there' hbefore earlier hrepeated =>
          obtain rfl := Option.some.inj (there.symm.trans there')
          rw [hsplit, List.getElem?_append_left earlier] at hbefore
          exact hname ((hseen _).2 (hrepeated ▸ List.mem_map_of_mem (List.mem_of_getElem? hbefore)))
      · have hrest : First c (formatterSpots d (before ++ [f]).length rest.length)
            (Formatters.faultIn? d (f.name :: seen) rest) :=
          ih (by simp [hsplit]) (by simp [hseen, or_comm])
        simpa using hrest

/-- The fault that is found is the first one. -/
theorem first_fault? (c : Config) : First c c.spots c.fault? := by
  have hphrases : First c [.phrases]
      (if c.trigger.mention = "" ∨ c.trigger.command = "" then some .emptyPhrase else none) :=
    first_singleton fun fault' => ⟨fun | .phrases empty => ⟨empty, rfl⟩,
      fun ⟨empty, heq⟩ => heq ▸ .phrases empty⟩
  have hroles : First c [.roles] (if c.trigger.trustedRoles = [] then some .noTrustedRole else none) :=
    first_singleton fun fault' => ⟨fun | .roles empty => ⟨empty, rfl⟩,
      fun ⟨empty, heq⟩ => heq ▸ .roles empty⟩
  have hcontext : First c [.context] (if c.status.context = "" then some .emptyContext else none) :=
    first_singleton fun fault' => ⟨fun | .context empty => ⟨empty, rfl⟩,
      fun ⟨empty, heq⟩ => heq ▸ .context empty⟩
  have hdomain (d : Domain) : First c (formatterSpots d 0 (c.formatters.get d).length)
      (Formatters.faultIn? d [] (c.formatters.get d)) :=
    first_formatters (List.nil_append _).symm (by simp)
  have hformatters := First.flatMap hdomain Domain.all
  have hall := (((hphrases.append hroles).append hcontext).append (first_patterns c Domain.all)).append
    hformatters
  have horder : c.fault? = ((((if c.trigger.mention = "" ∨ c.trigger.command = "" then
      some ConfigFault.emptyPhrase else none).or
        (if c.trigger.trustedRoles = [] then some .noTrustedRole else none)).or
        (if c.status.context = "" then some .emptyContext else none)).or c.domains.fault?).or
        c.formatters.fault? := by
    rw [fault?]
    split
    · rfl
    split
    · rfl
    split <;> rfl
  rw [horder]
  exact hall

/-- Without a fault, everything is there that the bot needs. -/
theorem fault?_eq_none_iff : c.fault? = none ↔ c.IsUsable := by
  have hpatterns : c.domains.fault? = none ↔ ∀ d, c.domains.get d ≠ "" := by
    simp [DomainPatterns.fault?, Domain.mem_all]
  have hformatters : c.formatters.fault? = none ↔ ∀ d,
      (∀ f ∈ c.formatters.get d, f.command ≠ []) ∧ ((c.formatters.get d).map Formatter.name).Nodup := by
    simp [Formatters.fault?, Domain.mem_all, Formatters.faultIn?_eq_none_iff]
  rw [fault?]
  constructor
  · intro h
    split at h
    · cases h
    next hphrases =>
    split at h
    · cases h
    next hroles =>
    split at h
    · cases h
    next hcontext =>
    obtain ⟨hpattern, hformatter⟩ := Option.or_eq_none_iff.1 h
    rw [not_or] at hphrases
    exact ⟨hphrases.1, hphrases.2, hroles, hcontext, hpatterns.1 hpattern,
      fun d => (hformatters.1 hformatter d).1, fun d => (hformatters.1 hformatter d).2⟩
  · intro h
    rw [if_neg (not_or.2 ⟨h.mention, h.command⟩), if_neg h.roles, if_neg h.context]
    exact Option.or_eq_none_iff.2 ⟨hpatterns.2 h.patterns,
      hformatters.2 fun d => ⟨h.commands d, h.names d⟩⟩

/-- A configuration is valid exactly when it can be used. -/
theorem validate_eq_ok_iff : c.validate = .ok () ↔ c.IsUsable := by
  rw [← fault?_eq_none_iff, validate]
  cases c.fault? <;> simp

/-- A configuration that cannot be used is refused for the first of its faults. -/
theorem validate_eq_error_iff {e : BotError} : c.validate = .error e ↔
    ∃ fault, e = .config fault ∧ First c c.spots (some fault) := by
  have hfirst (fault : ConfigFault) : First c c.spots (some fault) ↔ c.fault? = some fault :=
    ⟨fun h => (first_fault? c).unique h, fun h => h ▸ first_fault? c⟩
  simp only [hfirst]
  rw [validate]
  cases c.fault? <;> simp [eq_comm]

/-- A configuration that is cut down to a domain has the formatters of this domain. -/
theorem get_only (c : Config) (d e : Domain) :
    (c.only d).formatters.get e = if e = d then c.formatters.get e else [] := by
  cases e <;> rfl

/-- A configuration is usable when it is with the formatters of each domain alone. -/
theorem isUsable_iff_only : c.IsUsable ↔ ∀ d, (c.only d).IsUsable := by
  constructor
  · intro h d
    refine ⟨h.mention, h.command, h.roles, h.context, h.patterns, fun e => ?_, fun e => ?_⟩
    · rw [get_only]
      split
      · exact h.commands e
      · simp
    · rw [get_only]
      split
      · exact h.names e
      · simp
  · intro h
    have hself (d : Domain) : (c.only d).formatters.get d = c.formatters.get d := by simp [get_only]
    have hone := h .protocols
    exact ⟨hone.mention, hone.command, hone.roles, hone.context, hone.patterns,
      fun d => hself d ▸ (h d).commands d, fun d => hself d ▸ (h d).names d⟩

/-- A configuration is accepted exactly when it is usable, and else refused by its first fault. -/
theorem validates (c : Config) : Validates c where
  accepted_iff := validate_eq_ok_iff
  refused_iff _ := validate_eq_error_iff
  repeated d name h := by
    obtain ⟨fault, heq, hfirst⟩ := validate_eq_error_iff.1 h
    obtain rfl := BotError.config.inj heq
    obtain ⟨s, -, hfault⟩ := hfirst.exists_faultAt
    cases hfault with
    | @name _ m n f g there before earlier hrepeated =>
      exact ⟨m, n, g, f, earlier, before, there, hrepeated, rfl⟩
  separate := by
    simp only [validate_eq_ok_iff]
    exact isUsable_iff_only

/-- The first fault is the one that counts: here a command is missing before a name is repeated. -/
example : validate { formatters.webSource := [⟨"lint", ["true"], none, false⟩, ⟨"lint", [], none, false⟩] } =
    .error (.config (.emptyCommand .webSource "lint")) := by decide

end Autoformat.Config
