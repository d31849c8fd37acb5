import Autoformat.Config.Environment
import Autoformat.Proofs.RoundTrip

/-!
# Files that hold a part of the configuration

A configuration file holds any fields, in any order and among whatever else. `Config.IsPart` says which fields
of a configuration it holds, with a `Config.Choice` for the fields of all and of each section, and
`Config.restrict` is the configuration that the file gives (`Config.ofText_of_isPart`). There is such a file for
any choice (`Config.exists_isPart`).

`Members.HasChosen` is one field of a file, there or not. Each section is read from those of its fields, by its
`decode_of_isPart`.
-/

namespace Autoformat

open Json (Doc Items Members Wire decode encode)
open Json.Fields (foundIn_absent record_of_foundIn)

namespace Json

/-! ## Objects with some of their fields -/

/-- The value is a list with such items. -/
def Doc.IsList {α : Type} (P : α → Doc → Prop) (as : List α) (d : Doc) : Prop :=
  ∃ items, d = .list items ∧ List.Forall₂ P as items.docs

/-- Under a key that is chosen there is one such value, and under another there is none. -/
def Members.HasChosen (members : Members) (chosen : String → Bool) (key : String) (P : Doc → Prop) : Prop :=
  if chosen key then members.Has key P else members.values key = []

section
variable {α : Type} {members : Members} {chosen : String → Bool} {key : String} {P : Doc → Prop} {a b : α}
  {cut : Option α} {decode : Decoder α} {cs : List Char}

/-- A chosen field is read from its value, and another one is what it is by default. -/
theorem Members.HasChosen.foundIn (h : members.HasChosen chosen key P)
    (hread : ∀ x ∈ members.values key, P x → decode x = .ok a) :
    (Fields.field key decode (some b) cut).FoundIn members (if chosen key then a else b) := by
  cases hchosen : chosen key with
  | true =>
    simp only [HasChosen, hchosen, if_true] at h
    exact h.foundIn hread
  | false =>
    simp only [HasChosen, hchosen, Bool.false_eq_true, if_false] at h
    exact foundIn_absent h

/-- A field that may be left out is read as written where it is chosen, and has its default elsewhere. -/
theorem Members.HasChosen.foundIn_written [Wire α] [LawfulWire α]
    (h : members.HasChosen chosen key (IsWritten a)) :
    (Fields.defaulted key b).FoundIn members (if chosen key then a else b) :=
  h.foundIn fun _ _ => IsWritten.decode_eq

/-- In a selection of members, a key is found exactly where it is chosen. -/
theorem lookup_filter (chosen : String → Bool) (key : String) (written : List (String × Json)) :
    (written.filter fun m => chosen m.1).lookup key = if chosen key then written.lookup key else none := by
  induction written with
  | nil => simp
  | cons m written ih =>
    obtain ⟨key', x⟩ := m
    by_cases heq : key = key'
    · subst heq
      cases hchosen : chosen key <;> simp [hchosen, ih]
    · rw [List.filter_cons, List.lookup_cons, beq_eq_false_iff_ne.2 heq]
      split
      · rw [List.lookup_cons, beq_eq_false_iff_ne.2 heq]
        exact ih
      · exact ih

/-- Of members with different keys, the chosen ones may be written. -/
theorem hasChosen_filter {written : List (String × Json)} {x : Json} (nodup : (written.map Prod.fst).Nodup)
    (h : written.lookup key = some x) (hx : P (Doc.ofJson x)) :
    (Members.ofList (written.filter fun m => chosen m.1)).HasChosen chosen key P := by
  have hsublist : (written.filter fun m => chosen m.1).Sublist written := List.filter_sublist
  have hvalues := values_ofList (nodup.sublist (hsublist.map Prod.fst)) key
  rw [Json.written, lookup_filter, h] at hvalues
  cases hchosen : chosen key with
  | true =>
    simp only [hchosen, if_true] at hvalues
    simp only [Members.HasChosen, hchosen, if_true]
    exact ⟨_, hvalues, hx⟩
  | false => simpa [Members.HasChosen, hchosen] using hvalues

/-- A list may be written item by item. -/
theorem isList_ofJson {P : α → Doc → Prop} [Wire α] {as : List α} (h : ∀ a ∈ as, P a (Doc.ofJson (encode a))) :
    (Doc.ofJson (encode as)).IsList P as := by
  refine ⟨Items.ofList (as.map encode), rfl, ?_⟩
  induction as with
  | nil => exact .nil
  | cons a as ih => exact .cons (h a (by simp)) (ih fun b hb => h b (by simp [hb]))

/-- A list is read item by item. -/
theorem itemsAs_of_spelled {P : α → Doc → Prop} (hread : ∀ a x ds, Spelled x ds → P a x → decode x = .ok a)
    {first : Bool} {cs : List Char} (items : Items) (h : SpelledItems first items cs) {as : List α}
    (docs : List.Forall₂ P as items.docs) : Doc.itemsAs decode items = .ok as := by
  match items with
  | .done =>
    cases docs
    rfl
  | .fault f => cases h
  | .item x items =>
    cases h with
    | item separated value more =>
      obtain ⟨a, as, hx, hrest, rfl⟩ := List.forall₂_cons_right_iff.1 docs
      rw [Doc.itemsAs, hread a x _ value hx, ok_bind, itemsAs_of_spelled hread items more hrest]
      rfl

/-- A list is decoded item by item. -/
theorem asList_of_isList {P : α → Doc → Prop} (hread : ∀ a x ds, Spelled x ds → P a x → decode x = .ok a)
    {d : Doc} {as : List α} (h : Spelled d cs) (list : d.IsList P as) : Doc.asList decode d = .ok as := by
  obtain ⟨items, rfl, docs⟩ := list
  cases h with
  | list more => exact itemsAs_of_spelled hread items more docs

end

end Json

/-! ## Sections of a file -/

section
variable {chosen : String → Bool} {d : Doc} {cs : List Char}

/-- Such fields of a policy are among the members. -/
structure TriggerPolicy.AreAmong (p : TriggerPolicy) (chosen : String → Bool) (members : Members) : Prop where
  mention : members.HasChosen chosen "mention" (Json.IsWritten p.mention)
  command : members.HasChosen chosen "command" (Json.IsWritten p.command)
  trustedRoles : members.HasChosen chosen "trusted_roles" (Json.IsWritten p.trustedRoles)

/-- The default policy with some fields of another. -/
def TriggerPolicy.restrict (p : TriggerPolicy) (chosen : String → Bool) : TriggerPolicy :=
  let d : TriggerPolicy := {}
  { mention := if chosen "mention" then p.mention else d.mention
    command := if chosen "command" then p.command else d.command
    trustedRoles := if chosen "trusted_roles" then p.trustedRoles else d.trustedRoles }

/-- A part of a trigger policy is read, and the rest has its defaults. -/
theorem TriggerPolicy.decode_of_isPart {p : TriggerPolicy} (h : Json.Spelled d cs)
    (part : d.IsObject (p.AreAmong chosen)) : decode d = .ok (p.restrict chosen) := by
  obtain ⟨members, rfl, hp⟩ := part
  refine record_of_foundIn h ?_
  exact .seq (.seq (.map _ hp.mention.foundIn_written) hp.command.foundIn_written) hp.trustedRoles.foundIn_written

/-- A file may hold any fields of a policy. -/
theorem TriggerPolicy.exists_isPart (p : TriggerPolicy) (chosen : String → Bool) :
    ∃ j, (Doc.ofJson j).IsObject (p.AreAmong chosen) := by
  let written : List (String × Json) := [
    ("mention", encode p.mention),
    ("command", encode p.command),
    ("trusted_roles", encode p.trustedRoles)]
  have nodup : (written.map Prod.fst).Nodup := by simp [written]
  exact ⟨.object (written.filter fun m => chosen m.1), _, rfl, {
    mention := Json.hasChosen_filter nodup rfl rfl
    command := Json.hasChosen_filter nodup rfl rfl
    trustedRoles := Json.hasChosen_filter nodup rfl rfl }⟩

/-- Such patterns are among the members. -/
structure DomainPatterns.AreAmong (p : DomainPatterns) (chosen : String → Bool) (members : Members) : Prop where
  protocols : members.HasChosen chosen "protocols_prefix" (Json.IsWritten p.protocols)
  generalSource : members.HasChosen chosen "general_source_suffix" (Json.IsWritten p.generalSource)
  webSource : members.HasChosen chosen "web_source_prefix" (Json.IsWritten p.webSource)
  statSource : members.HasChosen chosen "stat_source_prefix" (Json.IsWritten p.statSource)

/-- The default patterns with some of others. -/
def DomainPatterns.restrict (p : DomainPatterns) (chosen : String → Bool) : DomainPatterns :=
  let d : DomainPatterns := {}
  { protocols := if chosen "protocols_prefix" then p.protocols else d.protocols
    generalSource := if chosen "general_source_suffix" then p.generalSource else d.generalSource
    webSource := if chosen "web_source_prefix" then p.webSource else d.webSource
    statSource := if chosen "stat_source_prefix" then p.statSource else d.statSource }

/-- A part of the patterns is read, and the rest has its defaults. -/
theorem DomainPatterns.decode_of_isPart {p : DomainPatterns} (h : Json.Spelled d cs)
    (part : d.IsObject (p.AreAmong chosen)) : decode d = .ok (p.restrict chosen) := by
  obtain ⟨members, rfl, hp⟩ := part
  refine record_of_foundIn h (.seq (.seq (.seq (.map _ ?_) ?_) ?_) ?_)
  · exact hp.protocols.foundIn_written
  · exact hp.generalSource.foundIn_written
  · exact hp.webSource.foundIn_written
  · exact hp.statSource.foundIn_written

/-- A file may hold any patterns. -/
theorem DomainPatterns.exists_isPart (p : DomainPatterns) (chosen : String → Bool) :
    ∃ j, (Doc.ofJson j).IsObject (p.AreAmong chosen) := by
  let written : List (String × Json) := [
    ("protocols_prefix", encode p.protocols),
    ("general_source_suffix", encode p.generalSource),
    ("web_source_prefix", encode p.webSource),
    ("stat_source_prefix", encode p.statSource)]
  have nodup : (written.map Prod.fst).Nodup := by simp [written]
  exact ⟨.object (written.filter fun m => chosen m.1), _, rfl, {
    protocols := Json.hasChosen_filter nodup rfl rfl
    generalSource := Json.hasChosen_filter nodup rfl rfl
    webSource := Json.hasChosen_filter nodup rfl rfl
    statSource := Json.hasChosen_filter nodup rfl rfl }⟩

/-- Such fields of a status are among the members. -/
structure StatusConfig.AreAmong (s : StatusConfig) (chosen : String → Bool) (members : Members) : Prop where
  context : members.HasChosen chosen "context" (Json.IsWritten s.context)
  reaction : members.HasChosen chosen "reaction" (Json.IsWritten s.reaction)

/-- The default status with some fields of another. -/
def StatusConfig.restrict (s : StatusConfig) (chosen : String → Bool) : StatusConfig :=
  let d : StatusConfig := {}
  { context := if chosen "context" then s.context else d.context
    reaction := if chosen "reaction" then s.reaction else d.reaction }

/-- A part of the section about statuses is read, and the rest has its defaults. -/
theorem StatusConfig.decode_of_isPart {s : StatusConfig} (h : Json.Spelled d cs)
    (part : d.IsObject (s.AreAmong chosen)) : decode d = .ok (s.restrict chosen) := by
  obtain ⟨members, rfl, hs⟩ := part
  refine record_of_foundIn h (.seq (.map _ ?_) ?_)
  · exact hs.context.foundIn_written
  · exact hs.reaction.foundIn_written

/-- A file may hold any fields of a status. -/
theorem StatusConfig.exists_isPart (s : StatusConfig) (chosen : String → Bool) :
    ∃ j, (Doc.ofJson j).IsObject (s.AreAmong chosen) := by
  let written : List (String × Json) := [
    ("context", encode s.context),
    ("reaction", encode s.reaction)]
  have nodup : (written.map Prod.fst).Nodup := by simp [written]
  exact ⟨.object (written.filter fun m => chosen m.1), _, rfl, {
    context := Json.hasChosen_filter nodup rfl rfl
    reaction := Json.hasChosen_filter nodup rfl rfl }⟩

/-- Such fields of a commit are among the members. -/
structure CommitConfig.AreAmong (c : CommitConfig) (chosen : String → Bool) (members : Members) : Prop where
  authorName : members.HasChosen chosen "author_name" (Json.IsWritten c.authorName)
  authorEmail : members.HasChosen chosen "author_email" (Json.IsWritten c.authorEmail)
  message : members.HasChosen chosen "message" (Json.IsWritten c.message)
  signoff : members.HasChosen chosen "signoff" (Json.IsWritten c.signoff)

/-- The default commit with some fields of another. -/
def CommitConfig.restrict (c : CommitConfig) (chosen : String → Bool) : CommitConfig :=
  let d : CommitConfig := {}
  { authorName := if chosen "author_name" then c.authorName else d.authorName
    authorEmail := if chosen "author_email" then c.authorEmail else d.authorEmail
    message := if chosen "message" then c.message else d.message
    signoff := if chosen "signoff" then c.signoff else d.signoff }

/-- A part of the section about commits is read, and the rest has its defaults. -/
theorem CommitConfig.decode_of_isPart {c : CommitConfig} (h : Json.Spelled d cs)
    (part : d.IsObject (c.AreAmong chosen)) : decode d = .ok (c.restrict chosen) := by
  obtain ⟨members, rfl, hc⟩ := part
  refine record_of_foundIn h (.seq (.seq (.seq (.map _ ?_) ?_) ?_) ?_)
  · exact hc.authorName.foundIn_written
  · exact hc.authorEmail.foundIn_written
  · exact hc.message.foundIn_written
  · exact hc.signoff.foundIn_written

/-- A file may hold any fields of a commit. -/
theorem CommitConfig.exists_isPart (c : CommitConfig) (chosen : String → Bool) :
    ∃ j, (Doc.ofJson j).IsObject (c.AreAmong chosen) := by
  let written : List (String × Json) := [
    ("author_name", encode c.authorName),
    ("author_email", encode c.authorEmail),
    ("message", encode c.message),
    ("signoff", encode c.signoff)]
  have nodup : (written.map Prod.fst).Nodup := by simp [written]
  exact ⟨.object (written.filter fun m => chosen m.1), _, rfl, {
    authorName := Json.hasChosen_filter nodup rfl rfl
    authorEmail := Json.hasChosen_filter nodup rfl rfl
    message := Json.hasChosen_filter nodup rfl rfl
    signoff := Json.hasChosen_filter nodup rfl rfl }⟩

/-- A formatter is among the members, which may leave out what goes without saying. -/
structure Formatter.IsAmong (f : Formatter) (chosen : String → Bool) (members : Members) : Prop where
  name : members.Has "name" (Json.IsWritten f.name)
  command : members.Has "command" (Json.IsWritten f.command)
  workingDir : members.HasChosen chosen "working_dir" (Json.IsWritten f.workingDir)
  allowFailure : members.HasChosen chosen "allow_failure" (Json.IsWritten f.allowFailure)
  somewhere (h : f.workingDir ≠ none) : chosen "working_dir" = true
  allowed (h : f.allowFailure = true) : chosen "allow_failure" = true

/-- The value is an object that says what the formatter is. -/
def Formatter.IsEntry (f : Formatter) (d : Doc) : Prop := ∃ chosen, d.IsObject (f.IsAmong chosen)

/-- An entry for a formatter is read as the formatter. -/
theorem Formatter.decode_of_isEntry {f : Formatter} (h : Json.Spelled d cs) (entry : f.IsEntry d) :
    decode d = .ok f := by
  obtain ⟨chosen, members, rfl, hf⟩ := entry
  have hdir : (if chosen "working_dir" then f.workingDir else none) = f.workingDir := by
    by_cases hnone : f.workingDir = none
    · simp [hnone]
    · rw [if_pos (hf.somewhere hnone)]
  have hallow : (if chosen "allow_failure" then f.allowFailure else false) = f.allowFailure := by
    cases hfalse : f.allowFailure with
    | false => simp
    | true => simp [hf.allowed hfalse]
  -- what may be left out is what it is without being said
  have hworkingDir := hf.workingDir.foundIn_written (b := none)
  have hallowFailure := hf.allowFailure.foundIn_written (b := false)
  rw [hdir] at hworkingDir
  rw [hallow] at hallowFailure
  refine record_of_foundIn h (.seq (.seq (.seq (.map _ ?_) ?_) hworkingDir) hallowFailure)
  · exact hf.name.foundIn_written
  · exact hf.command.foundIn_written

/-- A formatter as JSON is an entry for it. -/
theorem Formatter.isEntry_encode (f : Formatter) : f.IsEntry (Doc.ofJson (encode f)) := by
  let written : List (String × Json) := [
    ("name", encode f.name),
    ("command", encode f.command),
    ("working_dir", encode f.workingDir),
    ("allow_failure", encode f.allowFailure)]
  have nodup : (written.map Prod.fst).Nodup := by simp [written]
  exact ⟨fun _ => true, .ofList written, rfl, {
    name := ⟨_, Json.values_ofList nodup "name", rfl⟩
    command := ⟨_, Json.values_ofList nodup "command", rfl⟩
    workingDir := ⟨_, Json.values_ofList nodup "working_dir", rfl⟩
    allowFailure := ⟨_, Json.values_ofList nodup "allow_failure", rfl⟩
    somewhere := fun _ => rfl
    allowed := fun _ => rfl }⟩

/-- Such formatters are among the members, domain by domain. -/
structure Formatters.AreAmong (f : Formatters) (chosen : String → Bool) (members : Members) : Prop where
  protocols : members.HasChosen chosen "protocols" (Doc.IsList Formatter.IsEntry f.protocols)
  generalSource : members.HasChosen chosen "general_source" (Doc.IsList Formatter.IsEntry f.generalSource)
  webSource : members.HasChosen chosen "web_source" (Doc.IsList Formatter.IsEntry f.webSource)
  statSource : members.HasChosen chosen "stat_source" (Doc.IsList Formatter.IsEntry f.statSource)

/-- The default formatters with those of others in some domains. -/
def Formatters.restrict (f : Formatters) (chosen : String → Bool) : Formatters :=
  let d : Formatters := {}
  { protocols := if chosen "protocols" then f.protocols else d.protocols
    generalSource := if chosen "general_source" then f.generalSource else d.generalSource
    webSource := if chosen "web_source" then f.webSource else d.webSource
    statSource := if chosen "stat_source" then f.statSource else d.statSource }

/-- A part of the formatters is read, and the other domains have their defaults. -/
theorem Formatters.decode_of_isPart {f : Formatters} (h : Json.Spelled d cs)
    (part : d.IsObject (f.AreAmong chosen)) : decode d = .ok (f.restrict chosen) := by
  obtain ⟨members, rfl, hf⟩ := part
  have hread {key : String} {fs : List Formatter} (x : Doc) (hx : x ∈ members.values key)
      (list : x.IsList Formatter.IsEntry fs) : (decode x : Json.Decoded (List Formatter)) = .ok fs := by
    obtain ⟨ds, hds⟩ := h.exists_spelled_of_mem_values hx
    exact Json.asList_of_isList (fun f x ds => Formatter.decode_of_isEntry) hds list
  refine record_of_foundIn h (.seq (.seq (.seq (.map _ ?_) ?_) ?_) ?_)
  · exact hf.protocols.foundIn hread
  · exact hf.generalSource.foundIn hread
  · exact hf.webSource.foundIn hread
  · exact hf.statSource.foundIn hread

/-- A file may hold the formatters of any domains. -/
theorem Formatters.exists_isPart (f : Formatters) (chosen : String → Bool) :
    ∃ j, (Doc.ofJson j).IsObject (f.AreAmong chosen) := by
  let written : List (String × Json) := [
    ("protocols", encode f.protocols),
    ("general_source", encode f.generalSource),
    ("web_source", encode f.webSource),
    ("stat_source", encode f.statSource)]
  have nodup : (written.map Prod.fst).Nodup := by simp [written]
  exact ⟨.object (written.filter fun m => chosen m.1), _, rfl, {
    protocols := Json.hasChosen_filter nodup rfl (Json.isList_ofJson fun f _ => f.isEntry_encode)
    generalSource := Json.hasChosen_filter nodup rfl (Json.isList_ofJson fun f _ => f.isEntry_encode)
    webSource := Json.hasChosen_filter nodup rfl (Json.isList_ofJson fun f _ => f.isEntry_encode)
    statSource := Json.hasChosen_filter nodup rfl (Json.isList_ofJson fun f _ => f.isEntry_encode) }⟩

end

/-! ## Whole files -/

namespace Config

/-- The fields of a configuration that a file holds, in all and in each of the sections, by their keys. -/
structure Choice where
  top : String → Bool
  trigger : String → Bool
  domains : String → Bool
  status : String → Bool
  formatters : String → Bool
  commit : String → Bool

variable {c : Config} {choice : Choice}

/-- Such fields of a configuration are among the members. -/
structure AreAmong (c : Config) (choice : Choice) (members : Members) : Prop where
  trigger : members.HasChosen choice.top "trigger" (Doc.IsObject (c.trigger.AreAmong choice.trigger))
  domains : members.HasChosen choice.top "domains" (Doc.IsObject (c.domains.AreAmong choice.domains))
  status : members.HasChosen choice.top "status" (Doc.IsObject (c.status.AreAmong choice.status))
  formatters : members.HasChosen choice.top "formatters" (Doc.IsObject (c.formatters.AreAmong choice.formatters))
  commit : members.HasChosen choice.top "commit" (Doc.IsObject (c.commit.AreAmong choice.commit))
  stepTimeout : members.HasChosen choice.top "step_timeout_secs" (Json.IsWritten c.stepTimeout)

/-- The value is an object that holds just these fields of a configuration, in any order, among whatever else. -/
def IsPart (c : Config) (choice : Choice) (d : Doc) : Prop := d.IsObject (c.AreAmong choice)

/-- The default configuration with some fields of another. -/
def restrict (c : Config) (choice : Choice) : Config :=
  let d : Config := {}
  { trigger := if choice.top "trigger" then c.trigger.restrict choice.trigger else d.trigger
    domains := if choice.top "domains" then c.domains.restrict choice.domains else d.domains
    status := if choice.top "status" then c.status.restrict choice.status else d.status
    formatters := if choice.top "formatters" then c.formatters.restrict choice.formatters else d.formatters
    commit := if choice.top "commit" then c.commit.restrict choice.commit else d.commit
    stepTimeout := if choice.top "step_timeout_secs" then c.stepTimeout else d.stepTimeout }

/-- A part of a configuration is read, and the rest has its defaults. -/
theorem decode_of_isPart {d : Doc} {cs : List Char} (h : Json.Spelled d cs) (part : c.IsPart choice d) :
    decode d = .ok (c.restrict choice) := by
  obtain ⟨members, rfl, hc⟩ := part
  have hspelled {key : String} (x : Doc) (hx : x ∈ members.values key) :=
    h.exists_spelled_of_mem_values hx
  refine record_of_foundIn h (.seq (.seq (.seq (.seq (.seq (.map _ ?_) ?_) ?_) ?_) ?_) ?_)
  · exact hc.trigger.foundIn fun x hx => TriggerPolicy.decode_of_isPart (hspelled x hx).choose_spec
  · exact hc.domains.foundIn fun x hx => DomainPatterns.decode_of_isPart (hspelled x hx).choose_spec
  · exact hc.status.foundIn fun x hx => StatusConfig.decode_of_isPart (hspelled x hx).choose_spec
  · exact hc.formatters.foundIn fun x hx => Formatters.decode_of_isPart (hspelled x hx).choose_spec
  · exact hc.commit.foundIn fun x hx => CommitConfig.decode_of_isPart (hspelled x hx).choose_spec
  · exact hc.stepTimeout.foundIn_written

/-- A file may hold any fields of a configuration. -/
theorem exists_isPart (c : Config) (choice : Choice) : ∃ d text, d.Spells text ∧ c.IsPart choice d := by
  obtain ⟨trigger, htrigger⟩ := c.trigger.exists_isPart choice.trigger
  obtain ⟨domains, hdomains⟩ := c.domains.exists_isPart choice.domains
  obtain ⟨status, hstatus⟩ := c.status.exists_isPart choice.status
  obtain ⟨formatters, hformatters⟩ := c.formatters.exists_isPart choice.formatters
  obtain ⟨commit, hcommit⟩ := c.commit.exists_isPart choice.commit
  let written : List (String × Json) := [
    ("trigger", trigger),
    ("domains", domains),
    ("status", status),
    ("formatters", formatters),
    ("commit", commit),
    ("step_timeout_secs", encode c.stepTimeout)]
  have nodup : (written.map Prod.fst).Nodup := by simp [written]
  refine ⟨_, _, Json.spells_compact (.object (written.filter fun m => choice.top m.1)), _, rfl, {
    trigger := Json.hasChosen_filter nodup rfl htrigger
    domains := Json.hasChosen_filter nodup rfl hdomains
    status := Json.hasChosen_filter nodup rfl hstatus
    formatters := Json.hasChosen_filter nodup rfl hformatters
    commit := Json.hasChosen_filter nodup rfl hcommit
    stepTimeout := Json.hasChosen_filter nodup rfl rfl }⟩

/-- A file gives the default configuration with the fields replaced that it holds. -/
theorem ofText_of_isPart {d : Doc} {text : String} (h : d.Spells text) (part : c.IsPart choice d) :
    ofText text = .ok (c.restrict choice) := by
  obtain ⟨cs, hd⟩ := h.exists_spelled
  rw [ofText, Json.parse, Json.parseWith_of_spells h, decode_of_isPart hd part]
  rfl

end Config

end Autoformat
