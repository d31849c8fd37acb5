import Autoformat.Config.Environment
import Autoformat.Proofs.Actions
import Autoformat.Proofs.Fields
import Mathlib.Data.List.Nodup

/-!
# Whom a configuration trusts

The roles that are trusted and the association of a commenter are words in two texts, the configuration
file and the payload. Both are read as associations before they are compared, and a word that names none
is read as `NONE` in either text. `TrustsNamed` says what is left of the comparison of the words:
whoever the file names is trusted, and nobody else, except that a role that names no association lets
in those whose association is read as `NONE`.

`trustsNamed_of_load` says so of every file that is accepted and every payload. It needs no more of the two
texts than the two fields (`Config.trustedRoles?`, `Comment.association?`), and `not_trustsExactly` shows
that the words themselves do not decide.
-/

namespace Autoformat

open Json (Doc Fields decode)

/-- What is found for a word has it as its name. -/
theorem Named.name_of_ofName? {α : Type} [Named α] {s : String} {a : α} (h : ofName? s = some a) :
    name a = s := by
  obtain ⟨before, after, hwords, -⟩ := List.lookup_eq_some_iff.1 h
  have hmem : (s, a) ∈ words (α := α) := by simp [hwords]
  obtain ⟨b, -, hb⟩ := List.mem_map.1 hmem
  cases hb
  rfl

namespace Association

/-- The names of the associations. -/
def names : List String := (Named.all : List Association).map name

/-- The association that is read for a word. -/
def ofWord (word : String) : Association := (Named.ofName? word).getD .other

/-- The name that is read for a word: the word itself, or `NONE` when it names no association. -/
def reading (word : String) : String := if word ∈ names then word else "NONE"

/-- No association is found exactly for a word that is no name of one. -/
theorem ofName?_eq_none_iff {word : String} :
    (Named.ofName? word : Option Association) = none ↔ word ∉ names := by
  rw [Named.ofName?, List.lookup_eq_none_iff]
  simp [Named.words, names, Named.name, @eq_comm _ word]

/-- A word names the association that it is read as. -/
theorem name_ofWord (word : String) : (ofWord word).name = reading word := by
  rw [ofWord, reading]
  cases h : (Named.ofName? word : Option Association) with
  | none => rw [if_neg (ofName?_eq_none_iff.1 h)]; rfl
  | some a =>
    have hname : word ∈ names := Decidable.byContradiction fun hn => by
      rw [ofName?_eq_none_iff.2 hn] at h
      cases h
    rw [if_pos hname]
    exact Named.name_of_ofName? h

/-- The name of an association is read as the association. -/
theorem ofWord_name (a : Association) : ofWord a.name = a := by cases a <;> decide

/-- Two words are read as one association exactly when they are read as one name. -/
theorem ofWord_eq_iff {word word' : String} :
    ofWord word = ofWord word' ↔ reading word = reading word' := by
  rw [← name_ofWord, ← name_ofWord]
  exact ⟨congrArg name, fun h => by rw [← ofWord_name (ofWord word), h, ofWord_name]⟩

/-- A name is read as itself. -/
theorem reading_of_mem {word : String} (h : word ∈ names) : reading word = word := if_pos h

/-- A word that is not read as `NONE` is a name. -/
theorem mem_names_of_reading {word : String} (h : reading word ≠ "NONE") : word ∈ names :=
  Decidable.byContradiction fun hn => h (if_neg hn)

/-- Every word is read as a name. -/
theorem reading_mem_names (word : String) : reading word ∈ names := by
  rw [reading]
  split
  · assumption
  · decide

/-- An association is decoded from any string. -/
theorem decode_string (word : String) :
    (decode (.string (.ok word)) : Json.Decoded Association) = .ok (ofWord word) := by
  show Doc.wordAs Named.words (some other) (.ok word) = _
  rw [ofWord, Named.ofName?, Doc.wordAs]
  cases h : (Named.words (α := Association)).lookup word <;>
    simp [Json.decodedText, h, bind, Except.bind] <;> rfl

end Association

open Association

/-- Whether someone is trusted, in the words of the configuration file and of the payload. -/
structure TrustsNamed (roles : List String) (word : String) (authorized : Prop) : Prop where
  /-- The words of the file are trusted. -/
  of_mem : word ∈ roles → authorized
  /-- A word that names no association is trusted with `NONE`. -/
  of_reading_mem : reading word ∈ roles → authorized
  /-- Nobody else is, unless a role names no association and the word is read as `NONE`. -/
  mem_of : authorized → (∀ role ∈ roles, role ∈ names) ∨ reading word ≠ "NONE" → reading word ∈ roles

/-- A policy whose roles come from words trusts those who are read as one of them. -/
theorem trustsNamed_ofWord {policy : TriggerPolicy} {roles : List String}
    (hroles : policy.trustedRoles = roles.map ofWord) (word : String) :
    TrustsNamed roles word (policy.isAuthorized (ofWord word) = true) := by
  have authorized_iff : policy.isAuthorized (ofWord word) = true ↔
      ∃ role ∈ roles, reading role = reading word := by
    simp [TriggerPolicy.isAuthorized, hroles, ofWord_eq_iff]
  refine ⟨fun h => ?_, fun h => ?_, fun h hread => ?_⟩
  · exact authorized_iff.2 ⟨word, h, rfl⟩
  · exact authorized_iff.2 ⟨_, h, reading_of_mem (reading_mem_names word)⟩
  · obtain ⟨role, hrole, heq⟩ := authorized_iff.1 h
    have hname : role ∈ names := hread.elim (· role hrole) fun hne => mem_names_of_reading (heq ▸ hne)
    rw [← heq, reading_of_mem hname]
    exact hrole

/-! ## The two texts -/

/-- The trusted roles that a configuration file lists. -/
def Config.trustedRoles? (text : String) : Option (List String) := do
  let trigger ← (Doc.ofText text).field? "trigger" 0
  let roles ← trigger.field? "trusted_roles" 2
  roles.texts?

/-- The association of the commenter in a payload. -/
def Comment.association? (text : String) : Option String := do
  let comment ← (Doc.ofText text).field? "comment" 1
  let association ← comment.field? "author_association" 3
  association.text?

/-- The trusted roles of a policy are those of its field. -/
theorem TriggerPolicy.decode_trustedRoles {doc x : Doc} {policy : TriggerPolicy}
    (h : decode doc = .ok policy) (hx : doc.field? "trusted_roles" 2 = some x) :
    decode x = .ok policy.trustedRoles := by
  obtain ⟨s, s', hgives, hfind⟩ := Fields.exists_gives h
  simp only [Fields.gives_seq_iff, Fields.gives_map_iff] at hgives
  obtain ⟨_, _, _, ⟨_, _, _, ⟨_, hmention, rfl⟩, hcommand, rfl⟩, hroles, rfl⟩ := hgives
  refine hroles.value ?_
  rw [hcommand.find?_eq, hmention.find?_eq, hfind _ _ rfl, hx]

/-- The trigger policy of a configuration is that of its field. -/
theorem Config.decode_trigger {doc x : Doc} {config : Config} (h : decode doc = .ok config)
    (hx : doc.field? "trigger" 0 = some x) : decode x = .ok config.trigger := by
  obtain ⟨s, s', hgives, hfind⟩ := Fields.exists_gives h
  simp only [Fields.gives_seq_iff, Fields.gives_map_iff] at hgives
  obtain ⟨_, _, _, ⟨_, _, _, ⟨_, _, _, ⟨_, _, _, ⟨_, _, _, ⟨_, htrigger, rfl⟩, -, rfl⟩, -, rfl⟩,
    -, rfl⟩, -, rfl⟩, -, rfl⟩ := hgives
  refine htrigger.value ?_
  rw [hfind _ _ rfl, hx]

/-- The association of a comment is that of its field. -/
theorem Comment.decode_association {doc x : Doc} {comment : PayloadComment}
    (h : payloadComment doc = .ok comment) (hx : doc.field? "author_association" 3 = some x) :
    decode x = .ok comment.association := by
  obtain ⟨s, s', hgives, hfind⟩ := Fields.exists_gives h
  simp only [Fields.gives_seq_iff, Fields.gives_map_iff] at hgives
  obtain ⟨_, _, _, ⟨_, _, _, ⟨_, _, _, ⟨_, hid, rfl⟩, hbody, rfl⟩, huser, rfl⟩, hassociation, rfl⟩ :=
    hgives
  refine hassociation.value ?_
  rw [huser.find?_eq, hbody.find?_eq, hid.find?_eq, hfind _ _ rfl, hx]

/-- The association of an event is that of its comment. -/
theorem Comment.exists_payloadComment {doc x : Doc} {c : Comment} (h : payload doc = .ok c)
    (hx : doc.field? "comment" 1 = some x) :
    ∃ comment, payloadComment x = .ok comment ∧ comment.association = c.association := by
  obtain ⟨s, s', hgives, hfind⟩ := Fields.exists_gives h
  simp only [Fields.gives_seq_iff, Fields.gives_map_iff] at hgives
  obtain ⟨_, _, _, ⟨_, _, _, ⟨_, _, comment, ⟨_, haction, rfl⟩, hcomment, rfl⟩, -, rfl⟩, -, rfl⟩ :=
    hgives
  refine ⟨comment, hcomment.value ?_, rfl⟩
  rw [haction.find?_eq, hfind _ _ rfl, hx]

/-- The environment leaves the trusted roles as they are. -/
theorem Config.override_trustedRoles (config : Config) (env : Environment) :
    (config.override env).1.trigger.trustedRoles = config.trigger.trustedRoles := by
  unfold Config.override
  dsimp only
  split
  · rfl
  · split <;> rfl

/-- The trusted roles of a configuration are those of its file; no variable changes them. -/
theorem Config.exists_base_of_load {text : String} {env : Environment} {config : Config}
    (h : Config.load (some (.ok text)) env = .ok config) : ∃ base : Config,
      decode (Doc.ofText text) = .ok base ∧
        config.trigger.trustedRoles = base.trigger.trustedRoles := by
  obtain ⟨base, hbase, h⟩ := Json.bind_eq_ok_iff.1 h
  refine ⟨base, Json.decode_of_parseWith (Json.mapError_eq_ok_iff.1 hbase), ?_⟩
  obtain ⟨-, h⟩ := Json.then_eq_ok_iff.1 h
  obtain ⟨-, h⟩ := Json.then_eq_ok_iff.1 h
  cases h
  exact Config.override_trustedRoles base env

/-- A configuration that loads trusts the roles that its file names. -/
theorem Config.trustedRoles_of_load {text : String} {env : Environment} {config : Config}
    {roles : List String} (h : Config.load (some (.ok text)) env = .ok config)
    (hroles : Config.trustedRoles? text = some roles) :
    config.trigger.trustedRoles = roles.map ofWord := by
  obtain ⟨base, hbase, heq⟩ := Config.exists_base_of_load h
  obtain ⟨trigger, htrigger, hroles⟩ := Option.bind_eq_some_iff.1 hroles
  obtain ⟨x, hx, hroles⟩ := Option.bind_eq_some_iff.1 hroles
  have hread := TriggerPolicy.decode_trustedRoles (Config.decode_trigger hbase htrigger) hx
  have hwords := Json.asList_of_texts? decode_string hroles
  rw [heq]
  exact Except.ok.inj (hread.symm.trans hwords)

/-- An event has the association that its payload names. -/
theorem Comment.association_of_payload {text word : String} {c : Comment}
    (h : Comment.ofPayload text = .ok c) (hword : Comment.association? text = some word) :
    c.association = ofWord word := by
  obtain ⟨comment, hcomment, hword⟩ := Option.bind_eq_some_iff.1 hword
  obtain ⟨x, hx, hword⟩ := Option.bind_eq_some_iff.1 hword
  have hc := Json.decode_of_parseWith (Json.mapError_eq_ok_iff.1 h)
  obtain ⟨part, hpart, heq⟩ := Comment.exists_payloadComment hc hcomment
  have hread := Comment.decode_association hpart hx
  rw [Json.eq_string_of_text? hword, decode_string] at hread
  rw [← heq]
  exact (Except.ok.inj hread).symm

/-! ## Decisions about comments -/

namespace Bot

/-- A decision trusts exactly those whom the policy trusts. -/
theorem authorized_of_ends_assess {policy : TriggerPolicy} {c : Comment} {t : Trace} {e : Evaluation}
    (h : Ends (assess policy c) t (.ok e)) : e.authorized = policy.isAuthorized c.association := by
  rcases ends_assess_iff.1 h with ⟨_, _, _, hr⟩ | ⟨_, _, _, hr⟩ | ⟨_, pr, _, hr⟩
  · cases hr
  · cases hr
  · cases hr
    rfl

/-- An evaluation trusts exactly those whom the policy trusts. -/
theorem authorized_of_ends_evaluate {policy : TriggerPolicy} {settings : StatusSettings}
    {reaction : Reaction} {c : Comment} {t : Trace} {e : Evaluation}
    (h : Ends (evaluate policy settings reaction c) t (.ok e)) :
    e.authorized = policy.isAuthorized c.association := by
  rcases ends_bind_iff.1 h with ⟨_, hr, _⟩ | ⟨u, v, e', rfl, hassess, h⟩
  · cases hr
  · suffices heq : e = e' from heq ▸ authorized_of_ends_assess hassess
    split at h
    · rcases ends_bind_iff.1 h with ⟨_, hr, _⟩ | ⟨_, _, ⟨⟩, _, _, h⟩
      · cases hr
      · exact Except.ok.inj (ends_pure_iff.1 h).2
    · exact Except.ok.inj (ends_pure_iff.1 h).2

end Bot

/-! ## Example texts -/

/-- A configuration file that trusts one role. -/
def exampleFile (role : String) : String :=
  "\x7b\"trigger\":\x7b\"trusted_roles\":[\"" ++ role ++ "\"]\x7d\x7d"

/-- The payload of a guest's comment, with the association given. -/
def examplePayload (word : String) : String :=
  "\x7b\"comment\":\x7b\"id\":41,\"user\":\x7b\"login\":\"guest\"\x7d,\"author_association\":\"" ++ word ++
    "\"\x7d,\"issue\":\x7b\"number\":7,\"pull_request\":\x7b\x7d\x7d," ++
    "\"repository\":\x7b\"full_name\":\"octo/demo\"\x7d\x7d"

/-- A configuration that trusts those without an association. -/
def openConfig : Config := { trigger.trustedRoles := [.other] }

/-- The comment of a guest without an association. -/
def guestComment : Comment where
  repository := "octo/demo"
  issueNumber := 7
  isPullRequest := true
  action := "created"
  id := 41
  author := "guest"
  association := .other
  body := ""

/-- The example file with the role `NONE` loads. -/
theorem load_none : Config.load (some (.ok (exampleFile "NONE"))) (fun _ => none) = .ok openConfig ∧
    Config.trustedRoles? (exampleFile "NONE") = some ["NONE"] := by decide +kernel

/-- The example file with a misspelt role loads as the same configuration. -/
theorem load_misspelt :
    Config.load (some (.ok (exampleFile "OWNR"))) (fun _ => none) = .ok openConfig ∧
      Config.trustedRoles? (exampleFile "OWNR") = some ["OWNR"] := by decide +kernel

/-- The example payload of a guest is read. -/
theorem ofPayload_none : Comment.ofPayload (examplePayload "NONE") = .ok guestComment ∧
    Comment.association? (examplePayload "NONE") = some "NONE" := by decide +kernel

/-- The example payload with an unknown association is read as the same event. -/
theorem ofPayload_unknown :
    Comment.ofPayload (examplePayload "SOMETHING_NEW") = .ok guestComment ∧
      Comment.association? (examplePayload "SOMETHING_NEW") = some "SOMETHING_NEW" := by decide +kernel

/-! ## Trust in names -/

/-- Trust fails closed: whatever the environment, a file that is accepted trusts whom it names, by the
names that are read for the words of both texts, and each decision about the comment says so. -/
theorem trustsNamed_of_load {text payload : String} {env : Environment} {config : Config} {c : Comment}
    {roles : List String} {word : String} (hload : Config.load (some (.ok text)) env = .ok config)
    (hroles : Config.trustedRoles? text = some roles) (hpayload : Comment.ofPayload payload = .ok c)
    (hword : Comment.association? payload = some word) :
    TrustsNamed roles word (config.trigger.isAuthorized c.association = true) ∧
      ∀ (settings : StatusSettings) (reaction : Reaction) (t : Bot.Trace) (e : Evaluation),
        Bot.Ends (Bot.assess config.trigger c) t (.ok e) ∨
          Bot.Ends (Bot.evaluate config.trigger settings reaction c) t (.ok e) →
        e.authorized = config.trigger.isAuthorized c.association := by
  refine ⟨?_, fun settings reaction t e h => ?_⟩
  · rw [Comment.association_of_payload hpayload hword]
    exact trustsNamed_ofWord (Config.trustedRoles_of_load hload hroles) word
  · exact h.elim Bot.authorized_of_ends_assess Bot.authorized_of_ends_evaluate

/-- A file that trusts `NONE`, and a comment with an association that is not known here. -/
theorem trustsNamed_of_load_example :
    Config.load (some (.ok (exampleFile "NONE"))) (fun _ => none) = .ok openConfig ∧
      Comment.ofPayload (examplePayload "SOMETHING_NEW") = .ok guestComment ∧
      TrustsNamed ["NONE"] "SOMETHING_NEW"
        (openConfig.trigger.isAuthorized guestComment.association = true) :=
  ⟨load_none.1, ofPayload_unknown.1,
    (trustsNamed_of_load load_none.1 load_none.2 ofPayload_unknown.1 ofPayload_unknown.2).1⟩

/-- Nobody is trusted but in the very word that the file lists. -/
def TrustsExactly (roles : List String) (word : String) : Prop :=
  ∀ (text payload : String) (env : Environment) (config : Config) (c : Comment),
    Config.load (some (.ok text)) env = .ok config → Config.trustedRoles? text = some roles →
      Comment.ofPayload payload = .ok c → Comment.association? payload = some word →
        (config.trigger.isAuthorized c.association = true ↔ word ∈ roles)

/-- The words alone do not decide: a file that trusts `NONE` lets in whoever has an association that is not
known here, and one with a misspelt role lets in those who have none. -/
theorem not_trustsExactly :
    ¬TrustsExactly ["NONE"] "SOMETHING_NEW" ∧ ¬TrustsExactly ["OWNR"] "NONE" := by
  have admitted : openConfig.trigger.isAuthorized guestComment.association = true := by decide
  constructor
  · intro hexact
    have named := (hexact _ _ _ _ _ load_none.1 load_none.2 ofPayload_unknown.1 ofPayload_unknown.2).1
      admitted
    exact absurd named (by decide)
  · intro hexact
    have named := (hexact _ _ _ _ _ load_misspelt.1 load_misspelt.2 ofPayload_none.1
      ofPayload_none.2).1 admitted
    exact absurd named (by decide)

end Autoformat
