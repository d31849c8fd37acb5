import Autoformat.Proofs.FileParts
import Autoformat.Proofs.Validation
import Mathlib.Data.List.TakeWhile

/-!
# The layers of a configuration

A configuration lies in three layers: the default one, a file that may hold some of the fields, and four
variables of the environment. `Config.Layers` says how they lie on one another. A file replaces just the fields
that it holds, the variables replace just the four that are theirs (`Config.LiesOn`), and what is validated is
the outcome.

`Config.SpellsSeconds` is how the variable of the timeout is written. `Config.parseSeconds_eq_some_iff` says that
this is what is read.
-/

namespace Autoformat

open Json (Doc)

/-! ## Numbers in variables -/

namespace Text

/-- A digit is not blank. -/
theorem isBlank_of_isDigit {c : Char} (h : c.isDigit = true) : isBlank c = false := by
  have hrange : 48 ≤ c.toNat ∧ c.toNat ≤ 57 := by simpa [Char.isDigit, UInt32.le_iff_toNat_le] using h
  obtain ⟨hlow, hhigh⟩ := hrange
  simp only [isBlank, Bool.or_eq_false_iff, Bool.and_eq_false_imp, decide_eq_true_eq, decide_eq_false_iff_not,
    not_le, beq_eq_false_iff_ne, ne_eq]
  omega

/-- A text that does not begin with a blank keeps its beginning. -/
theorem dropWhile_isBlank_eq_self {cs : List Char} (h : ∀ c ∈ cs.head?, isBlank c = false) :
    cs.dropWhile isBlank = cs := by
  cases cs with
  | nil => rfl
  | cons c cs => exact List.dropWhile_cons_of_neg (by simp [h c rfl])

/-- What is left of a text between blanks that neither begins nor ends with one. -/
theorem trimChars_eq {before core after : List Char} (blank : ∀ c ∈ before, isBlank c = true)
    (blank' : ∀ c ∈ after, isBlank c = true) (nonempty : core ≠ [])
    (first : ∀ c ∈ core.head?, isBlank c = false) (last : ∀ c ∈ core.getLast?, isBlank c = false) :
    trimChars (before ++ core ++ after) = core := by
  have hfront : (core ++ after).dropWhile isBlank = core ++ after :=
    dropWhile_isBlank_eq_self (by rwa [List.head?_append_of_ne_nil core nonempty])
  have hback : core.reverse.dropWhile isBlank = core.reverse :=
    dropWhile_isBlank_eq_self (by rwa [List.head?_reverse])
  rw [trimChars, List.append_assoc, List.dropWhile_append_of_pos blank, hfront, List.reverse_append,
    List.dropWhile_append_of_pos fun c hc => blank' c (List.mem_reverse.1 hc), hback, List.reverse_reverse]

/-- A text is what is left of it between blanks. -/
theorem exists_eq_trimChars (cs : List Char) : ∃ before after, cs = before ++ trimChars cs ++ after ∧
    (∀ c ∈ before, isBlank c = true) ∧ ∀ c ∈ after, isBlank c = true := by
  refine ⟨cs.takeWhile isBlank, ((cs.dropWhile isBlank).reverse.takeWhile isBlank).reverse, ?_,
    fun c hc => List.mem_takeWhile_imp hc, fun c hc => List.mem_takeWhile_imp (List.mem_reverse.1 hc)⟩
  rw [trimChars, List.append_assoc, ← List.reverse_append, List.takeWhile_append_dropWhile,
    List.reverse_reverse, List.takeWhile_append_dropWhile]

end Text

namespace Decimal

/-- A number without its plus sign, where it has one. -/
theorem exists_eq_dropPlus (cs : List Char) : ∃ sign, (sign = [] ∨ sign = ['+']) ∧ cs = sign ++ dropPlus cs := by
  fun_cases dropPlus cs with
  | case1 cs => exact ⟨['+'], .inr rfl, rfl⟩
  | case2 cs => exact ⟨[], .inl rfl, rfl⟩

/-- One sign may stand before the digits. -/
theorem dropPlus_append {sign ds : List Char} (h : sign = [] ∨ sign = ['+']) (digits : Json.Digits ds) :
    dropPlus (sign ++ ds) = ds := by
  obtain ⟨c, cs, rfl, hc⟩ := digits.exists_cons
  rcases h with rfl | rfl
  · refine dropPlus.eq_2 _ fun ds heq => ?_
    cases heq
    cases hc
  · rfl

/-- A number is read from digits after a sign at most, when it is small enough. -/
theorem word?_eq_some_iff {cs : List Char} {n : UInt64} :
    word? cs = some n ↔ Json.Digits (dropPlus cs) ∧ ofDigits (dropPlus cs) = n.toNat := by
  have hdigits : (!(dropPlus cs).isEmpty && (dropPlus cs).all Char.isDigit) = true ↔ Json.Digits (dropPlus cs) := by
    simp [Json.Digits]
  simp only [word?, Bool.and_eq_true, hdigits, decide_eq_true_eq, Option.ite_none_right_eq_some, Option.some.injEq]
  constructor
  · rintro ⟨⟨decimal, hsize⟩, rfl⟩
    exact ⟨decimal, (UInt64.toNat_ofNat_of_lt hsize).symm⟩
  · rintro ⟨decimal, hvalue⟩
    exact ⟨⟨decimal, hvalue ▸ n.toNat_lt⟩, by rw [hvalue, UInt64.ofNat_toNat]⟩

end Decimal

namespace Config

/-- A number of seconds in a variable: decimal digits, with or without a plus sign, between blanks. -/
inductive SpellsSeconds (n : UInt64) (text : String) : Prop where
  | mk {before sign digits after : List Char} (chars : text.toList = before ++ (sign ++ digits) ++ after)
    (blank : ∀ c ∈ before, Text.isBlank c = true) (blank' : ∀ c ∈ after, Text.isBlank c = true)
    (signed : sign = [] ∨ sign = ['+']) (decimal : Json.Digits digits) (value : Decimal.ofDigits digits = n.toNat)

/-- Seconds are read from just the texts that spell them. -/
theorem parseSeconds_eq_some_iff {text : String} {n : UInt64} :
    parseSeconds text = some n ↔ SpellsSeconds n text := by
  rw [parseSeconds, Decimal.word?_eq_some_iff]
  constructor
  · rintro ⟨decimal, value⟩
    obtain ⟨before, after, hchars, blank, blank'⟩ := Text.exists_eq_trimChars text.toList
    obtain ⟨sign, signed, hcore⟩ := Decimal.exists_eq_dropPlus (Text.trimChars text.toList)
    rw [hcore] at hchars
    exact .mk hchars blank blank' signed decimal value
  · rintro ⟨chars, blank, blank', signed, decimal, value⟩
    rename_i before sign digits after
    have htrim : Text.trimChars text.toList = sign ++ digits := by
      rw [chars]
      refine Text.trimChars_eq blank blank' (by simp [decimal.1]) ?_ ?_
      · obtain ⟨c, cs, rfl, hc⟩ := decimal.exists_cons
        rcases signed with rfl | rfl
        · simpa using Text.isBlank_of_isDigit hc
        · exact fun c hplus => Option.some.inj hplus ▸ rfl
      · intro c hc
        rw [List.getLast?_append_of_ne_nil _ decimal.1] at hc
        exact Text.isBlank_of_isDigit (decimal.2 c (List.mem_of_getLast? hc))
    rw [htrim, Decimal.dropPlus_append signed decimal]
    exact ⟨decimal, value⟩

/-! ## The environment over a file -/

variable {file : Option (Except FileError String)} {env : Environment} {base config c : Config}

/-- The configuration of a file, and the default one without a file. -/
def IsBase : Option (Except FileError String) → Config → Prop
  | none, base => base = {}
  | some (.ok text), base => ofText text = .ok base
  | some (.error _), _ => False

/-- A configuration in which four fields are those of the environment, as far as it sets them, and all else is as
in the configuration below. -/
structure LiesOn (config base : Config) (env : Environment) : Prop where
  mention : config.trigger.mention = (env "AUTOFORMAT_MENTION").getD base.trigger.mention
  command : config.trigger.command = (env "AUTOFORMAT_COMMAND").getD base.trigger.command
  context : config.status.context = (env "AUTOFORMAT_STATUS_CONTEXT").getD base.status.context
  set (text : String) (h : env "AUTOFORMAT_STEP_TIMEOUT" = some text) : SpellsSeconds config.stepTimeout text
  unset (h : env "AUTOFORMAT_STEP_TIMEOUT" = none) : config.stepTimeout = base.stepTimeout
  trustedRoles : config.trigger.trustedRoles = base.trigger.trustedRoles
  reaction : config.status.reaction = base.status.reaction
  domains : config.domains = base.domains
  formatters : config.formatters = base.formatters
  commit : config.commit = base.commit

/-- The configuration without the phrases and the status that the environment can give. -/
def muted (c : Config) : Config := { c with trigger.mention := "", trigger.command := "", status.context := "" }

/-- The environment that gives just those of the configuration. -/
def voice (c : Config) : Environment := fun name =>
  if name = "AUTOFORMAT_MENTION" then some c.trigger.mention
  else if name = "AUTOFORMAT_COMMAND" then some c.trigger.command
  else if name = "AUTOFORMAT_STATUS_CONTEXT" then some c.status.context
  else none

/-- How the layers of a configuration lie on one another. -/
structure Layers : Prop where
  /-- A file replaces just the fields that it holds, in any order and with whatever else it says. -/
  file (c : Config) (choice : Choice) (d : Doc) (text : String) (spelled : d.Spells text)
    (part : c.IsPart choice d) : ofText text = .ok (c.restrict choice)
  /-- There is such a file for every configuration and every choice of its fields. -/
  written (c : Config) (choice : Choice) : ∃ d text, d.Spells text ∧ c.IsPart choice d
  /-- The environment lies on any file, unless it sets a timeout that is no number of seconds. -/
  environment (base : Config) (env : Environment) : (∃ config : Config, config.LiesOn base env) ↔
    ∀ text, env "AUTOFORMAT_STEP_TIMEOUT" = some text → ∃ n, SpellsSeconds n text
  /-- What is loaded is the environment on the file, if that is accepted. -/
  loaded (file : Option (Except FileError String)) (env : Environment) (config : Config) :
    load file env = .ok config ↔
      ∃ base, IsBase file base ∧ config.LiesOn base env ∧ config.validate = .ok ()
  /-- A variable can break any file. -/
  broken (file : Option (Except FileError String)) (env : Environment)
    (h : env "AUTOFORMAT_MENTION" = some "" ∨ env "AUTOFORMAT_COMMAND" = some "" ∨
      env "AUTOFORMAT_STATUS_CONTEXT" = some "") (config : Config) : load file env ≠ .ok config
  /-- And variables can repair a file that is refused without them. -/
  repaired (c : Config) (accepted : c.validate = .ok ()) (file : Option (Except FileError String))
    (h : IsBase file c.muted) :
    (∀ config, load file (fun _ => none) ≠ .ok config) ∧ load file c.voice = .ok c
  /-- The environment says the same twice as once. -/
  twice (c : Config) (env : Environment) : (c.override env).1.override env = c.override env

/-- The environment is laid over a configuration exactly as `LiesOn` says. -/
theorem override_eq_iff : base.override env = (config, .ok ()) ↔ config.LiesOn base env := by
  rw [override]
  constructor
  · intro h
    split at h
    next htimeout =>
      obtain rfl := (Prod.mk.inj h).1
      have hset (text : String) (htext : env "AUTOFORMAT_STEP_TIMEOUT" = some text) :
          SpellsSeconds (base.withPhrases env).stepTimeout text := by
        cases htimeout.symm.trans htext
      exact ⟨rfl, rfl, rfl, hset, fun _ => rfl, rfl, rfl, rfl, rfl, rfl⟩
    next text htimeout =>
      split at h
      next seconds hseconds =>
        obtain rfl := (Prod.mk.inj h).1
        have hset (text' : String) (htext : env "AUTOFORMAT_STEP_TIMEOUT" = some text') :
            SpellsSeconds seconds text' := by
          obtain rfl := Option.some.inj (htimeout.symm.trans htext)
          exact parseSeconds_eq_some_iff.1 hseconds
        exact ⟨rfl, rfl, rfl, hset, fun hnone => (by cases htimeout.symm.trans hnone), rfl, rfl, rfl, rfl, rfl⟩
      next => cases (Prod.mk.inj h).2
  · rintro ⟨hmention, hcommand, hcontext, hset, hunset, hroles, hreaction, hdomains, hformatters, hcommit⟩
    -- all fields but the timeout are known, so the two configurations are equal up to it
    obtain ⟨⟨mention, command, roles⟩, domains, ⟨context, reaction⟩, formatters, commit, timeout⟩ := config
    subst hmention hcommand hcontext hroles hreaction hdomains hformatters hcommit
    cases htimeout : env "AUTOFORMAT_STEP_TIMEOUT" with
    | none =>
      obtain rfl := hunset htimeout
      rfl
    | some text =>
      have hseconds := parseSeconds_eq_some_iff.2 (hset text htimeout)
      simp only [hseconds]
      rfl

/-- Only a time limit that does not read as one keeps the environment from being laid over a configuration. -/
theorem exists_liesOn_iff : (∃ config : Config, config.LiesOn base env) ↔
    ∀ text, env "AUTOFORMAT_STEP_TIMEOUT" = some text → ∃ n, SpellsSeconds n text := by
  constructor
  · rintro ⟨config, h⟩ text htext
    exact ⟨_, h.set text htext⟩
  · intro h
    cases htimeout : env "AUTOFORMAT_STEP_TIMEOUT" with
    | none => exact ⟨base.withPhrases env, override_eq_iff.1 (by rw [override, htimeout])⟩
    | some text =>
      obtain ⟨n, hn⟩ := h text htimeout
      refine ⟨{ base.withPhrases env with stepTimeout := n }, override_eq_iff.1 ?_⟩
      simp only [override, htimeout, parseSeconds_eq_some_iff.2 hn]

/-- A file that is there loads as what the environment makes of it, when this is accepted. -/
theorem override_eq_ok_iff : (do (base.override env).2; (base.override env).1.validate; pure (base.override env).1) =
    (.ok config : Except BotError Config) ↔ config.LiesOn base env ∧ config.validate = .ok () := by
  rw [← override_eq_iff, Json.then_eq_ok_iff, Json.then_eq_ok_iff]
  obtain ⟨c, result⟩ := base.override env
  rw [Prod.mk.injEq]
  constructor
  · rintro ⟨hresult, hvalid, hc⟩
    obtain rfl := Except.ok.inj hc
    exact ⟨⟨rfl, hresult⟩, hvalid⟩
  · rintro ⟨⟨rfl, hresult⟩, hvalid⟩
    exact ⟨hresult, hvalid, rfl⟩

/-- A configuration loads when its file, with the environment laid over it, is one that is valid. -/
theorem load_eq_ok_iff : load file env = .ok config ↔
    ∃ base, IsBase file base ∧ config.LiesOn base env ∧ config.validate = .ok () := by
  simp only [← override_eq_ok_iff]
  rcases file with - | e | text
  · simp only [IsBase, exists_eq_left]
    exact Iff.rfl
  · simp only [IsBase, false_and, exists_false, iff_false]
    exact nofun
  · exact Json.bind_eq_ok_iff

/-- A file has one configuration. -/
theorem IsBase.unique {base' : Config} (h : IsBase file base) (h' : IsBase file base') : base = base' := by
  rcases file with - | e | text
  · exact h.trans h'.symm
  · exact h.elim
  · exact Except.ok.inj (h.symm.trans h')

/-- A configuration lies on what is left of it when the environment gives the rest. -/
theorem liesOn_muted (c : Config) : c.LiesOn c.muted c.voice where
  mention := rfl
  command := rfl
  context := rfl
  set _ h := by cases h
  unset _ := rfl
  trustedRoles := rfl
  reaction := rfl
  domains := rfl
  formatters := rfl
  commit := rfl

/-- The environment that is laid over a configuration once more changes nothing. -/
theorem override_override (c : Config) (env : Environment) : (c.override env).1.override env = c.override env := by
  have htwice {x : Option String} {a : String} : x.getD (x.getD a) = x.getD a := by cases x <;> rfl
  have hphrases (n : UInt64) : ({ c.withPhrases env with stepTimeout := n } : Config).withPhrases env =
      { c.withPhrases env with stepTimeout := n } := by
    simp only [withPhrases, htwice]
  have hsame : (c.withPhrases env).withPhrases env = c.withPhrases env := hphrases c.stepTimeout
  cases htimeout : env "AUTOFORMAT_STEP_TIMEOUT" with
  | none => simp only [override, htimeout, hsame]
  | some text =>
    cases hseconds : parseSeconds text with
    | none => simp only [override, htimeout, hseconds, hsame]
    | some n => simp only [override, htimeout, hseconds, hphrases]

/-- The layers of a configuration replace just what is theirs. -/
theorem layers : Layers where
  file _ _ _ _ spelled part := ofText_of_isPart spelled part
  written := exists_isPart
  environment _ _ := exists_liesOn_iff
  loaded _ _ _ := load_eq_ok_iff
  broken file env h config hload := by
    -- what is validated has the values of the environment, and none of the three may be empty
    obtain ⟨base, -, hlies, hvalid⟩ := load_eq_ok_iff.1 hload
    have husable := validate_eq_ok_iff.1 hvalid
    rcases h with h | h | h
    · exact husable.mention (by rw [hlies.mention, h]; rfl)
    · exact husable.command (by rw [hlies.command, h]; rfl)
    · exact husable.context (by rw [hlies.context, h]; rfl)
  repaired c accepted file h := by
    refine ⟨fun config hload => ?_, load_eq_ok_iff.2 ⟨c.muted, h, liesOn_muted c, accepted⟩⟩
    -- alone, the file is what is validated
    obtain ⟨base, hbase, hlies, hvalid⟩ := load_eq_ok_iff.1 hload
    obtain rfl := hbase.unique h
    exact (validate_eq_ok_iff.1 hvalid).mention hlies.mention
  twice := override_override

example : load (some (.ok "\x7b\"x\": [1, null], \"trigger\": \x7b\"command\": \"tidy\", \"y\": 2\x7d\x7d"))
    (fun name => if name = "AUTOFORMAT_STEP_TIMEOUT" then some " +0060\n" else none) =
      .ok { trigger := { command := "tidy" }, stepTimeout := 60 } := by decide +kernel

end Config

end Autoformat
