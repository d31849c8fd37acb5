import Autoformat.Comment
import Autoformat.Proofs.Shapes
import Autoformat.Proofs.Trust

/-!
# Payloads as the platform writes them

A payload says far more than the bot reads, in no fixed order. `Payload` is what is read of one, and
`Payload.IsIn` says that a value holds it, among whatever else. `ReadsPayloads` says that nothing else matters:
the comment that is read is that of the payload without all the rest (`Payload.stripped`), and a value in which
something is missing or of another kind (`Payload.shape`) is no event.

The value under `pull_request` is kept whole, so its nesting and its numbers matter where those of other values
do not (`Spelled.check_eq_ok`).
-/

namespace Autoformat

open Json (Doc Members Shape Spelled Refuses encode)
open Json.Fields (record_of_foundIn)

namespace Json

/-! ## Values that are kept whole -/

mutual

/-- How deep lists and objects lie in one another. -/
def Doc.nesting : Doc → Nat
  | .list items => items.nesting + 1
  | .object members => members.nesting + 1
  | _ => 0

/-- How deep they lie in the rest of a list. -/
def Items.nesting : Items → Nat
  | .item x rest => max x.nesting rest.nesting
  | _ => 0

/-- How deep they lie in the rest of an object. -/
def Members.nesting : Members → Nat
  | .member _ x rest => max x.nesting rest.nesting
  | _ => 0

end

mutual

/-- The numbers in a value. -/
def Doc.numerals : Doc → List Numeral
  | .number n => [n]
  | .list items => items.numerals
  | .object members => members.numerals
  | _ => []

/-- The numbers in the rest of a list. -/
def Items.numerals : Items → List Numeral
  | .item x rest => x.numerals ++ rest.numerals
  | _ => []

/-- The numbers in the rest of an object. -/
def Members.numerals : Members → List Numeral
  | .member _ x rest => x.numerals ++ rest.numerals
  | _ => []

end

mutual

/-- A value that a text stands for can be kept if it is not nested too deep and its numbers are in range. -/
theorem Spelled.check_eq_ok {cs : List Char} (depth : Nat) (d : Doc) (h : Spelled d cs) (nested : d.nesting ≤ depth)
    (range : ∀ n ∈ d.numerals, ∃ v, n.value = .ok v) : d.check depth = .ok () := by
  match d with
  | .null => rfl
  | .bool b => rfl
  | .number n =>
    obtain ⟨v, hv⟩ := range n (by simp [Doc.numerals])
    simp only [Doc.check, hv]
  | .string s =>
    cases h
    rfl
  | .list items =>
    cases h with
    | list more =>
      rw [Doc.nesting] at nested
      rw [Doc.check, if_neg (by omega)]
      exact more.check_eq_ok (depth - 1) items (by omega) range
  | .object members =>
    cases h with
    | object more =>
      rw [Doc.nesting] at nested
      rw [Doc.check, if_neg (by omega)]
      exact more.check_eq_ok (depth - 1) members (by omega) range
  | .absent => cases h
  | .badString f => cases h
  | .badWord f => cases h
  | .stray => cases h

/-- Items that are not nested too deep, and whose numbers are in range, are kept. -/
theorem SpelledItems.check_eq_ok {first : Bool} {cs : List Char} (depth : Nat) (items : Items)
    (h : SpelledItems first items cs) (nested : items.nesting ≤ depth)
    (range : ∀ n ∈ items.numerals, ∃ v, n.value = .ok v) : Doc.checkItems depth items = .ok () := by
  match items with
  | .done => rfl
  | .fault f => cases h
  | .item x items =>
    cases h with
    | item separated value more =>
      rw [Items.nesting, Nat.max_le] at nested
      rw [Items.numerals, List.forall_mem_append] at range
      rw [Doc.checkItems, value.check_eq_ok depth x nested.1 range.1]
      exact more.check_eq_ok depth items nested.2 range.2

/-- Members that are not nested too deep, and whose numbers are in range, are kept. -/
theorem SpelledMembers.check_eq_ok {first : Bool} {cs : List Char} (depth : Nat) (members : Members)
    (h : SpelledMembers first members cs) (nested : members.nesting ≤ depth)
    (range : ∀ n ∈ members.numerals, ∃ v, n.value = .ok v) : Doc.checkMembers depth members = .ok () := by
  match members with
  | .done => rfl
  | .fault f => cases h
  | .badKey f => cases h
  | .noColon key e => cases h
  | .member key x members =>
    cases h with
    | member separated text blank blank' value more =>
      rw [Members.nesting, Nat.max_le] at nested
      rw [Members.numerals, List.forall_mem_append] at range
      rw [Doc.checkMembers, decodedText, ok_bind, value.check_eq_ok depth x nested.1 range.1]
      exact more.check_eq_ok depth members nested.2 range.2

end

end Json

/-! ## What is read -/

/-- What is read of a payload. -/
structure Payload where
  action : Option String
  id : UInt64
  /-- The text may be left out, or be `null`. -/
  body : Option (Option String)
  login : String
  association : String
  number : UInt64
  /-- Whatever stands under `pull_request`. -/
  link : Option Doc
  repository : String

namespace Payload

/-- What is read of the comment is among the members. -/
structure CommentIn (p : Payload) (members : Members) : Prop where
  id : members.Has "id" (Json.IsWritten p.id)
  body : members.MayHave "body" Json.IsWritten p.body
  user : members.Has "user" (Doc.IsObject fun user => user.Has "login" (Json.IsWritten p.login))
  association : members.Has "author_association" (Json.IsWritten p.association)

/-- What is read of the issue is among the members. -/
structure IssueIn (p : Payload) (members : Members) : Prop where
  number : members.Has "number" (Json.IsWritten p.number)
  link : members.MayHave "pull_request" Eq p.link

/-- What is read of the payload is among the members. -/
structure AreIn (p : Payload) (members : Members) : Prop where
  action : members.MayHave "action" Json.IsWritten p.action
  comment : members.Has "comment" (Doc.IsObject p.CommentIn)
  issue : members.Has "issue" (Doc.IsObject p.IssueIn)
  repository : members.Has "repository"
    (Doc.IsObject fun repository => repository.Has "full_name" (Json.IsWritten p.repository))

/-- The value is an object that holds the payload, in any order and among whatever else. -/
def IsIn (p : Payload) (d : Doc) : Prop := d.IsObject p.AreIn

/-- The value under `pull_request` can be kept: it is not nested too deep, and its numbers are in range. -/
def IsModest (p : Payload) : Prop := ∀ x ∈ p.link, x.nesting ≤ 125 ∧ ∀ n ∈ x.numerals, ∃ v, n.value = .ok v

/-- What is read of the comment, as members. -/
def commentMembers (p : Payload) : List (String × Doc) :=
  ("id", Doc.ofJson (encode p.id)) :: (p.body.map fun body => ("body", Doc.ofJson (encode body))).toList ++ [
    ("user", .ofPairs [("login", Doc.ofJson (encode p.login))]),
    ("author_association", Doc.ofJson (encode p.association))]

/-- What is read of the issue, as members. -/
def issueMembers (p : Payload) : List (String × Doc) :=
  ("number", Doc.ofJson (encode p.number)) :: (p.link.map fun link => ("pull_request", link)).toList

/-- The payload without anything else. -/
def stripped (p : Payload) : Doc :=
  .ofPairs <| (p.action.map fun action => ("action", Doc.ofJson (encode action))).toList ++ [
    ("comment", .ofPairs p.commentMembers),
    ("issue", .ofPairs p.issueMembers),
    ("repository", .ofPairs [("full_name", Doc.ofJson (encode p.repository))])]

/-- What must be in a payload, and of which kind. -/
def shape : Shape :=
  .record [
    ("action", false, .text),
    ("comment", true, .record [
      ("id", true, .word),
      ("body", false, .note),
      ("user", true, .record [("login", true, .text)]),
      ("author_association", true, .text)]),
    ("issue", true, .record [
      ("number", true, .word),
      ("pull_request", false, .any)]),
    ("repository", true, .record [("full_name", true, .text)])]

/-- The comment that a payload announces. -/
structure IsReadAs (p : Payload) (c : Comment) : Prop where
  repository : c.repository = p.repository
  number : c.issueNumber = p.number
  id : c.id = p.id
  author : c.author = p.login
  action : c.action = p.action.getD "created"
  created_iff : c.action = "created" ↔ p.action = none ∨ p.action = some "created"
  body (text : String) (h : p.body = some (some text)) : c.body = text
  empty_iff : c.body = "" ↔ p.body = none ∨ p.body = some none ∨ p.body = some (some "")
  isPullRequest_iff : c.isPullRequest = true ↔ ∃ x, p.link = some x ∧ x ≠ .null
  /-- A word that names no association is read as `NONE`. -/
  association : c.association.name = Association.reading p.association

/-- What is read of payloads, and which values are none. -/
structure ReadsPayloads : Prop where
  read (p : Payload) (d : Doc) (text : String) (spelled : d.Spells text) (held : p.IsIn d) (modest : p.IsModest) :
    ∃ c, Comment.ofPayload text = .ok c ∧ p.IsReadAs c
  /-- It is the same without anything else that is said. -/
  stripped (p : Payload) (d : Doc) (text : String) (spelled : d.Spells text) (held : p.IsIn d)
    (modest : p.IsModest) : (∃ text', p.stripped.Spells text') ∧
      ∀ text', p.stripped.Spells text' → Comment.ofPayload text' = Comment.ofPayload text
  refused (d : Doc) (text : String) (spelled : d.Spells text) (broken : shape.Broken d) :
    ∃ e, Comment.ofPayload text = .error (.invalidEvent e)

/-! ## Reading -/

section
variable {p : Payload} {d : Doc} {members : Members} {cs : List Char}

/-- There is a link unless it is `null`. -/
def links : Doc → Bool
  | .null => false
  | _ => true

/-- Any value but null links an issue to a pull request. -/
theorem links_iff {x : Doc} : links x = true ↔ x ≠ .null := by
  cases x <;> simp [links]

/-- The link of an issue is read as whether it is there. -/
theorem payloadLink_eq {x : Doc} (h : Spelled x cs)
    (modest : x.nesting ≤ 125 ∧ ∀ n ∈ x.numerals, ∃ v, n.value = .ok v) : Comment.payloadLink x = .ok (links x) := by
  -- two of the 127 levels of a text lie around this value
  have hcheck := h.check_eq_ok 125 x modest.1 modest.2
  cases x with
  | null => rfl
  | _ =>
    rw [Comment.payloadLink, hcheck]
    · rfl
    · exact nofun

/-- The comment for what is read. -/
def event (p : Payload) : Comment :=
  Comment.ofParts (p.action.getD Comment.created)
    ⟨p.id, p.body.getD none, p.login, Association.ofWord p.association⟩
    ⟨p.number, (p.link.map links).getD false⟩ p.repository

/-- An event is what its payload is read as. -/
theorem isReadAs_event (p : Payload) : p.IsReadAs p.event where
  repository := rfl
  number := rfl
  id := rfl
  author := rfl
  action := rfl
  created_iff := by
    show p.action.getD "created" = "created" ↔ _
    cases p.action <;> simp
  body text h := by
    show (p.body.getD none).getD "" = text
    rw [h]
    rfl
  empty_iff := by
    show (p.body.getD none).getD "" = "" ↔ _
    rcases p.body with - | - | text <;> simp
  isPullRequest_iff := by
    show (p.link.map links).getD false = true ↔ _
    cases p.link <;> simp [links_iff]
  association := Association.name_ofWord p.association

/-- The comment of a payload is read as what it says. -/
theorem payloadComment_eq (h : Spelled d cs) (held : d.IsObject p.CommentIn) : Comment.payloadComment d =
    .ok ⟨p.id, p.body.getD none, p.login, Association.ofWord p.association⟩ := by
  obtain ⟨members, rfl, hp⟩ := held
  refine record_of_foundIn h (.seq (.seq (.seq (.map _ ?_) ?_) ?_) ?_)
  · exact hp.id.foundIn_written
  · exact hp.body.foundIn_written
  · refine hp.user.foundIn fun x hx ⟨user, huser, hlogin⟩ => ?_
    subst huser
    obtain ⟨ds, hds⟩ := h.exists_spelled_of_mem_values hx
    exact record_of_foundIn hds hlogin.foundIn_written
  · exact hp.association.foundIn fun x _ hx => hx ▸ Association.decode_string p.association

/-- The issue of a payload is read as what it says. -/
theorem payloadIssue_eq (h : Spelled d cs) (held : d.IsObject p.IssueIn) (modest : p.IsModest) :
    Comment.payloadIssue d = .ok ⟨p.number, (p.link.map links).getD false⟩ := by
  obtain ⟨members, rfl, hp⟩ := held
  refine record_of_foundIn h (.seq (.map _ hp.number.foundIn_written) ?_)
  refine hp.link.foundIn fun x hlink y hy heq => ?_
  subst heq
  obtain ⟨ds, hds⟩ := h.exists_spelled_of_mem_values hy
  exact payloadLink_eq hds (modest x hlink)

/-- A document that holds a payload is read as its event, whatever else it says. -/
theorem payload_eq (h : Spelled d cs) (held : p.IsIn d) (modest : p.IsModest) :
    Comment.payload d = .ok p.event := by
  obtain ⟨members, rfl, hp⟩ := held
  refine record_of_foundIn h (.seq (.seq (.seq (.map _ hp.action.foundIn_written) ?_) ?_) ?_)
  · refine hp.comment.foundIn fun x hx hcomment => ?_
    obtain ⟨ds, hds⟩ := h.exists_spelled_of_mem_values hx
    exact payloadComment_eq hds hcomment
  · refine hp.issue.foundIn fun x hx hissue => ?_
    obtain ⟨ds, hds⟩ := h.exists_spelled_of_mem_values hx
    exact payloadIssue_eq hds hissue modest
  · refine hp.repository.foundIn fun x hx ⟨repository, hrepository, hname⟩ => ?_
    subst hrepository
    obtain ⟨ds, hds⟩ := h.exists_spelled_of_mem_values hx
    exact record_of_foundIn hds hname.foundIn_written

/-- A text that holds a payload is read as its event, whatever else it says. -/
theorem ofPayload_eq {text : String} (h : d.Spells text) (held : p.IsIn d) (modest : p.IsModest) :
    Comment.ofPayload text = .ok p.event := by
  obtain ⟨cs, hcs⟩ := h.exists_spelled
  rw [Comment.ofPayload, Json.parseWith_of_spells h, payload_eq hcs held modest]
  rfl

end

/-! ## The payload without the rest -/

section
variable {p : Payload} {d : Doc} {cs : List Char}

/-- The members for a comment hold the comment. -/
theorem commentIn_members (p : Payload) : p.CommentIn (.ofPairs p.commentMembers) := by
  obtain ⟨action, id, body, login, association, number, link, repository⟩ := p
  cases body with
  | none => exact {
      id := ⟨_, Json.values_ofPairs, rfl⟩
      body := Json.values_ofPairs
      user := ⟨_, Json.values_ofPairs, _, rfl, _, Json.values_ofPairs, rfl⟩
      association := ⟨_, Json.values_ofPairs, rfl⟩ }
  | some body => exact {
      id := ⟨_, Json.values_ofPairs, rfl⟩
      body := ⟨_, Json.values_ofPairs, rfl⟩
      user := ⟨_, Json.values_ofPairs, _, rfl, _, Json.values_ofPairs, rfl⟩
      association := ⟨_, Json.values_ofPairs, rfl⟩ }

/-- The members for an issue hold the issue. -/
theorem issueIn_members (p : Payload) : p.IssueIn (.ofPairs p.issueMembers) := by
  obtain ⟨action, id, body, login, association, number, link, repository⟩ := p
  cases link with
  | none => exact ⟨⟨_, Json.values_ofPairs, rfl⟩, Json.values_ofPairs⟩
  | some link => exact ⟨⟨_, Json.values_ofPairs, rfl⟩, ⟨_, Json.values_ofPairs, rfl⟩⟩

/-- A payload is held by a document that says nothing else. -/
theorem isIn_stripped (p : Payload) : p.IsIn p.stripped := by
  have hcomment := p.commentIn_members
  have hissue := p.issueIn_members
  refine ⟨_, rfl, ?_⟩
  obtain ⟨action, id, body, login, association, number, link, repository⟩ := p
  cases action with
  | none => exact {
      action := Json.values_ofPairs
      comment := ⟨_, Json.values_ofPairs, _, rfl, hcomment⟩
      issue := ⟨_, Json.values_ofPairs, _, rfl, hissue⟩
      repository := ⟨_, Json.values_ofPairs, _, rfl, _, Json.values_ofPairs, rfl⟩ }
  | some action => exact {
      action := ⟨_, Json.values_ofPairs, rfl⟩
      comment := ⟨_, Json.values_ofPairs, _, rfl, hcomment⟩
      issue := ⟨_, Json.values_ofPairs, _, rfl, hissue⟩
      repository := ⟨_, Json.values_ofPairs, _, rfl, _, Json.values_ofPairs, rfl⟩ }

/-- The value under `pull_request` is spelled in any text that holds it. -/
theorem exists_spelled_link (h : Spelled d cs) (held : p.IsIn d) : ∀ x ∈ p.link, ∃ ds, Spelled x ds := by
  intro x hx
  obtain ⟨members, rfl, hp⟩ := held
  obtain ⟨_, hissue, issue, rfl, hin⟩ := hp.issue
  obtain ⟨ds, hds⟩ := h.exists_spelled_of_mem_values (by rw [hissue]; exact List.mem_singleton_self _)
  have hlink := hin.link
  rw [Option.mem_def.1 hx] at hlink
  obtain ⟨_, hvalues, rfl⟩ := hlink
  exact hds.exists_spelled_of_mem_values (by rw [hvalues]; exact List.mem_singleton_self _)

/-- What is left of a payload can be written. -/
theorem exists_spells_stripped (h : ∀ x ∈ p.link, ∃ cs, Spelled x cs) : ∃ text, p.stripped.Spells text := by
  have hleaf (j : Json) : ∃ cs, Spelled (Doc.ofJson j) cs := ⟨_, Json.spelled_render j⟩
  have hsingle (key : String) (j : Json) : ∃ cs, Spelled (.ofPairs [(key, Doc.ofJson j)]) cs :=
    Json.exists_spelled_ofPairs (List.forall_mem_singleton.2 (hleaf j))
  have hoption {β : Type} {o : Option β} {f : β → String × Doc} (ho : ∀ b ∈ o, ∃ cs, Spelled (f b).2 cs) :
      ∀ m ∈ (o.map f).toList, ∃ cs, Spelled m.2 cs := by
    cases o with
    | none => exact nofun
    | some b => exact List.forall_mem_singleton.2 (ho b rfl)
  have hcomment : ∃ cs, Spelled (.ofPairs p.commentMembers) cs := by
    refine Json.exists_spelled_ofPairs ?_
    simp only [commentMembers, List.cons_append, List.forall_mem_cons, List.forall_mem_append]
    exact ⟨hleaf _, hoption fun _ _ => hleaf _, hsingle _ _, hleaf _, nofun⟩
  have hissue : ∃ cs, Spelled (.ofPairs p.issueMembers) cs := by
    refine Json.exists_spelled_ofPairs ?_
    rw [issueMembers, List.forall_mem_cons]
    exact ⟨hleaf _, hoption h⟩
  have hstripped : ∃ cs, Spelled p.stripped cs := by
    refine Json.exists_spelled_ofPairs ?_
    simp only [List.forall_mem_cons, List.forall_mem_append]
    exact ⟨hoption fun _ _ => hleaf _, hcomment, hissue, hsingle _ _, nofun⟩
  obtain ⟨cs, hcs⟩ := hstripped
  exact ⟨String.ofList cs, .mk Json.blanks_nil hcs Json.blanks_nil (by simp)⟩

end

/-! ## Values that are no payloads -/

/-- What is no payload is refused, section by section. -/
theorem refuses_payload : Refuses Comment.payload shape := by
  have huser : Refuses Comment.payloadUser (.record [("login", true, .text)]) := by
    refine Json.refuses_record (List.forall_mem_singleton.2 ?_)
    exact ⟨fun _ => Json.Fields.needs_field, _, _, rfl, Json.refuses_text⟩
  have hrepository : Refuses Comment.payloadRepository (.record [("full_name", true, .text)]) := by
    refine Json.refuses_record (List.forall_mem_singleton.2 ?_)
    exact ⟨fun _ => Json.Fields.needs_field, _, _, rfl, Json.refuses_text⟩
  have hissue : Refuses Comment.payloadIssue (.record [("number", true, .word), ("pull_request", false, .any)]) := by
    refine Json.refuses_record (List.forall_mem_cons.2 ⟨?_, List.forall_mem_singleton.2 ?_⟩)
    · exact ⟨fun _ => (Json.Fields.needs_field.map _).seq_left, _, _, rfl, Json.refuses_word⟩
    · exact ⟨nofun, _, _, rfl, Json.refuses_any⟩
  have hcomment : Refuses Comment.payloadComment (.record [("id", true, .word), ("body", false, .note),
      ("user", true, .record [("login", true, .text)]), ("author_association", true, .text)]) := by
    refine Json.refuses_record ?_
    simp only [List.forall_mem_cons]
    refine ⟨?_, ?_, ?_, ?_, nofun⟩
    · exact ⟨fun _ => (Json.Fields.needs_field.map _).seq_left.seq_left.seq_left, _, _, rfl, Json.refuses_word⟩
    · exact ⟨nofun, _, _, rfl, Json.refuses_note⟩
    · exact ⟨fun _ => Json.Fields.needs_field.seq_right.seq_left, _, _, rfl, huser⟩
    · exact ⟨fun _ => Json.Fields.needs_field.seq_right, _, _, rfl, Json.refuses_wordOf⟩
  refine Json.refuses_record ?_
  simp only [List.forall_mem_cons]
  refine ⟨?_, ?_, ?_, ?_, nofun⟩
  · exact ⟨nofun, _, _, rfl, Json.refuses_text⟩
  · exact ⟨fun _ => Json.Fields.needs_field.seq_right.seq_left.seq_left, _, _, rfl, hcomment⟩
  · exact ⟨fun _ => Json.Fields.needs_field.seq_right.seq_left, _, _, rfl, hissue⟩
  · exact ⟨fun _ => Json.Fields.needs_field.seq_right, _, _, rfl, hrepository⟩

/-- The bot reads of a payload just what it needs, and refuses what is none. -/
theorem readsPayloads : ReadsPayloads where
  read p d text spelled held modest := ⟨p.event, ofPayload_eq spelled held modest, isReadAs_event p⟩
  stripped p d text spelled held modest := by
    obtain ⟨cs, hcs⟩ := spelled.exists_spelled
    refine ⟨exists_spells_stripped (exists_spelled_link hcs held), fun text' spelled' => ?_⟩
    rw [ofPayload_eq spelled' (isIn_stripped p) modest, ofPayload_eq spelled held modest]
  refused d text spelled broken := by
    have hrefused := refuses_payload d broken
    rw [Comment.ofPayload, Json.parseWith_of_spells spelled]
    cases hread : Comment.payload d with
    | error e => exact ⟨e, rfl⟩
    | ok c => exact absurd hread (hrefused c)

example : Comment.ofPayload (
    "\x7b\"repository\": \x7b\"full_name\": \"o/d\"\x7d, \"sender\": [], \"issue\": \x7b\"number\": 7\x7d, " ++
    "\"comment\": \x7b\"author_association\": \"GUEST\", \"user\": \x7b\"login\": \"ada\"\x7d, \"id\": 5\x7d\x7d") =
      .ok ⟨"o/d", 7, false, "created", 5, "ada", .other, ""⟩ := by decide +kernel

end Payload

end Autoformat
