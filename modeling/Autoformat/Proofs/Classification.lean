import Autoformat.Proofs.Carrying
import Autoformat.Proofs.RecordValues
import Autoformat.Proofs.Search
import Autoformat.Proofs.Served

/-!
# What an answer of the server comes to

Three operations of a client make one request each. `Classified` says what comes of the answer to it, whatever
the answer is: there is none, or it has a status and a body. `classifies` says this of all three operations.

`IsPull` says what the body of an answer must be for a pull request to be read from it, and
`pullRequest_eq_ok_iff` that nothing else is read as one.
-/

namespace Autoformat.Rest

open Program
open Json (Doc Decoder)
open Json.Fields (Takes takes_required_iff)

/-! ## Bodies that are pull requests -/

/-- A repository, by its name. -/
def IsNamed (name : String) (d : Doc) : Prop := d.HasFields [("full_name", some (.string (.ok name)))]

/-- The repository of a side: it is gone when nothing or `null` stands there. -/
inductive IsOrigin : Option Doc → Option String → Prop where
  | absent : IsOrigin none none
  | gone : IsOrigin (some .null) none
  | named {name : String} {d : Doc} (named : IsNamed name d) : IsOrigin (some d) (some name)

/-- One side of a pull request. -/
def IsSide (b : Branch) (d : Doc) : Prop :=
  ∃ repo, d.HasFields [("ref", some (.string (.ok b.ref))), ("sha", some (.string (.ok b.sha))), ("repo", repo)] ∧
    IsOrigin repo b.repository

/-- A pull request of the repository. A head repository that is gone counts as this repository. -/
structure IsPull (repository : String) (pr : PullRequest) (d : Doc) : Prop where
  sides : ∃ number head base headRepository baseRepository,
    d.HasFields [("number", some (.number number)), ("head", some head), ("base", some base)] ∧
    (number.IsWord ∧ Decimal.ofDigits number.whole = pr.number.toNat) ∧
    IsSide ⟨pr.headRef, pr.headSha, headRepository⟩ head ∧ IsSide ⟨pr.baseRef, pr.baseSha, baseRepository⟩ base ∧
    pr.headRepository = headRepository.getD repository
  repository_eq : pr.repository = repository

section
variable {d : Doc}

/-- A repository is read as its name. -/
theorem repositoryName_eq_ok_iff {name : String} (whole : d.skip = .ok ()) :
    repositoryName d = .ok name ↔ IsNamed name d := by
  refine (Json.Fields.record_one_eq_ok_iff whole).trans ?_
  simp only [takes_required_iff, Json.decode_string_iff, IsNamed]
  constructor
  · rintro ⟨_, hfields, _, rfl, rfl⟩
    exact hfields
  · intro hfields
    exact ⟨_, hfields, _, rfl, rfl⟩

/-- The repository of a side may be missing or null, and is read as its name otherwise. -/
theorem takes_repository_iff {o : Option Doc} {repository : Option String} (whole : ∀ x ∈ o, x.skip = .ok ()) :
    Takes (Doc.asOptional repositoryName) (some none) o repository ↔ IsOrigin o repository := by
  cases o with
  | none =>
    constructor
    · intro h
      cases h
      exact .absent
    · rintro ⟨⟩
      rfl
  | some x =>
    refine Json.asOptional_eq_ok_iff.trans ?_
    constructor
    · rintro (⟨rfl, rfl⟩ | ⟨-, name, hname, rfl⟩)
      · exact .gone
      · exact .named ((repositoryName_eq_ok_iff (whole x rfl)).1 hname)
    · rintro (⟨⟩ | ⟨⟩ | ⟨named⟩)
      · exact .inl ⟨rfl, rfl⟩
      · exact .inr ⟨named.ne_null, _, (repositoryName_eq_ok_iff (whole x rfl)).2 named, rfl⟩

/-- A side of a pull request is read exactly from an object that says what it is. -/
theorem branch_eq_ok_iff {b : Branch} (whole : d.skip = .ok ()) : branch d = .ok b ↔ IsSide b d := by
  refine (Json.Fields.record_three_eq_ok_iff whole).trans ?_
  simp only [takes_required_iff, Json.decode_string_iff]
  constructor
  · rintro ⟨_, _, repo, ref, sha, repository, hfields, ⟨_, rfl, rfl⟩, ⟨_, rfl, rfl⟩, htakes, rfl⟩
    have hrepo := hfields.skip_eq_ok whole ("repo", repo) (by simp)
    exact ⟨repo, hfields, (takes_repository_iff hrepo).1 htakes⟩
  · rintro ⟨repo, hfields, origin⟩
    have hrepo := hfields.skip_eq_ok whole ("repo", repo) (by simp)
    exact ⟨_, _, repo, _, _, _, hfields, ⟨_, rfl, rfl⟩, ⟨_, rfl, rfl⟩, (takes_repository_iff hrepo).2 origin, rfl⟩

/-- A pull request is read from what is one, and from nothing else. -/
theorem pullRequest_eq_ok_iff {repository : String} {pr : PullRequest} (whole : d.skip = .ok ()) :
    pullRequest repository d = .ok pr ↔ IsPull repository pr d := by
  refine (Json.Fields.record_three_eq_ok_iff whole).trans ?_
  simp only [takes_required_iff, Json.decode_word_iff]
  constructor
  · rintro ⟨_, _, _, k, head, base, hfields, ⟨_, rfl, number, rfl, hword, hk⟩, ⟨hd, rfl, hhead⟩,
      ⟨bd, rfl, hbase⟩, rfl⟩
    have hheadWhole := hfields.skip_eq_ok whole ("head", some hd) (by simp) hd rfl
    have hbaseWhole := hfields.skip_eq_ok whole ("base", some bd) (by simp) bd rfl
    exact ⟨⟨number, hd, bd, head.repository, base.repository, hfields, ⟨hword, hk⟩,
      (branch_eq_ok_iff hheadWhole).1 hhead, (branch_eq_ok_iff hbaseWhole).1 hbase, rfl⟩, rfl⟩
  · rintro ⟨⟨number, hd, bd, headRepository, baseRepository, hfields, hnumber, hhead, hbase, hgone⟩, hrepository⟩
    have hheadWhole := hfields.skip_eq_ok whole ("head", some hd) (by simp) hd rfl
    have hbaseWhole := hfields.skip_eq_ok whole ("base", some bd) (by simp) bd rfl
    refine ⟨_, _, _, pr.number, _, _, hfields, ⟨_, rfl, number, rfl, hnumber⟩,
      ⟨hd, rfl, (branch_eq_ok_iff hheadWhole).2 hhead⟩, ⟨bd, rfl, (branch_eq_ok_iff hbaseWhole).2 hbase⟩, ?_⟩
    rw [pullRequestOf, ← hgone, ← hrepository]

end

/-- The body of an answer is a pull request of the repository, and nothing else but blanks. -/
def PullBody (repository : String) (pr : PullRequest) (body : ByteArray) : Prop :=
  ∃ d : Doc, d.Fills (bodyText body) ∧ IsPull repository pr d

/-- A body is decoded as a pull request exactly when it is the text of one. -/
theorem decodeBody_pullRequest_iff {operation repository : String} {pr : PullRequest} {r : Http.Response} :
    decodeBody operation (pullRequest repository) r = .ok pr ↔ PullBody repository pr r.body := by
  rw [decodeBody, Json.mapError_eq_ok_iff, Json.parseWith_eq_ok_iff]
  exact exists_congr fun d => and_congr_right fun hfills => pullRequest_eq_ok_iff hfills.skip_eq_ok

/-- A body that does not decode is reported as such, in one wording. -/
theorem eq_undecodable_of_decodeBody {α : Type} {operation : String} {decode : Decoder α} {r : Http.Response}
    {e : PlatformError} (h : decodeBody operation decode r = .error e) :
    e = .undecodable operation "error decoding response body" := by
  rw [decodeBody] at h
  cases hparse : Json.parseWith decode (bodyText r.body) with
  | ok a =>
    rw [hparse] at h
    cases h
  | error e' =>
    rw [hparse] at h
    cases h
    rfl

/-! ## Answers -/

/-- The beginning of a body as an error quotes it, which is all of a body that is short. -/
structure Quotes (body : ByteArray) (quoted : String) : Prop where
  short (h : (Utf8.decodeLossy body).length ≤ 512) : quoted = Utf8.decodeLossy body
  long (h : 512 < (Utf8.decodeLossy body).length) :
    quoted = String.ofList ((Utf8.decodeLossy body).toList.take 512) ++ "..."

/-- A quoted body is cut at a limit, after its bytes were made a text. -/
theorem quotes_iff {body : ByteArray} {quoted : String} :
    Quotes body quoted ↔ quoted = Text.shorten quoteLimit quoteLimit (Utf8.decodeLossy body) := by
  constructor
  · intro h
    rcases Nat.lt_or_ge 512 (Utf8.decodeLossy body).length with hlong | hshort
    · rw [h.long hlong, Text.shorten_of_lt (show quoteLimit < _ from hlong)]
      rfl
    · rw [h.short hshort, Text.shorten_of_le (show _ ≤ quoteLimit from hshort)]
  · rintro rfl
    exact ⟨fun hshort => Text.shorten_of_le hshort, fun hlong => Text.shorten_of_lt hlong⟩

/-- What comes of the answer to the only request of an operation. From a body of success a value is read as
`Reads` says, and `unknown` is the pull request that a status of 404 tells of. -/
structure Classified {α : Type} (operation : String) (unknown : Option (String × UInt64))
    (Reads : α → ByteArray → Prop) (x : Except String Http.Response) (r : Except PlatformError α) : Prop where
  ok (a : α) : r = .ok a ↔ ∃ s body, x = .ok ⟨s, body⟩ ∧ (200 ≤ s ∧ s < 300) ∧ Reads a body
  transport (op reason : String) : r = .error (.transport op reason) ↔ op = operation ∧ x = .error reason
  undecodable (op reason : String) : r = .error (.undecodable op reason) ↔
    (op = operation ∧ reason = "error decoding response body") ∧
      ∃ s body, x = .ok ⟨s, body⟩ ∧ (200 ≤ s ∧ s < 300) ∧ ∀ a, ¬Reads a body
  notFound (repository : String) (number : UInt64) : r = .error (.pullRequestNotFound repository number) ↔
    unknown = some (repository, number) ∧ ∃ body, x = .ok ⟨404, body⟩
  status (op : String) (s : Nat) (quoted : String) : r = .error (.status op s quoted) ↔
    op = operation ∧ (∃ body, x = .ok ⟨s, body⟩ ∧ Quotes body quoted) ∧ ¬(200 ≤ s ∧ s < 300) ∧
      (s = 404 → unknown = none)
  configured (reason : String) : r ≠ .error (.misconfigured reason)

/-- The ways in which an answer is taken. What stands in a body of success is left to `read`. -/
inductive Comes {α : Type} (operation : String) (unknown : Option (String × UInt64))
    (read : Http.Response → Except PlatformError α) :
    Except String Http.Response → Except PlatformError α → Prop where
  | unanswered (reason : String) : Comes operation unknown read (.error reason) (.error (.transport operation reason))
  | answered {r : Http.Response} (success : 200 ≤ r.status ∧ r.status < 300) :
    Comes operation unknown read (.ok r) (read r)
  | missing {repository : String} {number : UInt64} {body : ByteArray} (known : unknown = some (repository, number)) :
    Comes operation unknown read (.ok ⟨404, body⟩) (.error (.pullRequestNotFound repository number))
  | refused {r : Http.Response} {quoted : String} (fails : ¬(200 ≤ r.status ∧ r.status < 300))
    (other : r.status = 404 → unknown = none) (quotes : Quotes r.body quoted) :
    Comes operation unknown read (.ok r) (.error (.status operation r.status quoted))

section
variable {α : Type} {operation : String} {unknown : Option (String × UInt64)}
  {read : Http.Response → Except PlatformError α} {Reads : α → ByteArray → Prop}
  {x : Except String Http.Response} {r : Except PlatformError α}

/-- A body is quoted in one way. -/
theorem Quotes.unique {body : ByteArray} {quoted quoted' : String} (h : Quotes body quoted) (h' : Quotes body quoted') :
    quoted = quoted' := by
  rw [quotes_iff.1 h, quotes_iff.1 h']

/-- An answer whose status is no success is no successful answer. -/
theorem not_exists_success {r : Http.Response} {P : ByteArray → Prop}
    (fails : ¬(200 ≤ r.status ∧ r.status < 300)) :
    ¬∃ s body, (.ok r : Except String Http.Response) = .ok ⟨s, body⟩ ∧ (200 ≤ s ∧ s < 300) ∧ P body := by
  rintro ⟨s, body, heq, success, -⟩
  cases heq
  exact fails success

/-- Whatever way an answer is taken, it comes to what it has to. -/
theorem Comes.classified (h : Comes operation unknown read x r)
    (reads : ∀ r a, read r = .ok a ↔ Reads a r.body)
    (faults : ∀ r e, read r = .error e → e = .undecodable operation "error decoding response body") :
    Classified operation unknown Reads x r := by
  cases h with
  | unanswered reason =>
    exact {
      ok := fun a => by simp
      transport := fun op reason => by simp [eq_comm]
      undecodable := fun op reason => by simp
      notFound := fun repository number => by simp
      status := fun op s quoted => by simp
      configured := fun reason => by simp }
  | @answered resp success =>
    obtain ⟨s, body⟩ := resp
    exact {
      ok := by
        intro a
        constructor
        · intro h
          exact ⟨s, body, rfl, success, (reads _ a).1 h⟩
        · rintro ⟨_, _, heq, -, hreads⟩
          cases heq
          exact (reads _ a).2 hreads
      transport := fun op reason => iff_of_false (fun h => by cases faults _ _ h) (by simp)
      undecodable := by
        intro op reason
        constructor
        · intro h
          cases faults _ _ h
          refine ⟨⟨rfl, rfl⟩, s, body, rfl, success, fun a hreads => ?_⟩
          cases h.symm.trans ((reads _ a).2 hreads)
        · rintro ⟨⟨rfl, rfl⟩, _, _, heq, -, hnone⟩
          cases heq
          cases hread : read ⟨s, body⟩ with
          | ok a => exact absurd ((reads _ a).1 hread) (hnone a)
          | error e => rw [faults _ e hread]
      notFound := by
        refine fun repository number => iff_of_false (fun h => by cases faults _ _ h) ?_
        rintro ⟨-, _, heq⟩
        cases heq
        exact absurd success.2 (Nat.not_lt.2 (by decide : 300 ≤ 404))
      status := by
        refine fun op s' quoted => iff_of_false (fun h => by cases faults _ _ h) ?_
        rintro ⟨-, ⟨_, heq, -⟩, fails, -⟩
        cases heq
        exact fails success
      configured := fun reason h => by cases faults _ _ h }
  | @missing repository number body known =>
    have fails : ¬(200 ≤ (⟨404, body⟩ : Http.Response).status ∧ (⟨404, body⟩ : Http.Response).status < 300) :=
      fun h => absurd h.2 (Nat.not_lt.2 (by decide : 300 ≤ 404))
    exact {
      ok := fun a => iff_of_false (by simp) (not_exists_success fails)
      transport := fun op reason => by simp
      undecodable := fun op reason => iff_of_false (by simp) fun h => not_exists_success fails h.2
      notFound := fun repository number => by simp [known]
      status := by
        refine fun op s quoted => iff_of_false (by simp) ?_
        rintro ⟨-, ⟨_, heq, -⟩, -, other⟩
        cases heq
        cases known.symm.trans (other rfl)
      configured := fun reason => by simp }
  | @refused resp quoted fails other quotes =>
    exact {
      ok := fun a => iff_of_false (by simp) (not_exists_success fails)
      transport := fun op reason => by simp
      undecodable := fun op reason => iff_of_false (by simp) fun h => not_exists_success fails h.2
      notFound := by
        refine fun repository number => iff_of_false (by simp) ?_
        rintro ⟨known, _, heq⟩
        cases heq
        cases known.symm.trans (other rfl)
      status := by
        intro op s quoted'
        constructor
        · rintro ⟨⟩
          exact ⟨rfl, ⟨_, rfl, quotes⟩, fails, other⟩
        · rintro ⟨rfl, ⟨_, heq, quotes'⟩, -, -⟩
          cases heq
          rw [quotes.unique quotes']
      configured := fun reason => by simp }

end

/-! ## Operations -/

/-- An operation makes one request, and its answer comes to what it has to. -/
def AsksOnce {α : Type} (s : Surroundings Http.interface) (past : List (Exchange Http.interface))
    (p : Program Http.interface (Except PlatformError α)) (q : Http.Request) (operation : String)
    (unknown : Option (String × UInt64)) (Reads : α → ByteArray → Prop) : Prop :=
  ∃ r, play s past p = ([⟨q, s past q⟩], r) ∧ Classified operation unknown Reads (s past q) r

/-- What comes of the operations of a client that make one request, whatever the server answers to it. -/
structure Classifies (client : Client) (s : Surroundings Http.interface)
    (past : List (Exchange Http.interface)) : Prop where
  /-- A reaction that is accepted has been added, whatever the body says. -/
  reaction (repository : String) (comment : UInt64) (reaction : Reaction) :
    AsksOnce s past (client.answer (.addReaction repository comment reaction))
      (client.reactionRequest repository comment reaction) "add reaction" none fun _ _ => True
  /-- A status that is accepted has been set, whatever the body says. -/
  status (repository sha : String) (status : StatusUpdate) :
    AsksOnce s past (client.answer (.setStatus repository sha status))
      (client.statusRequest repository sha status) "create commit status" none fun _ _ => True
  /-- A pull request is what the body says. -/
  fetch (repository : String) (number : UInt64) :
    AsksOnce s past (client.answer (.getPullRequest repository number))
      (client.fetchRequest repository number) "get pull request" (some (repository, number)) (PullBody repository)
  /-- A pull request is read from an object that says where it stands, whatever else it says. -/
  delivered (pr : PullRequest) (number : UInt64)
    (h : Delivers (IsPullRequest pr) (s past (client.fetchRequest pr.repository number))) :
    (play s past (client.answer (.getPullRequest pr.repository number))).2 = .ok pr

section
variable {client : Client} {s : Surroundings Http.interface} {past : List (Exchange Http.interface)}

/-- What is posted comes to nothing but success or a failure. -/
theorem comes_post {operation : String} (x : Except String Http.Response) :
    Comes operation none (fun _ => .ok ()) x ((sent operation x).map fun _ => ()) := by
  cases x with
  | error reason => exact .unanswered reason
  | ok r =>
    by_cases success : r.isSuccess = true
    · rw [sent, if_pos success]
      exact .answered (isSuccess_iff.1 success)
    · rw [sent, if_neg success]
      exact .refused (fun h => success (isSuccess_iff.2 h)) (fun _ => rfl) (quotes_iff.2 rfl)

/-- What is fetched comes to the value in the body, or to a failure; a status of 404 tells that there is no such
pull request. -/
theorem comes_fetched {repository : String} {number : UInt64} (x : Except String Http.Response) :
    Comes "get pull request" (some (repository, number)) (decodeBody "get pull request" (pullRequest repository)) x
      (fetched repository number x) := by
  cases x with
  | error reason => exact .unanswered reason
  | ok r =>
    by_cases success : r.isSuccess = true
    · have hfetched : fetched repository number (.ok r) =
          decodeBody "get pull request" (pullRequest repository) r := by
        rw [fetched, sent, if_pos success]
        show (decodeBody "get pull request" (pullRequest repository) r).mapError _ = _
        cases hdecode : decodeBody "get pull request" (pullRequest repository) r with
        | ok pr => rfl
        | error e =>
          rw [eq_undecodable_of_decodeBody hdecode]
          rfl
      rw [hfetched]
      exact .answered (isSuccess_iff.1 success)
    · have hfails : ¬(200 ≤ r.status ∧ r.status < 300) := fun h => success (isSuccess_iff.2 h)
      rw [fetched, sent, if_neg success]
      by_cases hmissing : r.status = 404
      · obtain ⟨s, body⟩ := r
        obtain rfl : s = 404 := hmissing
        exact .missing rfl
      · have hother : notFound repository number (.status "get pull request" r.status
            (Text.shorten quoteLimit quoteLimit (Utf8.decodeLossy r.body))) = .status "get pull request" r.status
              (Text.shorten quoteLimit quoteLimit (Utf8.decodeLossy r.body)) := if_neg hmissing
        show Comes _ _ _ _ (.error (notFound repository number _))
        rw [hother]
        exact .refused hfails (fun h => absurd h hmissing) (quotes_iff.2 rfl)

/-- A fetch makes one request, and its answer decides the result. -/
theorem play_fetch (repository : String) (number : UInt64) :
    play s past (client.answer (.getPullRequest repository number)) =
      ([⟨client.fetchRequest repository number, s past (client.fetchRequest repository number)⟩],
        fetched repository number (s past (client.fetchRequest repository number))) := by
  rw [Client.answer, run_sendFor]
  rfl

/-- Every answer of the server is classified, whatever it is. -/
theorem classifies (client : Client) (s : Surroundings Http.interface) (past : List (Exchange Http.interface)) :
    Classifies client s past where
  reaction repository comment reaction := by
    refine ⟨(sent "add reaction" (s past (client.reactionRequest repository comment reaction))).map fun _ => (),
      ?_, (comes_post _).classified (by simp) (by simp)⟩
    rw [Client.answer, Client.post_reaction_eq, run_send]
    rfl
  status repository sha status := by
    refine ⟨(sent "create commit status" (s past (client.statusRequest repository sha status))).map fun _ => (),
      ?_, (comes_post _).classified (by simp) (by simp)⟩
    rw [Client.answer, Client.post_status_eq, run_send]
    rfl
  fetch repository number := by
    exact ⟨_, play_fetch repository number, (comes_fetched _).classified (fun _ _ => decodeBody_pullRequest_iff)
      fun _ _ => eq_undecodable_of_decodeBody⟩
  delivered pr number h := by
    obtain ⟨r, hr, success, hdecode⟩ := decodeBody_of_delivers "get pull request" h
      fun _ _ => pullRequest_of_isPullRequest
    rw [play_fetch]
    exact fetched_eq_ok_iff.2 ⟨r, hr, isSuccess_iff.1 success, hdecode⟩

end

end Autoformat.Rest
