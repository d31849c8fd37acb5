import Autoformat.Platform.Memory
import Autoformat.Proofs.Pagination
import Autoformat.Proofs.RoundTrip

/-!
# A server that holds a pull request

`Serves` says how a server answers that holds a pull request: with an object that says where the pull request
stands, whatever else it says, with the files in pages of a hundred, and with consent to whatever is posted.

The requests of a client are spelled out: method, address, headers and body. `Carries` says by which of them a
client carries a call of the platform to such a server. What the client makes of the answers is what the pull
request and its files are (`play_answer_of_serves`).
-/

namespace Autoformat.Rest

open Program
open Json (Decoder Doc Members Spelled)
open Json.Fields (reads_absent reads_field record_of_reads)

/-! ## What the answers say -/

/-- The values under the key of a repository: its name, or nothing if it is gone. -/
def IsRepository : Option String → List Doc → Prop
  | none, values => values = [] ∨ values = [.null]
  | some name, values =>
    ∃ members, values = [.object members] ∧ members.values "full_name" = [.string (.ok name)]

/-- One side of a pull request as an object, whatever else it says. -/
def IsBranch (b : Branch) (d : Doc) : Prop :=
  ∃ members, d = .object members ∧ members.values "ref" = [.string (.ok b.ref)] ∧
    members.values "sha" = [.string (.ok b.sha)] ∧ IsRepository b.repository (members.values "repo")

/-- A pull request as an object, whatever else it says. A head repository that is gone counts as the base
one. -/
def IsPullRequest (pr : PullRequest) (d : Doc) : Prop :=
  ∃ members head base headRepository baseRepository, d = .object members ∧
    members.values "number" = [.ofJson (.word pr.number)] ∧
    members.values "head" = [head] ∧ IsBranch ⟨pr.headRef, pr.headSha, headRepository⟩ head ∧
    headRepository.getD pr.repository = pr.headRepository ∧
    members.values "base" = [base] ∧ IsBranch ⟨pr.baseRef, pr.baseSha, baseRepository⟩ base

section
variable {d : Doc} {cs : List Char}

/-- The repository of a side is read from its values. -/
theorem reads_repository {found : String → Option Doc} {repository : Option String} {values : List Doc}
    (h : IsRepository repository values) (spelled : ∀ d ∈ values, ∃ cs, Spelled d cs)
    (hfound : found "repo" = values.head?) :
    (Json.Fields.field "repo" (Doc.asOptional repositoryName) (some none) none).Reads found repository := by
  cases repository with
  | none =>
    rcases h with rfl | rfl
    · exact reads_absent hfound
    · exact reads_field hfound rfl
  | some name =>
    obtain ⟨members, rfl, hname⟩ := h
    obtain ⟨cs, hcs⟩ := spelled _ (List.mem_singleton_self _)
    refine reads_field hfound ?_
    cases hcs with
    | object more =>
      have hread : repositoryName (.object members) = .ok name :=
        record_of_reads more (List.forall_mem_singleton.2 (Members.length_values_le_one hname))
          (reads_field (congrArg List.head? hname) rfl)
      show some <$> repositoryName (.object members) = _
      rw [hread]
      rfl

/-- A repository is given once at most. -/
theorem length_le_one_of_isRepository {repository : Option String} {values : List Doc}
    (h : IsRepository repository values) : values.length ≤ 1 := by
  cases repository with
  | none => rcases h with rfl | rfl <;> simp
  | some name =>
    obtain ⟨members, rfl, -⟩ := h
    exact Nat.le_refl 1

/-- A side of a pull request is read from an object that says what it is. -/
theorem branch_of_isBranch {b : Branch} (h : Spelled d cs) (side : IsBranch b d) : branch d = .ok b := by
  obtain ⟨members, rfl, href, hsha, hrepo⟩ := side
  cases h with
  | object more =>
    refine record_of_reads more ?_ (.seq (.seq (.map _ ?_) ?_) ?_)
    · exact List.forall_mem_cons.2 ⟨Members.length_values_le_one href,
        List.forall_mem_cons.2 ⟨Members.length_values_le_one hsha,
          List.forall_mem_singleton.2 (length_le_one_of_isRepository hrepo)⟩⟩
    · exact reads_field (congrArg List.head? href) rfl
    · exact reads_field (congrArg List.head? hsha) rfl
    · exact reads_repository hrepo (fun d hd => more.exists_spelled members (Members.mem_values_iff.1 hd)) rfl

/-- A pull request is read from an object that says where it stands. -/
theorem pullRequest_of_isPullRequest {pr : PullRequest} (h : Spelled d cs) (pull : IsPullRequest pr d) :
    pullRequest pr.repository d = .ok pr := by
  obtain ⟨members, head, base, headRepository, baseRepository, rfl, hnumber, hhead, headSide, hgone, hbase,
    baseSide⟩ := pull
  cases h with
  | object more =>
    have hspelled (key : String) (x : Doc) (hx : members.values key = [x]) : ∃ ds, Spelled x ds :=
      more.exists_spelled members (Members.mem_values_iff.1 (hx ▸ List.mem_singleton_self x))
    obtain ⟨headChars, headSpelled⟩ := hspelled _ _ hhead
    obtain ⟨baseChars, baseSpelled⟩ := hspelled _ _ hbase
    have hpr : pullRequestOf pr.repository pr.number ⟨pr.headRef, pr.headSha, headRepository⟩
        ⟨pr.baseRef, pr.baseSha, baseRepository⟩ = pr := by
      rw [pullRequestOf, hgone]
    rw [← hpr]
    refine record_of_reads more ?_ (.seq (.seq (.map _ ?_) ?_) ?_)
    · exact List.forall_mem_cons.2 ⟨Members.length_values_le_one hnumber,
        List.forall_mem_cons.2 ⟨Members.length_values_le_one hhead,
          List.forall_mem_singleton.2 (Members.length_values_le_one hbase)⟩⟩
    · exact reads_field (congrArg List.head? hnumber) (Json.decode_encode pr.number)
    · exact reads_field (congrArg List.head? hhead) (branch_of_isBranch headSpelled headSide)
    · exact reads_field (congrArg List.head? hbase) (branch_of_isBranch baseSpelled baseSide)

end

/-! ## Requests -/

namespace Client

variable (client : Client) (repository : String)

/-- The request that asks where a pull request stands. -/
def fetchRequest (number : UInt64) : Http.Request where
  method := .get
  url := client.apiBase ++ s!"/repos/{repository}/pulls/{number}"
  headers := client.headers
  body := none
  timeoutMs := client.timeoutMs

/-- The request that reacts to a comment. -/
def reactionRequest (comment : UInt64) (reaction : Reaction) : Http.Request where
  method := .post
  url := client.apiBase ++ s!"/repos/{repository}/issues/comments/{comment}/reactions"
  headers := client.headers ++ [("content-type", "application/json")]
  body := some (.object [("content", .string (match reaction with
    | .rocket => "rocket"
    | .eyes => "eyes"
    | .plusOne => "+1"))])
  timeoutMs := client.timeoutMs

/-- The request that sets the status of a commit. -/
def statusRequest (sha : String) (status : StatusUpdate) : Http.Request where
  method := .post
  url := client.apiBase ++ s!"/repos/{repository}/statuses/{sha}"
  headers := client.headers ++ [("content-type", "application/json")]
  body := some (.object ([("state", .string (match status.state with
      | .pending => "pending"
      | .success => "success"
      | .failure => "failure")),
    ("context", .string status.context), ("description", .string status.description)] ++
    status.targetUrl.toList.map fun url => ("target_url", .string url)))
  timeoutMs := client.timeoutMs

/-- A client asks for a pull request by the request for it. -/
theorem get_pull_eq (number : UInt64) :
    client.get s!"/repos/{repository}/pulls/{number}" = client.fetchRequest repository number := rfl

/-- What is sent for a reaction is the request that reacts. -/
theorem post_reaction_eq (comment : UInt64) (reaction : Reaction) :
    client.post s!"/repos/{repository}/issues/comments/{comment}/reactions"
        (.object [("content", Json.encode reaction)]) =
      client.reactionRequest repository comment reaction := by
  cases reaction <;> rfl

/-- What is sent for a status is the request that sets it. -/
theorem post_status_eq (sha : String) (status : StatusUpdate) :
    client.post s!"/repos/{repository}/statuses/{sha}" (Json.encode status) =
      client.statusRequest repository sha status := by
  obtain ⟨state, context, description, targetUrl⟩ := status
  cases state <;> cases targetUrl <;> rfl

/-- What is sent for a reaction is its word. -/
theorem body_reactionRequest (comment : UInt64) (reaction : Reaction) :
    (client.reactionRequest repository comment reaction).body =
      some (.object [("content", Json.encode reaction)]) :=
  congrArg Http.Request.body (client.post_reaction_eq repository comment reaction).symm

/-- What is sent for a status is its JSON text. -/
theorem body_statusRequest (sha : String) (status : StatusUpdate) :
    (client.statusRequest repository sha status).body = some (Json.encode status) :=
  congrArg Http.Request.body (client.post_status_eq repository sha status).symm

end Client

/-- The request sends a JSON value that reads as `a`. -/
def Sends {α : Type} (decode : Decoder α) (a : α) (q : Http.Request) : Prop :=
  ∃ body, q.body = some body ∧ Json.parseWith decode body.compact = .ok a

/-- The request was answered with success. -/
def Succeeds (x : Except String Http.Response) : Prop :=
  ∃ r, x = .ok r ∧ 200 ≤ r.status ∧ r.status < 300

/-! ## Calls and requests -/

/-- At some moment a server holds a pull request with the given files. -/
structure Serves (client : Client) (pr : PullRequest) (files : ChangedFiles)
    (answer : Http.Request → Except String Http.Response) : Prop where
  /-- It says where the pull request stands. -/
  pullRequest : Delivers (IsPullRequest pr)
    (answer (client.fetchRequest pr.repository pr.number))
  /-- It lists the files in pages of a hundred. -/
  pages (i : Nat) (h : i ≤ files.size / 100) : ServesPage ((files.paths.drop (100 * i)).take 100)
    (answer (fileRequest client pr.repository pr.number (i + 1)))
  /-- It accepts whatever is posted. -/
  accepts (q : Http.Request) (h : q.method = .post) : Succeeds (answer q)

/-- The reaction that the body of a request names. -/
def reactionOf : Decoder Reaction := Json.Fields.record "Reaction" (.required "content")

/-- The requests by which a client carries a call to a server with the given files. What is sent reads as what the
call is about. -/
def Carries (client : Client) (files : ChangedFiles) : Platform.Call → List Http.Request → Prop
  | .addReaction repository comment reaction, qs =>
    qs = [client.reactionRequest repository comment reaction] ∧ ∀ q ∈ qs, Sends reactionOf reaction q
  | .setStatus repository sha status, qs =>
    qs = [client.statusRequest repository sha status] ∧ ∀ q ∈ qs, Sends Json.decode status q
  | .getPullRequest repository number, qs => qs = [client.fetchRequest repository number]
  | .listFiles repository number, qs =>
    qs = (List.range' 1 (files.size / 100 + 1)).map (fileRequest client repository number)

/-- The calls that concern no other pull request. -/
def Concerns (pr : PullRequest) : Platform.Call → Prop
  | .addReaction .. => True
  | .setStatus .. => True
  | .getPullRequest repository number => repository = pr.repository ∧ number = pr.number
  | .listFiles repository number => repository = pr.repository ∧ number = pr.number

/-- What a platform that knows a pull request and its files returns. -/
def replyOf (pr : PullRequest) (files : ChangedFiles) : (c : Platform.Call) → c.Result
  | .addReaction .. => ()
  | .setStatus .. => ()
  | .getPullRequest .. => pr
  | .listFiles .. => files

section
variable {s : Surroundings Http.interface} {past : List (Exchange Http.interface)} {q : Http.Request}
  {r : Http.Response} (operation : String)

/-- A request that is answered with success is one exchange. -/
theorem play_send (h : s past q = .ok r) (success : r.isSuccess = true) :
    play s past (send operation q).run = ([⟨q, .ok r⟩], .ok r) := by
  simp [send, ExceptT.run_bind, Program.request, play, h, success]

/-- What is posted and accepted is one exchange that returns nothing. -/
theorem play_post (accepted : Succeeds (s past q)) :
    ∃ x, play s past (do let r ← (send operation q).run; pure (r.map fun _ => ())) = ([⟨q, x⟩], .ok ()) := by
  obtain ⟨r, hr, success⟩ := accepted
  rw [play_bind, play_send _ hr (isSuccess_iff.2 success)]
  exact ⟨_, rfl⟩

/-- A request whose answer is a success that decodes gives what is decoded. -/
theorem play_sendFor {α : Type} {decode : Decoder α} {a : α} (h : s past q = .ok r)
    (success : r.isSuccess = true) (hdecode : decodeBody operation decode r = .ok a) :
    play s past (sendFor operation decode q).run = ([⟨q, .ok r⟩], .ok a) := by
  simp [sendFor, ExceptT.run_bind, play_bind, play_send operation h success, hdecode, play]

end

section
variable {s : Surroundings Http.interface} {client : Client} {pr : PullRequest} {files : ChangedFiles}

/-- From any page on, a listing asks for the pages that are left and ends with all files. -/
theorem play_listFrom_of_serves (past : List (Exchange Http.interface))
    (serves : ∀ past, Serves client pr files (s past)) {count n pages : Nat}
    (last : n + count = files.size / 100) (room : count < pages) :
    ∃ t, play s past (listFrom client pr.repository pr.number ⟨files.paths.take (100 * n)⟩ pages
        (n + 1)).run = (t, .ok files) ∧
      t.map Exchange.request =
        (List.range' (n + 1) (count + 1)).map (fileRequest client pr.repository pr.number) := by
  have hsize : files.paths.length = files.size := rfl
  induction count generalizing past n pages with
  | zero =>
    obtain ⟨pages, rfl⟩ : ∃ k, pages = k + 1 := ⟨pages - 1, by omega⟩
    have hpage := pageOf_of_servesPage ((serves past).pages n (by omega))
    have hshort : ((files.paths.drop (100 * n)).take 100).length < filesPerPage := by
      rw [List.length_take, List.length_drop, filesPerPage]
      omega
    have hall : files.paths.take (100 * n) ++ (files.paths.drop (100 * n)).take 100 = files.paths := by
      rw [← List.take_add, List.take_of_length_le (by omega)]
    rw [run_listFrom_succ, pageRequest_eq]
    simp only [play, hpage, if_pos hshort, ChangedFiles.append, hall]
    exact ⟨_, rfl, rfl⟩
  | succ count ih =>
    obtain ⟨pages, rfl⟩ : ∃ k, pages = k + 1 := ⟨pages - 1, by omega⟩
    have hpage := pageOf_of_servesPage ((serves past).pages n (by omega))
    have hfull : ¬((files.paths.drop (100 * n)).take 100).length < filesPerPage := by
      rw [List.length_take, List.length_drop, filesPerPage]
      omega
    -- the files of the pages so far are the first of all files, and a full page makes them a hundred more
    have hmore : files.paths.take (100 * n) ++ (files.paths.drop (100 * n)).take 100 =
        files.paths.take (100 * (n + 1)) := by
      rw [Nat.mul_add, Nat.mul_one, List.take_add]
    rw [run_listFrom_succ, pageRequest_eq]
    obtain ⟨t, ht, hrequests⟩ := @ih (past ++ [⟨fileRequest client pr.repository pr.number (n + 1),
      s past (fileRequest client pr.repository pr.number (n + 1))⟩]) (n + 1) pages (by omega) (by omega)
    simp only [play, hpage, if_neg hfull, ChangedFiles.append, hmore, ht]
    refine ⟨_, rfl, ?_⟩
    rw [List.map_cons, hrequests, List.range'_succ (n := count + 1), List.map_cons]

/-- A call that concerns the pull request is answered by what the server holds. -/
theorem play_answer_of_serves (past : List (Exchange Http.interface))
    (serves : ∀ past, Serves client pr files (s past))
    (bound : files.size < 100 * (UInt32.size - 1)) {c : Platform.Call} (concerns : Concerns pr c) :
    ∃ t, play s past (client.answer c) = (t, .ok (replyOf pr files c)) ∧
      Carries client files c (t.map Exchange.request) := by
  cases c with
  | addReaction repository comment reaction =>
    obtain ⟨x, hplay⟩ := play_post "add reaction" ((serves past).accepts (client.post
      s!"/repos/{repository}/issues/comments/{comment}/reactions"
      (.object [("content", Json.encode reaction)])) rfl)
    refine ⟨_, hplay, congrArg ([·]) (client.post_reaction_eq repository comment reaction),
      List.forall_mem_singleton.2 ⟨_, rfl, ?_⟩⟩
    rw [Json.parseWith_compact]
    exact Json.Fields.record_written (by simp) (Json.Fields.reads_written rfl)
  | setStatus repository sha status =>
    obtain ⟨x, hplay⟩ := play_post "create commit status" ((serves past).accepts (client.post
      s!"/repos/{repository}/statuses/{sha}" (Json.encode status)) rfl)
    exact ⟨_, hplay, congrArg ([·]) (client.post_status_eq repository sha status),
      List.forall_mem_singleton.2 ⟨_, rfl, Json.parse_print status⟩⟩
  | getPullRequest repository number =>
    obtain ⟨rfl, rfl⟩ := concerns
    obtain ⟨r, hr, success, hdecode⟩ := decodeBody_of_delivers "get pull request"
      (serves past).pullRequest fun _ _ => pullRequest_of_isPullRequest
    refine ⟨[⟨_, .ok r⟩], ?_, rfl⟩
    rw [Client.answer, Client.get_pull_eq, play_bind, play_sendFor _ hr success hdecode]
    rfl
  | listFiles repository number =>
    obtain ⟨rfl, rfl⟩ := concerns
    have hlimit : pageLimit = UInt32.size - 1 := rfl
    exact play_listFrom_of_serves past serves (n := 0) (Nat.zero_add _) (by omega)

end

end Autoformat.Rest
