import Autoformat.Proofs.Interchange

/-!
# Programs carried out over other surroundings

A program whose questions are answered by programs is itself a program, over the interface of those.
`Program.runs_run_iff` takes its runs apart: the program runs as it does over its own interface, and each
of its exchanges is carried out by some exchanges of the other one (`CarriedOut`).

Two uses of it matter here. A command shows a part of its log and passes on everything else
(`gather_filtered`). A part of the bot asks the server for its calls of the platform and for nothing
else (`CarriedOut.web`), once for each call that is not a listing (`runs_answer_fetch_iff`,
`runs_answer_reaction_iff`, `runs_answer_status_iff`).
-/

namespace Autoformat

namespace Program

variable {I J : Interface} {α β : Type} {answer : (q : I.Request) → Program J (I.Answer q)}
  {e : Exchange I} {u u' : List (Exchange I)} {t t' : List (Exchange J)}

/-- A program that asks once and is done. -/
theorem runs_ask_done_iff {q : I.Request} {f : I.Answer q → α} {a : α} :
    Runs (.ask q fun x => .done (f x)) u a ↔ ∃ x, u = [⟨q, x⟩] ∧ a = f x := by
  rw [runs_ask_iff]
  refine exists_congr fun x => ?_
  constructor
  · rintro ⟨v, rfl, hdone⟩
    obtain ⟨rfl, rfl⟩ := runs_done_iff.1 hdone
    exact ⟨rfl, rfl⟩
  · rintro ⟨rfl, rfl⟩
    exact ⟨[], rfl, .done _⟩

/-- A single question is one exchange, and its answer is the result. -/
@[simp]
theorem runs_request_iff {q : I.Request} {x : I.Answer q} :
    Runs (request q) u x ↔ u = [⟨q, x⟩] := by
  refine (runs_ask_done_iff (f := id)).trans ?_
  constructor
  · rintro ⟨y, rfl, rfl⟩
    rfl
  · rintro rfl
    exact ⟨x, rfl, rfl⟩

/-- Exchanges that carry out others: each question is answered by a program in turn. -/
inductive CarriedOut (answer : (q : I.Request) → Program J (I.Answer q)) :
    List (Exchange I) → List (Exchange J) → Prop where
  | nil : CarriedOut answer [] []
  | cons {e : Exchange I} {u : List (Exchange I)} {t t' : List (Exchange J)}
    (first : Runs (answer e.request) t e.answer) (rest : CarriedOut answer u t') :
    CarriedOut answer (e :: u) (t ++ t')

@[simp]
theorem carriedOut_nil_iff : CarriedOut answer [] t ↔ t = [] := by
  constructor
  · intro h
    cases h
    rfl
  · rintro rfl
    exact .nil

/-- The first exchange is carried out first. -/
@[simp]
theorem carriedOut_cons_iff : CarriedOut answer (e :: u) t ↔
    ∃ v w, t = v ++ w ∧ Runs (answer e.request) v e.answer ∧ CarriedOut answer u w := by
  constructor
  · intro h
    cases h with
    | cons first rest => exact ⟨_, _, rfl, first, rest⟩
  · rintro ⟨v, w, rfl, first, rest⟩
    exact .cons first rest

/-- What comes first is carried out first. -/
theorem carriedOut_append_iff :
    CarriedOut answer (u ++ u') t ↔ ∃ v w, t = v ++ w ∧ CarriedOut answer u v ∧ CarriedOut answer u' w := by
  induction u generalizing t with
  | nil => simp
  | cons e u ih =>
    rw [List.cons_append, carriedOut_cons_iff]
    simp only [ih, carriedOut_cons_iff]
    constructor
    · rintro ⟨v, w, rfl, hv, a, b, rfl, ha, hb⟩
      exact ⟨v ++ a, b, by rw [List.append_assoc], ⟨v, a, rfl, hv, ha⟩, hb⟩
    · rintro ⟨_, w, rfl, ⟨v, a, rfl, hv, ha⟩, hw⟩
      exact ⟨v, a ++ w, by rw [List.append_assoc], hv, a, w, rfl, ha, hw⟩

/-- A program over the interface of its answers runs as it does over its own, and its exchanges are
carried out one by one. -/
theorem runs_run_iff {p : Program I α} {a : α} :
    Runs (p.run answer) t a ↔ ∃ u, Runs p u a ∧ CarriedOut answer u t := by
  induction p generalizing t with
  | done b =>
    simp only [run, pure_eq, runs_done_iff]
    constructor
    · rintro ⟨rfl, rfl⟩
      exact ⟨[], ⟨rfl, rfl⟩, .nil⟩
    · rintro ⟨u, ⟨rfl, rfl⟩, hcarried⟩
      exact ⟨carriedOut_nil_iff.1 hcarried, rfl⟩
  | ask q next ih =>
    rw [run, runs_bind_iff]
    constructor
    · rintro ⟨v, w, x, rfl, hx, hnext⟩
      obtain ⟨u, hu, hcarried⟩ := (ih x).1 hnext
      exact ⟨⟨q, x⟩ :: u, .ask x hu, .cons hx hcarried⟩
    · rintro ⟨u, hu, hcarried⟩
      obtain ⟨x, u, rfl, hnext⟩ := runs_ask_iff.1 hu
      obtain ⟨v, w, rfl, hx, hcarried⟩ := carriedOut_cons_iff.1 hcarried
      exact ⟨v, w, x, rfl, hx, (ih x).2 ⟨u, hnext, hcarried⟩⟩

/-- What is shown of exchanges that carry out others, when it is known for each of them. -/
theorem CarriedOut.filterMap_eq {f : Exchange J → Option β} {g : Exchange I → List β}
    (hstep : ∀ (e : Exchange I) (v : List (Exchange J)), Runs (answer e.request) v e.answer →
      v.filterMap f = g e) (h : CarriedOut answer u t) : t.filterMap f = u.flatMap g := by
  induction h with
  | nil => rfl
  | cons first rest ih => rw [List.filterMap_append, hstep _ _ first, ih, List.flatMap_cons]

/-- Every exchange carries out some exchange. -/
theorem CarriedOut.exists_of_mem {x : Exchange J} (h : CarriedOut answer u t) (hx : x ∈ t) :
    ∃ e ∈ u, ∃ v, Runs (answer e.request) v e.answer ∧ x ∈ v := by
  induction h with
  | nil => cases hx
  | @cons e u t t' first rest ih =>
    rcases List.mem_append.1 hx with hx | hx
    · exact ⟨e, List.mem_cons_self, t, first, hx⟩
    · obtain ⟨e', he', v, hv, hxv⟩ := ih hx
      exact ⟨e', List.mem_cons_of_mem _ he', v, hv, hxv⟩

/-- What carries out one of the exchanges is part of what carries out all. -/
theorem CarriedOut.exists_of_mem_left (h : CarriedOut answer u t) (he : e ∈ u) :
    ∃ v, Runs (answer e.request) v e.answer ∧ v ⊆ t := by
  induction h with
  | nil => cases he
  | @cons e' u t t' first rest ih =>
    rcases List.mem_cons.1 he with rfl | he
    · exact ⟨t, first, List.subset_append_left _ _⟩
    · obtain ⟨v, hv, hsub⟩ := ih he
      exact ⟨v, hv, List.subset_append_of_subset_right _ hsub⟩

end Program

open Program

/-! ## Requests to the server -/

/-- The questions that a platform answers. -/
abbrev Platform.interface : Interface := ⟨Platform.Call, fun c => Except PlatformError c.Result⟩

namespace Rest

variable {client : Client} {repository sha operation : String} {number comment : UInt64}
  {reaction : Reaction} {status : StatusUpdate} {α : Type} {w : List (Exchange Http.interface)}

/-- What the answer to a request comes to: any status but success is an error. -/
def sent (operation : String) : Except String Http.Response → Except PlatformError Http.Response
  | .error reason => .error (.transport operation reason)
  | .ok r =>
    if r.isSuccess then .ok r
    else .error (.status operation r.status
      (Text.shorten quoteLimit quoteLimit (Utf8.decodeLossy r.body)))

/-- A request is sent once, and its answer is judged by its status. -/
theorem run_send (operation : String) (q : Http.Request) :
    (send operation q).run = .ask q fun x => .done (sent operation x) := by
  refine run_request_bind.trans (congrArg _ (funext fun x => ?_))
  cases x with
  | error reason => rfl
  | ok r =>
    by_cases hr : r.isSuccess = true
    · simp [sent, hr]
    · simp [sent, hr]

/-- A request goes well when it is answered with a status of success. -/
theorem sent_eq_ok_iff (operation : String) {x : Except String Http.Response} {r : Http.Response} :
    sent operation x = .ok r ↔ x = .ok r ∧ r.isSuccess = true := by
  cases x with
  | error reason => simp [sent]
  | ok r' =>
    by_cases hr : r'.isSuccess = true
    · simp only [sent, if_pos hr, Except.ok.injEq]
      constructor
      · rintro rfl
        exact ⟨rfl, hr⟩
      · exact And.left
    · simp only [sent, if_neg hr, Except.ok.injEq, reduceCtorEq, false_iff, not_and]
      rintro rfl
      exact hr

/-- A request whose answer has no content to be read goes well exactly when it succeeds. -/
theorem map_sent_eq_ok_iff {x : Except String Http.Response} :
    (sent operation x).map (fun _ => ()) = .ok () ↔ Succeeds x := by
  rw [Succeeds]
  simp only [← isSuccess_iff, ← sent_eq_ok_iff operation]
  cases sent operation x <;> simp [Except.map]

/-- What the answer to the request for a pull request comes to. -/
def fetched (repository : String) (number : UInt64) (x : Except String Http.Response) :
    Except PlatformError PullRequest :=
  (sent "get pull request" x >>= decodeBody "get pull request" (pullRequest repository)).mapError
    (notFound repository number)

/-- The request for a pull request was answered with success, and the answer reads as this one. -/
def Delivered (repository : String) (x : Except String Http.Response) (pr : PullRequest) : Prop :=
  ∃ r, x = .ok r ∧ (200 ≤ r.status ∧ r.status < 300) ∧
    decodeBody "get pull request" (pullRequest repository) r = .ok pr

/-- A pull request is fetched when the answer is a success and reads as it. -/
theorem fetched_eq_ok_iff {x : Except String Http.Response} {pr : PullRequest} :
    fetched repository number x = .ok pr ↔ Delivered repository x pr := by
  have hmap (y : Except PlatformError PullRequest) :
      y.mapError (notFound repository number) = .ok pr ↔ y = .ok pr := by
    cases y <;> simp [Except.mapError]
  rw [fetched, hmap, Delivered]
  simp only [← isSuccess_iff, ← and_assoc, ← sent_eq_ok_iff "get pull request"]
  cases sent "get pull request" x <;> simp [bind, Except.bind]

/-- A request is sent once, and the body of a successful answer is decoded. -/
theorem run_sendFor (operation : String) (decode : Json.Decoder α) (q : Http.Request) :
    (sendFor operation decode q).run =
      .ask q fun x => .done (sent operation x >>= decodeBody operation decode) := by
  rw [sendFor, ExceptT.run_bind, run_send, ask_bind]
  congr 1
  funext x
  cases sent operation x <;> rfl

/-- A pull request is fetched by one request. -/
theorem runs_answer_fetch_iff {x : Except PlatformError PullRequest} :
    Runs (client.answer (.getPullRequest repository number)) w x ↔
      ∃ y, w = [⟨client.fetchRequest repository number, y⟩] ∧ x = fetched repository number y := by
  rw [Client.answer, run_sendFor]
  exact runs_ask_done_iff

/-- A reaction is added by one request. -/
theorem runs_answer_reaction_iff {x : Except PlatformError Unit} :
    Runs (client.answer (.addReaction repository comment reaction)) w x ↔
      ∃ y, w = [⟨client.reactionRequest repository comment reaction, y⟩] ∧
        x = (sent "add reaction" y).map fun _ => () := by
  rw [Client.answer, Client.post_reaction_eq, run_send]
  exact runs_ask_done_iff

/-- A status is set by one request. -/
theorem runs_answer_status_iff {x : Except PlatformError Unit} :
    Runs (client.answer (.setStatus repository sha status)) w x ↔
      ∃ y, w = [⟨client.statusRequest repository sha status, y⟩] ∧
        x = (sent "create commit status" y).map fun _ => () := by
  rw [Client.answer, Client.post_status_eq, run_send]
  exact runs_ask_done_iff

/-- A listing asks, and sends nothing. -/
theorem body_of_mem_listFrom {files : ChangedFiles} {pages n : Nat} {x : Except PlatformError ChangedFiles}
    (hw : Runs (listFrom client repository number files pages n).run w x) :
    ∀ e ∈ w, e.request.body = none := by
  induction pages generalizing files n w with
  | zero =>
    obtain ⟨rfl, -⟩ := runs_done_iff.1 hw
    simp
  | succ pages ih =>
    rw [run_listFrom_succ] at hw
    obtain ⟨y, u, rfl, hrest⟩ := runs_ask_iff.1 hw
    refine List.forall_mem_cons.2 ⟨rfl, ?_⟩
    cases hpage : pageOf y with
    | error e =>
      rw [hpage] at hrest
      obtain ⟨rfl, -⟩ := runs_done_iff.1 hrest
      simp
    | ok paths =>
      rw [hpage] at hrest
      by_cases hlast : paths.length < filesPerPage
      · simp only [if_pos hlast] at hrest
        obtain ⟨rfl, -⟩ := runs_done_iff.1 hrest
        simp
      · simp only [if_neg hlast] at hrest
        exact ih hrest

/-- The request that sends what a call is about, if it sends anything. -/
def Client.postOf (client : Client) : Platform.Call → Option Http.Request
  | .addReaction repository comment reaction => some (client.reactionRequest repository comment reaction)
  | .setStatus repository sha status => some (client.statusRequest repository sha status)
  | .getPullRequest _ _ => none
  | .listFiles _ _ => none

/-- A call that sends something is carried by one request, and succeeds when that does. -/
theorem exists_of_postOf {call : Platform.Call} {q : Http.Request} {x : Except PlatformError call.Result}
    (hcall : client.postOf call = some q) (hw : Runs (client.answer call) w x) :
    ∃ y, w = [⟨q, y⟩] ∧ ((∃ z, x = .ok z) ↔ Succeeds y) := by
  cases call with
  | addReaction repository comment reaction =>
    obtain rfl := Option.some.inj hcall
    obtain ⟨y, rfl, rfl⟩ := runs_answer_reaction_iff.1 hw
    exact ⟨y, rfl, fun ⟨_, h⟩ => map_sent_eq_ok_iff.1 h, fun h => ⟨(), map_sent_eq_ok_iff.2 h⟩⟩
  | setStatus repository sha status =>
    obtain rfl := Option.some.inj hcall
    obtain ⟨y, rfl, rfl⟩ := runs_answer_status_iff.1 hw
    exact ⟨y, rfl, fun ⟨_, h⟩ => map_sent_eq_ok_iff.1 h, fun h => ⟨(), map_sent_eq_ok_iff.2 h⟩⟩
  | getPullRequest repository number => cases hcall
  | listFiles repository number => cases hcall

/-- What is sent is sent by a call that sends something. -/
theorem postOf_of_mem {call : Platform.Call} {x : Except PlatformError call.Result}
    {e : Exchange Http.interface} (hw : Runs (client.answer call) w x) (he : e ∈ w)
    (hbody : e.request.body ≠ none) : client.postOf call = some e.request := by
  cases call with
  | addReaction repository comment reaction =>
    obtain ⟨y, rfl, -⟩ := runs_answer_reaction_iff.1 hw
    rw [List.mem_singleton.1 he, Client.postOf]
  | setStatus repository sha status =>
    obtain ⟨y, rfl, -⟩ := runs_answer_status_iff.1 hw
    rw [List.mem_singleton.1 he, Client.postOf]
  | getPullRequest repository number =>
    obtain ⟨y, rfl, -⟩ := runs_answer_fetch_iff.1 hw
    rw [List.mem_singleton.1 he] at hbody
    exact absurd rfl hbody
  | listFiles repository number => exact absurd (body_of_mem_listFrom hw e he) hbody

/-- Something was sent with success exactly when a call that sends it succeeded. -/
theorem mem_succeeds_iff {u : List (Exchange Platform.interface)} {q : Http.Request}
    (h : CarriedOut client.answer u w) (hbody : q.body ≠ none) :
    (∃ y, (⟨q, y⟩ : Exchange Http.interface) ∈ w ∧ Succeeds y) ↔
      ∃ call, ∃ z : call.Result, (⟨call, .ok z⟩ : Exchange Platform.interface) ∈ u ∧
        client.postOf call = some q := by
  constructor
  · rintro ⟨y, hmem, hy⟩
    obtain ⟨⟨call, x⟩, hcall, v, hv, hmem⟩ := h.exists_of_mem hmem
    have hq := postOf_of_mem hv hmem hbody
    obtain ⟨y', rfl, hok⟩ := exists_of_postOf hq hv
    cases List.mem_singleton.1 hmem
    obtain ⟨z, hz⟩ := hok.2 hy
    exact ⟨call, z, (show x = .ok z from hz) ▸ hcall, hq⟩
  · rintro ⟨call, z, hcall, hq⟩
    obtain ⟨v, hv, hsub⟩ := h.exists_of_mem_left hcall
    obtain ⟨y, rfl, hok⟩ := exists_of_postOf hq hv
    exact ⟨y, hsub (List.mem_singleton_self _), hok.1 ⟨z, rfl⟩⟩

end Rest

/-! ## Commands and their site -/

namespace CommandLine

open Rest

variable {u v t : List (Exchange Console.interface)} {β : Type}

/-- An exchange with the server. -/
@[simp]
def webExchange? : Exchange Console.interface → Option (Exchange Http.interface)
  | ⟨.http q, x⟩ => some ⟨q, x⟩
  | ⟨.git _ _, _⟩ => none
  | ⟨.command _ _, _⟩ => none
  | ⟨.cancelled _, _⟩ => none
  | ⟨.log _, _⟩ => none
  | ⟨.readText _, _⟩ => none
  | ⟨.appendText _ _, _⟩ => none
  | ⟨.print _, _⟩ => none
  | ⟨.clock, _⟩ => none
  | ⟨.freshName, _⟩ => none

/-- What the exchanges of a command show of one kind, in order. -/
def gather (f : Exchange Console.interface → Option β) (t : List (Exchange Console.interface)) : List β :=
  t.filterMap f

/-- The exchanges with the server, in order. -/
abbrev webExchanges : List (Exchange Console.interface) → List (Exchange Http.interface) :=
  gather webExchange?

section
variable {f : Exchange Console.interface → Option β} {e : Exchange Console.interface}

@[simp]
theorem gather_nil : gather f [] = [] := rfl

@[simp]
theorem gather_cons : gather f (e :: t) = (f e).toList ++ gather f t := by
  cases h : f e <;> simp [gather, h]

@[simp]
theorem gather_append : gather f (t ++ u) = gather f t ++ gather f u := List.filterMap_append

end

/-- What is shown of an exchange is the exchange itself, unless it belongs to the log. -/
theorem runs_filtered_cases {filter : Log.Filter} {q : Console.Request} {x : Console.Answer q}
    (h : Runs (Console.filtered filter q) t x) : t = [⟨q, x⟩] ∨
      (∃ entry, q = .log entry) ∧ ∀ e ∈ t, ∃ entry, e = ⟨.log entry, ()⟩ := by
  cases q with
  | log entry =>
    refine .inr ⟨⟨entry, rfl⟩, ?_⟩
    simp only [Console.filtered] at h
    split at h
    · rw [runs_request_iff.1 h]
      exact List.forall_mem_singleton.2 ⟨_, rfl⟩
    · rw [(runs_done_iff.1 h).1]
      simp
  | http q => exact .inl (runs_request_iff.1 h)
  | git directory args => exact .inl (runs_request_iff.1 h)
  | command directory c => exact .inl (runs_request_iff.1 h)
  | cancelled at_ => exact .inl (runs_request_iff.1 h)
  | readText path => exact .inl (runs_request_iff.1 h)
  | appendText path text => exact .inl (runs_request_iff.1 h)
  | print text => exact .inl (runs_request_iff.1 h)
  | clock => exact .inl (runs_request_iff.1 h)
  | freshName => exact .inl (runs_request_iff.1 h)

/-- A part of the log at most is shown of a command, and nothing else of it is changed. -/
theorem gather_filtered {f : Exchange Console.interface → Option β} {filter : Log.Filter}
    (hlog : ∀ entry, f ⟨.log entry, ()⟩ = none) (h : CarriedOut (Console.filtered filter) u t) :
    gather f t = gather f u := by
  have hstep (e : Exchange Console.interface) (v : List (Exchange Console.interface))
      (hv : Runs (Console.filtered filter e.request) v e.answer) : v.filterMap f = (f e).toList := by
    obtain ⟨q, x⟩ := e
    rcases runs_filtered_cases hv with rfl | ⟨⟨entry, rfl⟩, hall⟩
    · cases hf : f ⟨q, x⟩ <;> simp [hf]
    · have hnone : f ⟨.log entry, x⟩ = none := hlog entry
      rw [hnone, Option.toList_none, List.filterMap_eq_nil_iff]
      intro e he
      obtain ⟨entry', rfl⟩ := hall e he
      exact hlog entry'
  rw [gather, CarriedOut.filterMap_eq hstep h, gather, List.filterMap_eq_flatMap_toList]

end CommandLine

/-- The exchange with the platform in an exchange of a run. -/
@[simp]
def Bot.platformExchange? : Exchange Bot.interface → Option (Exchange Platform.interface)
  | ⟨.platform c, x⟩ => some ⟨c, x⟩
  | ⟨.git _, _⟩ => none
  | ⟨.command _, _⟩ => none
  | ⟨.cancelled _, _⟩ => none
  | ⟨.log _, _⟩ => none

/-- The exchanges with the platform, in order. -/
abbrev Bot.platformExchanges : Bot.Trace → List (Exchange Platform.interface) :=
  Bot.collect Bot.platformExchange?

namespace CommandLine

variable {site : Site} {w : List (Exchange Http.interface)} {t : List (Exchange Console.interface)}

/-- Requests that are passed on are carried out by themselves. -/
theorem carriedOut_request_iff :
    CarriedOut (fun q => Program.request (I := Console.interface) (.http q)) w t ↔ t = w.map passedOn := by
  induction w generalizing t with
  | nil => exact carriedOut_nil_iff
  | cons e w ih =>
    constructor
    · intro h
      cases h with
      | cons first rest =>
        rw [runs_request_iff.1 first, ih.1 rest]
        rfl
    · rintro rfl
      show CarriedOut _ (e :: w) ([passedOn e] ++ w.map passedOn)
      exact .cons (runs_request_iff.2 rfl) (ih.2 rfl)

/-- What is passed on to the server is what it is asked. -/
theorem gather_map_passedOn : gather webExchange? (w.map passedOn) = w := by
  rw [gather, List.filterMap_map]
  exact List.filterMap_some

/-- A site asks the server for its calls of the platform, and nothing else. -/
theorem carriedOut_web {u : Bot.Trace} (h : CarriedOut site.answer u t) :
    CarriedOut site.client.answer (Bot.platformExchanges u) (webExchanges t) := by
  induction h with
  | nil => exact .nil
  | @cons e u v t first rest ih =>
    obtain ⟨q, x⟩ := e
    rw [webExchanges, gather_append]
    have hother {q' : Console.Request} {y : Console.Answer q'}
        (hv : Runs (Program.request (I := Console.interface) q') v y) (hq : webExchange? ⟨q', y⟩ = none) :
        gather webExchange? v = [] := by
      rw [runs_request_iff.1 hv]
      exact List.filterMap_cons_none hq
    cases q with
    | platform call =>
      obtain ⟨w, hw, hcarried⟩ := runs_run_iff.1 first
      obtain rfl := carriedOut_request_iff.1 hcarried
      rw [gather_map_passedOn]
      exact .cons hw ih
    | git args =>
      rw [hother first rfl]
      exact ih
    | command c =>
      rw [hother first rfl]
      exact ih
    | cancelled at_ =>
      rw [hother first rfl]
      exact ih
    | log e =>
      rw [hother first rfl]
      exact ih

end CommandLine

end Autoformat
