import Autoformat.Platform.Rest
import Autoformat.Proofs.Encoding
import Autoformat.Proofs.Objects
import Autoformat.Proofs.Program
import Mathlib.Data.List.Forall2

/-!
# Listing files page by page

`pageOf` is what an answer to the request for a page comes to: the paths of the page, or why there are none.
`Paginates` says how a client lists the files of a pull request. It asks for one page after another as long as
they are full; the first answer that is no full page ends the listing, and the listing is either all of the
pages together or the error of that answer. From a server that holds the files in pages of a hundred it thus
gets just those files.
-/

namespace Autoformat.Rest

open Program

/-! ## Pages -/

/-- What an answer to the request for a page comes to. -/
def pageOf : Except String Http.Response → Except PlatformError (List String)
  | .error reason => .error (.transport listing reason)
  | .ok r =>
    if r.isSuccess then decodeBody listing page r
    else .error (.status listing r.status
      (Text.shorten quoteLimit quoteLimit (Utf8.decodeLossy r.body)))

/-- The paths of a page; an answer that is none has none. -/
def pathsOf (x : Except String Http.Response) : List String := (pageOf x).toOption.getD []

/-- The answer is a page that holds a hundred files at least. -/
def IsFull (x : Except String Http.Response) : Prop := ∃ paths, pageOf x = .ok paths ∧ 100 ≤ paths.length

/-- The request for a page of the files of a pull request. -/
def fileRequest (client : Client) (repository : String) (number : UInt64) (n : Nat) : Http.Request where
  method := .get
  url := client.apiBase ++
    s!"/repos/{repository}/pulls/{number}/files?per_page=100&page={n}"
  headers := client.headers
  body := none
  timeoutMs := client.timeoutMs

/-- A client asks for a page by the request for it. -/
theorem pageRequest_eq {client : Client} {repository : String} {number : UInt64} {n : Nat} :
    client.pageRequest repository number n = fileRequest client repository number n := by
  have hsize : toString "/files?per_page=100&page=" =
      toString "/files?per_page=" ++ toString filesPerPage ++ toString "&page=" := by
    decide
  simp only [Client.pageRequest, Client.get, fileRequest, hsize, String.append_assoc]

/-- A status from 200 up to 299 tells of success, and no other. -/
theorem isSuccess_iff {r : Http.Response} : r.isSuccess = true ↔ 200 ≤ r.status ∧ r.status < 300 := by
  simp [Http.Response.isSuccess]

/-- The answer is a success whose body is the JSON text of a value of the given kind. -/
def Delivers (P : Json.Doc → Prop) (x : Except String Http.Response) : Prop :=
  ∃ r text d, x = .ok r ∧ (200 ≤ r.status ∧ r.status < 300) ∧ r.body = String.toUTF8 text ∧
    d.Spells text ∧ P d

/-- What is delivered is decoded. -/
theorem decodeBody_of_delivers {α : Type} (operation : String) {decode : Json.Decoder α} {a : α}
    {P : Json.Doc → Prop} {x : Except String Http.Response} (h : Delivers P x)
    (hdecode : ∀ d cs, Json.Spelled d cs → P d → decode d = .ok a) :
    ∃ r, x = .ok r ∧ r.isSuccess = true ∧ decodeBody operation decode r = .ok a := by
  obtain ⟨r, text, d, hx, success, body, spells, hd⟩ := h
  refine ⟨r, hx, isSuccess_iff.2 success, ?_⟩
  have hread : bodyText r.body = text := by
    rw [bodyText, body, Utf8.decodeWith_toUTF8]
  have hparse : Json.parseWith decode text = .ok a := by
    rw [Json.parseWith_of_spells spells]
    obtain ⟨-, value, -, -⟩ := spells
    exact hdecode d _ value hd
  rw [decodeBody, hread, hparse]
  rfl

/-- A file as an object: whatever else it says, it has one name. -/
def IsFile (path : String) (d : Json.Doc) : Prop :=
  ∃ members, d = .object members ∧
    members.pairs.filter (fun m => m.1 = "filename") = [("filename", .string (.ok path))]

/-- A list of files with the given names, in order. -/
def IsPage (paths : List String) (d : Json.Doc) : Prop :=
  ∃ items : Json.Items, d = .list items ∧ List.Forall₂ IsFile paths items.docs

/-- The answer is a success whose body is the JSON text of a page with the given files. -/
def ServesPage (paths : List String) (x : Except String Http.Response) : Prop :=
  ∃ r text d, x = .ok r ∧ (200 ≤ r.status ∧ r.status < 300) ∧ r.body = String.toUTF8 text ∧
    Json.Doc.Spells d text ∧ IsPage paths d

/-- The name of a file is found among whatever else is said of it. -/
theorem fileName_of_isFile {path : String} {d : Json.Doc} {cs : List Char} (h : Json.Spelled d cs)
    (file : IsFile path d) : fileName d = .ok path := by
  obtain ⟨members, rfl, hnamed⟩ := file
  cases h with
  | object more =>
    have hvalue : members.values "filename" = [.string (.ok path)] := by
      rw [Json.Members.values, hnamed]
      rfl
    exact Json.Fields.record_of_reads more
      (List.forall_mem_singleton.2 (Json.Members.length_values_le_one hvalue))
      (Json.Fields.reads_field (congrArg List.head? hvalue) rfl)

/-- The items of a page are read as the names of its files. -/
theorem itemsAs_of_isFile {paths : List String} {first : Bool} {cs : List Char} (items : Json.Items)
    (h : Json.SpelledItems first items cs) (files : List.Forall₂ IsFile paths items.docs) :
    Json.Doc.itemsAs fileName items = .ok paths := by
  match items with
  | .done =>
    cases files
    rfl
  | .fault f => cases h
  | .item x items =>
    cases h with
    | item separated value more =>
      obtain - | ⟨file, files⟩ := files
      rw [Json.Doc.itemsAs, fileName_of_isFile value file, itemsAs_of_isFile items more files]
      rfl

/-- A page that a server serves is read as the page that it is. -/
theorem pageOf_of_servesPage {paths : List String} {x : Except String Http.Response}
    (h : ServesPage paths x) : pageOf x = .ok paths := by
  have hpage (d : Json.Doc) (cs : List Char) (hspelled : Json.Spelled d cs) (hd : IsPage paths d) :
      page d = .ok paths := by
    obtain ⟨items, rfl, files⟩ := hd
    cases hspelled with
    | list more => exact itemsAs_of_isFile items more files
  obtain ⟨r, rfl, success, hdecode⟩ := decodeBody_of_delivers listing h hpage
  rw [pageOf, if_pos success, hdecode]

/-! ## Page after page -/

variable {client : Client} {repository : String} {number : UInt64} {files : ChangedFiles}

/-- A request is one question, and its answer decides what follows. -/
theorem run_request_bind {α : Type} {q : Http.Request}
    {f : Except String Http.Response → Answered α} :
    (ExceptT.lift (Program.request (I := Http.interface) q) >>= f).run = .ask q fun x => (f x).run := by
  simp [Program.request, ExceptT.run_bind]

/-- A listing asks for a page, and its answer says how it goes on. -/
theorem run_listFrom_succ {pages n : Nat} :
    (listFrom client repository number files (pages + 1) n).run =
      .ask (client.pageRequest repository number n) fun x =>
        match pageOf x with
        | .error e => .done (.error e)
        | .ok paths =>
          if paths.length < filesPerPage then .done (.ok (files.append paths))
          else (listFrom client repository number (files.append paths) pages (n + 1)).run := by
  simp only [listFrom, sendFor, send, bind_assoc]
  refine run_request_bind.trans (congrArg _ (funext fun x => ?_))
  cases x with
  | error reason => rfl
  | ok r =>
    by_cases success : r.isSuccess
    · simp only [success, if_true, pure_bind, pageOf]
      cases decodeBody listing page r with
      | error e => rfl
      | ok paths =>
        show (if paths.length < filesPerPage then (pure (files.append paths) : Answered ChangedFiles)
          else listFrom client repository number (files.append paths) pages (n + 1)).run =
          if paths.length < filesPerPage then .done (.ok (files.append paths))
          else (listFrom client repository number (files.append paths) pages (n + 1)).run
        split <;> rfl
    · simp only [success, pageOf]
      rfl

/-- Answers to requests by their number, counted from one. -/
def inOrder (answers : Nat → Except String Http.Response) : Surroundings Http.interface :=
  fun past _ => answers (past.length + 1)

/-- The exchanges in which pages are asked for. -/
def pageExchanges (client : Client) (repository : String) (number : UInt64)
    (answers : Nat → Except String Http.Response) (first count : Nat) :
    List (Exchange Http.interface) :=
  (List.range' first count).map fun i => ⟨fileRequest client repository number i, answers i⟩

/-- What comes of a listing that the given answer ends: all pages together, or the error of the answer. -/
def listed (answers : Nat → Except String Http.Response) (first count : Nat) (files : ChangedFiles) :
    Except PlatformError ChangedFiles :=
  (pageOf (answers (first + count))).map fun _ =>
    files.append ((List.range' first (count + 1)).flatMap fun i => pathsOf (answers i))

/-- Pages are asked for one after the other, from the first one. -/
theorem pageExchanges_succ {answers : Nat → Except String Http.Response} {n : Nat} (count : Nat) :
    pageExchanges client repository number answers n (count + 1) =
      ⟨fileRequest client repository number n, answers n⟩ ::
        pageExchanges client repository number answers (n + 1) count := by
  rw [pageExchanges, List.range'_succ]
  rfl

/-- A full page comes in front of what is listed after it. -/
theorem listed_succ {answers : Nat → Except String Http.Response} {n count : Nat} {paths : List String}
    (h : pageOf (answers n) = .ok paths) :
    listed answers n (count + 1) files = listed answers (n + 1) count (files.append paths) := by
  have hplace : n + (count + 1) = n + 1 + count := by omega
  have hpaths : pathsOf (answers n) = paths := by rw [pathsOf, h]; rfl
  rw [listed, listed, hplace, List.range'_succ, List.flatMap_cons, hpaths]
  simp [ChangedFiles.append]

/-- From any page on, a listing goes through the full pages and ends with the first answer that is none. -/
theorem play_listFrom {s : Surroundings Http.interface} {answers : Nat → Except String Http.Response}
    {past : List (Exchange Http.interface)} {pages count : Nat}
    (answered : ∀ w, s w (fileRequest client repository number (w.length + 1)) = answers (w.length + 1))
    (full : ∀ i, past.length + 1 ≤ i → i < past.length + 1 + count → IsFull (answers i))
    (last : ¬IsFull (answers (past.length + 1 + count))) (room : count < pages) :
    play s past (listFrom client repository number files pages (past.length + 1)).run =
      (pageExchanges client repository number answers (past.length + 1) (count + 1),
        listed answers (past.length + 1) count files) := by
  induction count generalizing past files pages with
  | zero =>
    obtain ⟨pages, rfl⟩ : ∃ k, pages = k + 1 := ⟨pages - 1, by omega⟩
    rw [run_listFrom_succ, pageRequest_eq]
    cases hpage : pageOf (answers (past.length + 1)) with
    | error e => simp [play, answered, hpage, listed, pageExchanges, Except.map]
    | ok paths =>
      have hshort : paths.length < filesPerPage := by
        by_contra hlong
        exact last ⟨paths, hpage, Nat.not_lt.1 hlong⟩
      simp [play, answered, hpage, hshort, listed, pageExchanges, pathsOf, Except.map, Except.toOption]
  | succ count ih =>
    obtain ⟨pages, rfl⟩ : ∃ k, pages = k + 1 := ⟨pages - 1, by omega⟩
    obtain ⟨paths, hpage, hlong⟩ := full (past.length + 1) (by omega) (by omega)
    have hfull : ¬paths.length < filesPerPage := Nat.not_lt.2 hlong
    rw [run_listFrom_succ, pageRequest_eq]
    -- the page that was answered is one of the past for those that follow
    have hrest := @ih (files.append paths) (past ++ [⟨fileRequest client repository number
      (past.length + 1), answers (past.length + 1)⟩]) pages
    have hplace : past.length + 1 + (count + 1) = past.length + 1 + 1 + count := by omega
    rw [hplace] at full last
    simp only [List.length_append, List.length_singleton] at hrest
    simp only [play, answered, hpage, if_neg hfull,
      hrest (fun i hi => full i (by omega)) last (by omega)]
    rw [pageExchanges_succ (count + 1), listed_succ hpage]

/-! ## All pages -/

/-- How a client lists the files of a pull request. -/
structure Paginates (client : Client) (repository : String) (number : UInt64) : Prop where
  /-- The listing ends with the first answer that is no full page, and is all or nothing. -/
  listed (answers : Nat → Except String Http.Response) (k : Nat) (first : 1 ≤ k) (bound : k < UInt32.size)
    (full : ∀ i, 1 ≤ i → i < k → IsFull (answers i)) (last : ¬IsFull (answers k)) :
    play (inOrder answers) [] (client.answer (.listFiles repository number)) =
      ((List.range' 1 k).map fun i => ⟨fileRequest client repository number i, answers i⟩,
        (pageOf (answers k)).map fun _ => ⟨(List.range' 1 k).flatMap fun i => pathsOf (answers i)⟩)
  /-- A server that holds the files in pages of a hundred is asked for all of them. -/
  complete (paths : List String) (bound : paths.length < 100 * (UInt32.size - 1))
    (serve : Http.Request → Except String Http.Response)
    (serves : ∀ i ≤ paths.length / 100, ServesPage ((paths.drop (100 * i)).take 100)
      (serve (fileRequest client repository number (i + 1)))) :
    play (steady serve) [] (client.answer (.listFiles repository number)) =
      ((List.range' 1 (paths.length / 100 + 1)).map fun i =>
          ⟨fileRequest client repository number i, serve (fileRequest client repository number i)⟩,
        .ok ⟨paths⟩)

/-- A listing that begins with the first page. -/
theorem play_listFiles {s : Surroundings Http.interface} (answers : Nat → Except String Http.Response)
    {k : Nat} (first : 1 ≤ k) (bound : k < UInt32.size)
    (answered : ∀ w, s w (fileRequest client repository number (w.length + 1)) = answers (w.length + 1))
    (full : ∀ i, 1 ≤ i → i < k → IsFull (answers i)) (last : ¬IsFull (answers k)) :
    play s [] (client.answer (.listFiles repository number)) =
      (pageExchanges client repository number answers 1 k,
        (pageOf (answers k)).map fun _ => ⟨(List.range' 1 k).flatMap fun i => pathsOf (answers i)⟩) := by
  obtain ⟨count, rfl⟩ : ∃ m, k = m + 1 := ⟨k - 1, by omega⟩
  have hlast : 0 + 1 + count = count + 1 := by omega
  have hroom : count < pageLimit := by
    have hlimit : pageLimit = UInt32.size - 1 := rfl
    omega
  have hplay := @play_listFrom client repository number .empty s answers [] pageLimit count answered
    (by simpa [hlast] using full) (by simpa [hlast] using last) hroom
  rw [Client.answer]
  refine hplay.trans ?_
  rw [List.length_nil, listed, hlast]
  rfl

/-- Pages of a hundred together hold everything that they are cut from. -/
theorem flatMap_pages (paths : List String) (n : Nat) :
    (List.range' 1 n).flatMap (fun i => (paths.drop (100 * (i - 1))).take 100) =
      paths.take (100 * n) := by
  induction n with
  | zero => simp
  | succ n ih =>
    rw [List.range'_concat, List.flatMap_append, ih, List.flatMap_singleton]
    have hlast : 1 + 1 * n - 1 = n := by omega
    rw [hlast, Nat.mul_add, Nat.mul_one, List.take_add]

/-- A page that says nothing of its files but their names. -/
def plainPage (paths : List String) : Http.Response :=
  ⟨200, (Json.array (paths.map fun path => .object [("filename", .string path)])).compact.toUTF8⟩

/-- A plain page serves its files. -/
theorem servesPage_plainPage (paths : List String) : ServesPage paths (.ok (plainPage paths)) := by
  refine ⟨_, _, _, rfl, ⟨Nat.le_refl 200, show 200 < 300 by decide⟩, rfl, Json.spells_compact _, _, by rw [Json.Doc.ofJson], ?_⟩
  induction paths with
  | nil => exact .nil
  | cons path paths ih =>
    refine .cons ?_ ih
    exact ⟨_, by rw [Json.Doc.ofJson], rfl⟩

/-- A client for examples. -/
def exampleClient : Client := ⟨"https://api.github.com", [], 30000⟩

/-- More files than a page holds. -/
def exampleListing : List String := (List.range 102).map fun i => s!"mlflow/store{i}.py"

/-- A server that holds them in two pages. -/
def exampleServer (q : Http.Request) : Except String Http.Response :=
  if q.url = "https://api.github.com/repos/octo/demo/pulls/7/files?per_page=100&page=1" then
    .ok (plainPage (exampleListing.take 100))
  else if q.url = "https://api.github.com/repos/octo/demo/pulls/7/files?per_page=100&page=2" then
    .ok (plainPage (exampleListing.drop 100))
  else .error "no such page"

end Autoformat.Rest
