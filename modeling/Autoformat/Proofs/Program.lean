import Autoformat.Program

/-!
# Programs in their surroundings

`runs_done_iff` and `runs_ask_iff` invert `Program.Runs` by the two constructors of a program, and
`runs_exceptT_bind_iff` takes programs apart that may fail.

`Surroundings` answer every question by the exchanges before it, so they may keep any state. A program
ends in all of them: `play` computes its exchanges and its value, and `runs_play` says that these are a
run. A statement about all runs is thereby one about all surroundings.
-/

namespace Autoformat.Program

variable {I : Interface} {α β : Type}

/-- A finished program has run without exchanges. -/
@[simp]
theorem runs_done_iff {a b : α} {t : List (Exchange I)} :
    Runs (.done a) t b ↔ t = [] ∧ b = a := by
  constructor
  · intro h
    cases h
    exact ⟨rfl, rfl⟩
  · rintro ⟨rfl, rfl⟩
    exact .done _

/-- The exchanges of a program that asks begin with its question. -/
@[simp]
theorem runs_ask_iff {q : I.Request} {next : I.Answer q → Program I α} {t : List (Exchange I)}
    {a : α} : Runs (.ask q next) t a ↔ ∃ x u, t = ⟨q, x⟩ :: u ∧ Runs (next x) u a := by
  constructor
  · intro h
    cases h with
    | ask x h => exact ⟨x, _, rfl, h⟩
  · rintro ⟨x, u, rfl, h⟩
    exact .ask x h

/-- Of two programs in a row that may fail, the first fails, or the second goes on with its value. -/
theorem runs_exceptT_bind_iff {ε : Type} {x : ExceptT ε (Program I) α} {f : α → ExceptT ε (Program I) β}
    {t : List (Exchange I)} {r : Except ε β} :
    Runs (x >>= f).run t r ↔ (∃ e, r = .error e ∧ Runs x.run t (.error e)) ∨
      ∃ u v a, t = u ++ v ∧ Runs x.run u (.ok a) ∧ Runs (f a).run v r := by
  simp only [ExceptT.run_bind, runs_bind_iff]
  constructor
  · rintro ⟨u, v, y, rfl, hx, hf⟩
    cases y with
    | error e =>
      obtain ⟨rfl, rfl⟩ := runs_done_iff.1 hf
      exact .inl ⟨e, rfl, by simpa using hx⟩
    | ok a => exact .inr ⟨u, v, a, rfl, hx, hf⟩
  · rintro (⟨e, rfl, hx⟩ | ⟨u, v, a, rfl, hx, hf⟩)
    · exact ⟨t, [], .error e, by simp, hx, .done _⟩
    · exact ⟨u, v, .ok a, rfl, hx, hf⟩

/-- What answers the questions of a program, by the exchanges so far. -/
abbrev Surroundings (I : Interface) := List (Exchange I) → (q : I.Request) → I.Answer q

/-- The exchanges that follow earlier ones in given surroundings, and the value of the program. -/
def play (s : Surroundings I) : List (Exchange I) → Program I α → List (Exchange I) × α
  | _, .done a => ([], a)
  | past, .ask q next =>
    let x := s past q
    let (t, a) := play s (past ++ [⟨q, x⟩]) (next x)
    (⟨q, x⟩ :: t, a)

/-- Of two programs in a row, the second goes on where the first ends. -/
theorem play_bind {s : Surroundings I} {past : List (Exchange I)} {p : Program I α} {f : α → Program I β} :
    play s past (p >>= f) =
      ((play s past p).1 ++ (play s (past ++ (play s past p).1) (f (play s past p).2)).1,
        (play s (past ++ (play s past p).1) (f (play s past p).2)).2) := by
  induction p generalizing past with
  | done a => simp [play]
  | ask q next ih => simp [play, ih]

/-- A monad that answers two programs in a row answers the first and then the second. -/
theorem run_bind {m : Type → Type} [Monad m] [LawfulMonad m] {answer : (q : I.Request) → m (I.Answer q)}
    {p : Program I α} {f : α → Program I β} :
    run answer (p >>= f) = run answer p >>= fun a => run answer (f a) := by
  induction p with
  | done a => simp [run]
  | ask q next ih => simp [run, ih]

/-- A program ends in all surroundings. -/
theorem runs_play (s : Surroundings I) (past : List (Exchange I)) (p : Program I α) :
    Runs p (play s past p).1 (play s past p).2 := by
  induction p generalizing past with
  | done a => exact .done a
  | ask q next ih => exact .ask _ (ih _ _)

/-- Surroundings that answer alike up to some place lead a program to the same question there. -/
theorem exists_play_eq {s s' : Surroundings I} {past u v : List (Exchange I)} {e : Exchange I}
    {p : Program I α} (h : (play s past p).1 = u ++ e :: v)
    (halike : ∀ w q, w.length < (past ++ u).length → s' w q = s w q) :
    ∃ v', (play s' past p).1 = u ++ ⟨e.request, s' (past ++ u) e.request⟩ :: v' := by
  induction p generalizing past u with
  | done a => simp [play] at h
  | ask q next ih =>
    cases u with
    | nil =>
      obtain ⟨rfl, -⟩ := List.cons.inj h
      exact ⟨_, by rw [List.append_nil]; rfl⟩
    | cons b u =>
      obtain ⟨rfl, hrest⟩ := List.cons.inj h
      have hq : s' past q = s past q := halike past q (by simp)
      obtain ⟨v', hv'⟩ := ih (s past q) hrest (by simpa using halike)
      exact ⟨v', by simpa [play, hq] using hv'⟩

/-- Every exchange holds the answer that the surroundings give after the exchanges before it. -/
theorem answer_eq_of_play_eq {s : Surroundings I} {past u v : List (Exchange I)} {q : I.Request}
    {x : I.Answer q} {p : Program I α} (h : (play s past p).1 = u ++ ⟨q, x⟩ :: v) :
    x = s (past ++ u) q := by
  induction p generalizing past u with
  | done a => simp [play] at h
  | ask q' next ih =>
    cases u with
    | nil =>
      obtain ⟨heq, -⟩ := List.cons.inj h
      cases heq
      rw [List.append_nil]
    | cons b u =>
      obtain ⟨rfl, hrest⟩ := List.cons.inj h
      simpa using ih _ hrest

/-- Surroundings that answer a question always in the same way. -/
def steady (answer : (q : I.Request) → I.Answer q) : Surroundings I := fun _ => answer

/-- Every exchange holds the answer of the surroundings to its question. -/
theorem exists_eq_of_mem_play {s : Surroundings I} {past : List (Exchange I)} {p : Program I α}
    {e : Exchange I} (h : e ∈ (play s past p).1) : ∃ w q, e = ⟨q, s w q⟩ := by
  induction p generalizing past with
  | done a => simp [play] at h
  | ask q next ih =>
    rcases List.mem_cons.1 h with rfl | h
    · exact ⟨past, q, rfl⟩
    · exact ih _ h

/-- In steady surroundings every exchange holds the one answer to its question. -/
theorem exists_eq_of_mem_play_steady {answer : (q : I.Request) → I.Answer q}
    {past : List (Exchange I)} {p : Program I α} {e : Exchange I}
    (h : e ∈ (play (steady answer) past p).1) : ∃ q, e = ⟨q, answer q⟩ := by
  obtain ⟨w, q, rfl⟩ := exists_eq_of_mem_play h
  exact ⟨q, rfl⟩

end Autoformat.Program
