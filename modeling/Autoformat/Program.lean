/-!
# Programs that ask their surroundings

A `Program` computes a value and on the way asks questions of its surroundings: it is `done`, or it asks
a question and goes on with the answer. An `Interface` lists the questions and says what their answers
are.

`Program.run` lets a monad answer the questions. `Program.Runs p t a` says that `p` ends with `a` after
the exchanges `t`, whatever the surroundings are; `Runs.bind` and `runs_bind_iff` take the exchanges of a
program apart.
-/

namespace Autoformat

/-- What a program may ask, and the answers to it. -/
structure Interface where
  Request : Type
  Answer : Request → Type

/-- A program over an interface. -/
inductive Program (I : Interface) (α : Type) where
  | done (a : α)
  | ask (q : I.Request) (next : I.Answer q → Program I α)

/-- A question and the answer to it. -/
structure Exchange (I : Interface) where
  request : I.Request
  answer : I.Answer request

namespace Program

variable {I J : Interface} {α β : Type}

/-- One program after another. -/
protected def bind : Program I α → (α → Program I β) → Program I β
  | .done a, f => f a
  | .ask q next, f => .ask q fun x => (next x).bind f

instance : Monad (Program I) where
  pure := .done
  bind := Program.bind

@[simp]
theorem pure_eq (a : α) : (pure a : Program I α) = .done a := rfl

@[simp]
theorem done_bind (a : α) (f : α → Program I β) : (Program.done a >>= f) = f a := rfl

@[simp]
theorem ask_bind (q : I.Request) (next : I.Answer q → Program I α) (f : α → Program I β) :
    (Program.ask q next >>= f) = .ask q fun x => next x >>= f := rfl

private theorem bind_done (p : Program I α) : (p >>= .done) = p := by
  induction p with
  | done a => rfl
  | ask q next ih => simp [ih]

private theorem bind_assoc' {γ : Type} (p : Program I α) (f : α → Program I β)
    (g : β → Program I γ) : (p >>= f) >>= g = p >>= fun a => f a >>= g := by
  induction p with
  | done a => rfl
  | ask q next ih => simp [ih]

instance : LawfulMonad (Program I) := LawfulMonad.mk' (Program I)
  (fun p => bind_done p) (fun _ _ => rfl) bind_assoc'

/-- A single question. -/
def request (q : I.Request) : Program I (I.Answer q) := .ask q .done

/-- The value of a program whose questions a monad answers. -/
def run {m : Type → Type} [Monad m] (answer : (q : I.Request) → m (I.Answer q)) :
    Program I α → m α
  | .done a => pure a
  | .ask q next => do
    let x ← answer q
    run answer (next x)

/-- A program ends with a value after the given exchanges. -/
inductive Runs : Program I α → List (Exchange I) → α → Prop where
  | done (a : α) : Runs (.done a) [] a
  | ask {q : I.Request} {next : I.Answer q → Program I α} {t : List (Exchange I)} {a : α}
      (x : I.Answer q) (h : Runs (next x) t a) : Runs (.ask q next) (⟨q, x⟩ :: t) a

theorem Runs.bind {p : Program I α} {f : α → Program I β} {t u : List (Exchange I)} {a : α} {b : β}
    (h : Runs p t a) (h' : Runs (f a) u b) : Runs (p >>= f) (t ++ u) b := by
  induction h with
  | done a => exact h'
  | ask x _ ih => exact .ask x (ih h')

/-- The exchanges of two programs, one after the other, are those of the first and then those of the
second. -/
theorem runs_bind_iff {p : Program I α} {f : α → Program I β} {t : List (Exchange I)} {b : β} :
    Runs (p >>= f) t b ↔ ∃ u v a, t = u ++ v ∧ Runs p u a ∧ Runs (f a) v b := by
  refine ⟨fun h => ?_, fun ⟨u, v, a, ht, hp, hf⟩ => ht ▸ hp.bind hf⟩
  induction p generalizing t with
  | done a => exact ⟨[], t, a, rfl, .done a, h⟩
  | ask q next ih =>
    cases h with
    | ask x h =>
      obtain ⟨u, v, a, rfl, hp, hf⟩ := ih x h
      exact ⟨⟨q, x⟩ :: u, v, a, rfl, .ask x hp, hf⟩

end Program

end Autoformat
