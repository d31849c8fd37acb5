import Autoformat.Proofs.Program
import Mathlib.Logic.Equiv.Defs

/-!
# Programs with other questions

A `Rewording` of one interface by another asks each question in other words and takes back its answer.
`reword` carries this out for a whole program; the reworded program does in its surroundings what the
program does when these stand behind the rewording (`play_reword`).

What a rewording leaves out of a question is hidden from the surroundings: they answer two programs in the
same way when these are the same in other words.
-/

namespace Autoformat

/-- Other words for the questions of an interface. The answers stay what they are. -/
structure Rewording (I J : Interface) where
  request : I.Request → J.Request
  answer : (q : I.Request) → J.Answer (request q) ≃ I.Answer q

namespace Rewording

variable {I J : Interface}

/-- An exchange in other words. -/
def exchange (w : Rewording I J) (e : Exchange I) : Exchange J :=
  ⟨w.request e.request, (w.answer e.request).symm e.answer⟩

/-- Surroundings that get to know the exchanges in other words only. -/
def behind (w : Rewording I J) (s : Program.Surroundings J) : Program.Surroundings I :=
  fun past q => w.answer q (s (past.map w.exchange) (w.request q))

end Rewording

namespace Program

variable {I J : Interface} {α β : Type} (w : Rewording I J)

/-- A program in other words. -/
def reword : Program I α → Program J α
  | .done a => .done a
  | .ask q next => .ask (w.request q) fun x => reword (next (w.answer q x))

/-- A program that is done asks nothing that could be reworded. -/
@[simp]
theorem reword_done (a : α) : reword w (.done a) = .done a := rfl

/-- A question is reworded, and so is the answer on its way back. -/
@[simp]
theorem reword_ask (q : I.Request) (next : I.Answer q → Program I α) :
    reword w (.ask q next) = .ask (w.request q) fun x => reword w (next (w.answer q x)) := rfl

/-- Two programs one after the other are reworded one after the other. -/
theorem reword_bind (p : Program I α) (f : α → Program I β) :
    reword w (p >>= f) = reword w p >>= fun a => reword w (f a) := by
  induction p with
  | done a => rfl
  | ask q next ih => simp only [ask_bind, reword_ask, ih]

/-- A program in other words makes the exchanges of the program in other words, and has its value. -/
theorem play_reword (s : Surroundings J) (past : List (Exchange I)) (p : Program I α) :
    play s (past.map w.exchange) (reword w p) =
      ((play (w.behind s) past p).1.map w.exchange, (play (w.behind s) past p).2) := by
  induction p generalizing past with
  | done a => rfl
  | ask q next ih =>
    have hexchange : w.exchange ⟨q, w.behind s past q⟩ =
        ⟨w.request q, s (past.map w.exchange) (w.request q)⟩ := by
      simp [Rewording.exchange, Rewording.behind]
    have hanswer : w.answer q (s (past.map w.exchange) (w.request q)) = w.behind s past q := rfl
    have hrest := ih (w.behind s past q) (past ++ [⟨q, w.behind s past q⟩])
    rw [List.map_append, List.map_singleton, hexchange] at hrest
    simp only [reword_ask, play, List.map_cons, hexchange, hanswer, hrest]

end Program

end Autoformat
