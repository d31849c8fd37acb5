import Autoformat.CommandLine.Basic
import Autoformat.Rehearsal.Answer

/-!
# Rehearsing a command line

`Rehearsal.consoleAnswer` answers every question of a command from a rehearsed world, for a command that
was started at some place of its files. `World.start` carries out a command line in the world.
-/

namespace Autoformat.Rehearsal

open CommandLine

/-- The answer to a question of a command. The clock stands still, and every run without a name gets the
same one. -/
def consoleAnswer (here : Place) (q : Console.Request) : StateM World (Console.Answer q) :=
  match q with
  | .http q => fun w => w.exchange q
  | .git directory args => fun w =>
    match w.tree.walk here directory with
    | .error e => (.error e, w)
    | .ok checkout => gitIn w checkout args
  | .command directory c => fun w =>
    match w.tree.walk here directory with
    | .error e => (.notStarted e, w)
    | .ok checkout => runCommand w checkout c
  | .cancelled _ => fun w => (false, w)
  | .log e => fun w => ((), { w with log := w.log ++ [e] })
  | .readText path => fun w => (w.tree.readText here path, w)
  | .appendText path text => fun w =>
    match w.tree.openAtEnd here path with
    | .error e => (.error (.opening e), w)
    | .ok (p, tree) =>
      match tree.append p text.toUTF8 with
      | .error e => (.error (.writing e), { w with tree := tree })
      | .ok tree => (.ok (), { w with tree := tree })
  | .print text => fun w => ((), { w with printed := w.printed ++ [text] })
  | .clock => fun w => ((0 : Nat), w)
  | .freshName => fun w => ("new", w)

/-- Carries out a command line in a world. -/
def World.start (w : World) (here : Place) (env : Environment) (args : List String) :
    Exit × World :=
  ((CommandLine.start env args).run (consoleAnswer here)).run w

end Autoformat.Rehearsal
