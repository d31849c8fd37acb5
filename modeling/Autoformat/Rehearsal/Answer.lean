import Autoformat.Rehearsal.Shell.Start

/-!
# Answering the bot

`Rehearsal.answer` answers every question of the bot from a rehearsed world, for a checkout at some place
of its files. `World.perform` runs a part of the bot in the world.
-/

namespace Autoformat.Rehearsal

open Shell

/-- A text that cannot be handed to the system as a name. -/
def holdsNul (s : String) : Bool := s.toList.contains '\x00'

/-- The directory in which a command of a checkout runs. -/
def workingPlace (t : Tree) (checkout : Place) (dir : Option String) : Except FileError Place := do
  t.requireDirectory checkout
  match dir with
  | none => pure checkout
  | some "" => pure checkout
  | some dir =>
    if holdsNul dir then throw .nulInName
    let p ← t.walk checkout dir
    t.requireDirectory p
    pure p

/-- The variables of a command that is about to run. -/
def variablesAt (path : String) : List (String × Variable) := [
  ("PATH", ⟨some defaultSearch, true, false⟩),
  ("HOME", ⟨some "/root", true, false⟩),
  ("PWD", ⟨some path, true, false⟩)]

/-- The machine for a command that is about to run. There is nothing to read for it. -/
def machineFor (w : World) (p : Place) (limit : UInt64) : Machine where
  world := w
  shell := {
    here := p
    bindings := variablesAt (w.tree.pathOf p)
    streams := [(0, 0), (1, 1), (2, 2)]
    pid := 2
    root := 2 }
  opened := #[
    { target := .device .null, reads := true },
    { target := .buffer 0, writes := true },
    { target := .buffer 1, writes := true }]
  buffers := #[.empty, .empty]
  limit := limit

/-- Runs a program, and waits for all that may still write to its output. -/
def runToEnd (image : Image) : Process Ending := do
  let self := interpreter 1000000
  let e ← Shell.ending (runImage self image)
  settle self [0, 1] 1000
  return e

/-- What is left of a command that ended. -/
def endingOf (m : Machine) (code : Option UInt8) : Bot.Ending :=
  ⟨code, m.buffers.getD 0 .empty, m.buffers.getD 1 .empty⟩

/-- Runs a command in a checkout. -/
def runCommand (w : World) (checkout : Place) (c : Bot.Command) : Bot.CommandResult × World :=
  if (c.program :: c.args).any holdsNul then (.notStarted .nulInName, w)
  else
    match workingPlace w.tree checkout c.workingDir with
    | .error e => (.notStarted e, w)
    | .ok p =>
      match resolve w.tree p defaultSearch c.program c.args with
      | .error e => (.notStarted e, w)
      | .ok image =>
        let (ended, m) := (runToEnd image).run.run (machineFor w p c.timeout)
        let result : Bot.CommandResult :=
          match ended with
          | .ok (.exited code) => .ended (endingOf m (some (UInt8.ofNat code)))
          | .ok (.killed _) => .ended (endingOf m none)
          | .error .interrupted => .interrupted
          | .error _ => .timedOut
        (result, m.world)

/-- Runs git in a checkout. -/
def gitIn (w : World) (checkout : Place) (args : List String) : Except FileError Bot.Ending × World :=
  if args.any holdsNul then (.error .nulInName, w)
  else
    match w.tree.requireDirectory checkout with
    | .error e => (.error e, w)
    | .ok () =>
      let (reply, w) := w.runGit args (w.tree.pathOf checkout)
      (.ok ⟨some reply.code, reply.stdout, reply.stderr⟩, w)

/-- The answer to a question of the bot. A run takes notice of being cancelled only while a command
waits. -/
def answer (checkout : Place) (span : Option Log.Span) (q : Bot.Request) :
    StateM World (Bot.Answer q) :=
  match q with
  | .platform call => fun w =>
    let (result, platform) := w.platform.answer call
    (result, { w with platform := platform })
  | .git args => fun w => gitIn w checkout args
  | .command c => fun w => runCommand w checkout c
  | .cancelled _ => fun w => (false, w)
  | .log e => fun w => ((), { w with log := w.log ++ [⟨e, span⟩] })

/-- Runs a part of the bot in a world. -/
def World.perform {α : Type} (w : World) (checkout : Place) (span : Option Log.Span)
    (p : Bot.Action α) : Except BotError α × World :=
  (p.run.run (answer checkout span)).run w

end Autoformat.Rehearsal
