import Autoformat.Rehearsal.Shell.Format
import Autoformat.Rehearsal.Shell.Options

/-!
# Programs that print their arguments

`echo` and `printf`, which the shell has commands of its own for; these run when another program or a
stage starts them.
-/

namespace Autoformat.Rehearsal.Shell

/-- Writes its arguments. -/
def echo : Utility := fun name args => do
  emit name (Format.echo args)
  return 0

/-- Writes its arguments in a format. -/
def printf : Utility := fun name args => do
  match if args.head? = some "--" then args.drop 1 else args with
  | [] => missingOperand name "operand"
  | format :: args =>
    let r := Format.run .program format args
    for complaint in r.complaints do
      printErr s!"{name}: {complaint}\n"
    emit name r.output
    match r.invalid with
    | some text => complain s!"{name}: {text}" 1
    | none =>
      let isUnused := !r.stops && r.args.length = args.length
      match isUnused, args with
      | true, arg :: _ => printErr s!"{name}: warning: ignoring excess arguments, starting with '{arg}'\n"
      | _, _ => pure ()
      return if r.complaints.isEmpty then 0 else 1

end Autoformat.Rehearsal.Shell
