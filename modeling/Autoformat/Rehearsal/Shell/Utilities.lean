import Autoformat.Rehearsal.Shell.Conditions
import Autoformat.Rehearsal.Shell.Utilities.Columns
import Autoformat.Rehearsal.Shell.Utilities.Compare
import Autoformat.Rehearsal.Shell.Utilities.Files
import Autoformat.Rehearsal.Shell.Utilities.Find
import Autoformat.Rehearsal.Shell.Utilities.Grep
import Autoformat.Rehearsal.Shell.Utilities.Listing
import Autoformat.Rehearsal.Shell.Utilities.Numbers
import Autoformat.Rehearsal.Shell.Utilities.Printing
import Autoformat.Rehearsal.Shell.Utilities.Running
import Autoformat.Rehearsal.Shell.Utilities.Sed.Edit
import Autoformat.Rehearsal.Shell.Utilities.Sorting
import Autoformat.Rehearsal.Shell.Utilities.Texts

/-!
# The programs of the system by their names
-/

namespace Autoformat.Rehearsal.Shell

/-- The program with a name. -/
def utility? (self : Interpreter) (program : String) : Option Utility :=
  match program with
  | "[" | "test" => some Conditions.utility
  | "basename" => some basename
  | "cat" => some cat
  | "chmod" => some chmod
  | "cmp" => some cmp
  | "comm" => some comm
  | "cp" => some cp
  | "cut" => some cut
  | "diff" => some diff
  | "dirname" => some dirname
  | "echo" => some echo
  | "egrep" | "fgrep" | "grep" => some Grep.utility
  | "env" => some (env self)
  | "expand" => some expand
  | "expr" => some expr
  | "false" => some fun _ _ => return 1
  | "find" => some (Find.utility self)
  | "fold" => some fold
  | "head" => some head
  | "kill" => some (killProgram self)
  | "ln" => some ln
  | "ls" => some ls
  | "mkdir" => some mkdir
  | "mktemp" => some mktemp
  | "mv" => some mv
  | "nl" => some nl
  | "paste" => some paste
  | "printenv" => some printenv
  | "printf" => some printf
  | "pwd" => some pwd
  | "readlink" => some readlink
  | "realpath" => some realpath
  | "rev" => some rev
  | "rm" => some rm
  | "rmdir" => some rmdir
  | "sed" => some (Sed.utility self)
  | "seq" => some seq
  | "sleep" => some (sleep self)
  | "sort" => some sort
  | "tac" => some tac
  | "tail" => some tail
  | "tee" => some tee
  | "timeout" => some (timeout self)
  | "touch" => some touch
  | "tr" => some tr
  | "true" => some fun _ _ => return 0
  | "truncate" => some truncate
  | "uniq" => some uniq
  | "wc" => some wc
  | "which" => some which
  | "xargs" => some (xargs self)
  | "yes" => some yes
  | _ => none

end Autoformat.Rehearsal.Shell
