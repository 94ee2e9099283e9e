import AnsibleTooling.Shell.Builtin.Control
import AnsibleTooling.Shell.Builtin.Limits
import AnsibleTooling.Shell.Builtin.Surroundings
import AnsibleTooling.Shell.Builtin.Variables
import AnsibleTooling.Shell.Utility

set_option autoImplicit false

namespace AnsibleTooling.Shell.Builtin

def regularTable : List (String × (List Chars -> Job Nat)) := [
  ("true", fun _ => return 0),
  ("false", fun _ => return 1),
  ("echo", fun words => print (Printing.echo words)),
  ("test", Utility.test Job.complain),
  ("[", Utility.bracket Job.complain),
  ("cd", changeDirectory),
  ("chdir", changeDirectory),
  ("pwd", printPlace),
  ("read", readVariables),
  ("kill", kill),
  ("wait", wait),
  ("umask", changeMask),
  ("getopts", nextOption),
  ("alias", changeAliases),
  ("unalias", dropAliases),
  ("bg", moveJob),
  ("fg", moveJob),
  ("jobs", showJobs),
  ("ulimit", changeLimits),
  ("printf", fun words => do
    let (_, rest) <-
      if words.head?.any fun word => word.take 1 == ['-'] && 1 < word.length then options "" words
      else pure ([], words)
    Utility.printf print Job.complain rest)]

def specialTable : List (String × (List Chars -> Job Nat)) := [
  (":", fun _ => return 0),
  ("exit", exit),
  ("return", returnFrom),
  ("break", leaveLoops .breakLoop),
  ("continue", leaveLoops .continueLoop),
  ("export", mark "export" Variable.exported fun held => { held with exported := true }),
  ("readonly", mark "readonly" Variable.fixed fun held => { held with fixed := true }),
  ("local", declareLocal),
  ("unset", unset),
  ("shift", shift),
  ("set", setArguments),
  ("times", fun _ => print "0m0.000000s 0m0.000000s\n0m0.000000s 0m0.000000s\n".toList),
  ("trap", setTraps)]

end AnsibleTooling.Shell.Builtin
