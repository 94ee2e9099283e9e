import AnsibleTooling.Shell.Condition
import AnsibleTooling.Shell.Utility.Files
import AnsibleTooling.Shell.Utility.Text

set_option autoImplicit false

namespace AnsibleTooling.Shell.Utility

def test (complain : Chars -> Job Unit) (words : List Chars) : Job Nat := do
  let directory := (<- Job.process).directory
  match Condition.holds { tree := <- Job.files, directory } words with
  | .ok true => return 0
  | .ok false => return 1
  | .error fault =>
    complain fault
    return 2

def bracket (complain : Chars -> Job Unit) (words : List Chars) : Job Nat := do
  if (words.getLast?.bind List.head?) == some ']' then test complain words.dropLast
  else
    complain "missing ]".toList
    return 2

def table : List (String × (List Chars -> Job Nat)) := [
  ("true", fun _ => return 0),
  ("false", fun _ => return 1),
  ("echo", echo),
  ("printf", printf print report),
  ("test", test report),
  ("[", bracket report),
  ("cat", cat),
  ("head", head),
  ("tail", tail),
  ("tee", tee),
  ("wc", wc),
  ("tr", tr),
  ("sort", sort),
  ("seq", seq),
  ("yes", yes),
  ("mkdir", makeDirectories),
  ("rmdir", removeDirectories),
  ("cp", copy),
  ("mv", move),
  ("rm", remove),
  ("ln", link),
  ("touch", touch),
  ("chmod", changeMode),
  ("ls", listFiles),
  ("readlink", readLink),
  ("basename", baseName),
  ("dirname", directoryName),
  ("pwd", fun _ => printDirectory),
  ("printenv", printVariables),
  ("sleep", sleep)]

def lostStatus (name : String) : Nat :=
  if ["ls", "printenv", "sort"].contains name then 2 else 1

def find? (name : String) : Option (List Chars -> Job Nat) :=
  (table.find? fun entry => entry.1 == name).map fun entry words => do
    close (lostStatus name) (<- entry.2 words)

def names : List String :=
  table.map Prod.fst

end AnsibleTooling.Shell.Utility
