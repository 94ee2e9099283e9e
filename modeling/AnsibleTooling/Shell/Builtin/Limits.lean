import AnsibleTooling.Shell.Builtin.Basic

set_option autoImplicit false

namespace AnsibleTooling.Shell.Builtin

structure Resource where
  letter : Char
  title : String
  unit : Nat
  soft : Option Nat
  hard : Option Nat

def resources : List Resource := [
  ⟨'t', "time(seconds)", 1, none, none⟩,
  ⟨'f', "file(blocks)", 512, none, none⟩,
  ⟨'d', "data(kbytes)", 1024, none, none⟩,
  ⟨'s', "stack(kbytes)", 1024, some 8192, none⟩,
  ⟨'c', "coredump(blocks)", 512, some 0, none⟩,
  ⟨'m', "memory(kbytes)", 1024, none, none⟩,
  ⟨'l', "locked memory(kbytes)", 1024, some 8192, some 8192⟩,
  ⟨'p', "process", 1, some 128604, some 128604⟩,
  ⟨'n', "nofiles", 1, some 20000, some 20000⟩,
  ⟨'v', "vmemory(kbytes)", 1024, none, none⟩,
  ⟨'w', "locks", 1, none, none⟩,
  ⟨'r', "rtprio", 1, some 0, some 0⟩]

def Resource.limit (process : Process) (resource : Resource) : Limit :=
  (process.limits.find? fun limit => limit.letter == resource.letter).getD
    { letter := resource.letter, soft := resource.soft, hard := resource.hard }

def shownLimit (isHard : Bool) (limit : Limit) : Chars :=
  let shown := if isHard then limit.hard else limit.soft
  (shown.elim "unlimited" toString).toList ++ ['\n']

def givenLimit (word : Chars) : Job (Option Nat) := do
  if word == "unlimited".toList then return none
  else if word.all Char.isDigit then return some (Arithmetic.valueOfDigits 10 word)
  else Job.fail "bad number".toList

def isWithin : Option Nat -> Option Nat -> Bool
  | _, none => true
  | none, some _ => false
  | some first, some second => first <= second

def mostFiles : Nat := 1048576

def setLimit (letters : Chars) (limit : Limit) (value : Option Nat) : Job Nat := do
  let side? := letters.find? fun letter => letter == 'H' || letter == 'S'
  let changed : Limit := { limit with
    soft := if side? == some 'H' then limit.soft else value
    hard := if side? == some 'S' then limit.hard else value }
  if !isWithin changed.soft changed.hard then
    Job.fail "error setting limit (Invalid argument)".toList
  if limit.letter == 'n' && !isWithin changed.hard (some mostFiles) then
    Job.fail "error setting limit (Operation not permitted)".toList
  Job.modifyProcess fun process => { process with
    limits := changed :: process.limits.filter fun other => other.letter != limit.letter }
  return 0

def changeLimits (words : List Chars) : Job Nat := do
  let (letters, words) <- options "HSatfdscmlpnvwr" words
  let letters := letters.reverse
  let chosen := (letters.find? fun letter => !("HSa".toList.contains letter)).getD 'f'
  let isHard := (letters.find? fun letter => letter == 'H' || letter == 'S') == some 'H'
  let process <- Job.process
  let isAll := letters.contains 'a'
  match words, resources.find? fun resource => resource.letter == chosen with
  | word :: rest, some resource =>
    if isAll || !rest.isEmpty then Job.fail "too many arguments".toList
    setLimit letters (resource.limit process) (<- givenLimit word)
  | _, resource? =>
    if isAll then
      print <| resources.flatMap fun resource =>
        let title := resource.title.toList
        title ++ List.replicate (20 - title.length) ' ' ++ ' ' ::
          shownLimit isHard (resource.limit process)
    else print ((resource?.map fun resource => shownLimit isHard (resource.limit process)).getD [])

end AnsibleTooling.Shell.Builtin
