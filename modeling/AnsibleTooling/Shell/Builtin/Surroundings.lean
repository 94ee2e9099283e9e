import AnsibleTooling.Shell.Builtin.Basic
import AnsibleTooling.Shell.Expansion
import AnsibleTooling.Shell.Mode

set_option autoImplicit false

namespace AnsibleTooling.Shell.Builtin

def follow (place target : Chars) : Chars :=
  let names (text : Chars) : List Chars := (text.splitOn '/').filter fun name => !name.isEmpty
  let isAbsolute := target.head? == some '/'
  let root := if isAbsolute && "//".toList.isPrefixOf target && target[2]? != some '/' then
    "//".toList else ['/']
  let step (taken : List Chars) (name : Chars) : List Chars :=
    if name == ['.'] then taken else if name == ['.', '.'] then taken.dropLast else taken ++ [name]
  let steps := (names target).foldl step (if isAbsolute then [] else names place)
  root ++ ['/'].intercalate steps

def searched (process : Process) (target : Chars) : List Chars :=
  let first := target.takeWhile (· != '/')
  match process.value? "CDPATH".toList with
  | none => [target]
  | some path =>
    if [[], ['.'], ['.', '.']].contains first then [target]
    else
      let below (entry : Chars) : Chars :=
        if entry.isEmpty then target else entry ++ '/' :: target
      (path.splitOn ':').map below ++ [target]

def changeDirectory (words : List Chars) : Job Nat := do
  let (letters, words) <- options "LP" words
  let isBack := words.head? == some ['-']
  let target <-
    match words with
    | [] => pure ((<- Job.value? "HOME".toList).getD [])
    | ['-'] :: _ => pure ((<- Job.value? "OLDPWD".toList).getD (<- Job.process).place)
    | word :: _ => pure word
  if target.isEmpty then return 0
  let process <- Job.process
  let isPhysical := letters.getLast? == some 'P'
  let tree <- Job.files
  let isDirectory (goal : Chars) : Option Files.Location :=
    match Files.find tree process.directory true (Job.path goal) with
    | .ok found => if found.node.isDirectory then some found.location else none
    | .error _ => none
  let goals := (searched process target).map fun goal => (goal, follow process.place goal)
  let found? := goals.findSome? fun (goal, place) =>
    (isDirectory (if isPhysical then goal else place)).map fun location =>
      (goal, if isPhysical then ofBytes (Path.ofNames location).bytes else place, location)
  match found? with
  | none => Job.fail ("can't cd to ".toList ++ target)
  | some (goal, place, location) =>
    Job.modifyProcess fun process => { process with
      directory := location
      place
      remembered := process.remembered.map fun known => { known with isOutdated := true } }
    for (name, value) in [("OLDPWD".toList, process.place), ("PWD".toList, place)] do
      Job.assign name value
      Job.modifyVariable name fun held => { held with exported := true }
    if isBack || goal != target then printLine place else return 0

def printPlace (words : List Chars) : Job Nat := do
  let (letters, _) <- options "LP" words
  let process <- Job.process
  printLine (if letters.getLast? == some 'P' then ofBytes (Path.ofNames process.directory).bytes
    else process.place)

def changeMask (words : List Chars) : Job Nat := do
  let (letters, words) <- options "S" words
  let mask := (<- Job.process).mask
  let setMask (mask : Nat) : Job Nat := do
    Job.modifyProcess fun process => { process with mask := mask &&& 0o777 }
    return 0
  match words with
  | [] =>
    if letters.contains 'S' then printLine (Mode.symbolic (Files.withhold mask 0o777))
    else printLine (Mode.octal 4 mask)
  | [] :: _ => return 0
  | word :: _ =>
    if word.head?.any Char.isDigit then
      if !word.all Arithmetic.isOctalDigit then Job.fail ("Illegal number: ".toList ++ word)
      setMask (Arithmetic.valueOfDigits 8 word)
    else
      match Mode.stepsOf? .mixed word with
      | none => Job.fail ("Illegal mode: ".toList ++ word)
      | some steps =>
        let left := steps.foldl (Mode.Step.apply 0 false) (Files.withhold mask 0o777)
        setMask (Files.withhold left 0o777)

def shownAlias (entry : Chars × Chars) : Chars :=
  entry.1 ++ '=' :: inQuotes entry.2 ++ ['\n']

def aliasRank (name : Chars) : Nat :=
  let codes := name.map Char.toNat
  codes.foldl (· + ·) (codes.headD 0 * 16) % 39

def defineAlias (word : Chars) : Job Bool := do
  let aliases := (<- Job.process).aliases
  let name := word.take 1 ++ (word.drop 1).takeWhile (· != '=')
  if name.length < word.length then
    let entry := (name, word.drop (name.length + 1))
    Job.modifyProcess fun process => { process with
      aliases :=
        if (lookup? name aliases).isSome then
          aliases.map fun other => if other.1 == name then entry else other
        else aliases ++ [entry] }
    return true
  else
    match lookup? name aliases with
    | some text => return (<- print (shownAlias (name, text))) == 0
    | none =>
      Job.warn ("alias: ".toList ++ word ++ " not found\n".toList)
      return false

def changeAliases (words : List Chars) : Job Nat := do
  if words.isEmpty then
    let aliases := (<- Job.process).aliases.mergeSort fun first second =>
      aliasRank first.1 <= aliasRank second.1
    print (aliases.flatMap shownAlias)
  else Utility.forAll words defineAlias

def dropAliases (words : List Chars) : Job Nat := do
  let (letters, names) <- options "a" words
  if letters.contains 'a' then
    Job.modifyProcess fun process => { process with aliases := [] }
    return 0
  else
    Utility.forAll names fun name => do
      let aliases := (<- Job.process).aliases
      let isThere := (lookup? name aliases).isSome
      if !isThere then Job.warn ("unalias: ".toList ++ name ++ " not found\n".toList)
      Job.modifyProcess fun process => { process with
        aliases := aliases.filter fun entry => entry.1 != name }
      return isThere

end AnsibleTooling.Shell.Builtin
