import AnsibleTooling.Shell.Builtin
import AnsibleTooling.Shell.Lookup
import AnsibleTooling.Shell.Script

set_option autoImplicit false

namespace AnsibleTooling.Shell

open Job

def runningSpecial : List String := [".", "eval", "exec"]

def runningRegular : List String := ["command", "hash", "type"]

def isSpecialBuiltin (name : Chars) : Bool :=
  (runningSpecial ++ Builtin.specialTable.map Prod.fst).contains (String.ofList name)

def isBuiltin (name : Chars) : Bool :=
  isSpecialBuiltin name ||
    (runningRegular ++ Builtin.regularTable.map Prod.fst).contains (String.ofList name)

def isProgramName (name : Chars) : Job Bool := do
  return !isBuiltin name && (lookup? name (<- process).functions).isNone

def kindOf? (name : Chars) : Job (Option String) := do
  if Token.reservedWords.contains (String.ofList name) then return some " is a shell keyword"
  else if !isSpecialBuiltin name && (lookup? name (<- process).functions).isSome then
    return some " is a shell function"
  else if isSpecialBuiltin name then return some " is a special shell builtin"
  else if isBuiltin name then return some " is a shell builtin"
  else return none

def describeProgram (search : Search) (isBrief : Bool) (name : Chars) : Job Bool := do
  let known? <- remembered? name
  let place? <-
    match known? with
    | some known => pure (some (placeAt search name known.index))
    | none =>
      if name.contains '/' then
        pure (if (<- find true name).isOk then some name else none)
      else do
        match <- lookUp search name with
        | .ok index => pure (some (placeAt search name index))
        | .error _ => pure none
  match place? with
  | some place =>
    let verb := if known?.isSome then " is a tracked alias for " else " is "
    let _ <- Builtin.printLine (if isBrief then place else name ++ verb.toList ++ place)
    return true
  | none =>
    if !isBrief then
      let _ <- Builtin.printLine (name ++ ": not found".toList)
    return false

def aliasOf? (name : Chars) : Job (Option Chars) := do
  if Token.reservedWords.contains (String.ofList name) then return none
  else return lookup? name (<- process).aliases

def describe (search : Search) (isBrief : Bool) (names : List Chars) : Job Nat := do
  let results <- names.mapM fun name => do
    match <- aliasOf? name, <- kindOf? name with
    | some text, _ =>
      let _ <-
        if isBrief then Builtin.print ("alias ".toList ++ Builtin.shownAlias (name, text))
        else Builtin.printLine (name ++ " is an alias for ".toList ++ text)
      return true
    | none, some kind =>
      let _ <- Builtin.printLine (if isBrief then name else name ++ kind.toList)
      return true
    | none, none => describeProgram search isBrief name
  return if results.all id then 0 else 127

def programRank (name : Chars) : Nat :=
  let codes := name.map Char.toNat
  (codes.foldl (· + ·) (codes.headD 0 * 16) % 32768) % 31

def listFound : Job Nat := do
  let search <- ownSearch
  let known := (<- process).remembered.mergeSort fun first second =>
    programRank first.name <= programRank second.name
  Builtin.print <| known.flatMap fun known =>
    let place := placeAt search known.name known.index
    place ++ if known.isOutdated then ['*', '\n'] else ['\n']

def findAgain (name : Chars) : Job Bool := do
  disremember name
  if name.contains '/' || !(<- isProgramName name) then return true
  else
    match <- lookUp (<- ownSearch) name with
    | .ok _ => return true
    | .error failure =>
      complain (name ++ ": ".toList ++ whyNot failure)
      return false

def findPrograms (words : List Chars) : Job Nat := do
  let (letters, names) <- Builtin.options "r" words
  if letters.contains 'r' then
    modifyProcess fun process => { process with remembered := [] }
    return 0
  else if names.isEmpty then listFound
  else Utility.forAll names findAgain

def findBefore (command : Command) : Job Unit := do
  if let .simple _ _ ([.plain name false] :: _) _ := command then
    if isName name && (<- isProgramName name) then
      let _ <- lookUp (<- ownSearch) name

end AnsibleTooling.Shell
