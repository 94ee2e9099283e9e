import AnsibleTooling.Shell.Builtin.Basic
import AnsibleTooling.Shell.Expansion

set_option autoImplicit false

namespace AnsibleTooling.Shell.Builtin

def checkName (name : Chars) : Job Unit := do
  if !isName name then Job.fail (name ++ ": bad variable name".toList)

def sorted (bindings : List (Chars × Variable)) : List (Chars × Variable) :=
  bindings.mergeSort fun first second => !(second.1 < first.1)

def declaration (before : Chars) (name : Chars) (held : Variable) : Chars :=
  let value := (held.value?.map fun value => '=' :: inQuotes value).getD []
  before ++ name ++ value ++ ['\n']

def mark (verb : String) (isMarked : Variable -> Bool) (change : Variable -> Variable)
    (words : List Chars) : Job Nat := do
  let (_, words) <- options "p" words
  if words.isEmpty then
    let marked := (sorted (<- Job.process).bindings).filter fun entry => isMarked entry.2
    print (marked.flatMap fun (name, held) => declaration (verb.toList ++ [' ']) name held)
  else
    for word in words do
      let (name, value?) := splitAssignment word
      checkName name
      if let some value := value? then Job.assign name value
      Job.modifyVariable name change
    return 0

def saveLocal (name : Chars) : Job Unit :=
  Job.modifyProcess fun process =>
    match process.frames with
    | [] => process
    | frame :: frames =>
      if frame.any fun entry => entry.1 == name then process
      else { process with frames := ((name, process.binding? name) :: frame) :: frames }

def declareLocal (words : List Chars) : Job Nat := do
  if (<- Job.process).frames.isEmpty then Job.fail "not in a function".toList
  for word in words do
    let (name, value?) := splitAssignment word
    checkName name
    saveLocal name
    if let some value := value? then Job.assign name value
  return 0

def unset (words : List Chars) : Job Nat := do
  let (letters, words) <- options "fv" words
  for word in words do
    if letters.contains 'f' then
      Job.modifyProcess fun process => { process with
        functions := process.functions.filter fun entry => entry.1 != word }
    else
      let (name, _) := splitAssignment word
      checkName name
      if ((<- Job.process).binding? name).any Variable.fixed then
        Job.fail (name ++ ": is read only".toList)
      Job.modifyProcess fun process => { process with
        bindings := process.bindings.filter fun entry => entry.1 != name
        remembered := if name == Job.pathName then [] else process.remembered }
  return 0

def shift (words : List Chars) : Job Nat := do
  let count := (<- firstNumber? words).getD 1
  if (<- Job.process).arguments.length < count then Job.fail "can't shift that many".toList
  Job.modifyProcess fun process => { process with arguments := process.arguments.drop count }
  return 0

def optionNames : List (String × Char) := [
  ("errexit", 'e'), ("noglob", 'f'), ("ignoreeof", 'I'), ("interactive", 'i'), ("monitor", 'm'),
  ("noexec", 'n'), ("stdin", 's'), ("xtrace", 'x'), ("verbose", 'v'), ("vi", 'V'), ("emacs", 'E'),
  ("noclobber", 'C'), ("allexport", 'a'), ("notify", 'b'), ("nounset", 'u'),
  ("privileged", 'p'), ("nolog", 'L'), ("debug", 'D')]

def setOption (isOn : Bool) (letter : Char) : Job Unit :=
  Job.modifyProcess fun process => { process with
    options :=
      let others := process.options.filter (· != letter)
      if isOn then letter :: others else others }

def showOptions (isOn : Bool) : Job Unit := do
  let process <- Job.process
  let line (name : String) (letter : Char) : Chars :=
    if isOn then
      let padding := List.replicate (16 - name.length) ' '
      name.toList ++ padding ++ (if process.hasOption letter then "on" else "off").toList ++ ['\n']
    else
      (if process.hasOption letter then "set -o " else "set +o ").toList ++ name.toList ++ ['\n']
  let title := if isOn then "Current option settings\n".toList else []
  let _ <- print (title ++ optionNames.flatMap fun (name, letter) => line name letter)

def setNamed (isOn : Bool) (name : Chars) : Job Unit := do
  match optionNames.find? fun entry => entry.1.toList == name with
  | some (_, letter) => setOption isOn letter
  | none => Job.fail ("Illegal option -o ".toList ++ name)

def setLetters (isOn : Bool) (words : List Chars) : Chars -> Job (List Chars)
  | [] => return words
  | 'o' :: letters => do
    match words with
    | [] =>
      showOptions isOn
      setLetters isOn [] letters
    | name :: words =>
      setNamed isOn name
      setLetters isOn words letters
  | letter :: letters => do
    if !optionLetters.contains letter then
      Job.fail ("Illegal option -".toList ++ [letter])
    setOption isOn letter
    setLetters isOn words letters

def takeOptions : Nat -> List Chars -> Job (Option (List Chars))
  | 0, words => return some words
  | fuel + 1, words => do
    match words with
    | [] => return none
    | ['-', '-'] :: rest => return some rest
    | ['-'] :: rest =>
      setOption false 'x'
      setOption false 'v'
      return if rest.isEmpty then none else some rest
    | (sign :: letter :: letters) :: rest =>
      if sign == '-' || sign == '+' then
        takeOptions fuel (<- setLetters (sign == '-') rest (letter :: letters))
      else return some words
    | _ => return some words

def setArguments (words : List Chars) : Job Nat := do
  if words.isEmpty then
    let held := (sorted (<- Job.process).bindings).filter fun entry => entry.2.value?.isSome
    print (held.flatMap fun (name, held) => declaration [] name held)
  else
    if let some arguments := <- takeOptions (words.length + 1) words then
      Job.modifyProcess fun process => { process with arguments, optionPlace := {} }
    return 0

def lineGlyphs (isRaw : Bool) : Chars -> List Glyph
  | '\\' :: char :: rest =>
    if isRaw then .soft '\\' :: lineGlyphs isRaw (char :: rest)
    else .quoted char :: .region false :: lineGlyphs isRaw rest
  | char :: rest => .soft char :: lineGlyphs isRaw rest
  | [] => []

def isContinued : Chars -> Bool
  | '\\' :: '\n' :: _ => true
  | '\\' :: _ :: rest => isContinued rest
  | _ :: rest => isContinued rest
  | [] => false

def inputLine (isRaw : Bool) : Nat -> Job (Chars × Bool)
  | 0 => return ([], false)
  | fuel + 1 => do
    let bytes := (<- Job.withDescriptor 0 Job.readLine).toOption.getD []
    let line := (ofBytes bytes).filter (· != boundary)
    let isComplete := line.getLast? == some '\n'
    if !isRaw && isContinued line then
      let (rest, isComplete) <- inputLine isRaw fuel
      return (line.take (line.length - 2) ++ rest, isComplete)
    else return (if isComplete then line.dropLast else line, isComplete)

def readVariables (words : List Chars) : Job Nat := do
  let (letters, names) := optionWords words
  let names := if letters.contains 'p' then names.drop 1 else names
  match letters.find? fun letter => letter != 'r' && letter != 'p' with
  | some letter => Job.fail ("Illegal option -".toList ++ [letter])
  | none => pure ()
  if names.isEmpty then Job.fail "arg count".toList
  let isRaw := letters.contains 'r'
  let (line, isComplete) <- inputLine isRaw Job.passLimit
  let fields := splitFields (<- separators) (some names.length) (lineGlyphs isRaw line)
  for (name, index) in names.zipIdx do
    checkName name
    Job.assign name ((fields[index]?.getD []).map Prod.fst)
  return if isComplete then 0 else 1

def knownOption? (letter : Char) : Chars -> Option Bool
  | [] => none
  | known :: ':' :: rest =>
    if known == letter then some true else knownOption? letter rest
  | known :: rest => if known == letter then some false else knownOption? letter rest

inductive FoundOption
  | ending
  | plain (letter : Char)
  | valued (letter : Char) (value : Chars)
  | unknown (letter : Char)
  | incomplete (letter : Char)

def scanOption (known : Chars) (words : List Chars) (place : OptionPlace) :
    FoundOption × OptionPlace :=
  let current := words.drop (place.next - 1)
  let left :=
    match place.inside? with
    | none => []
    | some inside =>
      if place.next <= 1 then [] else (words[place.next - 2]?.getD []).drop inside
  let (letters, next) :=
    if !left.isEmpty then (left, place.next)
    else
      match current with
      | ('-' :: letters) :: _ => (letters, place.next + 1)
      | _ => ([], place.next)
  if left.isEmpty && letters == ['-'] then (.ending, { next })
  else
    match letters with
    | [] => (.ending, { next := place.next })
    | letter :: rest =>
      let inside? := (words[next - 2]?.map List.length).map fun size => size - rest.length
      match knownOption? letter known, rest, words.drop (next - 1) with
      | none, _, _ => (.unknown letter, { next, inside? })
      | some false, _, _ => (.plain letter, { next, inside? })
      | some true, [], [] => (.incomplete letter, { next })
      | some true, [], value :: _ => (.valued letter value, { next := next + 1 })
      | some true, value, _ => (.valued letter value, { next })

def nextOption (words : List Chars) : Job Nat := do
  match words with
  | known :: name :: given =>
    let process <- Job.process
    let all := if given.isEmpty then process.arguments else given
    let (found, place) := scanOption known all process.optionPlace
    let isQuiet := known.head? == some ':'
    let refuse (letter : Char) (complaint : Chars) (quietly : Char) : Job Char := do
      if isQuiet then
        Job.assign "OPTARG".toList [letter]
        return quietly
      else
        Job.warn complaint
        Job.modifyProcess fun process => { process with
          bindings := process.bindings.filter fun entry => entry.1 != "OPTARG".toList }
        return '?'
    let result : Char <-
      match found with
      | .ending => pure '?'
      | .plain letter => do
        Job.assign "OPTARG".toList []
        pure letter
      | .valued letter value => do
        Job.assign "OPTARG".toList value
        pure letter
      | .unknown letter => refuse letter ("Illegal option -".toList ++ [letter, '\n']) '?'
      | .incomplete letter =>
        refuse letter ("No arg for -".toList ++ letter :: " option\n".toList) ':'
    Job.assign "OPTIND".toList (toString place.next).toList
    Job.assign name [result]
    Job.modifyProcess fun process => { process with optionPlace := place }
    return if found matches .ending then 1 else 0
  | _ => Job.fail "Usage: getopts optstring var [arg...]".toList

end AnsibleTooling.Shell.Builtin
