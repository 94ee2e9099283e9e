import AnsibleTooling.Shell.Naming
import AnsibleTooling.Shell.Redirecting
import AnsibleTooling.Shell.Utility

set_option autoImplicit false

namespace AnsibleTooling.Shell

open Job

variable (run : Runner)

def prepareShell : Job Unit := do
  let process <- process
  let present := ofBytes (Path.ofNames process.directory).bytes
  let isPresent (name : Chars) : Bool :=
    name.head? == some '/' &&
      (name.splitOn '/').all (fun part => part != ['.'] && part != ['.', '.'])
  let place :=
    match process.value? "PWD".toList with
    | some name => if isPresent name then name else present
    | none => present
  let leads := (<- find true place).toOption.any fun found =>
    found.location == process.directory
  let place := if leads then place else present
  let own : List (Chars × Variable) := [
    ("IFS".toList, { value? := some defaultSeparators }),
    ("OPTIND".toList, { value? := some ['1'] }),
    ("PS4".toList, { value? := some "+ ".toList }),
    ("PPID".toList, { value? := some (toString process.parent).toList }),
    ("PWD".toList, { value? := some place, exported := true })] ++
      if (process.binding? "PATH".toList).isSome then []
      else [("PATH".toList, { value? := some standardPath })]
  let self <- read
  modifyProcess fun process => { process with
    shell := self
    place
    line := 0
    bindings := own.foldl (fun bindings (name, held) => setEntry name held bindings)
      (process.bindings.filter fun entry => isName entry.1) }

inductive Source
  | text (text : Chars)
  | file (name : Chars)
  | input

def shellWords : Nat -> Bool -> List Chars -> Job (Bool × List Chars)
  | 0, isText, words => return (isText, words)
  | fuel + 1, isText, words => do
    match words with
    | ['-', '-'] :: rest => return (isText, rest)
    | ['-'] :: rest => return (isText, rest)
    | (sign :: letter :: letters) :: rest =>
      if sign == '-' || sign == '+' then
        let flags := letter :: letters
        let others := flags.filter fun flag => !(['c', 's', 'l'].contains flag)
        if flags.contains 's' then Builtin.setOption true 's'
        shellWords fuel (isText || flags.contains 'c')
          (<- Builtin.setLetters (sign == '-') rest others)
      else return (isText, words)
    | _ => return (isText, words)

def shellSource (words : List Chars) : Job Source := do
  let (isText, words) <- shellWords (words.length + 1) false words
  let name := (<- process).name
  let setWords (name : Chars) (arguments : List Chars) : Job Unit :=
    modifyProcess fun process => { process with name, arguments }
  match isText, words with
  | true, [] => fail "-c requires an argument".toList
  | true, text :: rest =>
    setWords (rest.headD name) (rest.drop 1)
    return .text text
  | false, [] => return .input
  | false, file :: rest =>
    if (<- process).hasOption 's' then
      setWords name words
      return .input
    else
      setWords file rest
      return .file file

def runShell (words : List Chars) : Job Unit := do
  prepareShell
  let invoked := (<- process).name
  let source <- shellSource words
  modifyProcess fun process => { process with line := 1 }
  asShell run do
    match source with
    | .text text => runText run text
    | .input => runContent run ((<- withDescriptor 0 readAll).toOption.getD [])
    | .file file =>
      match <- contentOf file with
      | .ok content => runContent run content
      | .error failure =>
        warn (invoked ++ ": 0: ".toList ++ cannotOpen file failure ++ ['\n'])
        throw .failed

def findPlaces (search : Search) (name : Chars) : Job (Except Io.Failure (List Path)) := do
  let places := search.places name
  if name.contains '/' then return .ok places
  else return (<- lookUp search name).map places.drop

def changeEnvironment : List Chars -> Job (List Chars)
  | [] => return []
  | word :: rest => do
    if word == "-i".toList || word == ['-'] then
      modifyProcess fun process => { process with bindings := [] }
      changeEnvironment rest
    else if word == "-u".toList then
      forget (rest.headD [])
      changeNext rest
    else
      match Builtin.splitAssignment word with
      | (name, some value) =>
        modifyVariable name fun _ => { value? := some value, exported := true }
        changeEnvironment rest
      | (_, none) => return word :: rest
where
  forget (name : Chars) : Job Unit :=
    modifyProcess fun process => { process with
      bindings := process.bindings.filter fun entry => entry.1 != name }
  changeNext : List Chars -> Job (List Chars)
    | [] => return []
    | _ :: rest => changeEnvironment rest

def runImage : Nat -> Files.Image -> Job Unit
  | 0, _ => throw (.killed Signal.killNumber)
  | depth + 1, image => do
    modifyProcess fun process => { process.replaced with name := ofBytes image.name }
    let arguments := image.arguments.map ofBytes
    if ["sh", "dash", "bash"].contains image.command then runShell run arguments
    else if image.command == "env" then
      match <- changeEnvironment arguments with
      | [] => setStatus (<- Utility.close 125 (<- Utility.printVariables []))
      | name :: rest =>
        let search := toBytes (<- inheritedPath)
        let found := Files.searchScript (<- files) (<- process).directory search
          (<- given name rest)
        match found with
        | .ok image => runImage depth image
        | .error failure =>
          Utility.report (Utility.quoted name ++ ": ".toList ++ Utility.reason failure)
          throw (.exit (if failure = .notFound then 127 else 126))
    else
      match Utility.find? image.command with
      | some utility => setStatus (<- utility arguments)
      | none => throw (.exit 127)

def imageDepth : Nat := 20

def become (places : List Path) (name : Chars) (arguments : List Chars) : Job Unit := do
  let given <- given name arguments
  match Files.lastImage (<- files) (<- process).directory .notFound given places with
  | .ok image => runImage run imageDepth image
  | .error failure =>
    complain (name ++ ": ".toList ++ whyNot failure)
    setStatus (failureStatus failure)

def runExternal (standing : Standing) (search : Search) (name : Chars)
    (arguments : List Chars) : Job Unit := do
  match <- findPlaces search name with
  | .ok places =>
    let process <- process
    let hasTraps := process.traps.any fun entry => !entry.2.isEmpty
    if standing.isLast && !hasTraps then
      become run places name arguments
      throw (.exit (<- Job.process).status)
    else setStatus (<- inChild id (become run places name arguments))
  | .error failure =>
    complain (name ++ ": ".toList ++ whyNot failure)
    setStatus 127

end AnsibleTooling.Shell
