import AnsibleTooling.Shell.Builtin
import AnsibleTooling.Shell.Executing

set_option autoImplicit false

namespace AnsibleTooling.Shell

open Job

variable (run : Runner)

def restoreLocals (process : Process) : Process :=
  match process.frames with
  | [] => process
  | frame :: frames =>
    let restore (bindings : List (Chars × Variable)) (entry : Chars × Option Variable) :=
      match entry.2 with
      | some held => setEntry entry.1 held bindings
      | none => bindings.filter fun other => other.1 != entry.1
    { process with
      frames
      bindings := frame.foldl restore process.bindings
      remembered := if (lookup? pathName frame).isSome then [] else process.remembered }

def withLocals (job : Job Unit) : Job Unit := do
  modifyProcess fun process => { process with frames := [] :: process.frames }
  followedBy job (modifyProcess restoreLocals)

def callLimit : Nat := 1000

def callFunction (standing : Standing) (body : Command) (arguments : List Chars) : Job Unit := do
  let saved <- process
  if callLimit <= saved.frames.length then
    fail s!"Maximum function recursion depth ({callLimit}) reached".toList
  modifyProcess fun process => { process with
    arguments, frames := [] :: process.frames, loops := 0, optionPlace := {} }
  let result <- outcome (run standing.inside body)
  modifyProcess fun process => { restoreLocals process with
    arguments := saved.arguments, loops := saved.loops, optionPlace := saved.optionPlace }
  match result with
  | .error (.fromFunction _) => pure ()
  | result => reenter result

def under {A : Type} (name : Chars) (job : Job A) : Job A := do
  let before := (<- process).builtin?
  modifyProcess fun process => { process with builtin? := some name }
  followedBy job (modifyProcess fun process => { process with builtin? := before, lost? := none })

def sourceFile (words : List Chars) : Job Unit := do
  match words with
  | [] => setStatus 0
  | name :: _ =>
    let isFile := Files.isFile (<- files) (<- process).directory
    let places := (<- ownSearch).places name
    match if name.contains '/' then some (path name) else places.find? isFile with
    | none => fail (name ++ ": not found".toList)
    | some place =>
      match <- contentOf (ofBytes place.bytes) with
      | .error failure => fail (cannotOpen name failure)
      | .ok content =>
        match <- outcome (under (ofBytes place.bytes) (runContent run content)) with
        | .error (.fromFunction _) => pure ()
        | result => reenter result

def replaceProcess (words : List Chars) : Job Unit := do
  match words with
  | [] => setStatus 0
  | name :: arguments =>
    become run ((<- ownSearch).places name) name arguments
    throw (.exit (<- process).status)

inductive Meaning
  | function (body : Command)
  | special (run : List Chars -> Job Unit)
  | regular (run : List Chars -> Job Unit)
  | external

def inTable? (name : Chars) (table : List (String × (List Chars -> Job Nat))) :
    Option (List Chars -> Job Unit) :=
  (table.find? fun entry => entry.1.toList == name).map fun entry words => do
    Builtin.finish (<- entry.2 words)

def builtin? (standing : Standing) (name : Chars) : Option Meaning :=
  match String.ofList name with
  | "eval" => some (.special fun words => runScript run standing false ([' '].intercalate words))
  | "." => some (.special (sourceFile run))
  | "exec" => some (.special (replaceProcess run))
  | "hash" => some (.regular fun words => do Builtin.finish (<- findPrograms words))
  | "type" => some (.regular fun words => do
    Builtin.finish (<- describe (<- ownSearch) false words))
  | _ =>
    match inTable? name Builtin.specialTable with
    | some builtin => some (.special builtin)
    | none => (inTable? name Builtin.regularTable).map .regular

def meaning (standing : Standing) (name : Chars) : Job Meaning := do
  match (builtin? run standing name), lookup? name (<- process).functions with
  | some (.special builtin), _ => return .special builtin
  | _, some body => return .function body
  | some builtin, none => return builtin
  | none, none => return .external

def runRegular (name : Chars) (builtin : Job Unit) : Job Unit := do
  match <- outcome (under name builtin) with
  | .error .failed => setStatus failedStatus
  | result => reenter result

inductive Request
  | plain (isStandard : Bool) (words : List Chars)
  | asked (isStandard isBrief : Bool) (names : List Chars)

def commandRequest (words : List Chars) : Job Request := do
  let (letters, rest) <- Builtin.options "pvV" words
  let isStandard := letters.contains 'p'
  if letters.contains 'v' then return .asked isStandard true (rest.take 1)
  else if letters.contains 'V' then return .asked isStandard false (rest.take 1)
  else return .plain isStandard rest

def assignEach (exports : Bool) : List (Chars × Word) -> Job (List (Chars × Chars))
  | [] => return []
  | (name, word) :: rest => do
    let value <- expandValue (substitute run) word
    assign name value
    if exports then modifyVariable name fun held => { held with exported := true }
    return (name, value) :: (<- assignEach exports rest)

def withAssignments (isProgram : Bool) (assignments : List (Chars × Word))
    (job : List (Chars × Chars) -> Job Unit) : Job Unit := do
  let before <- process
  let names := assignments.map Prod.fst
  followedBy (do job (<- assignEach run true assignments)) <| modifyProcess fun process =>
    let others := process.bindings.filter fun entry => !names.contains entry.1
    let own := before.bindings.filter fun entry => names.contains entry.1
    { process with
      bindings := own ++ others
      remembered :=
        if !names.contains pathName then process.remembered
        else if isProgram then before.remembered
        else [] }

def trace (stream : Option Handle) (assignments : List (Chars × Chars)) (fields : List Chars) :
    Job Unit := do
  if (<- process).hasOption 'x' then
    let shown := assignments.map (fun (name, value) => name ++ '=' :: value) ++ fields
    let line := ((<- value? "PS4".toList).getD []) ++ [' '].intercalate shown ++ ['\n']
    if let some handle := stream then
      let _ <- writeTo handle (toBytes line)

def takesAssignments (name : Chars) : Bool :=
  ["export".toList, "readonly".toList, "local".toList].contains name

def expandAll (decided? : Option Bool) : List Word -> Job (List Chars)
  | [] => return []
  | word :: words => do
    match if decided? == some true then assignment? word else none with
    | some (name, value) =>
      let value <- expandValue (substitute run) value
      return (name ++ '=' :: value) :: (<- expandAll decided? words)
    | none =>
      let fields <- expandFields (substitute run) word
      let decided? :=
        match decided?, fields with
        | none, name :: _ =>
          if name == "command".toList then none else some (takesAssignments name)
        | decided?, _ => decided?
      return fields ++ (<- expandAll decided? words)

structure Prepared where
  standing : Standing
  assignments : List (Chars × Word)
  targets : List (Nat × Target)
  fields : List Chars

def Prepared.search (prepared : Prepared) (isStandard : Bool) : Job Search := do
  if isStandard then return standardSearch
  else
    let isOwn := prepared.assignments.all fun assignment => assignment.1 != pathName
    return { (<- ownSearch) with remembers := isOwn }

def runSpecial (prepared : Prepared) (isDirect : Bool) (name : Chars)
    (builtin : List Chars -> Job Unit) (arguments : List Chars) : Job Unit := do
  let saved <- process
  let isExec := name == "exec".toList
  let whole : Job Unit := do
    if <- applyTargets run prepared.targets then
      let values <- assignEach run (isExec && !arguments.isEmpty) prepared.assignments
      trace (saved.handle? 2) values prepared.fields
      under name (builtin arguments)
    else if isDirect then throw .failed
  if isExec then
    whole
    modifyProcess fun process => { process with kept := saved.kept }
  else followedBy whole (restoreHandles saved prepared.targets)

def runOrdinary (prepared : Prepared) (isProgram : Bool) (job : Job Unit) : Job Unit := do
  let saved <- process
  let whole : Job Unit := do
    if <- applyTargets run prepared.targets then
      withAssignments run isProgram prepared.assignments fun values => do
        trace (saved.handle? 2) values prepared.fields
        job
  followedBy whole (restoreHandles saved prepared.targets)

def runAssignments (prepared : Prepared) : Job Unit := do
  let saved <- process
  let whole : Job Unit := do
    if <- applyTargets run prepared.targets then
      let values <- assignEach run false prepared.assignments
      if !values.isEmpty then trace (saved.handle? 2) values []
      setStatus (<- process).outputStatus
  followedBy whole (restoreHandles saved prepared.targets)

def dispatch (prepared : Prepared) (isDirect isStandard : Bool) : Nat -> List Chars -> Job Unit
  | 0, _ => pure ()
  | _, [] => runOrdinary run prepared false (setStatus 0)
  | fuel + 1, name :: arguments => do
    let ordinary := runOrdinary run prepared false
    let program := runOrdinary run prepared true do
      runExternal run prepared.standing (<- prepared.search isStandard) name arguments
    if name == "command".toList then
      match <- outcome (under name (commandRequest arguments)) with
      | .ok (.plain isStandard words) => dispatch prepared false isStandard fuel words
      | .ok (.asked isStandard isBrief names) =>
        ordinary <| runRegular name do
          Builtin.finish (<- describe (<- prepared.search isStandard) isBrief names)
      | .error .failed => setStatus failedStatus
      | .error leave => throw leave
    else
      match <- meaning run prepared.standing name with
      | .special builtin =>
        if isDirect || name == "exec".toList then
          runSpecial run prepared isDirect name builtin arguments
        else ordinary (runRegular name (withLocals (builtin arguments)))
      | .regular builtin => ordinary (runRegular name (builtin arguments))
      | .function body =>
        if isDirect then ordinary (callFunction run prepared.standing body arguments)
        else
          match builtin? run prepared.standing name with
          | some (.regular builtin) => ordinary (runRegular name (builtin arguments))
          | _ => program
      | .external => program

def runSimple (standing : Standing) (assignments : List (Chars × Word)) (words : List Word)
    (redirections : List Redirection) : Job Unit := do
  modifyProcess fun process => { process with outputStatus := 0 }
  let fields <- expandAll run none words
  let targets <- redirections.mapM (expandTarget run)
  let prepared : Prepared := { standing, assignments, targets, fields }
  if fields.isEmpty then runAssignments run prepared
  else dispatch run prepared true false (fields.length + 1) fields

end AnsibleTooling.Shell
