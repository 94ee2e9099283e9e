import AnsibleTooling.Shell.Calling

set_option autoImplicit false

namespace AnsibleTooling.Shell

open Job

variable (run : Runner)

def leaveOnFailure (standing : Standing) : Job Unit := do
  let process <- process
  if process.status != 0 && !standing.isTested && process.hasOption 'e' then
    throw (.exit process.status)

def roundLimit : Nat := 1000000

inductive Round
  | over
  | cut
  | last
  deriving DecidableEq, Repr

def runInside (standing : Standing) (command : Command) : Job Round := do
  match <- outcome (run standing command) with
  | .ok _ => return .over
  | .error (.breakLoop levels) =>
    if levels <= 1 then return .last else throw (.breakLoop (levels - 1))
  | .error (.continueLoop levels) =>
    if levels <= 1 then return .cut else throw (.continueLoop (levels - 1))
  | .error leave => throw leave

def asLoop (loop : Job Unit) : Job Unit := do
  modifyProcess fun process => { process with loops := process.loops + 1 }
  followedBy loop (modifyProcess fun process => { process with loops := process.loops - 1 })

def runLoop (standing : Standing) (untilTrue : Bool) (condition body : Command) :
    Nat -> Nat -> Job Unit
  | 0, _ => throw (.killed Signal.killNumber)
  | fuel + 1, status => do
    match <- outcome (runInside run .tested condition) with
    | .error leave =>
      if leave = .fromFunction false then setStatus status
      throw leave
    | .ok .last => setStatus status
    | .ok .cut => runLoop standing untilTrue condition body fuel status
    | .ok .over =>
      if (<- succeeded) == untilTrue then setStatus status
      else if (<- runInside run standing body) != .last then
        runLoop standing untilTrue condition body fuel (<- process).status

def runEach (standing : Standing) (name : Chars) (body : Command) : List Chars -> Job Unit
  | [] => pure ()
  | value :: values => do
    assign name value
    if (<- runInside run standing body) != .last then runEach standing name body values

def anyMatches (subject : Chars) : List Word -> Job Bool
  | [] => return false
  | word :: words => do
    if matchesPattern (<- expandPattern (substitute run) word) subject then return true
    else anyMatches subject words

def runArms (standing : Standing) (subject : Chars) :
    List (List Word × Option Command) -> Job Unit
  | [] => setStatus 0
  | (patterns, body) :: arms => do
    if <- anyMatches run subject patterns then
      match body with
      | some body => run standing body
      | none => setStatus 0
    else runArms standing subject arms

def startPipeline (standing : Standing) (input : Option Handle) : List Command -> Job (List Nat)
  | [] => return []
  | command :: rest => do
    findBefore command
    let output? <- if rest.isEmpty then pure none else some <$> newPipe {}
    let redirected (process : Process) : Process :=
      let handles := input.elim process.handles fun input => setEntry 0 input process.handles
      { process with
        handles := output?.elim handles fun output => setEntry 1 (.sink output) handles }
    let number <- launch redirected (asShell run (run { standing with isLast := true } command))
    return number :: (<- startPipeline standing (output?.map .source) rest)

def waitForAll (numbers : List Nat) : Job Unit := do
  for number in numbers do
    setStatus (<- waitForProcess number)

def nullInput : Job (Option Handle) := do
  match (<- get).tree.number? (["dev", "null"].map Text.encode) with
  | some node => return some (<- openNode { node, reads := true, writes := false })
  | none => return none

def detached (input : Option Handle) (process : Process) : Process := { process with
  handles :=
    match input with
    | some input => setEntry 0 input process.handles
    | none => process.handles.filter fun entry => entry.1 != 0
  traps := (2, []) :: (3, []) :: process.traps.filter fun entry => entry.1 != 2 && entry.1 != 3 }

def runBeside (command : Command) : Job Unit := do
  let input <- nullInput
  let number <- takeNumber
  let numbers <-
    match command with
    | .pipeline commands => startPipeline run {} input commands
    | .subshell _ body => do pure [<- launch (detached input) (asShell run (run .last body))]
    | command => do pure [<- launch (detached input) (asShell run (run .last command))]
  modifyProcess fun process => { process with
    batches := { number, members := numbers.map fun number => (number, none) } :: process.batches
    latestChild? := numbers.getLast?
    status := 0 }

def setLine (line : Nat) : Job Unit :=
  modifyProcess fun process => { process with line }

def runNode (standing : Standing) : Command -> Job Unit
  | .simple line assignments words redirections => do
    setLine line
    match <- outcome (runSimple run standing assignments words redirections) with
    | .error (.fromFunction isOwn) =>
      leaveOnFailure standing
      throw (.fromFunction isOwn)
    | result =>
      reenter result
      leaveOnFailure standing
  | .pipeline commands => do
    let _ <- takeNumber
    waitForAll (<- startPipeline run standing none commands)
    leaveOnFailure standing
  | .negated command => do
    run .tested command
    setStatus (if <- succeeded then 1 else 0)
  | .background command => runBeside run command
  | .both left right => do
    run .tested left
    if <- succeeded then run standing right
  | .either left right => do
    run .tested left
    if !(<- succeeded) then run standing right
  | .sequence first second => do
    run standing.inside first
    run standing second
  | .branch condition body otherwise => do
    run .tested condition
    if <- succeeded then run standing body
    else
      match otherwise with
      | some otherwise => run standing otherwise
      | none => setStatus 0
  | .loop untilTrue condition body =>
    asLoop (runLoop run standing.inside untilTrue condition body roundLimit 0)
  | .each line name words body => do
    setLine line
    let values <-
      match words with
      | some words => do pure (<- words.mapM (expandFields (substitute run))).flatten
      | none => do pure (<- process).arguments
    if values.isEmpty then setStatus 0
    else asLoop (runEach run standing.inside name body values)
  | .choose line word arms => do
    setLine line
    runArms run standing (<- expandText (substitute run) word) arms
  | .subshell line body => do
    setLine line
    setStatus (<- inChild id (asShell run (run { standing with isLast := true } body)))
    leaveOnFailure standing
  | .define line name body => do
    setLine line
    modifyProcess fun process => { process with
      functions := setEntry name body process.functions }
    setStatus 0
  | .redirected line body redirections => do
    setLine line
    match body with
    | .subshell _ inner =>
      let targets <- redirections.mapM (expandTarget run)
      let inside : Job Unit := do
        if <- applyTargets run targets then run { standing with isLast := true } inner
      setStatus (<- inChild id (asShell run inside))
      leaveOnFailure standing
    | body =>
      withRedirections run redirections (run standing.inside body) (leaveOnFailure standing)

def runWith (standing : Standing) (command : Command) : Job Unit := do
  if !(<- process).hasOption 'n' then runNode run standing command
  heedTraps run

def evaluate : Nat -> Runner
  | 0, _, _ => throw (.killed Signal.killNumber)
  | fuel + 1, standing, command => runWith (evaluate fuel) standing command

def stepLimit : Nat := 10000

end AnsibleTooling.Shell
