import AnsibleTooling.Shell.Builtin.Basic

set_option autoImplicit false

namespace AnsibleTooling.Shell.Builtin

def exit (words : List Chars) : Job Nat := do
  let status <-
    match <- firstNumber? words with
    | some status => pure status
    | none => do
      let process <- Job.process
      pure (process.heldStatus?.getD process.status)
  throw (.exit (status % 256))

def returnFrom (words : List Chars) : Job Nat := do
  match <- firstNumber? words with
  | some status =>
    Job.setStatus status
    throw (.fromFunction true)
  | none => throw (.fromFunction false)

def leaveLoops (leave : Nat -> Leave) (words : List Chars) : Job Nat := do
  let levels := (<- firstNumber? words).getD 1
  if levels == 0 then Job.fail "Illegal number: 0".toList
  let loops := (<- Job.process).loops
  if loops == 0 then return 0
  Job.setStatus 0
  throw (leave (min levels loops))

def killUsage : Chars :=
  "Usage: kill [-s sigspec | -signum | -sigspec] [pid | job]... or\nkill -l [exitstatus]".toList

def signalWords (words : List Chars) : Job (Nat × List Chars) := do
  match words with
  | ['-', 's'] :: name :: rest =>
    match Signal.number? name with
    | some signal => return (signal, rest)
    | none => Job.fail ("invalid signal number or name: ".toList ++ name)
  | ['-', '-'] :: rest => return (Signal.terminateNumber, rest)
  | ('-' :: letter :: letters) :: rest =>
    match Signal.number? (letter :: letters) with
    | some signal => return (signal, rest)
    | none => Job.fail ("Illegal option -".toList ++ [letter])
  | words => return (Signal.terminateNumber, words)

def firstProcess : Nat := 1

def isKnown (number : Nat) (scene : Scene) : Bool :=
  match numbered? number scene.processes with
  | none => number == firstProcess
  | some process =>
    process.ending?.isNone || ((numbered? process.parent scene.processes).any fun parent =>
      parent.ending?.isNone)

def sendSignal (signal number : Nat) : Job Bool := do
  if isKnown number (<- get) then
    if signal != 0 && number != firstProcess then
      modify (Scene.modifyProcess number (Process.receive signal))
    Job.heed
    return true
  else return false

def listSignals (words : List Chars) : Job Nat := do
  match words with
  | [] =>
    print (Signal.names.flatMap fun name => name.toList ++ ['\n'])
  | word :: _ =>
    let value <- number word
    let signal := if 128 < value then value - 128 else value
    match if signal == Signal.exitNumber then none else Signal.name? signal with
    | some name => printLine name.toList
    | none => Job.fail ("invalid signal number or exit status: ".toList ++ word)

def batchOf (word? : Option Chars) : Job Batch := do
  let batches := (<- Job.process).batches
  let orFail (batch? : Option Batch) (complaint : Chars) : Job Batch :=
    match batch? with
    | some batch => return batch
    | none => Job.fail complaint
  match word? with
  | none => orFail batches.head? "No current job".toList
  | some word =>
    let missing := "No such job: ".toList ++ word
    match word with
    | ['%'] => orFail batches.head? "No current job".toList
    | ['%', '+'] => orFail batches.head? "No current job".toList
    | ['%', '%'] => orFail batches.head? "No current job".toList
    | ['%', '-'] => orFail batches[1]? "No previous job".toList
    | '%' :: digits =>
      let wanted? := Utility.number? digits
      orFail (batches.find? fun batch => some batch.number == wanted?) missing
    | _ => Job.fail missing

def killTarget (signal : Nat) (target : Chars) : Job Bool := do
  let isSent <-
    match target with
    | '%' :: _ => do
      let _ <- batchOf (some target)
      pure false
    | '-' :: digits => do
      let _ <- number digits
      pure false
    | target => do sendSignal signal (<- number target)
  if !isSent then Job.complain "No such process\n".toList
  return isSent

def kill (words : List Chars) : Job Nat := do
  match words with
  | ['-', 'l'] :: rest => listSignals rest
  | words =>
    let (signal, targets) <- signalWords words
    if targets.isEmpty then Job.fail killUsage
    let results <- targets.mapM fun target => do
      if target == ['0'] then
        for (process, _) in (<- get).processes do
          let _ <- sendSignal signal process
        return true
      else killTarget signal target
    return if results.all id then 0 else 1

def setTraps (words : List Chars) : Job Nat := do
  let (_, words) <- options "" words
  match words with
  | [] =>
    let traps := (<- Job.process).traps.mergeSort fun first second => first.1 <= second.1
    print (traps.flatMap fun (signal, action) =>
      "trap -- ".toList ++ inQuotes action ++ [' '] ++ ((Signal.name? signal).getD "").toList ++
        ['\n'])
  | [signal] => setEach none [signal]
  | action :: signals => setEach (if action == ['-'] then none else some action) signals
where
  setEach (action? : Option Chars) : List Chars -> Job Nat
    | [] => return 0
    | name :: names => do
      match Signal.number? name with
      | none =>
        Job.warn ("trap: ".toList ++ name ++ ": bad trap\n".toList)
        return 1
      | some signal =>
        Job.modifyProcess fun process => { process with
          traps :=
            let others := process.traps.filter fun entry => entry.1 != signal
            (action?.map fun action => (signal, action)).toList ++ others }
        setEach action? names

def noteWaited (isMeant : Batch -> Bool) : Job Unit :=
  Job.modifyProcess fun process => { process with
    batches := process.batches.map fun batch =>
      if isMeant batch then { batch with isWaited := true } else batch }

def awaitBatches (batches : List Batch) : Job (Option Nat) := do
  let self <- read
  let members := batches.flatMap Batch.members
  Job.waitFor fun scene =>
    members.all (fun entry => entry.2.isSome || (scene.ending? entry.1).isSome) ||
      !(scene.process self).signals.isEmpty
  return (<- Job.process).signals.head?

def waitForBatch (batch : Batch) : Job (Except Nat Nat) := do
  match <- awaitBatches [batch] with
  | some signal => return .error (signal + 128)
  | none =>
    let isSame (other : Batch) : Bool := other.number == batch.number
    Job.reap
    noteWaited isSame
    let ended := ((<- Job.process).batches.find? isSame).getD batch
    for ((_, before), (_, now)) in batch.members.zip ended.members do
      if before.isNone then now.forM Job.announce
    return .ok ((ended.ending?.map Ending.status).getD 0)

def waitForEach : Nat -> List Chars -> Job Nat
  | status, [] => return status
  | _, word :: words => do
    let batch? <-
      match word with
      | '%' :: _ => some <$> batchOf (some word)
      | _ => do
        let wanted <- number word
        pure ((<- Job.process).batches.find? fun batch => batch.last? == some wanted)
    match batch? with
    | none => waitForEach 127 words
    | some batch =>
      match <- waitForBatch batch with
      | .error status => return status
      | .ok status => waitForEach status words

def wait (words : List Chars) : Job Nat := do
  let (_, words) <- options "" words
  if words.isEmpty then
    match <- awaitBatches (<- Job.process).batches with
    | some signal => return signal + 128
    | none =>
      Job.reap
      noteWaited fun _ => true
      return 0
  else waitForEach 127 words

def shownState (batch : Batch) : String :=
  if !batch.hasEnded then "Running"
  else
    match batch.ending? with
    | some (.exited 0) => "Done"
    | some (.exited status) => s!"Done({status})"
    | some (.killed signal) => Signal.description signal
    | none => "Done"

def batchLine (letters : Chars) (batch : Batch) (index : Nat) : Chars :=
  if letters.contains 'p' then
    ((batch.members.head?.map fun entry => (toString entry.1).toList).getD []) ++ ['\n']
  else
    let mark := if index == 0 then '+' else if index == 1 then '-' else ' '
    let number :=
      if letters.contains 'l' then
        (batch.members.head?.map fun entry => (toString entry.1).toList ++ [' ']).getD []
      else []
    let start := s!"[{batch.number}] ".toList ++ mark :: ' ' :: number ++ (shownState batch).toList
    let joints := (batch.members.drop 1).flatMap fun _ => " | ".toList
    start ++ List.replicate (max (33 - start.length) 1) ' ' ++ joints ++ ['\n']

def showJobs (words : List Chars) : Job Nat := do
  let (letters, words) <- options "lp" words
  Job.reap
  let all := (<- Job.process).batches
  let chosen <- if words.isEmpty then pure all else words.mapM fun word => batchOf (some word)
  let status <- print (chosen.flatMap fun batch =>
    batchLine letters batch (all.findIdx fun other => other.number == batch.number))
  let isShown (batch : Batch) : Bool := chosen.any fun other => other.number == batch.number
  Job.modifyProcess fun process => { process with
    batches := process.batches.filter fun batch =>
      !(batch.hasEnded && isShown batch && !letters.contains 'p') }
  return status

def moveJob (words : List Chars) : Job Nat := do
  let (_, words) <- options "" words
  let _ <- batchOf words.head?
  Job.fail ("job ".toList ++ words.headD "(null)".toList ++
    " not created under job control".toList)

end AnsibleTooling.Shell.Builtin
