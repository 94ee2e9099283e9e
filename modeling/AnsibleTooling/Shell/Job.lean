import AnsibleTooling.Shell.Scene
import AnsibleTooling.Shell.Task

set_option autoImplicit false

namespace AnsibleTooling.Shell

inductive Leave
  | exit (status : Nat)
  -- An error that ends the shell, unless the command has to go on in spite of it.
  | failed
  | killed (signal : Nat)
  -- Return from a function or a file that is read, with a status of its own or that of before.
  | fromFunction (isOwn : Bool)
  | breakLoop (levels : Nat)
  | continueLoop (levels : Nat)
  deriving DecidableEq, Repr

abbrev Job := ReaderT Nat (ExceptT Leave (Program Scene))

namespace Job

def process : Job Process := do
  return (<- get).process (<- read)

def modifyProcess (change : Process -> Process) : Job Unit := do
  let self <- read
  modify (Scene.modifyProcess self change)

def setStatus (status : Nat) : Job Unit :=
  modifyProcess fun process => { process with status }

def outcome {A : Type} (job : Job A) : Job (Except Leave A) :=
  fun self => ExceptT.mk do
    let result <- (job self).run
    return .ok result

def reenter {A : Type} : Except Leave A -> Job A
  | .ok value => return value
  | .error leave => throw leave

def followedBy {A : Type} (job : Job A) (next : Job Unit) : Job A := do
  let result <- outcome job
  next
  reenter result

def heed : Job Unit := do
  if let some signal := (<- process).fatalSignal? then throw (.killed signal)

def pause (ready : Scene -> Bool) (rest? : Option Nat) : Job Unit :=
  fun _ => ExceptT.lift do
    let now <- Program.pause ready rest?
    modify (Scene.setTime now)

def waitFor (ready : Scene -> Bool) : Job Unit := do
  let self <- read
  pause (fun scene => ready scene || (scene.process self).fatalSignal?.isSome) none
  heed

def sleep (milliseconds : Nat) : Job Unit := do
  let self <- read
  pause (fun scene => (scene.process self).fatalSignal?.isSome) (some milliseconds)
  heed

def badDescriptor : Io.Failure :=
  .other .uncategorized "Bad file descriptor (os error 9)"

def noSpace : Io.Failure :=
  .other .storageFull "No space left on device (os error 28)"

def overwrite (offset : Nat) (bytes content : Bytes) : Bytes :=
  content.take offset ++ List.replicate (offset - content.length) 0 ++ bytes ++
    content.drop (offset + bytes.length)

def writeOpened (number : Nat) (opened : Opened) (bytes : Bytes) : Job (Option Io.Failure) := do
  if !opened.writes then return some badDescriptor
  match ((<- get).tree.node? opened.node).map Files.Node.entry with
  | some (.device .full) => return some noSpace
  | some (.device _) => return none
  | entry =>
    let content := ((entry.getD .directory).content.toOption).getD []
    let offset := if opened.isAppended then content.length else opened.offset
    if !bytes.isEmpty then
      modify fun scene =>
        let tree := scene.tree.setContent opened.node (overwrite offset bytes content)
        { scene with tree }.setOpened number { opened with offset := offset + bytes.length }
    return none

def writePipe (number : Nat) (bytes : Bytes) : Job (Option Io.Failure) := do
  if bytes.isEmpty then return none
  if ((<- get).pipe number).isFull then
    waitFor fun scene => !(scene.pipe number).isFull || !scene.isRead number
  if (<- get).isRead number then
    modify (Scene.modifyPipe number (Pipe.write bytes))
    return none
  else
    modifyProcess (Process.receive Signal.pipeNumber)
    heed
    return some .brokenPipe

def writeTo (handle : Handle) (bytes : Bytes) : Job (Option Io.Failure) := do
  match handle, handle.sink? with
  | .opened number, _ =>
    match (<- get).opened? number with
    | some opened => writeOpened number opened bytes
    | none => return some badDescriptor
  | _, some number => writePipe number bytes
  | _, none => return some badDescriptor

def write (descriptor : Nat) (bytes : Bytes) : Job (Option Io.Failure) := do
  match (<- process).handle? descriptor with
  | some handle => writeTo handle bytes
  | none => return some badDescriptor

def writeChars (descriptor : Nat) (chars : Chars) : Job (Option Io.Failure) :=
  write descriptor (toBytes chars)

def warn (text : Chars) : Job Unit := do
  let _ <- writeChars 2 text

def complain (text : Chars) : Job Unit := do
  let process <- process
  let builtin := (process.builtin?.map (· ++ ": ".toList)).getD []
  warn (process.name ++ ": ".toList ++ (toString process.line).toList ++ ": ".toList ++ builtin ++
    text ++ ['\n'])

def failedStatus : Nat := 2

def fail {A : Type} (text : Chars) : Job A := do
  complain text
  throw .failed

def pieceSize : Nat := 4096

def readOpened (number : Nat) (opened : Opened) (cut : Bytes -> Bytes × Bytes) :
    Job (Except Io.Failure Bytes) := do
  if !opened.reads then return .error badDescriptor
  match ((<- get).tree.node? opened.node).map Files.Node.entry with
  | some (.device .zero) => return .ok (cut (List.replicate pieceSize 0)).1
  | some (.device .full) => return .ok (cut (List.replicate pieceSize 0)).1
  | some (.device .random) =>
    return .ok (cut ((List.range pieceSize).map fun index => UInt8.ofNat (index * 97 + 41))).1
  | entry =>
    match (entry.getD .directory).content with
    | .error failure => return .error failure
    | .ok content =>
      let rest := content.drop opened.offset
      let (taken, left) := cut rest
      let offset := opened.offset + (rest.length - left.length)
      modify fun scene => scene.setOpened number { opened with offset }
      return .ok taken

def readWhen (handle : Handle) (enough : Pipe -> Bool) (cut : Bytes -> Bytes × Bytes) :
    Job (Except Io.Failure Bytes) := do
  match handle, handle.source? with
  | .opened number, _ =>
    match (<- get).opened? number with
    | some opened => readOpened number opened cut
    | none => return .error badDescriptor
  | _, some number =>
    waitFor fun scene => enough (scene.pipe number) || !scene.isWritten number
    let (taken, left) := cut ((<- get).pipe number).all
    modify (Scene.modifyPipe number (Pipe.leave left))
    return .ok taken
  | _, none => return .error badDescriptor

def passLimit : Nat := 1000000

def readParts (read : Job (Except Io.Failure Bytes)) (isLast : Bytes -> Bool) :
    Nat -> List Bytes -> Job (Except Io.Failure Bytes)
  | 0, parts => return .ok parts.reverse.flatten
  | fuel + 1, parts => do
    match <- read with
    | .error failure => return .error failure
    | .ok part =>
      if part.isEmpty || isLast part then return .ok (part :: parts).reverse.flatten
      else readParts read isLast fuel (part :: parts)

def readAll (handle : Handle) : Job (Except Io.Failure Bytes) :=
  readParts (readWhen handle Pipe.isFull fun bytes => (bytes, [])) (fun _ => false) passLimit []

def readUpTo (handle : Handle) (count : Nat) : Job (Except Io.Failure Bytes) :=
  readWhen handle (fun pipe => 0 < pipe.size) (List.splitAt count)

def readSome (handle : Handle) : Job (Except Io.Failure Bytes) :=
  readWhen handle (fun pipe => 0 < pipe.size) (fun bytes => (bytes, []))

def readLine (handle : Handle) : Job (Except Io.Failure Bytes) :=
  let part := readWhen handle (fun pipe => pipe.holdsByte 10 || pipe.isFull) fun bytes =>
    let line := bytes.takeWhile (· != 10)
    let rest := bytes.drop line.length
    (line ++ rest.take 1, rest.drop 1)
  readParts part (fun part => part.getLast? == some 10) passLimit []

def withDescriptor {A : Type} (descriptor : Nat)
    (use : Handle -> Job (Except Io.Failure A)) : Job (Except Io.Failure A) := do
  match (<- process).handle? descriptor with
  | some handle => use handle
  | none => return .error badDescriptor

def fileOf? (handle : Handle) : Job (Option (Nat × Opened)) := do
  let scene <- get
  match handle with
  | .opened number =>
    return (scene.opened? number).bind fun opened =>
      if (scene.tree.node? opened.node).any Files.Node.isRegular then some (number, opened)
      else none
  | _ => return none

def putBack (handle : Handle) (count : Nat) : Job Unit := do
  if let some (number, opened) := <- fileOf? handle then
    modify (Scene.setOpened number { opened with offset := opened.offset - count })

def newNumber : Job Nat :=
  modifyGet fun scene => (scene.fresh, { scene with fresh := scene.fresh + 1 })

def newPipe (pipe : Pipe) : Job Nat := do
  let number <- newNumber
  modify (Scene.setPipe number pipe)
  return number

def openNode (opened : Opened) : Job Handle := do
  let number <- newNumber
  modify (Scene.setOpened number opened)
  return .opened number

def setHandle (descriptor : Nat) (handle : Handle) : Job Unit :=
  modifyProcess fun process => { process with
    handles := setEntry descriptor handle process.handles }

def closeHandle (descriptor : Nat) : Job Unit :=
  modifyProcess fun process => { process with
    handles := process.handles.filter fun entry => entry.1 != descriptor }

def endingOf (process : Process) : Except Leave Unit -> Ending
  | .error (.exit status) => .exited status
  | .error .failed => .exited failedStatus
  | .error (.killed signal) => .killed signal
  | _ => .exited process.status

def program (number : Nat) (job : Job Unit) : Program Scene Unit := do
  let result <- ((do heed; job : Job Unit) number).run
  modify fun scene =>
    (scene.modifyProcess number fun process => process.finish (endingOf process result)).sweep

def launch (change : Process -> Process) (job : Job Unit) : Job Nat := do
  let number <- newNumber
  let self <- read
  let process <- process
  modify (Scene.setProcess number (change (process.child self)))
  fun _ => ExceptT.lift (Program.fork (program number job))
  return number

def announce : Ending -> Job Unit
  | .exited _ => pure ()
  | .killed signal =>
    if Signal.isSilent signal then pure ()
    else warn (Signal.description signal ++ "\n").toList

def reap : Job Unit := do
  let self <- read
  modify fun scene =>
    let process := scene.process self
    let look (entry : Nat × Option Ending) : Nat × Option Ending :=
      (entry.1, entry.2.or (scene.ending? entry.1))
    let batches := process.batches.map fun batch =>
      { batch with members := batch.members.map look }
    let ended := (batches.flatMap Batch.members).filter fun entry => entry.2.isSome
    let isGone (number : Nat) : Bool := ended.any fun entry => entry.1 == number
    { scene with processes := scene.processes.filter fun entry => !isGone entry.1 }.setProcess self
      { process with batches }

def waitForProcess (number : Nat) : Job Nat := do
  waitFor fun scene => (scene.ending? number).isSome
  let ending := ((<- get).ending? number).getD (.exited 0)
  reap
  modify (Scene.removeProcess number)
  announce ending
  return ending.status

def takeNumber : Job Nat := do
  let batches := (<- process).batches
  let isTaken (number : Nat) : Bool := batches.any fun batch =>
    batch.number == number && !(batch.hasEnded && batch.isWaited)
  let number :=
    (((List.range batches.length).map (· + 1)).find? (!isTaken ·)).getD (batches.length + 1)
  modifyProcess fun process => { process with
    batches := process.batches.filter fun batch => batch.number != number }
  return number

def inChild (change : Process -> Process) (job : Job Unit) : Job Nat := do
  let _ <- takeNumber
  waitForProcess (<- launch change job)

def capture (change : Process -> Process) (job : Job Unit) : Job (Nat × Bytes) := do
  let _ <- takeNumber
  let output <- newPipe { isDrained := true }
  let child <- launch (fun process => change { process with
    handles := setEntry 1 (.sink output) process.handles }) job
  waitFor fun scene => !scene.isWritten output
  let content := ((<- get).pipe output).all
  modify fun scene => { scene with pipes := scene.pipes.filter fun entry => entry.1 != output }
  let status <- waitForProcess child
  return (status, content)

def value? (name : Chars) : Job (Option Chars) := do
  return (<- process).value? name

def modifyVariable (name : Chars) (change : Variable -> Variable) : Job Unit :=
  modifyProcess fun process =>
    let held := (process.binding? name).getD { value? := none }
    { process with bindings := setEntry name (change held) process.bindings }

def pathName : Chars :=
  "PATH".toList

def assign (name value : Chars) : Job Unit := do
  let process <- process
  if (process.binding? name).any Variable.fixed then fail (name ++ ": is read only".toList)
  modifyVariable name fun held => { held with
    value? := some value
    exported := held.exported || process.hasOption 'a' }
  if name == "OPTIND".toList then
    let next := max ((String.ofList value).toNat?.getD 1) 1
    modifyProcess fun process => { process with optionPlace := { next } }
  if name == pathName then
    modifyProcess fun process => { process with remembered := [] }

def path (chars : Chars) : Path :=
  { bytes := toBytes chars }

def files : Job Files.Tree := do
  return (<- get).filesFor (<- process)

def find (follow : Bool) (name : Chars) : Job (Except Io.Failure Files.Found) := do
  return Files.find (<- files) (<- process).directory follow (path name)

def changeFiles {A : Type}
    (change : Files.Tree -> Files.Location -> Except Io.Failure (A × Files.Tree)) :
    Job (Except Io.Failure A) := do
  let process <- process
  let before := (<- get).tree
  let seen := { (<- files) with mask := process.mask }
  match change seen process.directory with
  | .ok (value, tree) =>
    if makesDescriptors seen tree then return .error .notFound
    modify fun scene => { scene with tree := withoutDescriptors before seen tree }
    return .ok value
  | .error failure => return .error failure

def changeTree (change : Files.Tree -> Files.Location -> Except Io.Failure Files.Tree) :
    Job (Except Io.Failure Unit) :=
  changeFiles fun tree directory => do return ((), <- change tree directory)

end Job

end AnsibleTooling.Shell
