import AnsibleTooling.Shell.Job
import AnsibleTooling.Shell.Parser

set_option autoImplicit false

namespace AnsibleTooling.Shell

open Job

structure Standing where
  -- Whether its status is asked for, so that it may fail.
  isTested : Bool := false
  -- Whether the process ends with it.
  isLast : Bool := false

def Standing.tested : Standing := { isTested := true }

def Standing.last : Standing := { isLast := true }

def Standing.inside (standing : Standing) : Standing :=
  { standing with isLast := false }

abbrev Runner := Standing -> Command -> Job Unit

variable (run : Runner)

def succeeded : Job Bool := do
  return (<- process).status == 0

def showRead (text : Chars) : Job Unit := do
  if (<- process).hasOption 'v' then warn text

def firstLines : Nat -> Chars -> Chars
  | 0, _ => []
  | count + 1, text =>
    let line := text.takeWhile (· != '\n')
    line ++ (text.drop line.length).take 1 ++ firstLines count (text.drop (line.length + 1))

def runLines (standing : Standing) (isFile : Bool) : Nat -> Bool -> Script -> Job Bool
  | 0, hasRun, _ => return hasRun
  | fuel + 1, hasRun, script => do
    match nextLine { script with aliases := (<- process).aliases } with
    | .error fault =>
      if isFile then showRead (firstLines (fault.line + 1 - script.line) script.rest)
      modifyProcess fun process => { process with line := fault.line }
      fail ("Syntax error: " ++ fault.text).toList
    | .ok none =>
      if isFile then showRead script.rest
      return hasRun
    | .ok (some (command, rest)) =>
      if isFile then showRead (script.rest.take (script.rest.length - rest.rest.length))
      modifyProcess fun process => { process with lineRead := rest.line }
      if let some command := command then run standing command
      runLines standing isFile fuel (hasRun || command.isSome) rest

def runScript (standing : Standing) (isFile : Bool) (text : Chars) : Job Unit := do
  let before := (<- process).lineRead
  let lines := runLines run standing.inside isFile (text.length + 2) false { rest := text }
  followedBy (do if !(<- lines) then setStatus 0) <|
    modifyProcess fun process => { process with lineRead := before }

def runText (text : Chars) : Job Unit :=
  runScript run {} false text

def runContent (content : Bytes) : Job Unit :=
  runScript run {} true (ofBytes content)

def runTraps : List Nat -> Job Unit
  | [] => pure ()
  | signal :: signals => do
    let before <- process
    if let some action := before.trap? signal then
      let held := before.heldStatus?.getD before.status
      modifyProcess fun process => { process with heldStatus? := some held }
      let result <- outcome (runText run action)
      modifyProcess fun process => { process with heldStatus? := before.heldStatus? }
      match result with
      | .ok () => setStatus held
      | .error leave =>
        if leave != .fromFunction true then setStatus held
        modifyProcess fun process => { process with signals := signals ++ process.signals }
        throw leave
    runTraps signals

def heedTraps : Job Unit := do
  let signals := (<- process).signals
  if !signals.isEmpty then
    modifyProcess fun process => { process with signals := [] }
    runTraps run signals

def asShell (job : Job Unit) : Job Unit := do
  let result <- outcome job
  let process <- process
  let status :=
    match result with
    | .error (.exit status) => status
    | .error .failed => failedStatus
    | _ => process.status
  if let .error (.killed signal) := result then throw (.killed signal)
  if let some action := process.trap? Signal.exitNumber then
    modifyProcess fun process => { process with
      traps := process.traps.filter fun entry => entry.1 != Signal.exitNumber
      status
      heldStatus? := some status }
    match <- outcome (runText run action) with
    | .error (.killed signal) => throw (.killed signal)
    | .error (.exit status) => throw (.exit status)
    | _ => pure ()
  throw (.exit status)

def substitute (command : Option Command) : Job (Nat × Bytes) :=
  capture id (asShell run ((command.map (run .last)).getD (setStatus 0)))

end AnsibleTooling.Shell
