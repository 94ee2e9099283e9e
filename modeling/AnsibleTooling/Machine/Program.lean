import AnsibleTooling.Host
import AnsibleTooling.Shell.Evaluator
/-!
Starting programs. A program gets its arguments, bindings and three standard streams, and is then
a task on the files and on what it reads and writes.
-/

set_option autoImplicit false

namespace AnsibleTooling.Machine

open Shell (Chars)

abbrev Bindings := List (Bytes × Bytes)

namespace Bindings

def get? (bindings : Bindings) (name : String) : Option Bytes :=
  (bindings.find? fun entry => entry.1 == Text.encode name).map Prod.snd

def set (bindings : Bindings) (name : String) (value : Bytes) : Bindings :=
  (Text.encode name, value) :: bindings.filter fun entry => entry.1 != Text.encode name

end Bindings

def searchPathName : String := "PATH"

def homeName : String := "HOME"

def Bindings.home? (bindings : Bindings) : Option Path :=
  (bindings.get? homeName).bind fun home => if home.isEmpty then none else some { bytes := home }

def fallbackSearchPath : String := "/bin:/usr/bin"

def inputNumber : Nat := 0

def outputNumber : Nat := 1

def errorNumber : Nat := 2

def processNumber : Nat := 4242

structure Run where
  thread : Shell.Thread Shell.Scene
  now : Nat

structure Order where
  program : Path
  arguments : List Bytes
  bindings : Bindings
  -- Whether the search path was set for this program alone.
  ownSearchPath : Bool := false
  -- Whether its input can be written to.
  inputOpen : Bool := false

def hasNul (bytes : Bytes) : Bool :=
  bytes.contains 0

/-- What an order runs. An executable file that is no program is run by the shell only when it was
searched for along a path set for it. -/
def Order.image (order : Order) (tree : Files.Tree) (directory : Files.Location) :
    Except Io.Failure Files.Image :=
  if hasNul order.program.bytes || order.arguments.any hasNul ||
      order.bindings.any (fun entry => hasNul entry.2) then .error .nulInArgument
  else
    let search :=
      if order.ownSearchPath && !Files.hasSeparator order.program then Files.searchScript
      else Files.searchImage
    let searchPath := (order.bindings.get? searchPathName).getD (Text.encode fallbackSearchPath)
    search tree directory searchPath {
      name := order.program.bytes
      arguments := order.arguments
      environment := order.bindings.map fun (name, value) => name ++ Text.encode "=" ++ value }

def exported (name value : Bytes) : Chars × Shell.Variable :=
  (Shell.ofBytes name, { value? := some (Shell.ofBytes value), exported := true })

def Order.startScene (order : Order) (tree : Files.Tree) (directory : Files.Location) :
    Shell.Scene :=
  let nullNumber := (tree.number? (["dev", "null"].map Text.encode)).getD 0
  let nothing : Shell.Opened := { node := nullNumber, reads := true, writes := false }
  let input : Shell.Handle :=
    if order.inputOpen then .source inputNumber else .opened inputNumber
  let process : Shell.Process := {
    bindings := order.bindings.map fun (name, value) => exported name value
    handles := [(0, input), (1, .sink outputNumber), (2, .sink errorNumber)]
    directory
    shell := processNumber
    parent := 1 }
  { tree
    pipes := [
      (inputNumber, { isFed := order.inputOpen }),
      (outputNumber, { isDrained := true }),
      (errorNumber, { isDrained := true })]
    opened := [(inputNumber, nothing)]
    processes := [(processNumber, process)]
    fresh := processNumber + 1 }

def Order.start (order : Order) (tree : Files.Tree) (directory : Files.Location) :
    Except Io.Failure Run := do
  let image <- order.image tree directory
  let job := Shell.runImage (Shell.evaluate Shell.stepLimit) Shell.imageDepth image
  let program := Shell.Job.program processNumber job
  let scene := order.startScene tree directory
  let begin (now : Nat) (scene : Shell.Scene) := program.thread now (scene.setTime now)
  return { thread := .paused (fun _ => true) none scene begin, now := tree.now + 1 }

def written (number : Nat) (scene : Shell.Scene) : Bytes :=
  (scene.pipe number).all

def withTree (tree : Files.Tree) (scene : Shell.Scene) : Shell.Scene :=
  { scene with tree }

def isOver (scene : Shell.Scene) : Bool :=
  (scene.ending? processNumber).isSome

def exitStatus? (scene : Shell.Scene) : Option Nat :=
  match scene.ending? processNumber with
  | some (.exited status) => some status
  | _ => none

namespace Run

def scene (run : Run) : Shell.Scene :=
  run.thread.state

def tree (run : Run) : Files.Tree :=
  run.scene.tree

def withTree (tree : Files.Tree) (run : Run) : Run :=
  { run with thread := run.thread.modifyState (Machine.withTree tree) }

def hasEnded (run : Run) : Bool :=
  match run.thread with
  | .ended _ => true
  | .paused .. => false

def isSilent (scene : Shell.Scene) : Bool :=
  !scene.isWritten outputNumber && !scene.isWritten errorNumber

def emptied (run : Run) : Run :=
  let empty (number : Nat) (scene : Shell.Scene) : Shell.Scene :=
    scene.setPipe number { isDrained := true }
  { run with
    thread := run.thread.modifyState fun scene => empty errorNumber (empty outputNumber scene) }

def killed (run : Run) : Run :=
  { run with
    thread := run.thread.modifyState fun scene =>
      scene.modifyProcess processNumber (Shell.Process.receive Shell.Signal.killNumber) }

def goOn (wanted : Shell.Scene -> Bool) (run : Run) : Run :=
  let (now, thread) := run.thread.advance wanted none run.now
  { thread, now }

def advance (time : Nat) (run : Run) : Run :=
  let now := run.now + time
  { thread := (run.thread.advance (fun _ => false) (some now) run.now).2, now }

def rest? (run : Run) : Option Nat :=
  match run.thread with
  | .paused _ (some wake) _ _ => some (wake - run.now)
  | _ => none

end Run

end AnsibleTooling.Machine
