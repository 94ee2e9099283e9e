import AnsibleTooling.Probe
import AnsibleTooling.Text.Quoted

set_option autoImplicit false

namespace AnsibleTooling.Installation

variable {S : Type}

def question : String := "Install Ansible Server requirements tools?"

def secondsText (milliseconds : Nat) : String :=
  toString (milliseconds / 1000)

def progressText (milliseconds : Nat) : String :=
  s!"ansible | Install requirements tools... ({secondsText milliseconds} sec)"

def completionText (milliseconds : Nat) : String :=
  s!"ansible | Installation is complete! ({secondsText milliseconds} sec)"

/-- The reports that fall due while time passes, one at each multiple of the interval. -/
def reportsDue (interval elapsed passed : Nat) : List Event :=
  if interval == 0 then (if passed == 0 then [] else [.noted .warn (progressText elapsed)])
  else
    let first := elapsed / interval
    let last := (elapsed + passed) / interval
    (List.range (last - first)).map fun count =>
      .noted .warn (progressText ((first + count + 1) * interval))

def eventsOf (interval : Nat) : Nat -> List Deed -> List Event
  | _, [] => []
  | elapsed, .ran line :: deeds => .ran line :: eventsOf interval elapsed deeds
  | elapsed, .logged record :: deeds => .logged record :: eventsOf interval elapsed deeds
  | elapsed, .passed milliseconds :: deeds =>
    reportsDue interval elapsed milliseconds ++ eventsOf interval (elapsed + milliseconds) deeds

def duration (deeds : List Deed) : Nat :=
  deeds.foldl (fun total deed =>
    match deed with
    | .passed milliseconds => total + milliseconds
    | _ => total) 0

variable (host : Host S) (context : Context)

def attempt (plan : InstallPlan) : Act S (Except Error Unit × Nat) := do
  Act.record (.planned plan)
  let attempt := host.install plan (<- get).world
  modify fun stage => { stage with
    world := attempt.world
    journal := stage.journal ++ eventsOf context.progressInterval 0 attempt.deeds }
  return (attempt.result, duration attempt.deeds)

def confirm : Act S Bool := do
  Act.record (.prompted question)
  let consent <- Act.ofWorld (host.confirm question)
  Act.record (.answered consent)
  return consent

/-- Prompt and attempt, with the gate held. A program that could not be started makes the
installation fail. -/
def admitted (python : PythonPaths) : Act S Unit := do
  if !(<- confirm host) then
    Act.log .activation .info "requirements tools install declined" []
    throw .installDeclined
  let plan := InstallPlan.make python.real context.storage context.platform
    context.settings.builtin
  Act.log .activation .info "installing requirements tools" [
    ("interpreter", plan.interpreter.display), ("venv", plan.directory.display),
    ("packages", Text.quoteList plan.packages)]
  Act.note .info "Install Ansible Server requirements tools..."
  let (result, elapsed) <- attempt host context plan
  match result with
  | .ok _ =>
    Act.log .activation .info "requirements tools installed" [("elapsed_secs", secondsText elapsed)]
    Act.note .info (completionText elapsed)
  | .error (.processSpawn command details) =>
    Act.log .activation .warn "requirements tools install failed" [
      ("command", command), ("details", details)]
    throw (.installFailed command details)
  | .error error =>
    Act.log .activation .warn "requirements tools install failed" [("error", error.message)]
    throw error

def install (python : PythonPaths) : Act S Unit := do
  let gate <- Act.ofExcept (<- get).gate.acquire
  modify fun stage => { stage with gate }
  let result <- Act.outcome (admitted host context python)
  modify fun stage => { stage with gate := stage.gate.release }
  Act.ofExcept result

end AnsibleTooling.Installation
