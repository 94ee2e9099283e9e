import AnsibleTooling.Host
/-!
The state a session acts on, and a journal of everything it did. An `Act` always gives a new
stage, whether it succeeds or fails.
-/

set_option autoImplicit false

namespace AnsibleTooling

structure Gate where
  busy : Bool := false
  deriving DecidableEq, Repr, Inhabited

namespace Gate

def acquire (gate : Gate) : Except Error Gate :=
  if gate.busy then .error .installInProgress else .ok { busy := true }

def release (_ : Gate) : Gate :=
  { busy := false }

end Gate

inductive SessionState
  | inactive
  | disabled
  | degraded (reason : String)
  | ready (report : Report)
  deriving DecidableEq, Repr, Inhabited

inductive NoteLevel
  | info
  | warn
  | error
  deriving DecidableEq, Repr

inductive Event
  | ran (line : String)
  | prompted (question : String)
  -- The answer to the last question; a prompt that fails has none.
  | answered (consent : Bool)
  | noted (level : NoteLevel) (text : String)
  | planned (plan : InstallPlan)
  | logged (record : LogRecord)
  | clientStarted (launch : ServerLaunch) (success : Bool)
  | clientStopped (success : Bool)
  | sent (method : String) (parameters : Json.Value) (success : Bool)
  | terminalStarted (name : String) (program : Path) (arguments : List String) (success : Bool)
  | terminalDisposed (success : Bool)
  | became (state : SessionState)
  deriving Inhabited

structure Stage (S : Type) where
  world : World S
  gate : Gate := {}
  state : SessionState := .inactive
  journal : List Event := []

def Stage.enter {S : Type} (world : World S) (stage : Stage S) : Stage S :=
  { stage with
    world := { world with records := [] }
    journal := stage.journal ++ world.records.map .logged }

abbrev Act (S : Type) := ExceptT Error (StateM (Stage S))

namespace Act

variable {S : Type}

def perform {A : Type} (act : Act S A) (stage : Stage S) : Except Error A × Stage S :=
  act.run.run stage

def record (event : Event) : Act S Unit :=
  modify fun stage => { stage with journal := stage.journal ++ [event] }

def log (topic : LogTopic) (level : LogLevel) (message : String)
    (fields : List (String × String)) : Act S Unit :=
  record (.logged (.make topic level message fields))

def note (level : NoteLevel) (text : String) : Act S Unit :=
  record (.noted level text)

def outcome {A : Type} (act : Act S A) : Act S (Except Error A) :=
  fun stage =>
    let (result, next) := act.perform stage
    (.ok result, next)

def ofExcept {A : Type} : Except Error A -> Act S A
  | .ok value => pure value
  | .error error => throw error

def ofWorld {A : Type} (step : World S -> Except Error A × World S) : Act S A := do
  let (result, world) := step (<- get).world
  modify (Stage.enter world)
  ofExcept result

/-- A step of the surroundings, recorded with whether it succeeded. -/
def recorded {A : Type} (event : Bool -> Event) (step : World S -> Except Error A × World S) :
    Act S A := do
  let (result, world) := step (<- get).world
  modify (Stage.enter world)
  record (event result.isOk)
  ofExcept result

def world : Act S (World S) := do
  return (<- get).world

end Act

end AnsibleTooling
