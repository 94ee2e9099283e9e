import AnsibleTooling.Machine.Child
import AnsibleTooling.Machine.Company
import AnsibleTooling.Managed
import AnsibleTooling.Text.Quoted

set_option autoImplicit false

namespace AnsibleTooling

structure Machine where
  bindings : Machine.Bindings
  -- The home of the user, unless a variable names another.
  userHome : Path := Path.ofText "/root"
  -- The number by which a server knows its client.
  ownId : Nat := 1
  server : Option (Rpc.Connection Machine.Child) := none
  -- The program in the terminal, and what it is there for.
  playing : Option (Showing × Machine.Run) := none
  -- Programs that were in the terminal before and were not ended; they go on by themselves.
  released : List Machine.Run := []
  -- What was written to the terminal, on each of its streams.
  output : Bytes := []
  errors : Bytes := []

namespace Machine

variable {A : Type}

def update (change : Machine -> Machine) (world : World Machine) : World Machine :=
  { world with inner := change world.inner }

def order (world : World Machine) (program : Path) (arguments : List Bytes) : Order :=
  { program, arguments, bindings := world.inner.bindings }

def start (order : Order) (world : World Machine) : Except Io.Failure Run :=
  order.start world.tree world.workDir

/-- Runs a program to its end with nothing to read, until no one can write for it any more. -/
def run (program : Path) (arguments : List Bytes) (world : World Machine) :
    Except Error ProcessOutput × World Machine :=
  match start (order world program arguments) world with
  | .error failure =>
    (.error (.processSpawn (commandLine program arguments) failure.message), world)
  | .ok run =>
    let begun := run.now
    let run := run.goOn fun scene => isOver scene && Run.isSilent scene
    let scene := run.scene
    let output : ProcessOutput := {
      success := exitStatus? scene == some 0
      stdout := Text.decode (written outputNumber scene)
      stderr := Text.decode (written errorNumber scene) }
    (.ok output, { world with tree := scene.tree, clock := world.clock + (run.now - begun) })

def which (name : String) (world : World Machine) : Option Path :=
  let bindings := world.inner.bindings
  Files.which world.tree world.workDir (bindings.home?.getD world.inner.userHome)
    (bindings.get? searchPathName) (Path.ofText name)

def runner : Runner Machine where
  run := run
  which := which

/-- The search path that is set for a server: the managed directory before those inherited. Without
a managed directory none is set. -/
def serverSearchPath (pathPrefix : Option Path) (inherited : Option Bytes) :
    Except Error (Option Bytes) :=
  match pathPrefix with
  | none => .ok none
  | some pathPrefix =>
    match Files.searchPathOf? (pathPrefix :: (inherited.map Files.directories).getD []) with
    | some searchPath => .ok (some searchPath)
    | none => .error (.languageServer "Invalid PATH entry: path segment contains separator `:`")

def serverOrder (launch : ServerLaunch) (bindings : Bindings) : Except Error Order := do
  let command := launch.command
  let searchPath <- serverSearchPath command.pathPrefix (bindings.get? searchPathName)
  return {
    program := command.program
    arguments := command.arguments
    bindings := (searchPath.map fun value => bindings.set searchPathName value).getD bindings
    ownSearchPath := command.pathPrefix.isSome
    inputOpen := true }

/-- Talks to a server with the files as they are now; what is logged meanwhile is handed on. -/
def converse (talk : Rpc.Talk Child A) (connection : Rpc.Connection Child)
    (world : World Machine) : Except Error A × Rpc.Connection Child × World Machine :=
  let child := connection.far
  let current := { child with run := child.run.withTree world.tree }
  let (result, connection) := talk.perform { connection with far := current }
  (result, { connection with records := [] },
    { world with
      tree := connection.far.run.tree
      records := world.records ++ connection.records })

def setServer (server : Option (Rpc.Connection Child)) (world : World Machine) : World Machine :=
  update (fun machine => { machine with server }) world

def hangUp (connection : Rpc.Connection Child) (world : World Machine) : World Machine :=
  let wait : Rpc.Talk Child Unit := modify fun connection =>
    let (arrival, far) := connection.far.terminate
    { connection with far, records := connection.records ++ arrival.records ++ [far.parting] }
  setServer none (converse wait connection world).2.2

def stopServer (world : World Machine) : World Machine :=
  match world.inner.server with
  | none => world
  | some connection =>
    let (_, connection, world) := converse (Rpc.Talk.farewell Child.wire) connection world
    hangUp connection world

def spawning (order : Order) : LogRecord :=
  .make .client .debug "spawning language server" [
    ("program", order.program.display),
    ("args", Text.quoteList (order.arguments.map Text.decode))]

def startServer (launch : ServerLaunch) (world : World Machine) :
    Except Error Unit × World Machine :=
  match serverOrder launch world.inner.bindings with
  | .error error => (.error error, world)
  | .ok order =>
    let world := world.log (spawning order)
    match start order world with
    | .error failure =>
      (.error (.processSpawn launch.command.program.display failure.message), world)
    | .ok run =>
      let child : Child := { run, listener := { configuration := launch.configuration } }
      let handshake := Rpc.Talk.handshake Child.wire world.inner.ownId launch
      let (result, connection, world) := converse handshake { far := child } world
      match result with
      | .ok _ => (.ok (), setServer (some connection) world)
      | .error error => (.error error, hangUp connection world)

def withServer (talk : Rpc.Talk Child A) (world : World Machine) :
    Except Error A × World Machine :=
  match world.inner.server with
  | none => (.error (.languageServer "client is not running"), world)
  | some connection =>
    let (result, connection, world) := converse talk connection world
    (result, setServer (some connection) world)

def client : Client Machine where
  isRunning world := world.inner.server.isSome
  start launch world := startServer launch (stopServer world)
  stop world := (.ok (), stopServer world)
  send method parameters := withServer (Rpc.Talk.notify Child.wire method parameters)
  await method milliseconds := withServer (Rpc.Talk.await Child.wire method milliseconds)

def absorb (scene : Shell.Scene) (world : World Machine) : World Machine :=
  { world with
    tree := scene.tree
    inner := { world.inner with
      output := world.inner.output ++ written outputNumber scene
      errors := world.inner.errors ++ written errorNumber scene } }

def startTerminal (showing : Showing) (world : World Machine) :
    Except Error Unit × World Machine :=
  let arguments := showing.arguments.map Text.encode
  match start (order world showing.program arguments) world with
  | .error failure =>
    (.error (.processSpawn (commandLine showing.program arguments) failure.message), world)
  | .ok run =>
    let run := run.advance 0
    let world := { world with tree := run.tree }
    (.ok (), update (fun machine => { machine with
      playing := some (showing, run)
      released := (machine.playing.map Prod.snd).toList ++ machine.released }) world)

def closeTerminal (run : Run) (released : List Run) (world : World Machine) : World Machine :=
  let left := if run.hasEnded then [] else [run.emptied]
  let close (machine : Machine) : Machine :=
    { machine with playing := none, released := left ++ released }
  update close (absorb run.scene world)

-- To kill a child of one's own, and to wait for it, does not fail.
def disposeTerminal (world : World Machine) : World Machine :=
  match world.inner.playing with
  | none => world
  | some (_, run) =>
    closeTerminal ((run.withTree world.tree).killed.advance 0) world.inner.released world

def finished (showing : Showing) (ending : Shell.Ending) : LogRecord :=
  .make .terminal .debug "terminal command finished" [
    ("terminal", showing.name),
    ("status", ending.text)]

def waitTerminal (world : World Machine) : World Machine :=
  match world.inner.playing with
  | none => world
  | some (showing, run) =>
    let run := run.withTree world.tree
    let (run, released) := outlast run.thread run.now world.inner.released
    let records := (run.scene.ending? processNumber).map (finished showing)
    records.toList.foldl (fun world record => world.log record) (closeTerminal run released world)

def settle (world : World Machine) : World Machine :=
  let runs := (world.inner.playing.map Prod.snd).toList ++ world.inner.released
  let world := update (fun machine => { machine with playing := none, released := [] }) world
  runs.reverse.foldl
    (fun world run => absorb ((run.withTree world.tree).goOn Run.isSilent).scene world) world

def terminal : Terminal Machine where
  isOpen world := world.inner.playing.isSome
  start name program arguments := startTerminal { name, program, arguments }
  dispose world := (.ok (), disposeTerminal world)
  wait world := (.ok (), waitTerminal world)

def confirm (assumeYes : Bool) (question : String) (world : World Machine) :
    Except Error Bool × World Machine :=
  let refusal : LogRecord := {
    topic := .prompt
    level := .warn
    message := "no terminal to confirm on; answering no"
    fields := [("prompt", .quoted question)] }
  (.ok assumeYes, if assumeYes then world else world.log refusal)

def host (assumeYes : Bool) : Host Machine where
  runner := runner
  confirm := confirm assumeYes
  install := Managed.installer runner
  client := client
  terminal := terminal

end Machine

end AnsibleTooling
