import AnsibleTooling.Files.Fixture
import AnsibleTooling.Managed
/-!
A host that follows a script. Commands answer from a table, the prompt has a fixed answer, and
the client and the terminal are props that record how they are used and fail on demand.
-/

set_option autoImplicit false

namespace AnsibleTooling.Rehearsal

structure Reply where
  output : ProcessOutput
  creates : List Files.Fixture := []

structure Faults where
  start : Bool := false
  stop : Bool := false
  openTerminal : Bool := false
  dispose : Bool := false
  deriving DecidableEq, Repr

structure Message where
  method : String
  parameters : Json.Value

structure Playing where
  name : String
  program : Path
  arguments : List String
  deriving DecidableEq, Repr

structure Props where
  faults : Faults := {}
  running : Bool := false
  stops : Nat := 0
  waiting : List Message := []
  terminal : Option Playing := none
  opened : Nat := 0
  disposed : Nat := 0

def update (change : Props -> Props) (world : World Props) : World Props :=
  { world with inner := change world.inner }

def fail {A : Type} (error : Error) (world : World Props) : Except Error A × World Props :=
  (.error error, world)

def client : Client Props where
  isRunning world := world.inner.running
  start _ world :=
    if world.inner.faults.start then fail (.languageServer "initialize timed out") world
    else (.ok (), update (fun props => { props with running := true }) world)
  stop world :=
    if world.inner.faults.stop then
      fail (.languageServer "shutdown was not acknowledged") world
    else
      (.ok (), update (fun props => { props with
        running := false
        stops := props.stops + if props.running then 1 else 0 }) world)
  send _ _ world :=
    if world.inner.running then (.ok (), world)
    else fail (.languageServer "client is not running") world
  await method _ world :=
    let waiting := world.inner.waiting
    match waiting.findIdx? fun message => message.method == method with
    | none => (.ok none, world)
    | some index =>
      (.ok (waiting[index]?.map Message.parameters),
        update (fun props => { props with waiting := waiting.eraseIdx index }) world)

def terminal : Terminal Props where
  isOpen world := world.inner.terminal.isSome
  start name program arguments world :=
    if world.inner.faults.openTerminal then
      fail (.processSpawn name "No such file or directory") world
    else
      (.ok (), update (fun props => { props with
        terminal := some { name, program, arguments }
        opened := props.opened + 1 }) world)
  dispose world :=
    if world.inner.faults.dispose then fail (.configuration "terminal is stuck") world
    else
      (.ok (), update (fun props => { props with
        terminal := none
        disposed := props.disposed + if props.terminal.isSome then 1 else 0 }) world)
  wait world := (.ok (), update (fun props => { props with terminal := none }) world)

/-- How an installation goes: the real steps over the scripted commands, or a pretended one that
takes its time and then fails or leaves files behind. -/
inductive Installing
  | managed
  | pretended (delay : Nat) (failure : Option Error) (tools : List String)

structure Script where
  commands : List (String × Reply) := []
  executables : List (String × Path) := []
  confirmation : Except Error Bool := .ok true
  installing : Installing := .pretended 0 none (Tool.all.map Tool.command)

def runner (script : Script) : Runner Props where
  run program arguments world :=
    let line := commandLine program arguments
    match script.commands.find? fun row => row.1 == line with
    | none => fail (.processSpawn line "No such file or directory") world
    | some (_, reply) =>
      (.ok reply.output,
        { world with tree := Files.Fixture.placeAll world.workDir world.tree reply.creates })
  which name _ :=
    (script.executables.find? fun row => row.1 == name).map Prod.snd

def pretendedFiles (platform : Platform) (tools : List String) (plan : InstallPlan) :
    List Path :=
  plan.python :: tools.map fun tool => plan.binDirectory.joinText (platform.executableName tool)

def layOut (platform : Platform) (tools : List String) (plan : InstallPlan) (world : World Props) :
    Except Error Unit × World Props :=
  let (made, tree) := Files.makeDirectories world.tree world.workDir plan.binDirectory
  match made with
  | .error failure => (.error (.io failure), { world with tree })
  | .ok _ =>
    let write (state : Except Error Unit × Files.Tree) (path : Path) :=
      match state with
      | (.error error, tree) => (.error error, tree)
      | (.ok _, tree) =>
        match Files.write tree world.workDir false path [] with
        | .ok tree => (.ok (), tree)
        | .error failure => (.error (.io failure), tree)
    let (result, tree) := (pretendedFiles platform tools plan).foldl write (.ok (), tree)
    (result, { world with tree })

def installer (script : Script) (platform : Platform) : Installer Props :=
  match script.installing with
  | .managed => Managed.installer (runner script)
  | .pretended delay failure tools => fun plan world =>
    let deeds := [Deed.passed delay]
    match failure with
    | some error => { result := .error error, world, deeds }
    | none =>
      let (result, world) := layOut platform tools plan world
      { result, world, deeds }

def host (script : Script) (platform : Platform) : Host Props where
  runner := runner script
  confirm _ world := (script.confirmation, world)
  install := installer script platform
  client := client
  terminal := terminal

end AnsibleTooling.Rehearsal
