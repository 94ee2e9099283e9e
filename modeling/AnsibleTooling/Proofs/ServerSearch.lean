import AnsibleTooling.Machine.Host
import AnsibleTooling.Proofs.Paths
import AnsibleTooling.Proofs.Renewal
import AnsibleTooling.Proofs.ReportConsistency
import AnsibleTooling.Proofs.Serving

set_option autoImplicit false

namespace AnsibleTooling

namespace Files

theorem splitAtByte_eq (separator : UInt8) (bytes : Bytes) :
    splitAtByte separator bytes = bytes.splitOn separator := by
  rw [List.splitOn_eq_splitOnP]
  induction bytes with
  | nil => rfl
  | cons byte rest ih =>
    rw [splitAtByte, ih, List.splitOnP_cons_eq_if_modifyHead]
    split
    next none => exact absurd none (List.splitOnP_ne_nil _ _)
    next part parts split => rw [split, List.modifyHead_cons]

theorem directories_bytes (searchPath : Bytes) :
    (directories searchPath).map Path.bytes = searchPath.splitOn colon := by
  rw [directories, List.map_map, splitAtByte_eq]
  exact List.map_id _

theorem directories_ne_nil (searchPath : Bytes) : directories searchPath ≠ [] := by
  rw [directories, ne_eq, List.map_eq_nil_iff]
  exact splitAtByte_ne_nil colon searchPath

theorem clean_directories (searchPath : Bytes) :
    ∀ entry ∈ directories searchPath, colon ∉ entry.bytes := by
  intro entry member
  obtain ⟨bytes, part, rfl⟩ := List.mem_map.mp member
  exact clean_splitAtByte colon searchPath bytes part

def before (directory : Path) (inherited : Option Bytes) : Bytes :=
  directory.bytes ++ (inherited.map (colon :: ·)).getD []

theorem searchPathOf?_directories (directory : Path) (inherited : Option Bytes) :
    searchPathOf? (directory :: (inherited.map directories).getD []) =
      if directory.bytes.contains colon then none else some (before directory inherited) := by
  have others : ((inherited.map directories).getD []).any (fun entry => entry.bytes.contains colon) =
      false := by
    cases inherited with
    | none => rfl
    | some searchPath =>
      rw [Option.map_some, Option.getD_some, List.any_eq_false]
      exact fun entry member => by simpa using clean_directories searchPath entry member
  rw [searchPathOf?, List.any_cons, others, Bool.or_false]
  congr 2
  rw [List.map_cons, before]
  cases inherited with
  | none => simp
  | some searchPath =>
    have some : (directories searchPath).map Path.bytes ≠ [] := by
      simpa using directories_ne_nil searchPath
    rw [Option.map_some, Option.getD_some, List.intercalate_cons_of_ne_nil some, directories_bytes,
      List.intercalate_splitOn]
    simp

variable {directory : Path} (clean : colon ∉ directory.bytes)
include clean

theorem directories_before (inherited : Option Bytes) :
    directories (before directory inherited) =
      directory :: (inherited.map directories).getD [] := by
  have other : ∀ byte ∈ directory.bytes, (byte == colon) = false := by
    intro byte member
    exact beq_false_of_ne fun same => clean (same ▸ member)
  cases inherited with
  | none => simp [directories, before, splitAtByte_eq, List.splitOn_eq_splitOnP,
      List.splitOnP_eq_singleton other]
  | some searchPath =>
    simp only [directories, before, splitAtByte_eq, List.splitOn_eq_splitOnP, Option.map_some,
      Option.getD_some]
    rw [List.splitOnP_append_cons_of_forall_mem other colon (by simp)]
    rfl

theorem which_before (inherited : Option Bytes) (tree : Tree) (place : Location)
    (home name : Path) :
    which tree place home (some (before directory inherited)) name =
      (which tree place home (some directory.bytes) name).or
        (which tree place home inherited name) := by
  have alone := directories_before clean none
  rw [before, Option.map_none, Option.getD_none, List.append_nil] at alone
  simp only [which]
  split
  next => exact Option.or_self.symm
  next =>
    simp only [Option.map_eq_map, Option.map_some, Option.getD_some, alone,
      directories_before clean inherited]
    rw [← List.find?_append]
    cases inherited <;> rfl

end Files

namespace Machine

theorem Bindings.get?_set (bindings : Bindings) (name : String) (value : Bytes) :
    (bindings.set name value).get? name = some value := by
  simp [Bindings.get?, Bindings.set]

def Bindings.without (name : String) (bindings : Bindings) : Bindings :=
  bindings.filter fun entry => entry.1 != Text.encode name

theorem Bindings.without_set (bindings : Bindings) (name : String) (value : Bytes) :
    (bindings.set name value).without name = bindings.without name := by
  simp [Bindings.without, Bindings.set]

structure Searches (pathPrefix : Option Path) (inherited : Bindings) (order : Order) : Prop where
  inherits : pathPrefix = none -> order.bindings = inherited
  leads (directory : Path) : pathPrefix = some directory ->
    inherited.get? searchPathName = none ->
    order.bindings.get? searchPathName = some directory.bytes
  continues (directory : Path) (searchPath : Bytes) : pathPrefix = some directory ->
    inherited.get? searchPathName = some searchPath ->
    order.bindings.get? searchPathName = some (directory.bytes ++ Files.colon :: searchPath)
  -- The entries, in the order in which they are looked through.
  entries (directory : Path) : pathPrefix = some directory ->
    (order.bindings.get? searchPathName).map Files.directories =
      some (directory :: ((inherited.get? searchPathName).map Files.directories).getD [])
  finds (directory : Path) : pathPrefix = some directory ->
    ∀ tree place home name,
      Files.which tree place home (order.bindings.get? searchPathName) name =
        (Files.which tree place home (some directory.bytes) name).or
          (Files.which tree place home (inherited.get? searchPathName) name)
  others : order.bindings.without searchPathName = inherited.without searchPathName

def unsearchable : Error :=
  .languageServer "Invalid PATH entry: path segment contains separator `:`"

inductive Ordered (command : ServerCommand) (inherited : Bindings) : Except Error Order -> Prop
  | refused (directory : Path) (managed : command.pathPrefix = some directory)
    (parted : Files.colon ∈ directory.bytes) :
    Ordered command inherited (.error unsearchable)
  | given (order : Order)
    (clean : ∀ directory, command.pathPrefix = some directory -> Files.colon ∉ directory.bytes)
    (program : order.program = command.program) (arguments : order.arguments = command.arguments)
    (searches : Searches command.pathPrefix inherited order) :
    Ordered command inherited (.ok order)

theorem serverSearchPath_some (directory : Path) (inherited : Option Bytes) :
    serverSearchPath (some directory) inherited =
      if directory.bytes.contains Files.colon then .error unsearchable
      else .ok (some (Files.before directory inherited)) := by
  unfold serverSearchPath
  dsimp only
  rw [Files.searchPathOf?_directories]
  cases directory.bytes.contains Files.colon <;> rfl

-- An empty search path has one entry, the working directory, and keeps it.
example : serverSearchPath (some (Path.ofText "/srv/bin")) (some []) =
    .ok (some (Text.encode "/srv/bin:")) := rfl

theorem searches_set {directory : Path} (clean : Files.colon ∉ directory.bytes)
    {inherited : Bindings} {order : Order}
    (bindings : order.bindings = inherited.set searchPathName
      (Files.before directory (inherited.get? searchPathName))) :
    Searches (some directory) inherited order := by
  have search : order.bindings.get? searchPathName =
      some (Files.before directory (inherited.get? searchPathName)) := by
    rw [bindings, Bindings.get?_set]
  constructor
  case inherits =>
    intro absent
    cases absent
  case leads =>
    rintro _ ⟨⟩ unset
    simp [search, Files.before, unset]
  case continues =>
    rintro _ searchPath ⟨⟩ set
    simp [search, Files.before, set]
  case entries =>
    rintro _ ⟨⟩
    rw [search, Option.map_some, Files.directories_before clean]
  case finds =>
    rintro _ ⟨⟩ tree place home name
    rw [search, Files.which_before clean]
  case others => rw [bindings, Bindings.without_set]

theorem searches_inherited {inherited : Bindings} {order : Order}
    (bindings : order.bindings = inherited) : Searches none inherited order := by
  constructor
  case inherits => exact fun _ => bindings
  case others => rw [bindings]
  all_goals nofun

theorem serverOrder_ordered (launch : ServerLaunch) (inherited : Bindings) :
    Ordered launch.command inherited (serverOrder launch inherited) := by
  obtain ⟨⟨program, arguments, pathPrefix⟩, configuration, features, root⟩ := launch
  unfold serverOrder
  cases pathPrefix with
  | none => exact .given _ (by simp) rfl rfl (searches_inherited rfl)
  | some directory =>
    dsimp only
    rw [serverSearchPath_some]
    by_cases parted : Files.colon ∈ directory.bytes
    next =>
      simp only [List.contains_iff_mem, parted, if_true]
      exact .refused directory rfl parted
    next =>
      simp only [List.contains_iff_mem, parted, if_false]
      exact .given _ (by simpa using parted) rfl rfl (searches_set parted rfl)

section Spawn

def spawn (launch : ServerLaunch) (order : Order) (world : World Machine) :
    Except Error Unit × World Machine :=
  let world := world.log (spawning order)
  match start order world with
  | .error failure =>
    (.error (.processSpawn launch.command.program.display failure.message), world)
  | .ok run =>
    let child : Child := { run, listener := { configuration := launch.configuration } }
    let handshake := Rpc.Talk.handshake Child.wire world.inner.ownId launch
    let (result, connection, world) := converse handshake { far := child } world
    match result with
    | .ok _ => (.ok (), setServer (some connection) world)
    | .error error => (.error error, hangUp connection world)

variable (launch : ServerLaunch) (world : World Machine)

theorem startServer_eq :
    startServer launch world =
      match serverOrder launch world.inner.bindings with
      | .error error => (.error error, world)
      | .ok order => spawn launch order world := by
  unfold startServer
  cases serverOrder launch world.inner.bindings <;> rfl

theorem converse_records {A : Type} (talk : Rpc.Talk Child A) (connection : Rpc.Connection Child) :
    world.records <+: (converse talk connection world).2.2.records :=
  List.prefix_append _ _

theorem hangUp_records (connection : Rpc.Connection Child) :
    world.records <+: (hangUp connection world).records :=
  List.prefix_append _ _

theorem spawn_records (order : Order) :
    (world.log (spawning order)).records <+: (spawn launch order world).2.records := by
  unfold spawn
  generalize world.log (spawning order) = logged
  dsimp only
  split
  next => exact List.prefix_rfl
  next run _ =>
    have talked := converse_records logged
      (Rpc.Talk.handshake Child.wire logged.inner.ownId launch)
      { far := { run, listener := { configuration := launch.configuration } } }
    generalize converse (Rpc.Talk.handshake Child.wire logged.inner.ownId launch) _ logged = talk
      at talked ⊢
    obtain ⟨error | _, connection, next⟩ := talk
    · exact talked.trans (hangUp_records next connection)
    · exact talked

theorem stopServer_bindings : (stopServer world).inner.bindings = world.inner.bindings := by
  unfold stopServer
  split <;> rfl

theorem start_bindings {order : Order} {run : Run} (starts : start order world = .ok run) :
    run.scene.processes.map (fun entry => entry.2.bindings) =
      [order.bindings.map fun (name, value) => exported name value] := by
  unfold start Order.start at starts
  cases found : order.image world.tree world.workDir with
  | error failure => simp [found] at starts
  | ok image =>
    rw [found] at starts
    cases starts
    rfl

end Spawn

section Launches

open Act

variable (assumeYes : Bool)

def rested (before : Stage Machine) : Stage Machine :=
  ((pause (host assumeYes)).perform before).2

def answered (launch : ServerLaunch) (stage : Stage Machine)
    (ended : Except Error Unit × World Machine) : Stage Machine :=
  stage.extend ended.2.settled
    ((OnDemand.starting launch :: ended.2.records).map .logged ++
      [.clientStarted launch ended.1.isOk])

theorem pause_rested (before : Stage Machine) :
    (pause (host assumeYes)).perform before = (.ok (), rested assumeYes before) := by
  rw [rested, pause_perform]
  split
  next => rfl
  next => rfl

theorem rested_world (before : Stage Machine) :
    (rested assumeYes before).world.inner.server = none ∧
      (rested assumeYes before).world.inner.bindings = before.world.inner.bindings := by
  rw [rested, pause_perform]
  split
  next => exact ⟨stopServer_server before.world, stopServer_bindings before.world⟩
  next stopped =>
    rw [← Option.not_isSome_iff_eq_none]
    exact ⟨stopped, rfl⟩

theorem startClient_answers {settings : Settings} {report : Report} {before : Stage Machine}
    (ready : before.state = .ready report) :
    let launch := Resources.launchFor settings before.world report
    let ended := startServer launch (rested assumeYes before).world
    (Session.startClient (host assumeYes) settings).perform before =
      (ended.1, answered launch (rested assumeYes before) ended) := by
  intro launch ended
  have idle : stopServer (rested assumeYes before).world = (rested assumeYes before).world := by
    unfold stopServer
    rw [(rested_world assumeYes before).1]
  have starts : (host assumeYes).client.start launch (rested assumeYes before).world = ended :=
    congrArg (startServer launch) idle
  rw [startClient_eq, perform_bind_ok (Resources.launch_ready settings ready),
    perform_bind_ok (pause_rested assumeYes before), OnDemand.launchClient_perform, starts]
  rfl

/-- How a start goes: nothing is spawned, or a server is, with the managed directory before all
that is inherited. -/
inductive Launched (launch : ServerLaunch) (stage : Stage Machine) :
    Except Error Unit -> Stage Machine -> Prop
  | refused (directory : Path) (managed : launch.command.pathPrefix = some directory)
    (parted : Files.colon ∈ directory.bytes) :
    Launched launch stage (.error unsearchable)
      (answered launch stage (.error unsearchable, stage.world))
  | spawned (order : Order)
    (clean : ∀ directory, launch.command.pathPrefix = some directory ->
      Files.colon ∉ directory.bytes)
    (program : order.program = launch.command.program)
    (arguments : order.arguments = launch.command.arguments)
    (searches : Searches launch.command.pathPrefix stage.world.inner.bindings order) :
    Launched launch stage (spawn launch order stage.world).1
      (answered launch stage (spawn launch order stage.world))

theorem startServer_launched (launch : ServerLaunch) (stage : Stage Machine) :
    Launched launch stage (startServer launch stage.world).1
      (answered launch stage (startServer launch stage.world)) := by
  have ordered := serverOrder_ordered launch stage.world.inner.bindings
  rw [startServer_eq]
  generalize serverOrder launch stage.world.inner.bindings = order at ordered
  cases ordered with
  | refused directory managed parted => exact .refused directory managed parted
  | given order clean program arguments searches =>
    exact .spawned order clean program arguments searches

theorem colon_mem_binDirectory (storage : Path) (platform : Platform) :
    Files.colon ∈ (Environment.binDirectory storage platform).bytes ↔
      Files.colon ∈ storage.bytes := by
  obtain ⟨tail, bytes, plain⟩ := Environment.binDirectory_continues storage platform
  have clean : Files.colon ∉ tail := fun member => absurd (List.all_eq_true.mp plain _ member) (by decide)
  rw [bytes, List.mem_append, or_iff_left clean]

def IsParted (report : Report) : Prop :=
  ∃ directory, report.serverPathPrefix = some directory ∧ Files.colon ∈ directory.bytes

structure Launches (settings : Settings) (report : Report) (before : Stage Machine)
    (result : Except Error Unit) (after : Stage Machine) : Prop where
  launched : Launched (Resources.launchFor settings before.world report) (rested assumeYes before)
    result after
  managed : (Resources.launchFor settings before.world report).command.pathPrefix =
    report.serverPathPrefix
  inherited : (rested assumeYes before).world.inner.bindings = before.world.inner.bindings
  -- Only the server that ran before is stopped; all else in the world is as it was then.
  refuses : ((∃ message, result = .error (.languageServer message)) ∧
      after = answered (Resources.launchFor settings before.world report) (rested assumeYes before)
        (result, (rested assumeYes before).world)) ↔ IsParted report
  idle : IsParted report -> client.isRunning after.world = false
  -- Whatever is started is given the variables of its order, and no others.
  given (order : Order) (world : World Machine) (run : Run) : start order world = .ok run ->
    run.scene.processes.map (fun entry => entry.2.bindings) =
      [order.bindings.map fun (name, value) => exported name value]
  activated (context : Context) (first second : Stage Machine) :
    (Activation.activate (host assumeYes) context).perform first = (.ok (.ready report), second) ->
    ∀ directory, report.serverPathPrefix = some directory ->
      directory = Environment.binDirectory context.storage context.platform ∧
        (IsParted report ↔ Files.colon ∈ context.storage.bytes)

theorem answered_length (launch : ServerLaunch) (stage : Stage Machine)
    (ended : Except Error Unit × World Machine) :
    (answered launch stage ended).journal.length =
      stage.journal.length + ended.2.records.length + 2 := by
  simp [answered]
  omega

theorem answered_spawn_ne (launch : ServerLaunch) (order : Order) (stage : Stage Machine)
    (result : Except Error Unit) :
    answered launch stage (spawn launch order stage.world) ≠
      answered launch stage (result, stage.world) := by
  intro same
  have journals := congrArg (fun stage : Stage Machine => stage.journal.length) same
  have recorded := (spawn_records launch stage.world order).length_le
  simp only [answered_length] at journals
  simp [World.log] at recorded
  omega

theorem activated_parted {context : Context} {report : Report} {first second : Stage Machine}
    (performed : (Activation.activate (host assumeYes) context).perform first =
      (.ok (.ready report), second))
    {directory : Path} (named : report.serverPathPrefix = some directory) :
    directory = Environment.binDirectory context.storage context.platform ∧
      (IsParted report ↔ Files.colon ∈ context.storage.bytes) := by
  obtain rfl := (Activation.managed_of_ready _ context performed named).place
  refine ⟨rfl, ?_⟩
  rw [← colon_mem_binDirectory context.storage context.platform, IsParted, named]
  simp

theorem startClient_launches (settings : Settings) (report : Report) (before : Stage Machine)
    (ready : before.state = .ready report) :
    let ended := (Session.startClient (host assumeYes) settings).perform before
    Launches assumeYes settings report before ended.1 ended.2 := by
  intro ended
  have managed := Resources.command_pathPrefix settings
    (Files.isFile before.world.tree before.world.workDir) report.serverPathPrefix
  have launched := startServer_launched (Resources.launchFor settings before.world report)
    (rested assumeYes before)
  obtain ⟨idle, inherited⟩ := rested_world assumeYes before
  simp only [ended, startClient_answers assumeYes ready]
  generalize startServer _ (rested assumeYes before).world = answer at launched ⊢
  generalize answered _ _ answer = after at launched ⊢
  refine ⟨launched, managed, inherited, ?_, ?_, fun _ world _ => start_bindings world,
    fun context first second performed _ => activated_parted assumeYes performed⟩ <;>
    generalize answer.1 = result at launched
  case refine_1 =>
    cases launched with
    | refused directory named parted =>
      exact ⟨fun _ => ⟨directory, managed.symm.trans named, parted⟩, fun _ => ⟨⟨_, rfl⟩, rfl⟩⟩
    | spawned order clean =>
      refine ⟨fun ⟨_, same⟩ => ?_, fun ⟨directory, named, parted⟩ => ?_⟩
      · exact absurd same (answered_spawn_ne _ _ _ _)
      · exact absurd parted (clean directory (managed.trans named))
  case refine_2 =>
    rintro ⟨directory, named, parted⟩
    cases launched with
    | refused => exact congrArg Option.isSome idle
    | spawned order clean => exact absurd parted (clean directory (managed.trans named))

def partedStage : Stage Machine :=
  { world := {
      tree := .empty
      workDir := []
      inner := { bindings := [(Text.encode searchPathName, Text.encode "/bin::/usr/bin")] } }
    state := .ready (Activation.reportOf { storage := Path.ofText "/srv:1" } none {
      builtin := { ansible := some (Path.ofText "/srv:1/ansible/venv/bin/ansible") } }) }

theorem startClient_launches_parted :
    ∃ report, partedStage.state = .ready report ∧ IsParted report ∧
      let ended := (Session.startClient (host true) {}).perform partedStage
      Launches true {} report partedStage ended.1 ended.2 :=
  ⟨_, rfl, ⟨_, rfl, by decide⟩, startClient_launches true {} _ partedStage rfl⟩

end Launches

end Machine

end AnsibleTooling
