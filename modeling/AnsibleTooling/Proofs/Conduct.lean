import AnsibleTooling.Proofs.Course
import AnsibleTooling.Session

set_option autoImplicit false

namespace AnsibleTooling

open Act

variable {S : Type}

structure Groundwork (related : Stage S -> Stage S -> Prop) (host : Host S) : Prop where
  logged (entry : LogRecord) : Moves related (record (.logged entry) : Act S Unit)
  runs (program : Path) (arguments : List Bytes) : Moves related (Probe.run host program arguments)
  stores (context : Context) : Moves related (Activation.makeStorage context : Act S Unit)
  installs (context : Context) (python : PythonPaths) :
    Moves related (Installation.install host context python)

structure Upkeep (related : Stage S -> Stage S -> Prop) (host : Host S) : Prop
    extends Groundwork related host where
  noted (level : NoteLevel) (text : String) : Moves related (note level text : Act S Unit)
  becomes (state : SessionState) : Moves related (Session.setState state : Act S Unit)

/-- Every step of which the operations on a session consist leads to a related stage. Starting the
client and starting the terminal are steps with all that precedes them. -/
structure Conduct (related : Stage S -> Stage S -> Prop) (host : Host S) : Prop
    extends Upkeep related host where
  stops : Moves related (Session.stopClient host)
  starts (settings : Settings) : Moves related (Session.startClient host settings)
  sends (method : String) (parameters : Json.Value) :
    Moves related (Session.send host method parameters)
  awaits (method : String) (milliseconds : Nat) :
    Moves related (ofWorld (host.client.await method milliseconds))
  disposes : Moves related (Session.disposeTerminal host)
  shows (view : DocView) (pluginType plugin : String) :
    Moves related (Session.showPlugin host view pluginType plugin)

namespace Session

@[simp] theorem report_perform (stage : Stage S) :
    (Session.report? : Act S (Option Report)).perform stage = (.ok stage.state.report?, stage) := rfl

theorem requireNamed_perform (command : String) (stage : Stage S) :
    (Session.requireNamed command : Act S Report).perform stage =
      match stage.state.report? with
      | some report => (.ok report, stage)
      | none => (.error (.commandUnavailable command), stage) := by
  rw [Session.requireNamed, perform_bind, report_perform]
  cases stage.state.report? <;> rfl

@[simp] theorem clientIsRunning_perform (host : Host S) (stage : Stage S) :
    (Session.clientIsRunning host).perform stage =
      (.ok (host.client.isRunning stage.world), stage) := rfl

end Session

def pause (host : Host S) : Act S Unit := do
  if <- Session.clientIsRunning host then Session.stopClient host

def launchClient (host : Host S) (launch : ServerLaunch) : Act S Unit := do
  Act.log .session .info "starting language server" [("program", launch.command.program.display)]
  Act.recorded (.clientStarted launch) (host.client.start launch)

theorem startClient_eq (host : Host S) (settings : Settings) :
    Session.startClient host settings =
      (do
        let launch <- Session.launch settings
        pause host
        launchClient host launch) := by
  unfold Session.startClient pause launchClient
  refine bind_congr fun launch => ?_
  rw [bind_assoc]
  refine bind_congr fun running => ?_
  cases running <;> simp

@[simp] theorem pause_perform (host : Host S) (stage : Stage S) :
    (pause host).perform stage =
      if host.client.isRunning stage.world then (Session.stopClient host).perform stage
      else (.ok (), stage) := by
  rw [pause, perform_bind, Session.clientIsRunning_perform]
  dsimp only
  split <;> rfl

def resume (host : Host S) (context : Context) (wasRunning : Bool) (installed : Except Error Unit) :
    Act S Unit := do
  if wasRunning && (<- Session.report?).isSome then Session.startClient host context.settings
  Act.ofExcept installed

def reinstall (host : Host S) (context : Context) (python : PythonPaths) (wasRunning : Bool) :
    Act S Unit := do
  let installed <- outcome (Installation.install host context python)
  if installed.isOk then
    Act.log .installing .info "re-running activation after install" []
    let _ <- Session.activate host context
  resume host context wasRunning installed

section

variable {related : Stage S -> Stage S -> Prop} [IsPreorder (Stage S) related]

namespace Session

theorem report_moves : Moves related (Session.report? : Act S (Option Report)) :=
  moves_get.bind fun _ => moves_pure _

theorem requireNamed_moves (command : String) :
    Moves related (Session.requireNamed command : Act S Report) := by
  refine report_moves.bind fun report => ?_
  split
  · exact moves_pure _
  · exact moves_throw _

theorem docTool_moves (view : DocView) : Moves related (Session.docTool view : Act S Path) := by
  refine (requireNamed_moves _).bind fun report => ?_
  split
  · exact moves_pure _
  · exact moves_throw _

theorem launch_moves (settings : Settings) :
    Moves related (Session.launch settings : Act S ServerLaunch) :=
  (requireNamed_moves _).bind fun _ => moves_world.bind fun _ => moves_pure _

theorem clientIsRunning_moves (host : Host S) : Moves related (Session.clientIsRunning host) :=
  moves_world.bind fun _ => moves_pure _

theorem pause_moves {host : Host S} (stops : Moves related (Session.stopClient host)) :
    Moves related (pause host) := by
  refine (clientIsRunning_moves host).bind fun running => ?_
  split
  · exact stops
  · exact moves_pure ()

theorem startClient_moves {host : Host S}
    (logged : ∀ entry : LogRecord, Moves related (record (.logged entry) : Act S Unit))
    (stops : Moves related (Session.stopClient host))
    (begins : ∀ launch : ServerLaunch,
      Moves related (recorded (.clientStarted launch) (host.client.start launch)))
    (settings : Settings) : Moves related (Session.startClient host settings) := by
  rw [startClient_eq]
  refine (launch_moves settings).bind fun launch => (pause_moves stops).bind fun _ => ?_
  exact (logged _).bind fun _ => begins launch

end Session

theorem resume_moves {host : Host S}
    (starts : ∀ settings, Moves related (Session.startClient host settings)) (context : Context)
    (wasRunning : Bool) (installed : Except Error Unit) :
    Moves related (resume host context wasRunning installed) := by
  refine Session.report_moves.bind fun report => ?_
  split
  · exact (starts _).bind fun _ => moves_ofExcept installed
  · exact moves_ofExcept installed

end

namespace Groundwork

variable {related : Stage S -> Stage S -> Prop} {host : Host S}

theorem log_moves (groundwork : Groundwork related host) {topic : LogTopic} {level : LogLevel}
    {message : String} {fields : List (String × String)} :
    Moves related (log topic level message fields : Act S Unit) :=
  groundwork.logged _

variable [IsPreorder (Stage S) related] (groundwork : Groundwork related host)
include groundwork

theorem answers_moves (program : Path) (arguments : List Bytes) :
    Moves related (Probe.answers host program arguments) := by
  refine (groundwork.runs program arguments).outcome.bind fun result => ?_
  cases result with
  | ok output =>
    dsimp only
    split
    · exact groundwork.log_moves.bind fun _ => moves_pure _
    · exact moves_pure _
  | error error => exact groundwork.log_moves.bind fun _ => moves_pure _

theorem systemTools_moves (settings : Settings) :
    Moves related (Probe.systemTools host settings) := by
  -- The other two commands follow whether or not the one for documentation is wanted.
  have commands (ansibleDoc : Availability) : Moves related (do
      let ansible <- Probe.command host settings.ansible.path
      let ansibleLint <- Probe.command host settings.ansibleLint.path
      return { ansible, ansibleLint, ansibleDoc } : Act S SystemTools) :=
    (groundwork.answers_moves _ _).bind fun _ => (groundwork.answers_moves _ _).bind fun _ => moves_pure _
  unfold Probe.systemTools
  dsimp only
  split
  · exact (groundwork.answers_moves _ _).bind commands
  · exact (moves_pure _).bind commands

theorem configuredPython_moves (configured : Path) :
    Moves related (Probe.configuredPython configured : Act S (Option PythonPaths)) := by
  refine moves_world.bind fun world => ?_
  split
  · exact moves_pure _
  · exact groundwork.log_moves.bind fun _ => moves_pure _

theorem searchedPython_moves (names : List String) :
    Moves related (Probe.searchedPython host names) := by
  induction names with
  | nil => exact moves_pure _
  | cons name rest ih =>
    refine moves_world.bind fun world => ?_
    split
    · exact ih
    · split
      · exact moves_pure _
      · exact (groundwork.logged _).bind fun _ => ih

theorem python_moves (configured : Option Path) :
    Moves related (Probe.python host configured) := by
  cases configured with
  | some configured => exact groundwork.configuredPython_moves configured
  | none => exact groundwork.searchedPython_moves pythonCandidates

theorem managedTools_moves (context : Context) :
    Moves related (Activation.managedTools context : Act S BuiltinTools) := by
  refine moves_world.bind fun world => ?_
  refine Moves.bind ?_ fun _ => moves_pure _
  unfold Activation.logBuiltin
  split
  · exact groundwork.log_moves
  · exact moves_pure ()

theorem resolveInterpreter_moves (interpreter : Path) (system : SystemTools) :
    Moves related (Activation.resolveInterpreter host interpreter system) := by
  refine (groundwork.answers_moves _ _).bind fun ansible => ?_
  refine (groundwork.answers_moves _ _).bind fun ansibleLint => ?_
  refine groundwork.log_moves.bind fun _ => ?_
  split
  · exact (moves_throw _).bind fun _ => moves_pure _
  · exact moves_pure _

theorem reprobe_moves (context : Context) : Moves related (Activation.reprobe host context) := by
  refine (groundwork.systemTools_moves _).bind fun system => ?_
  refine (groundwork.managedTools_moves context).bind fun builtin => ?_
  split
  · exact (moves_throw _).bind fun _ => moves_pure _
  · exact moves_pure _

theorem resolveTools_moves (context : Context) (python : Option PythonPaths)
    (system : SystemTools) : Moves related (Activation.resolveTools host context python system) := by
  have consults : Moves related (Activation.consult context system) := by
    unfold Activation.consult
    split
    · exact groundwork.managedTools_moves context
    · exact moves_pure _
  rw [Activation.resolveTools_eq]
  refine consults.bind fun builtin => ?_
  split
  · exact moves_pure _
  · cases python with
    | none => exact moves_throw _
    | some python =>
      exact (groundwork.installs context python).bind fun _ => groundwork.reprobe_moves context

theorem survey_moves (context : Context) : Moves related (Activation.survey host context) := by
  refine (groundwork.stores context).bind fun _ => ?_
  refine (groundwork.python_moves _).bind fun python => ?_
  have probes : Moves related (do
      let system <- Probe.systemTools host context.settings
      Activation.logEnvironment context python system
      return (python, system) : Act S (Option PythonPaths × SystemTools)) := by
    refine (groundwork.systemTools_moves _).bind fun system => ?_
    exact groundwork.log_moves.bind fun _ => moves_pure _
  split
  · exact (moves_throw _).bind fun _ => probes
  · exact probes

theorem resolve_moves (context : Context) (python : Option PythonPaths) (system : SystemTools) :
    Moves related (Activation.resolve host context python system) := by
  unfold Activation.resolve
  split
  · exact groundwork.resolveInterpreter_moves _ system
  · exact groundwork.resolveTools_moves context python system

theorem activation_moves (context : Context) :
    Moves related (Activation.activate host context) := by
  cases enabled : context.settings.enable with
  | true =>
    rw [Activation.activate_eq host context enabled]
    refine (groundwork.survey_moves context).bind fun found => ?_
    exact (groundwork.resolve_moves context found.1 found.2).bind fun _ => moves_pure _
  | false =>
    unfold Activation.activate
    simp only [enabled, Bool.not_false, if_true]
    exact groundwork.log_moves.bind fun _ => moves_pure _

theorem installPython_moves (context : Context) :
    Moves related (Session.installPython host context) := by
  refine Session.report_moves.bind fun report => ?_
  split
  · exact moves_pure _
  · refine (groundwork.python_moves _).bind fun python => ?_
    split
    · exact moves_pure _
    · exact moves_throw _

end Groundwork

theorem Upkeep.activate_moves {related : Stage S -> Stage S -> Prop}
    [IsPreorder (Stage S) related] {host : Host S} (upkeep : Upkeep related host)
    (context : Context) : Moves related (Session.activate host context) := by
  refine (upkeep.activation_moves context).outcome.bind fun result => ?_
  split
  · exact (upkeep.becomes _).bind fun _ => moves_pure _
  · exact (upkeep.becomes _).bind fun _ => moves_pure _
  · split
    · refine upkeep.log_moves.bind fun _ => ?_
      refine (upkeep.noted _ _).bind fun _ => ?_
      exact (upkeep.becomes _).bind fun _ => moves_pure _
    · exact (upkeep.becomes _).bind fun _ => moves_throw _

theorem Upkeep.reinstall_moves {related : Stage S -> Stage S -> Prop}
    [IsPreorder (Stage S) related] {host : Host S} (upkeep : Upkeep related host)
    {context : Context} {wasRunning : Bool}
    (resumes : ∀ installed, Moves related (resume host context wasRunning installed))
    (python : PythonPaths) : Moves related (reinstall host context python wasRunning) := by
  refine (upkeep.installs context python).outcome.bind fun installed => ?_
  split
  · refine upkeep.log_moves.bind fun _ => ?_
    exact (upkeep.activate_moves context).bind fun _ => resumes _
  · exact resumes _

namespace Conduct

variable {related : Stage S -> Stage S -> Prop} [IsPreorder (Stage S) related] {host : Host S}
variable (conduct : Conduct related host)
include conduct

theorem deactivate_moves : Moves related (Session.deactivate host) :=
  conduct.stops.bind fun _ => conduct.disposes.bind fun _ => conduct.becomes _

theorem close_moves {A : Type} (result : Except Error A) :
    Moves related (Session.close host result) := by
  refine conduct.deactivate_moves.outcome.bind fun teardown => ?_
  refine (moves_ofExcept result).bind fun value => ?_
  exact (moves_ofExcept teardown).bind fun _ => moves_pure value

theorem restart_moves (settings : Settings) : Moves related (Session.restart host settings) := by
  refine (Session.requireNamed_moves _).bind fun _ => ?_
  exact conduct.stops.bind fun _ => conduct.starts settings

theorem showMetadata_moves (document : Path) (milliseconds : Nat) :
    Moves related (Session.showMetadata host document milliseconds) := by
  refine (Session.requireNamed_moves _).bind fun _ => ?_
  split
  · refine moves_world.bind fun world => (moves_ofExcept _).bind fun uri => ?_
    exact (conduct.sends _ _).bind fun _ => conduct.awaits _ _
  · exact conduct.log_moves.bind fun _ => moves_pure _

theorem resyncInventory_moves (document : Path) :
    Moves related (Session.resyncInventory host document) := by
  refine (Session.requireNamed_moves _).bind fun _ => ?_
  split
  · exact (conduct.sends _ _).bind fun _ => moves_pure _
  · exact moves_pure _

theorem listPlugins_moves (view : DocView) (pluginType : String) :
    Moves related (Session.listPlugins host view pluginType) := by
  refine (moves_ofExcept _).bind fun _ => ?_
  refine (Session.docTool_moves view).bind fun tool => ?_
  refine (conduct.runs _ _).outcome.bind fun result => ?_
  split
  · split
    · exact moves_pure _
    · exact conduct.log_moves.bind fun _ => moves_pure _
  · exact conduct.log_moves.bind fun _ => moves_pure _

theorem reinstall_moves (context : Context) (python : PythonPaths) (wasRunning : Bool) :
    Moves related (reinstall host context python wasRunning) :=
  conduct.toUpkeep.reinstall_moves (resume_moves conduct.starts context wasRunning) python

theorem installTools_moves (context : Context) :
    Moves related (Session.installTools host context) := by
  refine (conduct.installPython_moves context).bind fun python => ?_
  refine (Session.clientIsRunning_moves host).bind fun wasRunning => ?_
  -- The same goes on whether or not a running client had to be stopped first.
  split
  · exact conduct.stops.bind fun _ => conduct.reinstall_moves context python wasRunning
  · exact conduct.reinstall_moves context python wasRunning

end Conduct

end AnsibleTooling
