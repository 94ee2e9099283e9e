import AnsibleTooling.Activation
import AnsibleTooling.Plugin

set_option autoImplicit false

namespace AnsibleTooling

inductive Command
  | serverStart
  | serverRestart
  | serverShowMetadata
  | serverResyncInventory
  | docShowInfo
  | docShowSnippets
  deriving DecidableEq, Repr

def Command.id : Command -> String
  | .serverStart => "ansible.server.start"
  | .serverRestart => "ansible.server.restart"
  | .serverShowMetadata => "ansible.server.showMetaData"
  | .serverResyncInventory => "ansible.server.resyncAnsibleInventory"
  | .docShowInfo => "ansible.ansbileDoc.showInfo"
  | .docShowSnippets => "ansible.ansbileDoc.showSnippets"

def DocView.command : DocView -> Command
  | .info => .docShowInfo
  | .snippet => .docShowSnippets

def SessionState.report? : SessionState -> Option Report
  | .ready report => some report
  | _ => none

inductive PlaybookRunner
  | playbook
  | navigator
  deriving DecidableEq, Repr

def PlaybookRunner.display : PlaybookRunner -> String
  | .playbook => "ansible-playbook"
  | .navigator => "ansible-navigator"

namespace Session

variable {S : Type}

def setState (state : SessionState) : Act S Unit := do
  modify fun stage => { stage with state }
  Act.record (.became state)

def report? : Act S (Option Report) := do
  return (<- get).state.report?

def requireNamed (command : String) : Act S Report := do
  match <- report? with
  | some report => return report
  | none => throw (.commandUnavailable command)

def require (command : Command) : Act S Report :=
  requireNamed command.id

def runPlaybook (runner : PlaybookRunner) : Act S Unit :=
  Act.note .info s!"{runner.display}: Not implemented in ansible-bootstrap"

variable (host : Host S) (context : Context)

/-- Activates and keeps the outcome. A declined installation degrades the session; any other
error leaves it inactive. -/
def activate : Act S SessionState := do
  match <- Act.outcome (Activation.activate host context) with
  | .ok .disabled =>
    setState .disabled
    return .disabled
  | .ok (.ready report) =>
    setState (.ready report)
    return .ready report
  | .error error =>
    if error.isDegraded then
      Act.log .session .warn "activation degraded" [("error", error.message)]
      Act.note .warn error.message
      setState (.degraded error.message)
      return .degraded error.message
    else
      setState .inactive
      throw error

def launch (settings : Settings) : Act S ServerLaunch := do
  let report <- require .serverStart
  let world <- Act.world
  return {
    command := Server.command settings (Files.isFile world.tree world.workDir)
      report.serverPathPrefix
    configuration := report.configuration
    disabledFeatures := Server.disabledFeatures settings
    rootUri := if world.hasWorkDir then some (Uri.directory world.workPath) else none }

def clientIsRunning : Act S Bool := do
  return host.client.isRunning (<- Act.world)

def stopClient : Act S Unit :=
  Act.recorded .clientStopped host.client.stop

def startClient (settings : Settings) : Act S Unit := do
  let launch <- launch settings
  if <- clientIsRunning host then stopClient host
  Act.log .session .info "starting language server" [("program", launch.command.program.display)]
  Act.recorded (.clientStarted launch) (host.client.start launch)

def disposeTerminal : Act S Unit :=
  Act.recorded .terminalDisposed host.terminal.dispose

def deactivate : Act S Unit := do
  stopClient host
  disposeTerminal host
  setState .inactive

/-- Deactivates after an operation. Its error comes before one of the teardown. -/
def close {A : Type} (result : Except Error A) : Act S A := do
  let teardown <- Act.outcome (deactivate host)
  let value <- Act.ofExcept result
  Act.ofExcept teardown
  return value

def restart (settings : Settings) : Act S Unit := do
  let _ <- require .serverRestart
  stopClient host
  startClient host settings

def send (method : String) (parameters : Json.Value) : Act S Unit :=
  Act.recorded (.sent method parameters) (host.client.send method parameters)

def documentUri (world : World S) (document : Path) : Except Error String :=
  if document.isAbsolute || world.hasWorkDir then .ok (Uri.document world.workPath document)
  else .error (.io .notFound)

def showMetadata (document : Path) (milliseconds : Nat) : Act S (Option Json.Value) := do
  let _ <- require .serverShowMetadata
  if Server.isAnsibleDocument document then
    let uri <- Act.ofExcept (documentUri (<- Act.world) document)
    send host Server.metadataMethod (.array [.text uri])
    Act.ofWorld (host.client.await Server.metadataMethod milliseconds)
  else
    Act.log .metadata .debug "not an ansible document" [("document", document.display)]
    return none

def resyncInventory (document : Path) : Act S Bool := do
  let _ <- require .serverResyncInventory
  if Server.isAnsibleDocument document then
    send host Server.resyncMethod .null
    return true
  else return false

def docTool (view : DocView) : Act S Path := do
  match (<- require view.command).docTool with
  | some tool => return tool
  | none => throw (.commandUnavailable view.command.id)

def listPlugins (view : DocView) (pluginType : String) : Act S (List PluginEntry) := do
  Act.ofExcept (view.validate pluginType)
  let tool <- docTool view
  let arguments := (PluginEntry.listArguments pluginType).map Text.encode
  match <- Act.outcome (Probe.run host tool arguments) with
  | .ok output =>
    if output.success then return PluginEntry.parseList output.stdout
    else
      Act.log .documentation .debug "ansible-doc listing failed"
        [("stderr", Text.trim output.stderr)]
      return []
  | .error error =>
    Act.log .documentation .debug "ansible-doc listing could not start" [("error", error.message)]
    return []

def startTerminal (name : String) (program : Path) (arguments : List String) : Act S Unit :=
  Act.recorded (.terminalStarted name program arguments)
    (host.terminal.start name program arguments)

def showPlugin (view : DocView) (pluginType plugin : String) : Act S Unit := do
  Act.ofExcept (view.validate pluginType)
  let tool <- docTool view
  if host.terminal.isOpen (<- Act.world) then disposeTerminal host
  startTerminal host view.terminalName tool (view.showArguments pluginType plugin)

def installPython : Act S PythonPaths := do
  match (<- report?).bind Report.python with
  | some python => return python
  | none =>
    match <- Probe.python host context.settings.python.configuredInterpreter with
    | some python => return python
    | none => throw .interpreterMissing

/-- Installs on demand and activates again. A running client is stopped meanwhile and started
again afterwards, whether or not the installation succeeded. -/
def installTools : Act S Unit := do
  let python <- installPython host context
  let wasRunning <- clientIsRunning host
  if wasRunning then stopClient host
  let installed <- Act.outcome (Installation.install host context python)
  if installed.isOk then
    Act.log .installing .info "re-running activation after install" []
    let _ <- activate host context
  if wasRunning && (<- report?).isSome then startClient host context.settings
  Act.ofExcept installed

end Session

end AnsibleTooling
