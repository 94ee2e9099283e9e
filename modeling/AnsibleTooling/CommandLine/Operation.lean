import AnsibleTooling.CommandLine.Invocation
import AnsibleTooling.Json.Printer
import AnsibleTooling.Settings.Load

set_option autoImplicit false

namespace AnsibleTooling.CommandLine

structure UserDirectories where
  dataHome : Option Path := none
  home : Option Path := none
  deriving DecidableEq, Repr

structure Answer where
  output : String
  status : Nat := 0
  deriving DecidableEq, Repr

def Answer.line (text : String) : Answer :=
  { output := text ++ "\n" }

def Answer.lines (lines : List String) : Answer :=
  { output := String.join (lines.map (· ++ "\n")) }

def reportLines (report : Report) : List String :=
  let configuration := report.configuration
  let optional (label : String) (path : Option Path) : List String :=
    (path.map fun path => label ++ path.display).toList
  ["✅ Ansible language server configuration resolved"] ++
    optional "  python:            " (report.python.map PythonPaths.found) ++
    [s!"  ansible.path:      {configuration.ansiblePath}",
      s!"  ansibleLint:       {configuration.lintPath} " ++
        (if configuration.lintEnabled then "(enabled)" else "(disabled)")] ++
    (if configuration.interpreterPath.isEmpty then []
      else [s!"  interpreterPath:   {configuration.interpreterPath}"]) ++
    optional "  builtin tools:     " report.serverPathPrefix ++
    ["  ansible-doc:       " ++ (report.docTool.map Path.display).getD "unavailable"]

def stateAnswer (json : Bool) : SessionState -> Except Error Answer
  | .ready report =>
    if json then (report.toJson .strict).map fun value => .line value.pretty
    else .ok (.lines (reportLines report))
  | .disabled => .ok (.line "Ansible support is disabled by settings (enable = false)")
  | .degraded reason =>
    .ok { Answer.lines [
        s!"⚠️  Activation incomplete: {reason}",
        "   Run `ansible-bootstrap install` to provision the tools."] with status := 2 }
  | .inactive => .ok { output := "", status := 1 }

def metadataAnswer (document : Path) : Option Json.Value -> Answer
  | some value => .line value.pretty
  | none => .line s!"No metadata received for {document.display}"

def resyncAnswer (document : Path) (asked : Bool) : Answer :=
  if asked then .line "✅ Requested inventory resync"
  else .line s!"{document.display} is not an Ansible document"

def pluginsAnswer (pluginType : String) (entries : List PluginEntry) : Answer :=
  if entries.isEmpty then .line s!"No {pluginType} plugins found"
  else .lines (entries.map PluginEntry.display)

namespace Operation

variable {S A : Type} (user : UserDirectories) (host : Host S) (options : Options)

def workplace : Act S (World S) := do
  let world <- Act.world
  if world.hasWorkDir then return world else throw (.io .notFound)

def loadSettings : Act S Settings := do
  let world <- workplace
  let source <- Act.ofExcept
    (Settings.source world.tree world.workDir options.settingsPath world.workPath)
  let message :=
    if source.isThere then "loading settings" else "no settings file, using defaults"
  Act.log .settings .debug message [("path", source.path.display)]
  Act.ofExcept (source.read world.tree world.workDir)

def loadContext : Act S Context := do
  let settings <- loadSettings options
  let storage <-
    match options.storage with
    | some path => pure path
    | none => Act.ofExcept (Settings.defaultStorage user.dataHome user.home)
  return { settings, storage }

def withRunningServer (act : Context -> Act S A) : Act S A := do
  let context <- loadContext user options
  let _ <- Session.activate host context
  Session.startClient host context.settings
  let result <- Act.outcome (act context)
  Session.close host result

def dismiss (act : Act S A) : Act S A := do
  let result <- Act.outcome act
  if <- Session.clientIsRunning host then
    let _ <- Act.outcome (Session.stopClient host)
  Act.ofExcept result

def resolve (json : Bool) : Act S Answer := do
  let context <- loadContext user options
  Act.ofExcept (stateAnswer json (<- Session.activate host context))

def install : Act S Answer := do
  let context <- loadContext user options
  Session.installTools host context
  Act.ofExcept (stateAnswer false (<- get).state)

def listPlugins (view : DocView) (pluginType : String) : Act S Answer := do
  let context <- loadContext user options
  let _ <- Session.activate host context
  return pluginsAnswer pluginType (<- Session.listPlugins host view pluginType)

def showPlugin (view : DocView) (pluginType plugin : String) : Act S Answer := do
  let context <- loadContext user options
  let _ <- Session.activate host context
  Session.showPlugin host view pluginType plugin
  Act.ofWorld host.terminal.wait
  return { output := "" }

def perform : Action -> Act S Answer
  | .resolve json => resolve user host options json
  | .install => install user host options
  | .checkServer => do
    withRunningServer user host options fun _ => pure ()
    return .line "✅ Language server started and stopped cleanly"
  | .restartServer => do
    withRunningServer user host options fun context => Session.restart host context.settings
    return .line "✅ Language server restarted"
  | .showMetadata document seconds => do
    let metadata <- withRunningServer user host options fun _ =>
      Session.showMetadata host document (seconds * 1000)
    return metadataAnswer document metadata
  | .resyncInventory document => do
    let asked <- withRunningServer user host options fun _ =>
      Session.resyncInventory host document
    return resyncAnswer document asked
  | .listPlugins view pluginType => listPlugins user host options view pluginType
  | .showPlugin view pluginType plugin => showPlugin user host options view pluginType plugin
  | .runPlaybook runner => do
    Session.runPlaybook runner
    return { output := "" }

def run (action : Action) : Act S Answer :=
  dismiss host (perform user host options action)

end Operation

end AnsibleTooling.CommandLine
