import AnsibleTooling.Io
import AnsibleTooling.Json.Problem

set_option autoImplicit false

namespace AnsibleTooling

inductive TomlFault
  | malformed
  | refused (report : String)
  deriving DecidableEq, Repr

inductive Error
  | io (failure : Io.Failure)
  | configuration (message : String)
  | settingsNotFound (path : String)
  | toml (fault : TomlFault)
  | json (message : String)
  | unknownTool (name : String)
  | unsupportedPluginType (pluginType view supported : String)
  | processSpawn (command details : String)
  | interpreterMissing
  | toolMissing
  | ansibleModuleMissing (interpreter : String)
  | installDeclined
  | installFailed (command details : String)
  | installInProgress
  | prompt (message : String)
  | languageServer (message : String)
  | commandUnavailable (command : String)
  deriving DecidableEq, Repr

namespace Error

def ofJson (document : String) (failure : Json.Failure) : Error :=
  .json (failure.message (Text.encode document))

def message : Error -> String
  | .io failure => failure.message
  | .configuration message => message
  | .settingsNotFound path => s!"Settings file not found: {path}"
  | .toml .malformed => "TOML parse error"
  | .toml (.refused report) => s!"TOML parse error: {report}"
  | .json message => s!"JSON error: {message}"
  | .unknownTool name =>
    s!"Unknown tool '{name}': must be one of ansible, ansible-lint, ansible-doc"
  | .unsupportedPluginType pluginType view supported =>
    s!"Unsupported plugin type '{pluginType}' for {view}. Available: {supported}"
  | .processSpawn command details => s!"Failed to run '{command}': {details}"
  | .interpreterMissing => "python3/python command not found"
  | .toolMissing => "\"ansible\" is not found. Please install \"ansible\"."
  | .ansibleModuleMissing interpreter =>
    s!"Exit because \"ansible\" does not exist (interpreter: {interpreter})"
  | .installDeclined => "Installation of Ansible Server requirements tools was declined"
  | .installFailed command details =>
    s!"Ansible Server requirements tools: install failed. | '{command}': {details}"
  | .installInProgress =>
    "An installation of Ansible Server requirements tools is already in progress"
  | .prompt message => s!"Prompt failed: {message}"
  | .languageServer message => s!"Language server error: {message}"
  | .commandUnavailable command =>
    s!"Command '{command}' is not available in the current session"

def kind : Error -> Io.Kind
  | .io failure => failure.kind
  | .configuration _ | .toml _ | .json _ | .unknownTool _ | .unsupportedPluginType .. =>
    .invalidInput
  | .settingsNotFound _ | .interpreterMissing | .toolMissing | .ansibleModuleMissing _
  | .processSpawn .. => .notFound
  | .installDeclined | .prompt _ => .interrupted
  | .installInProgress => .wouldBlock
  | .installFailed .. | .languageServer _ | .commandUnavailable _ => .other

/-- Whether a session goes on, with its commands refused. -/
def isDegraded : Error -> Bool
  | .installDeclined => true
  | _ => false

end Error

end AnsibleTooling
