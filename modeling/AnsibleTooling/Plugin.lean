import AnsibleTooling.Error
import AnsibleTooling.Json.Parser
import AnsibleTooling.Json.Printer

set_option autoImplicit false

namespace AnsibleTooling

inductive DocView
  | info
  | snippet
  deriving DecidableEq, Repr

namespace DocView

def pluginTypes : DocView -> List String
  | .info => [
    "module", "become", "cache", "callback", "cliconf", "connection", "httpapi", "inventory",
    "lookup", "netconf", "shell", "vars", "strategy", "role", "keyword"]
  | .snippet => ["module", "inventory", "lookup"]

def terminalName : DocView -> String
  | .info => "ansibleDocShowInfo"
  | .snippet => "ansibleDocShowSnippets"

def display : DocView -> String
  | .info => "plugin documentation"
  | .snippet => "plugin snippets"

def validate (view : DocView) (pluginType : String) : Except Error Unit :=
  if view.pluginTypes.contains pluginType then .ok ()
  else .error (.unsupportedPluginType pluginType view.display (", ".intercalate view.pluginTypes))

def showArguments (view : DocView) (pluginType plugin : String) : List String :=
  ["-t", pluginType] ++ (if view = .snippet then ["-s"] else []) ++ [plugin]

end DocView

structure PluginEntry where
  name : String
  description : String
  deriving DecidableEq, Repr

namespace PluginEntry

def display (entry : PluginEntry) : String :=
  s!"{entry.name}: [{entry.description}]"

def ofMember (member : Json.Member) : PluginEntry :=
  { name := member.1
    description :=
      match member.2 with
      | .text description => description
      | other => other.compact }

def listArguments (pluginType : String) : List String :=
  ["-l", "-j", "-t", pluginType]

/-- The entries of a listing, in the order of their names; anything but one JSON object has
none. -/
def parseList (listing : String) : List PluginEntry :=
  match Json.parse? listing with
  | some (.object members) => members.map ofMember
  | _ => []

end PluginEntry

end AnsibleTooling
