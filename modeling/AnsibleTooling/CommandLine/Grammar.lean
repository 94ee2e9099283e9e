import AnsibleTooling.Text.Utf8

set_option autoImplicit false

namespace AnsibleTooling.CommandLine

def programName : String := "ansible-bootstrap"

def version : String := "0.3.1"

inductive Switch
  | config
  | storage
  | yes
  | verbose
  | help
  | version
  | json
  | navigator
  | snippets
  | timeout
  deriving DecidableEq, Repr

namespace Switch

def name : Switch -> String
  | config => "config"
  | storage => "storage"
  | yes => "yes"
  | verbose => "verbose"
  | help => "help"
  | version => "version"
  | json => "json"
  | navigator => "navigator"
  | snippets => "snippets"
  | timeout => "timeout"

def letter? : Switch -> Option Char
  | config => some 'c'
  | yes => some 'y'
  | verbose => some 'v'
  | help => some 'h'
  | version => some 'V'
  | _ => none

def valueName? : Switch -> Option String
  | config => some "CONFIG"
  | storage => some "STORAGE"
  | timeout => some "TIMEOUT"
  | _ => none

def takesValue (switch : Switch) : Bool :=
  switch.valueName?.isSome

def counts (switch : Switch) : Bool :=
  switch = verbose

def display (switch : Switch) : String :=
  let suffix :=
    match switch.valueName? with
    | some value => s!" <{value}>"
    | none => if switch.counts then "..." else ""
  "--" ++ switch.name ++ suffix

end Switch

inductive Positional
  | document
  | pluginType
  | plugin
  deriving DecidableEq, Repr

def Positional.display : Positional -> String
  | document => "<DOCUMENT>"
  | pluginType => "<PLUGIN_TYPE>"
  | plugin => "<PLUGIN>"

inductive Slot
  | switch (switch : Switch)
  | positional (positional : Positional)
  deriving DecidableEq, Repr

def Slot.display : Slot -> String
  | .switch given => given.display
  | .positional given => given.display

inductive Level
  | root
  | server
  | doc
  | resolve
  | install
  | check
  | restart
  | metadata
  | resyncInventory
  | listPlugins
  | showPlugin
  | showSnippets
  | runPlaybook
  deriving DecidableEq, Repr

namespace Level

def sharedSwitches : List Switch := [.config, .storage, .yes, .verbose, .help]

def ownSwitches : Level -> List Switch
  | root => [.version]
  | resolve => [.json]
  | metadata => [.timeout]
  | listPlugins => [.snippets]
  | runPlaybook => [.navigator]
  | _ => []

def switches (level : Level) : List Switch :=
  sharedSwitches ++ level.ownSwitches

def positionals : Level -> List Positional
  | metadata => [.document]
  | resyncInventory => [.document]
  | listPlugins => [.pluginType]
  | showPlugin => [.pluginType, .plugin]
  | showSnippets => [.pluginType, .plugin]
  | _ => []

def children : Level -> List (String × Level)
  | root => [
    ("resolve", resolve), ("r", resolve), ("install", install), ("i", install),
    ("server", server), ("s", server), ("doc", doc), ("d", doc), ("run-playbook", runPlaybook)]
  | server => [
    ("check", check), ("restart", restart), ("metadata", metadata),
    ("resync-inventory", resyncInventory)]
  | doc => [
    ("list", listPlugins), ("ls", listPlugins), ("show", showPlugin), ("snippets", showSnippets)]
  | _ => []

def isGroup (level : Level) : Bool :=
  !level.children.isEmpty

def child? (level : Level) (word : Bytes) : Option Level :=
  (level.children.find? fun entry => Text.encode entry.1 == word).map Prod.snd

def words : Level -> String
  | server => programName ++ " server"
  | doc => programName ++ " doc"
  | _ => programName

def named? (level : Level) (name : Bytes) : Option Switch :=
  level.switches.find? fun switch => Text.encode switch.name == name

def lettered? (level : Level) (letter : UInt8) : Option Switch :=
  level.switches.find? fun switch =>
    (switch.letter?.map fun char => char.toNat == letter.toNat).getD false

end Level

end AnsibleTooling.CommandLine
