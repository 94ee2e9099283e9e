import AnsibleTooling.CommandLine.Reader
import AnsibleTooling.Session

set_option autoImplicit false

namespace AnsibleTooling.CommandLine

structure Options where
  settingsPath : Option Path := none
  storage : Option Path := none
  -- Whether the question before an installation is answered with yes.
  assumeYes : Bool := false
  verbosity : Nat := 0
  deriving DecidableEq, Repr

inductive Action
  | resolve (json : Bool)
  | install
  | checkServer
  | restartServer
  | showMetadata (document : Path) (seconds : Nat)
  | resyncInventory (document : Path)
  | listPlugins (view : DocView) (pluginType : String)
  | showPlugin (view : DocView) (pluginType plugin : String)
  | runPlaybook (runner : PlaybookRunner)
  deriving DecidableEq, Repr

structure Invocation where
  options : Options
  action : Action
  deriving DecidableEq, Repr

abbrev Levels := List (List Given)

namespace Levels

def value? (slot : Slot) (levels : Levels) : Option Bytes :=
  levels.findSome? fun given =>
    (given.find? fun item => item.slot = slot).map Given.value

def isGiven (switch : Switch) (levels : Levels) : Bool :=
  (levels.value? (.switch switch)).isSome

def path? (switch : Switch) (levels : Levels) : Option Path :=
  (levels.value? (.switch switch)).map fun bytes => { bytes }

def count (switch : Switch) (levels : Levels) : Nat :=
  (levels.findSome? fun given =>
    let count := given.countP fun item => item.slot = .switch switch
    if count == 0 then none else some count).getD 0

def text (positional : Positional) (levels : Levels) : String :=
  Text.decode ((levels.value? (.positional positional)).getD [])

def document (levels : Levels) : Path :=
  { bytes := (levels.value? (.positional .document)).getD [] }

def timeout (levels : Levels) : Nat :=
  (levels.value? (.switch .timeout)).elim 10 fun value =>
    (number (Text.decode value)).toOption.getD 0

def options (levels : Levels) : Options :=
  { settingsPath := levels.path? .config
    storage := levels.path? .storage
    assumeYes := levels.isGiven .yes
    verbosity := levels.count .verbose }

end Levels

def action? (level : Level) (levels : Levels) : Option Action :=
  match level with
  | .resolve => some (.resolve (levels.isGiven .json))
  | .install => some .install
  | .check => some .checkServer
  | .restart => some .restartServer
  | .metadata => some (.showMetadata levels.document levels.timeout)
  | .resyncInventory => some (.resyncInventory levels.document)
  | .listPlugins =>
    let view := if levels.isGiven .snippets then DocView.snippet else .info
    some (.listPlugins view (levels.text .pluginType))
  | .showPlugin => some (.showPlugin .info (levels.text .pluginType) (levels.text .plugin))
  | .showSnippets => some (.showPlugin .snippet (levels.text .pluginType) (levels.text .plugin))
  | .runPlaybook =>
    some (.runPlaybook (if levels.isGiven .navigator then .navigator else .playbook))
  | .root => none
  | .server => none
  | .doc => none

def Invocation.ofWords (words : List Bytes) : Except Departure Invocation := do
  let path := (<- read words).reverse
  let levels := path.map Prod.snd
  match path.head?.bind fun innermost => action? innermost.1 levels with
  | some action => return { options := Levels.options levels, action }
  | none => throw .nothingGiven

end AnsibleTooling.CommandLine
