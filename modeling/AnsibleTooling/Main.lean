import AnsibleTooling.CommandLine.Execution
import AnsibleTooling.Files.Fixture
import AnsibleTooling.Json.Parser
import AnsibleTooling.Machine.Base

set_option autoImplicit false

namespace AnsibleTooling.Main

open Json (Value)

def fixture (path : String) (value : Value) : Files.Fixture :=
  let path := Path.ofText path
  match value with
  | .text content => { path, entry := .file (Text.encode content) }
  | value =>
    match (value.get? "script").bind Value.text?, (value.get? "link").bind Value.text? with
    | some content, _ => { path, entry := .file (Text.encode content), isExecutable := true }
    | none, some target => { path, entry := .link (Path.ofText target) }
    | none, none => { path, entry := .directory }

def members (value : Value) (key : String) : List Json.Member :=
  ((value.get? key).bind Value.members?).getD []

def bindings (description : Value) : Machine.Bindings :=
  (members description "variables").map fun (name, value) =>
    (Text.encode name, Text.encode (value.text?.getD ""))

def world (description : Value) : World Machine :=
  let directory := Path.ofText (((description.get? "directory").bind Value.text?).getD "/")
  let fixtures := (members description "files").map fun (path, value) => fixture path value
  let tree := Files.Fixture.placeAll [] Machine.baseTree fixtures
  { tree := (Files.makeDirectories tree [] directory).2
    workDir := directory.names
    inner := { bindings := bindings description } }

def stamp (milliseconds : Nat) : String :=
  s!"[{milliseconds}]"

end AnsibleTooling.Main

open AnsibleTooling in
def main (words : List String) : IO UInt32 := do
  let description <- (<- IO.getStdin).readToEnd
  match Json.parse description with
  | .error failure =>
    IO.eprintln (failure.message (Text.encode description))
    return 2
  | .ok description =>
    let stamp := Main.stamp (<- IO.monoMsNow)
    let (transcript, _) :=
      CommandLine.execute stamp (words.map Text.encode) (Main.world description)
    IO.print transcript.output
    IO.eprint transcript.errors
    return UInt32.ofNat transcript.status
