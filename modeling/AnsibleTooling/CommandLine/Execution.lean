import AnsibleTooling.CommandLine.Console
import AnsibleTooling.Machine.Host

set_option autoImplicit false

namespace AnsibleTooling.CommandLine

def userDirectories (machine : Machine) : UserDirectories :=
  { dataHome := (machine.bindings.get? "XDG_DATA_HOME").map fun bytes => { bytes }
    home := machine.bindings.home?.getD machine.userHome }

def logFilter (machine : Machine) (verbosity : Nat) : LogFilter :=
  .choose ((machine.bindings.get? "RUST_LOG").bind Text.decode?) verbosity

def terminalTexts (world : World Machine) : String × String :=
  (Text.decode world.inner.output, Text.decode world.inner.errors)

/-- Runs the program with the words of its command line; gives the machine afterwards too. Whoever
reads what is written reads on until no one can write any more. -/
def execute (stamp : String) (words : List Bytes) (world : World Machine) :
    Transcript × World Machine :=
  match Invocation.ofWords words with
  | .error departure => (departure.transcript, world)
  | .ok invocation =>
    let options := invocation.options
    let user := userDirectories world.inner
    let act := Operation.run user (Machine.host options.assumeYes) options invocation.action
    let (result, stage) := act.perform { world }
    let stage := { stage with world := Machine.settle stage.world }
    let filter := logFilter world.inner options.verbosity
    (transcript stamp filter terminalTexts result stage, stage.world)

end AnsibleTooling.CommandLine
