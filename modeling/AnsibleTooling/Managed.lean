import AnsibleTooling.Host

set_option autoImplicit false

namespace AnsibleTooling.Managed

variable {S : Type}

def record (level : LogLevel) (message key text : String) : Deed :=
  .logged (.make .environment level message [(key, text)])

def failureDetails (stderr : String) : String :=
  let text := Text.trim stderr
  if text.isEmpty then "Unknown error" else text

/-- One program of the installation; its deeds come before those of the steps that follow. -/
def step (runner : Runner S) (program : Path) (arguments : List Bytes)
    (next : World S -> Attempt S) (world : World S) : Attempt S :=
  let line := commandLine program arguments
  let started := world.clock
  let (result, world) := runner.run program arguments world
  let deeds := [record .debug "install step" "command" line, .ran line,
    .passed (world.clock - started)]
  match result with
  | .error error => { result := .error error, world, deeds }
  | .ok output =>
    if output.success then
      let rest := next world
      { rest with deeds := deeds ++ rest.deeds }
    else
      { result := .error (.installFailed line (failureDetails output.stderr)), world, deeds }

def finished (world : World S) : Attempt S :=
  { result := .ok (), world, deeds := [] }

def steps (runner : Runner S) (plan : InstallPlan) (world : World S) : Attempt S :=
  step runner plan.interpreter plan.createArguments
    (step runner plan.python plan.pipArguments finished) world

def installer (runner : Runner S) : Installer S :=
  fun plan world =>
    if Files.exists? world.tree world.workDir plan.directory then
      let removal := record .info "removing previous environment" "path" plan.directory.display
      match Files.removeDirectory world.tree world.workDir plan.directory with
      | .error failure => { result := .error (.io failure), world, deeds := [removal] }
      | .ok tree =>
        let rest := steps runner plan { world with tree }
        { rest with deeds := removal :: rest.deeds }
    else steps runner plan world

end AnsibleTooling.Managed
