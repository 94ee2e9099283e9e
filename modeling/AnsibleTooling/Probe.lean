import AnsibleTooling.Stage
/-!
What can be run, and with which interpreter. Probes never fail: a command that cannot be started
or ends in failure is unavailable.
-/

set_option autoImplicit false

namespace AnsibleTooling.Probe

variable {S : Type} (host : Host S)

def run (program : Path) (arguments : List Bytes) : Act S ProcessOutput := do
  Act.record (.ran (commandLine program arguments))
  Act.ofWorld (host.runner.run program arguments)

def answers (program : Path) (arguments : List Bytes) : Act S Availability := do
  match <- Act.outcome (run host program arguments) with
  | .ok output =>
    if !output.success then
      Act.log .probing .debug "probe exited with failure" [
        ("command", commandLine program arguments), ("stderr", Text.trim output.stderr)]
    return .ofSuccess output.success
  | .error error =>
    Act.log .probing .debug "probe could not start" [("error", error.message)]
    return .unavailable

def command (name : String) : Act S Availability :=
  answers host (Path.ofText name) [Text.encode "-h"]

def module (interpreter : Path) (name : String) : Act S Availability :=
  answers host interpreter [Text.encode "-c", Text.encode ("import " ++ name)]

def systemTools (settings : Settings) : Act S SystemTools := do
  let ansibleDoc <-
    if settings.builtin.probeAnsibleDoc then command host settings.ansibleDoc.path
    else pure .unavailable
  let ansible <- command host settings.ansible.path
  let ansibleLint <- command host settings.ansibleLint.path
  return { ansible, ansibleLint, ansibleDoc }

def configuredPython (configured : Path) : Act S (Option PythonPaths) := do
  let world <- Act.world
  match Files.canonicalize world.tree world.workDir configured with
  | .ok real => return some { found := configured, real }
  | .error failure =>
    Act.log .probing .debug "configured interpreter does not resolve" [
      ("path", configured.display), ("error", failure.message)]
    return none

/-- The first candidate that is on the search path and exists. -/
def searchedPython : List String -> Act S (Option PythonPaths)
  | [] => return none
  | candidate :: candidates => do
    let world <- Act.world
    match host.runner.which candidate world with
    | none => searchedPython candidates
    | some found =>
      match Files.canonicalize world.tree world.workDir found with
      | .ok real => return some { found, real }
      | .error failure =>
        Act.record (.logged {
          topic := .probing
          level := .debug
          message := "interpreter on PATH does not resolve"
          fields := [("candidate", .quoted candidate), ("error", .plain failure.message)] })
        searchedPython candidates

def python (configured : Option Path) : Act S (Option PythonPaths) :=
  match configured with
  | some configured => configuredPython configured
  | none => searchedPython host pythonCandidates

def builtinTool (world : World S) (storage : Path) (platform : Platform) (tool : Tool) :
    Option Path :=
  let path := Environment.tool storage platform tool
  if Files.isFile world.tree world.workDir path then some path else none

def builtinTools (world : World S) (storage : Path) (platform : Platform) : BuiltinTools :=
  .ofLookup (builtinTool world storage platform)

end AnsibleTooling.Probe
