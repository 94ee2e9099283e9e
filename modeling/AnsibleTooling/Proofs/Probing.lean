import AnsibleTooling.Probe
import AnsibleTooling.Proofs.Quiet

set_option autoImplicit false

namespace AnsibleTooling

variable {S : Type}

def Runner.succeeds (runner : Runner S) (program : Path) (arguments : List Bytes)
    (world : World S) : Bool :=
  match (runner.run program arguments world).1 with
  | .ok output => output.success
  | .error _ => false

def Runner.leaves (runner : Runner S) (program : Path) (arguments : List Bytes)
    (world : World S) : World S :=
  (runner.run program arguments world).2.settled

namespace Probe

variable (host : Host S) (world : World S)

theorem run_quiet (program : Path) (arguments : List Bytes) :
    (run host program arguments).Quiet world [commandLine program arguments]
      (host.runner.run program arguments world).1
      (host.runner.leaves program arguments world) :=
  (Act.quiet_ran _).bind (Act.quiet_ofWorld _)

theorem answers_quiet (program : Path) (arguments : List Bytes) :
    (answers host program arguments).Quiet world [commandLine program arguments]
      (.ok (.ofSuccess (host.runner.succeeds program arguments world)))
      (host.runner.leaves program arguments world) := by
  refine (run_quiet host world program arguments).outcome.thenSilent ?_
  -- What is left is to log why there is no help, in two of three cases.
  unfold Runner.succeeds
  cases started : (host.runner.run program arguments world).1 with
  | error error => exact Act.quiet_log.andThen (Act.quiet_pure _)
  | ok output =>
    cases success : output.success with
    | true => simpa [success] using Act.quiet_pure _
    | false =>
      simp only [success, Bool.not_false, if_true]
      exact Act.quiet_log.andThen (Act.quiet_pure _)

def helps (name : String) : Bool :=
  host.runner.succeeds (Path.ofText name) [Text.encode "-h"] world

def afterHelp (name : String) : World S :=
  host.runner.leaves (Path.ofText name) [Text.encode "-h"] world

def helpLine (name : String) : String :=
  commandLine (Path.ofText name) [Text.encode "-h"]

def importArguments (name : String) : List Bytes :=
  [Text.encode "-c", Text.encode ("import " ++ name)]

def imports (interpreter : Path) (name : String) : Bool :=
  host.runner.succeeds interpreter (importArguments name) world

def afterImport (interpreter : Path) (name : String) : World S :=
  host.runner.leaves interpreter (importArguments name) world

def importLine (interpreter : Path) (name : String) : String :=
  commandLine interpreter (importArguments name)

theorem command_quiet (name : String) :
    (command host name).Quiet world [helpLine name] (.ok (.ofSuccess (helps host world name)))
      (afterHelp host world name) :=
  answers_quiet host world _ _

theorem module_quiet (interpreter : Path) (name : String) :
    (module host interpreter name).Quiet world [importLine interpreter name]
      (.ok (.ofSuccess (imports host world interpreter name)))
      (afterImport host world interpreter name) :=
  answers_quiet host world _ _

variable (settings : Settings)

def beforeAnsible : World S :=
  if settings.builtin.probeAnsibleDoc then afterHelp host world settings.ansibleDoc.path else world

def beforeLint : World S :=
  afterHelp host (beforeAnsible host world settings) settings.ansible.path

def afterSystem : World S :=
  afterHelp host (beforeLint host world settings) settings.ansibleLint.path

def docFound : Availability :=
  if settings.builtin.probeAnsibleDoc then .ofSuccess (helps host world settings.ansibleDoc.path)
  else .unavailable

def systemFound : SystemTools :=
  { ansible := .ofSuccess (helps host (beforeAnsible host world settings) settings.ansible.path)
    ansibleLint := .ofSuccess (helps host (beforeLint host world settings) settings.ansibleLint.path)
    ansibleDoc := docFound host world settings }

def docLines : List String :=
  if settings.builtin.probeAnsibleDoc then [helpLine settings.ansibleDoc.path] else []

def systemLines : List String :=
  docLines settings ++ ([helpLine settings.ansible.path] ++ [helpLine settings.ansibleLint.path])

def documentation : Act S Availability :=
  if settings.builtin.probeAnsibleDoc then command host settings.ansibleDoc.path
  else pure .unavailable

theorem documentation_quiet :
    (documentation host settings).Quiet world (docLines settings) (.ok (docFound host world settings))
      (beforeAnsible host world settings) := by
  unfold documentation docLines docFound beforeAnsible
  split
  · exact command_quiet host world settings.ansibleDoc.path
  · exact Act.quiet_pure _

theorem systemTools_eq :
    systemTools host settings = do
      let ansibleDoc <- documentation host settings
      let ansible <- command host settings.ansible.path
      let ansibleLint <- command host settings.ansibleLint.path
      return { ansible, ansibleLint, ansibleDoc } := by
  unfold systemTools documentation
  split <;> rfl

theorem systemTools_quiet :
    (systemTools host settings).Quiet world (systemLines settings)
      (.ok (systemFound host world settings)) (afterSystem host world settings) := by
  have ansible := command_quiet host (beforeAnsible host world settings) settings.ansible.path
  have ansibleLint := command_quiet host (beforeLint host world settings) settings.ansibleLint.path
  rw [systemTools_eq]
  -- Each probe starts in the world that the one before has left.
  refine (documentation_quiet host world settings).bind ?_
  exact ansible.bind (ansibleLint.thenSilent (Act.quiet_pure _))

def candidate (name : String) : Option PythonPaths := do
  let found <- host.runner.which name world
  let real <- (Files.canonicalize world.tree world.workDir found).toOption
  return { found, real }

def interpreter : Option Path -> Option PythonPaths
  | some configured =>
    (Files.canonicalize world.tree world.workDir configured).toOption.map fun real =>
      { found := configured, real }
  | none => pythonCandidates.findSome? (candidate host world)

theorem configuredPython_quiet (configured : Path) :
    (configuredPython configured : Act S (Option PythonPaths)).Quiet world []
      (.ok (interpreter host world (some configured))) world := by
  refine Act.quiet_world.andThen ?_
  rw [interpreter]
  cases Files.canonicalize world.tree world.workDir configured with
  | ok real => exact Act.quiet_pure _
  | error failure => exact Act.quiet_log.andThen (Act.quiet_pure _)

theorem searchedPython_quiet (names : List String) :
    (searchedPython host names).Quiet world []
      (.ok (names.findSome? (candidate host world))) world := by
  induction names with
  | nil => exact Act.quiet_pure _
  | cons name rest ih =>
    refine Act.quiet_world.andThen ?_
    -- A candidate is passed over if it is not on the search path or leads nowhere.
    simp only [List.findSome?_cons, candidate]
    cases looked : host.runner.which name world with
    | none => exact ih
    | some found =>
      simp only [Option.bind_eq_bind, Option.bind_some]
      cases Files.canonicalize world.tree world.workDir found with
      | ok real => exact Act.quiet_pure _
      | error failure => exact Act.quiet_logged.andThen ih

theorem python_quiet (configured : Option Path) :
    (python host configured).Quiet world [] (.ok (interpreter host world configured)) world := by
  cases configured with
  | some configured => exact configuredPython_quiet host world configured
  | none => exact searchedPython_quiet host world pythonCandidates

def isManaged (context : Context) (tool : Tool) : Bool :=
  Files.isFile world.tree world.workDir (Environment.tool context.storage context.platform tool)

theorem builtinTools_get (context : Context) (tool : Tool) :
    (builtinTools world context.storage context.platform).get tool =
      if isManaged world context tool then
        some (Environment.tool context.storage context.platform tool)
      else none := by
  cases tool <;> rfl

@[simp] theorem builtinTools_isUsable (context : Context) :
    (builtinTools world context.storage context.platform).isUsable =
      isManaged world context .ansible := by
  have found := builtinTools_get world context .ansible
  rw [BuiltinTools.get] at found
  cases managed : isManaged world context .ansible <;>
    simp [BuiltinTools.isUsable, found, managed]

end Probe

end AnsibleTooling
