import AnsibleTooling.Installation

set_option autoImplicit false

namespace AnsibleTooling

inductive Activation
  | disabled
  | ready (report : Report)
  deriving DecidableEq, Repr, Inhabited

namespace Activation

def shown (path : Option Path) : String :=
  (path.map Path.display).getD "None"

def logBuiltin {S : Type} (builtin : BuiltinTools) : Act S Unit := do
  if builtin.isUsable then
    Act.log .activation .info "using builtin tools" [
      ("ansible", shown builtin.ansible), ("ansible_lint", shown builtin.ansibleLint),
      ("ansible_doc", shown builtin.ansibleDoc)]

variable {S : Type} (host : Host S) (context : Context)

def managedTools : Act S BuiltinTools := do
  let builtin := Probe.builtinTools (<- Act.world) context.storage context.platform
  logBuiltin builtin
  return builtin

def resolveInterpreter (interpreter : Path) (system : SystemTools) : Act S Resolution := do
  let ansible <- Probe.module host interpreter "ansible"
  let ansibleLint <- Probe.module host interpreter "ansiblelint"
  Act.log .activation .info "using configured interpreter" [
    ("interpreter", interpreter.display), ("ansible_module", ansible.display),
    ("ansible_lint_module", ansibleLint.display)]
  if !ansible.isAvailable then throw (.ansibleModuleMissing interpreter.display)
  return { system, modules := some { ansible, ansibleLint } }

/-- Without a system `ansible` the managed one serves, after an installation if need be. -/
def resolveTools (python : Option PythonPaths) (system : SystemTools) : Act S Resolution := do
  let builtin <-
    if system.needsBuiltin || context.settings.builtin.force then managedTools context
    else pure {}
  if system.ansible.isAvailable || builtin.isUsable then return { system, builtin }
  match python with
  | none => throw .interpreterMissing
  | some python =>
    Installation.install host context python
    let system <- Probe.systemTools host context.settings
    let builtin <- managedTools context
    if !system.ansible.isAvailable && !builtin.isUsable then throw .toolMissing
    return { system, builtin }

def makeStorage : Act S Unit := do
  Act.ofWorld fun world =>
    let (result, tree) := Files.makeDirectories world.tree world.workDir context.storage
    (result.mapError .io, { world with tree })

def reportOf (python : Option PythonPaths) (resolution : Resolution) : Report :=
  { python
    resolution
    configuration := .derive context.settings resolution
      (Environment.python context.storage context.platform)
    docTool := resolution.docTool context.settings.ansibleDoc.path
    serverPathPrefix :=
      if resolution.usesBuiltin then
        some (Environment.binDirectory context.storage context.platform)
      else none }

def logEnvironment (python : Option PythonPaths) (system : SystemTools) : Act S Unit :=
  Act.log .activation .info "environment" [
    ("python_env", shown (python.map PythonPaths.found)),
    ("python_real", shown (python.map PythonPaths.real)),
    ("interpreter_override", shown context.settings.python.configuredInterpreter),
    ("ansible", system.ansible.display), ("ansible_lint", system.ansibleLint.display),
    ("ansible_doc", system.ansibleDoc.display),
    ("force_builtin", if context.settings.builtin.force then "true" else "false")]

def activate : Act S Activation := do
  let settings := context.settings
  if !settings.enable then
    Act.log .activation .info "ansible support disabled by settings" []
    return .disabled
  makeStorage context
  let configured := settings.python.configuredInterpreter
  let python <- Probe.python host configured
  if python.isNone && configured.isNone then throw .interpreterMissing
  let system <- Probe.systemTools host settings
  logEnvironment context python system
  let resolution <-
    match configured with
    | some interpreter => resolveInterpreter host interpreter system
    | none => resolveTools host context python system
  return .ready (reportOf context python resolution)

end Activation

end AnsibleTooling
