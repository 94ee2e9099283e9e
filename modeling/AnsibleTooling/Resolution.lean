import AnsibleTooling.Environment

set_option autoImplicit false

namespace AnsibleTooling

structure PythonPaths where
  found : Path
  real : Path
  deriving DecidableEq, Repr, Inhabited

def pythonCandidates : List String := ["python3", "python"]

structure SystemTools where
  ansible : Availability := .unavailable
  ansibleLint : Availability := .unavailable
  ansibleDoc : Availability := .unavailable
  deriving DecidableEq, Repr, Inhabited

def SystemTools.needsBuiltin (system : SystemTools) : Bool :=
  !system.ansible.isAvailable || !system.ansibleLint.isAvailable

structure BuiltinTools where
  ansible : Option Path := none
  ansibleLint : Option Path := none
  ansibleDoc : Option Path := none
  deriving DecidableEq, Repr, Inhabited

namespace BuiltinTools

def isUsable (builtin : BuiltinTools) : Bool :=
  builtin.ansible.isSome

def get (builtin : BuiltinTools) : Tool -> Option Path
  | .ansible => builtin.ansible
  | .ansibleLint => builtin.ansibleLint
  | .ansibleDoc => builtin.ansibleDoc

def ofLookup (lookup : Tool -> Option Path) : BuiltinTools :=
  { ansible := lookup .ansible, ansibleLint := lookup .ansibleLint
    ansibleDoc := lookup .ansibleDoc }

end BuiltinTools

structure Modules where
  ansible : Availability := .unavailable
  ansibleLint : Availability := .unavailable
  deriving DecidableEq, Repr, Inhabited

structure Resolution where
  system : SystemTools := {}
  builtin : BuiltinTools := {}
  modules : Option Modules := none
  deriving DecidableEq, Repr, Inhabited

namespace Resolution

/-- The server runs in the managed environment only when the system has no `ansible` and no
interpreter is configured. -/
def usesBuiltin (resolution : Resolution) : Bool :=
  resolution.modules.isNone && resolution.builtin.isUsable &&
    !resolution.system.ansible.isAvailable

/-- The executable for documentation: the configured one beside a system `ansible`, else the
managed one. -/
def docTool (resolution : Resolution) (configured : String) : Option Path :=
  if resolution.system.ansible.isAvailable then some (Path.ofText configured)
  else resolution.builtin.ansibleDoc

end Resolution

end AnsibleTooling
