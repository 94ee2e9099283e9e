import AnsibleTooling.Path.Basic
import AnsibleTooling.Settings.Basic
import AnsibleTooling.Tool

set_option autoImplicit false

namespace AnsibleTooling

inductive Platform
  | posix
  | windows
  deriving DecidableEq, Repr, Inhabited

namespace Platform

def binDirectory : Platform -> String
  | .posix => "bin"
  | .windows => "Scripts"

def executableName : Platform -> String -> String
  | .posix, stem => stem
  | .windows, stem => stem ++ ".exe"

end Platform

namespace Environment

def directory (storage : Path) : Path :=
  (storage.joinText "ansible").joinText "venv"

def binDirectory (storage : Path) (platform : Platform) : Path :=
  (directory storage).joinText platform.binDirectory

def executable (storage : Path) (platform : Platform) (stem : String) : Path :=
  (binDirectory storage platform).joinText (platform.executableName stem)

def tool (storage : Path) (platform : Platform) (tool : Tool) : Path :=
  executable storage platform tool.command

def python (storage : Path) (platform : Platform) : Path :=
  executable storage platform "python"

end Environment

def requirement (name : String) (version : Option String) : String :=
  match version with
  | some version => if version.isEmpty then name else name ++ "==" ++ version
  | none => name

structure InstallPlan where
  interpreter : Path
  directory : Path
  binDirectory : Path
  python : Path
  packages : List String
  deriving DecidableEq, Repr, Inhabited

namespace InstallPlan

def packagesOf (builtin : BuiltinSettings) : List String :=
  [requirement "ansible" builtin.ansibleVersion,
    requirement "ansible-lint" builtin.ansibleLintVersion] ++
    if builtin.isWithYamllint then [requirement "yamllint" builtin.yamllintVersion] else []

def make (interpreter storage : Path) (platform : Platform) (builtin : BuiltinSettings) :
    InstallPlan :=
  { interpreter
    directory := Environment.directory storage
    binDirectory := Environment.binDirectory storage platform
    python := Environment.python storage platform
    packages := packagesOf builtin }

def createArguments (plan : InstallPlan) : List Bytes :=
  [Text.encode "-m", Text.encode "venv", plan.directory.bytes]

def pipArguments (plan : InstallPlan) : List Bytes :=
  (["-m", "pip", "install", "-U", "pip"] ++ plan.packages).map Text.encode

end InstallPlan

end AnsibleTooling
