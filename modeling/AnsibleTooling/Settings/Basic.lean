import AnsibleTooling.Error
import AnsibleTooling.Path.Basic
import AnsibleTooling.Text.Blank

set_option autoImplicit false

namespace AnsibleTooling

structure AnsibleSettings where
  path : String := "ansible"
  useFullyQualifiedCollectionNames : Bool := true
  deriving DecidableEq, Repr, Inhabited

structure AnsibleLintSettings where
  enabled : Bool := true
  path : String := "ansible-lint"
  arguments : String := ""
  deriving DecidableEq, Repr, Inhabited

structure AnsibleDocSettings where
  path : String := "ansible-doc"
  enableSplitRight : Bool := true
  deriving DecidableEq, Repr, Inhabited

structure PythonSettings where
  interpreterPath : Option Path := none
  activationScript : String := ""
  deriving DecidableEq, Repr, Inhabited

structure BuiltinSettings where
  force : Bool := false
  isWithYamllint : Bool := false
  ansibleVersion : Option String := none
  ansibleLintVersion : Option String := none
  yamllintVersion : Option String := none
  probeAnsibleDoc : Bool := true
  deriving DecidableEq, Repr, Inhabited

structure DevSettings where
  serverPath : Option Path := none
  deriving DecidableEq, Repr, Inhabited

structure Settings where
  enable : Bool := true
  ansible : AnsibleSettings := {}
  ansibleLint : AnsibleLintSettings := {}
  ansibleDoc : AnsibleDocSettings := {}
  python : PythonSettings := {}
  builtin : BuiltinSettings := {}
  dev : DevSettings := {}
  disableProgressNotifications : Bool := false
  deriving DecidableEq, Repr, Inhabited

def PythonSettings.configuredInterpreter (python : PythonSettings) : Option Path :=
  python.interpreterPath.filter fun path => !path.isEmpty

def splitsRequirement (char : Char) : Bool :=
  Text.isBlank char || char == ';' || char == '=' || char == '<' || char == '>'

def checkVersion (key : String) : Option String -> Except Error Unit
  | none => .ok ()
  | some version =>
    if version.toList.any splitsRequirement then
      .error (.configuration s!"{key} must be a plain version string, got '{version}'")
    else .ok ()

def BuiltinSettings.validate (builtin : BuiltinSettings) : Except Error Unit := do
  checkVersion "builtin.ansibleVersion" builtin.ansibleVersion
  checkVersion "builtin.ansibleLintVersion" builtin.ansibleLintVersion
  checkVersion "builtin.yamllintVersion" builtin.yamllintVersion

def checkNotBlank (key value : String) : Except Error Unit :=
  if Text.isBlankText value then .error (.configuration s!"{key} must not be empty") else .ok ()

def Settings.validate (settings : Settings) : Except Error Unit := do
  checkNotBlank "ansible.path" settings.ansible.path
  checkNotBlank "ansibleLint.path" settings.ansibleLint.path
  checkNotBlank "ansibleDoc.path" settings.ansibleDoc.path
  settings.builtin.validate

end AnsibleTooling
