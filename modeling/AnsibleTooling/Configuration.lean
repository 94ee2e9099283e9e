import AnsibleTooling.Json.Pointer
import AnsibleTooling.Resolution

set_option autoImplicit false

namespace AnsibleTooling

structure Configuration where
  ansiblePath : String := ""
  useFullyQualifiedCollectionNames : Bool := false
  lintEnabled : Bool := false
  lintPath : String := ""
  lintArguments : String := ""
  interpreterPath : String := ""
  activationScript : String := ""
  deriving DecidableEq, Repr, Inhabited

namespace Configuration

/-- Whether linting can work: through the configured interpreter, through the managed
environment or a system command beside it, or through a system command. -/
def lintFound (resolution : Resolution) : Bool :=
  match resolution.modules with
  | some modules => modules.ansibleLint.isAvailable
  | none =>
    resolution.system.ansibleLint.isAvailable ||
      (resolution.usesBuiltin && resolution.builtin.ansibleLint.isSome)

/-- Tools are named by their bare commands: the server finds them through its search path or
through an explicit interpreter. -/
def derive (settings : Settings) (resolution : Resolution) (builtinPython : Path) :
    Configuration :=
  { ansiblePath := Tool.ansible.command
    useFullyQualifiedCollectionNames := settings.ansible.useFullyQualifiedCollectionNames
    lintEnabled := settings.ansibleLint.enabled && lintFound resolution
    lintPath := Tool.ansibleLint.command
    lintArguments := settings.ansibleLint.arguments
    interpreterPath :=
      if resolution.usesBuiltin then builtinPython.display
      else (settings.python.configuredInterpreter.map Path.display).getD ""
    activationScript := settings.python.activationScript }

open Json (Value)

def toJson (configuration : Configuration) : Value :=
  Value.ofMembers [
    ("ansible", Value.ofMembers [
      ("path", .text configuration.ansiblePath),
      ("useFullyQualifiedCollectionNames",
        .bool configuration.useFullyQualifiedCollectionNames)]),
    ("ansibleLint", Value.ofMembers [
      ("enabled", .bool configuration.lintEnabled),
      ("path", .text configuration.lintPath),
      ("arguments", .text configuration.lintArguments)]),
    ("python", Value.ofMembers [
      ("interpreterPath", .text configuration.interpreterPath),
      ("activationScript", .text configuration.activationScript)])]

def sectionName : String := "ansible"

def wrapped (configuration : Configuration) : Value :=
  Value.ofMembers [(sectionName, configuration.toJson)]

def pointer? (section? : String) : Option String :=
  let start := sectionName ++ "."
  if start.toList.isPrefixOf section?.toList then
    some (String.ofList ('/' :: (section?.toList.drop start.length).map fun char =>
      if char == '.' then '/' else char))
  else none

def answerItem (configuration : Configuration) (item : Value) : Value :=
  match (item.get? "section").bind Value.text? with
  | none => configuration.wrapped
  | some name =>
    if name == sectionName then configuration.toJson
    else ((pointer? name).bind configuration.toJson.pointer?).getD .null

def answer (configuration : Configuration) (parameters : Value) : Value :=
  .array (((parameters.get? "items").bind Value.items?).getD [] |>.map configuration.answerItem)

end Configuration

end AnsibleTooling
