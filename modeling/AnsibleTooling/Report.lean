import AnsibleTooling.Json.Basic
import AnsibleTooling.Server

set_option autoImplicit false

namespace AnsibleTooling

structure Report where
  python : Option PythonPaths
  resolution : Resolution
  configuration : Configuration
  docTool : Option Path
  -- The managed directory to be searched first by the server.
  serverPathPrefix : Option Path
  deriving DecidableEq, Repr, Inhabited

def Report.canInstall (report : Report) : Bool :=
  report.python.isSome

open Json (Value)

abbrev PathWriter := Path -> Except Error Value

def PathWriter.shown : PathWriter :=
  fun path => .ok (.text path.display)

def PathWriter.strict : PathWriter :=
  fun path =>
    match path.text? with
    | some text => .ok (.text text)
    | none => .error (.json "path contains invalid UTF-8 characters")

def PathWriter.optional (write : PathWriter) : Option Path -> Except Error Value
  | some path => write path
  | none => .ok .null

def PythonPaths.toJson (write : PathWriter) (python : PythonPaths) : Except Error Value := do
  return .object [("env", <- write python.found), ("real", <- write python.real)]

def SystemTools.toJson (system : SystemTools) : Value :=
  .object [
    ("ansible", .text system.ansible.display),
    ("ansibleLint", .text system.ansibleLint.display),
    ("ansibleDoc", .text system.ansibleDoc.display)]

def BuiltinTools.toJson (write : PathWriter) (builtin : BuiltinTools) : Except Error Value := do
  return .object [
    ("ansible", <- write.optional builtin.ansible),
    ("ansibleLint", <- write.optional builtin.ansibleLint),
    ("ansibleDoc", <- write.optional builtin.ansibleDoc)]

def Modules.toJson (modules : Modules) : Value :=
  .object [
    ("ansible", .text modules.ansible.display),
    ("ansibleLint", .text modules.ansibleLint.display)]

def Resolution.toJson (write : PathWriter) (resolution : Resolution) : Except Error Value := do
  return .object [
    ("system", resolution.system.toJson),
    ("builtin", <- resolution.builtin.toJson write),
    ("modules", (resolution.modules.map Modules.toJson).getD .null)]

def Configuration.toReportJson (configuration : Configuration) : Value :=
  .object [
    ("ansible", .object [
      ("path", .text configuration.ansiblePath),
      ("useFullyQualifiedCollectionNames",
        .bool configuration.useFullyQualifiedCollectionNames)]),
    ("ansibleLint", .object [
      ("enabled", .bool configuration.lintEnabled),
      ("path", .text configuration.lintPath),
      ("arguments", .text configuration.lintArguments)]),
    ("python", .object [
      ("interpreterPath", .text configuration.interpreterPath),
      ("activationScript", .text configuration.activationScript)])]

def Report.toJson (write : PathWriter) (report : Report) : Except Error Value := do
  return .object [
    ("python", <- (match report.python with
      | some python => python.toJson write
      | none => .ok .null)),
    ("resolution", <- report.resolution.toJson write),
    ("configuration", report.configuration.toReportJson),
    ("docTool", <- write.optional report.docTool),
    ("serverPathPrefix", <- write.optional report.serverPathPrefix)]

end AnsibleTooling
