import AnsibleTooling.Configuration
import AnsibleTooling.Path.Uri

set_option autoImplicit false

namespace AnsibleTooling

structure ServerCommand where
  program : Path
  arguments : List Bytes
  pathPrefix : Option Path
  deriving DecidableEq, Repr, Inhabited

structure ServerLaunch where
  command : ServerCommand
  configuration : Configuration
  disabledFeatures : List String
  rootUri : Option String
  deriving DecidableEq, Repr, Inhabited

def ServerLaunch.isDisabled (launch : ServerLaunch) (feature : String) : Bool :=
  launch.disabledFeatures.contains feature

namespace Server

def installedCommand : String := "ansible-language-server"

def metadataMethod : String := "update/ansible-metadata"

def resyncMethod : String := "resync/ansible-inventory"

def progressFeature : String := "progress"

/-- A development build runs through `node` when its script is a file, as `isFile` tells; else
the installed command is used. -/
def command (settings : Settings) (isFile : Path -> Bool) (pathPrefix : Option Path) :
    ServerCommand :=
  match settings.dev.serverPath.filter isFile with
  | some script =>
    { program := Path.ofText "node"
      arguments := [script.bytes, Text.encode "--stdio"]
      pathPrefix }
  | none =>
    { program := Path.ofText installedCommand, arguments := [Text.encode "--stdio"], pathPrefix }

def disabledFeatures (settings : Settings) : List String :=
  if settings.disableProgressNotifications then [progressFeature] else []

def extensions : List String := ["yml", "yaml"]

def lowerByte (byte : UInt8) : UInt8 :=
  if 65 <= byte && byte <= 90 then byte + 32 else byte

def isAnsibleDocument (document : Path) : Bool :=
  match document.extension? with
  | some extension =>
    extensions.any fun known => Text.encode known == extension.map lowerByte
  | none => false

end Server

end AnsibleTooling
