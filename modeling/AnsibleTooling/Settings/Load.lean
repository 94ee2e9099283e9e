import AnsibleTooling.Files.Operations
import AnsibleTooling.Settings.Decode

set_option autoImplicit false

namespace AnsibleTooling.Settings

def fileName : String := ".ansible-bootstrap.toml"

def readFile (tree : Files.Tree) (directory : Files.Location) (path : Path) :
    Except Error Settings := do
  parse (<- (Files.readText tree directory path).mapError Error.io)

structure Source where
  path : Path
  isThere : Bool
  deriving DecidableEq, Repr

def source (tree : Files.Tree) (directory : Files.Location) (asked : Option Path)
    (workPath : Path) : Except Error Source :=
  match asked with
  | some path =>
    if Files.isFile tree directory path then .ok { path, isThere := true }
    else .error (.settingsNotFound path.display)
  | none =>
    let path := workPath.joinText fileName
    .ok { path, isThere := Files.isFile tree directory path }

def Source.read (tree : Files.Tree) (directory : Files.Location) (source : Source) :
    Except Error Settings :=
  if source.isThere then readFile tree directory source.path else .ok {}

def load (tree : Files.Tree) (directory : Files.Location) (asked : Option Path)
    (workPath : Path) : Except Error Settings := do
  (<- source tree directory asked workPath).read tree directory

/-- The storage directory below the user's data directory: the one named, if its path is
absolute, else the usual one in the home directory. -/
def defaultStorage (dataHome home : Option Path) : Except Error Path :=
  let base :=
    match dataHome.filter Path.isAbsolute with
    | some path => some path
    | none => (home.filter (!Path.isEmpty ·)).map (Path.joinText · ".local/share")
  match base with
  | some path => .ok (path.joinText "ansible-bootstrap")
  | none =>
    .error (.configuration "Cannot determine the user data directory; pass --storage")

end AnsibleTooling.Settings
