import AnsibleTooling.Files.Walk
import AnsibleTooling.Text.Utf8

set_option autoImplicit false

namespace AnsibleTooling.Files

variable (tree : Tree) (directory : Location)

def exists? (path : Path) : Bool :=
  (find tree directory true path).isOk

def leadsTo (kind : Node -> Bool) (path : Path) : Bool :=
  match find tree directory true path with
  | .ok found => kind found.node
  | .error _ => false

def isFile (path : Path) : Bool :=
  leadsTo tree directory Node.isRegular path

def isDirectory (path : Path) : Bool :=
  leadsTo tree directory Node.isDirectory path

def isExecutable (path : Path) : Bool :=
  leadsTo tree directory (fun node => node.isRegular && node.isExecutable) path

/-- The absolute path without links that a path leads to. It is found name by name, so that only
its own length matters, and not that of the path it is found by. -/
def canonicalize (path : Path) : Except Io.Failure Path := do
  match <- locateFrom tree directory true path (steps path) with
  | .free parent name =>
    .error (if longestPath < (Path.ofNames (parent ++ [name])).bytes.length then .nameTooLong
      else .notFound)
  | .taken location =>
    let found := Path.ofNames location
    if longestPath < found.bytes.length then .error .nameTooLong else return found

def noDevice : Io.Failure :=
  .other .uncategorized "No such device or address (os error 6)"

def Entry.content : Entry -> Except Io.Failure Bytes
  | .file content => .ok content
  | .command _ => .ok []
  | .device .terminal => .error noDevice
  | .device _ => .ok []
  | .pipe _ => .ok []
  | .directory => .error .isDirectory
  | .link _ => .error .linkLoop

def read (path : Path) : Except Io.Failure Bytes := do
  (<- find tree directory true path).entry.content

def readText (path : Path) : Except Io.Failure String := do
  match Text.decode? (<- read tree directory path) with
  | some text => return text
  | none => .error .notText

def reach (path : Path) : Except Io.Failure (Nat × Tree) := do
  if endsInSeparator path then
    let _ <- locateName tree directory path
    .error .isDirectory
  else
  match <- locate tree directory true path with
  | .free parent name => return (tree.fresh, tree.insert (parent ++ [name]) (.file []))
  | .taken location =>
    match tree.number? location, (tree.lookup location).map Node.entry with
    | some _, some .directory => .error .isDirectory
    | some _, some (.link _) => .error .linkLoop
    | some _, some (.device .terminal) => .error noDevice
    | some number, some _ => return (number, tree)
    | _, _ => .error .notFound

def writeNode (append : Bool) (number : Nat) (content : Bytes) : Tree :=
  match (tree.node? number).map Node.entry with
  | some (.file old) => tree.setContent number (if append then old ++ content else content)
  | some (.command _) => tree.setContent number content
  | _ => tree

def write (append : Bool) (path : Path) (content : Bytes) : Except Io.Failure Tree := do
  let (number, tree) <- reach tree directory path
  return writeNode tree append number content

def setMode (change : Node -> Nat) (path : Path) : Except Io.Failure Tree := do
  let found <- find tree directory true path
  return tree.modifyNode found.number fun node => { node with mode := change node }

def freePlace (isDirectory : Bool) (path : Path) : Except Io.Failure Location := do
  match <- locateName tree directory path with
  | .taken _ => .error .alreadyThere
  | .free parent name =>
    if endsInSeparator path && !isDirectory then .error .notFound else return parent ++ [name]

def create (path : Path) (entry : Entry) : Except Io.Failure Tree := do
  return tree.insert (<- freePlace tree directory entry.isDirectory path) entry

def nameAlso (number : Nat) (path : Path) : Except Io.Failure Tree := do
  return tree.name (<- freePlace tree directory false path) number

def makeDirectory (path : Path) : Except Io.Failure Tree :=
  create tree directory path .directory

def makeLink (target path : Path) : Except Io.Failure Tree :=
  create tree directory path (.link target)

def remove (path : Path) : Except Io.Failure Tree := do
  return tree.erase (<- find tree directory false path).location

def removeDirectory (path : Path) : Except Io.Failure Tree := do
  let found <- find tree directory false path
  if found.entry.isDirectory || found.entry.isLink then return tree.erase found.location
  else .error .notDirectory

def lineage (path : Path) : List Bytes :=
  match path.parts with
  | first :: _ => if first == Path.here then first :: path.names else path.names
  | [] => []

def ofLineage (absolute : Bool) (names : List Bytes) : Path :=
  if absolute then Path.ofNames names
  else { bytes := (Path.ofNames names).bytes.drop 1 }

def ancestors (path : Path) : List Path :=
  let names := lineage path
  let parents := (List.range (names.length - 1)).reverse.map fun count =>
    ofLineage path.isAbsolute (names.take (count + 1))
  if names.isEmpty then [] else path :: parents

def climb (tree : Tree) : List Path -> List Path -> Except Io.Failure (List Path × Tree)
  | [], passed => .ok (passed, tree)
  | path :: parents, passed =>
    match makeDirectory tree directory path with
    | .ok made => .ok (passed, made)
    | .error .notFound => climb tree parents (path :: passed)
    | .error .alreadyThere =>
      if isDirectory tree directory path then .ok (passed, tree) else .error .alreadyThere
    | .error failure => .error failure

def makeAll (tree : Tree) : List Path -> Except Io.Failure Unit × Tree
  | [] => (.ok (), tree)
  | path :: rest =>
    match makeDirectory tree directory path with
    | .ok made => makeAll made rest
    | .error failure =>
      if failure = .alreadyThere && isDirectory tree directory path then makeAll tree rest
      else (.error failure, tree)

def makeDirectories (path : Path) : Except Io.Failure Unit × Tree :=
  match climb directory tree (ancestors path) [] with
  | .error failure => (.error failure, tree)
  | .ok (missing, made) => makeAll directory made missing

def listing (path : Path) : Option (List String) :=
  match find tree directory true path with
  | .error _ => none
  | .ok found =>
    let shown := (tree.below found.location).map fun (names, _, node) =>
      let text := Text.decode ((Path.ofNames names).bytes.drop 1)
      if node.isDirectory then text ++ "/" else text
    some (shown.mergeSort fun left right => left <= right)

end AnsibleTooling.Files
