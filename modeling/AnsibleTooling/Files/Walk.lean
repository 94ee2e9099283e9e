import AnsibleTooling.Files.Tree

set_option autoImplicit false

namespace AnsibleTooling.Files

def endsInSeparator (path : Path) : Bool :=
  path.bytes.getLast? == some Path.separator

def nameSteps (path : Path) : List Bytes :=
  path.parts.filter fun part => !part.isEmpty

/-- The names to walk. An empty last name stands for a separator at the end of the path, which
requires a directory. -/
def steps (path : Path) : List Bytes :=
  if endsInSeparator path then nameSteps path ++ [[]] else nameSteps path

def longestName : Nat := 255

def longestPath : Nat := 4095

def linkLimit : Nat := 40

/-- Where a walk stops: at an entry, where the last name does not exist, at a link, or with a
failure. -/
inductive Stop
  | arrived (location : Location)
  | missing (parent : Location) (name : Bytes)
  | atLink (parent : Location) (target : Path) (rest : List Bytes)
  | failed (failure : Io.Failure)

def advance (tree : Tree) (follow : Bool) : Location -> List Bytes -> Stop
  | place, [] => .arrived place
  | place, name :: rest =>
    if !tree.isDirectory place then .failed .notDirectory
    else if name.isEmpty || name == Path.here then advance tree follow place rest
    else if name == Path.above then advance tree follow place.dropLast rest
    else if longestName < name.length then .failed .nameTooLong
    else
      match (tree.lookup (place ++ [name])).map Node.entry with
      | none => if rest.all List.isEmpty then .missing place name else .failed .notFound
      | some (.link target) =>
        if rest.isEmpty && !follow then .arrived (place ++ [name])
        else .atLink place target rest
      | some _ => advance tree follow (place ++ [name]) rest

inductive Spot
  | taken (location : Location)
  | free (parent : Location) (name : Bytes)
  deriving DecidableEq, Repr

def walk (tree : Tree) (follow : Bool) : Nat -> Location -> List Bytes -> Except Io.Failure Spot
  | links, place, names =>
    match advance tree follow place names with
    | .arrived location => .ok (.taken location)
    | .missing parent name => .ok (.free parent name)
    | .failed failure => .error failure
    | .atLink parent target rest =>
      match links with
      | 0 => .error .linkLoop
      | links + 1 =>
        if target.isEmpty then .error .notFound
        else
          walk tree follow links (if target.isAbsolute then [] else parent) (steps target ++ rest)

def locateFrom (tree : Tree) (directory : Location) (follow : Bool) (path : Path)
    (names : List Bytes) : Except Io.Failure Spot :=
  if path.bytes.contains 0 then .error .nulInPath
  else if path.isEmpty then .error .notFound
  else walk tree follow linkLimit (if path.isAbsolute then [] else directory) names

def locateSteps (tree : Tree) (directory : Location) (follow : Bool) (path : Path)
    (names : List Bytes) : Except Io.Failure Spot :=
  if !path.bytes.contains 0 && longestPath < path.bytes.length then .error .nameTooLong
  else locateFrom tree directory follow path names

def locate (tree : Tree) (directory : Location) (follow : Bool) (path : Path) :
    Except Io.Failure Spot :=
  locateSteps tree directory follow path (steps path)

def locateName (tree : Tree) (directory : Location) (path : Path) : Except Io.Failure Spot :=
  locateSteps tree directory false path (nameSteps path)

structure Found where
  location : Location
  number : Nat
  node : Node
  deriving Repr

def Found.entry (found : Found) : Entry :=
  found.node.entry

def find (tree : Tree) (directory : Location) (follow : Bool) (path : Path) :
    Except Io.Failure Found := do
  match <- locate tree directory follow path with
  | .free .. => .error .notFound
  | .taken location =>
    match tree.number? location, tree.lookup location with
    | some number, some node => .ok { location, number, node }
    | _, _ => .error .notFound

end AnsibleTooling.Files
