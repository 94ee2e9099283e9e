import AnsibleTooling.Io
import AnsibleTooling.Path.Basic
/-!
A tree of files. A location is the list of names from the root. Locations lead to nodes, several of
them possibly to the same one, and a node goes on to be there when its last name is gone, so that
whoever has it open can go on to use it.
-/

set_option autoImplicit false

namespace AnsibleTooling.Files

abbrev Location := List Bytes

inductive Device
  -- Reads as empty and swallows what is written to it.
  | null
  -- Reads as zeros without an end and swallows what is written to it.
  | zero
  -- As `zero`, but there is no room to write.
  | full
  -- Reads as noise without an end and swallows what is written to it.
  | random
  -- The terminal of whoever opens it. There is none.
  | terminal
  deriving DecidableEq, Repr

/-- What stands at a location. A `command` is an executable file whose behaviour is given by its
name; a `pipe` is known to those that read and write by its number. -/
inductive Entry
  | file (content : Bytes)
  | link (target : Path)
  | directory
  | command (name : String)
  | device (device : Device)
  | pipe (number : Nat)
  deriving DecidableEq, Repr, Inhabited

namespace Entry

def isDirectory : Entry -> Bool
  | .directory => true
  | _ => false

def isRegular : Entry -> Bool
  | .file _ => true
  | .command _ => true
  | _ => false

def isLink : Entry -> Bool
  | .link _ => true
  | _ => false

def openMode : Entry -> Nat
  | .file _ => 0o666
  | .link _ => 0o777
  | .directory => 0o777
  | .command _ => 0o777
  | .device _ => 0o666
  | .pipe _ => 0o666

end Entry

def withhold (mask mode : Nat) : Nat :=
  mode - (mode &&& mask)

structure Node where
  entry : Entry
  mode : Nat
  changed : Nat
  deriving DecidableEq, Repr, Inhabited

namespace Node

def isDirectory (node : Node) : Bool :=
  node.entry.isDirectory

def isRegular (node : Node) : Bool :=
  node.entry.isRegular

def isExecutable (node : Node) : Bool :=
  node.mode &&& 0o111 != 0

end Node

structure Tree where
  names : List (Location × Nat)
  nodes : List (Nat × Node)
  -- The number of the next node.
  fresh : Nat
  -- The time at which changes happen.
  now : Nat := 0
  -- The permissions that new nodes do not get.
  mask : Nat := 0o022
  deriving Inhabited

namespace Tree

def rootNumber : Nat := 0

def empty : Tree :=
  { names := []
    nodes := [(rootNumber, { entry := .directory, mode := 0o755, changed := 0 })]
    fresh := rootNumber + 1 }

def number? (tree : Tree) (location : Location) : Option Nat :=
  if location.isEmpty then some rootNumber
  else (tree.names.find? fun item => item.1 == location).map Prod.snd

def node? (tree : Tree) (number : Nat) : Option Node :=
  (tree.nodes.find? fun item => item.1 == number).map Prod.snd

def lookup (tree : Tree) (location : Location) : Option Node :=
  (tree.number? location).bind tree.node?

def isDirectory (tree : Tree) (location : Location) : Bool :=
  (tree.lookup location).any Node.isDirectory

def modifyNode (number : Nat) (change : Node -> Node) (tree : Tree) : Tree :=
  match tree.node? number with
  | none => tree
  | some node =>
    { tree with
      nodes := (number, change node) :: tree.nodes.filter fun item => item.1 != number }

def noteAbove (location : Location) (tree : Tree) : Tree :=
  match tree.number? location.dropLast with
  | some number => tree.modifyNode number fun node => { node with changed := tree.now }
  | none => tree

def name (tree : Tree) (location : Location) (number : Nat) : Tree :=
  { tree with
    names := (location, number) :: tree.names.filter fun item => item.1 != location }.noteAbove
    location

def insert (tree : Tree) (location : Location) (entry : Entry) : Tree :=
  let mask := if entry.isLink then 0 else tree.mask
  let node : Node := { entry, mode := withhold mask entry.openMode, changed := tree.now }
  { tree with
    nodes := (tree.fresh, node) :: tree.nodes
    fresh := tree.fresh + 1 }.name location tree.fresh

def erase (tree : Tree) (location : Location) : Tree :=
  { tree with
    names := tree.names.filter fun item => !location.isPrefixOf item.1 }.noteAbove location

def below (tree : Tree) (location : Location) : List (Location × Nat × Node) :=
  tree.names.filterMap fun (place, number) =>
    if location.isPrefixOf place && location.length < place.length then
      (tree.node? number).map fun node => (place.drop location.length, number, node)
    else none

def setContent (number : Nat) (content : Bytes) (tree : Tree) : Tree :=
  tree.modifyNode number fun node => { node with entry := .file content, changed := tree.now }

end Tree

end AnsibleTooling.Files
