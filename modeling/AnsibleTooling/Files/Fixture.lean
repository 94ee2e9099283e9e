import AnsibleTooling.Files.Operations

set_option autoImplicit false

namespace AnsibleTooling.Files

structure Fixture where
  path : Path
  entry : Entry
  isExecutable : Bool := false
  deriving Repr

namespace Fixture

def parent (path : Path) : Path :=
  ofLineage path.isAbsolute (lineage path).dropLast

def mode (fixture : Fixture) : Nat :=
  if fixture.isExecutable then 0o755 else 0o644

def place (directory : Location) (tree : Tree) (fixture : Fixture) : Tree :=
  let tree := (makeDirectories tree directory (parent fixture.path)).2
  match fixture.entry with
  | .directory => (makeDirectories tree directory fixture.path).2
  | .link target => (makeLink tree directory target fixture.path).toOption.getD tree
  | .file content =>
    let written := do
      let tree <- write tree directory false fixture.path content
      setMode tree directory (fun _ => fixture.mode) fixture.path
    written.toOption.getD tree
  | entry => (create tree directory fixture.path entry).toOption.getD tree

def placeAll (directory : Location) (tree : Tree) (fixtures : List Fixture) : Tree :=
  fixtures.foldl (place directory) tree

end Fixture

end AnsibleTooling.Files
