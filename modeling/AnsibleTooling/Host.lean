import AnsibleTooling.Files.Operations
import AnsibleTooling.Log
import AnsibleTooling.Report
/-!
What a session asks of its surroundings. A `World` holds the files and whatever else the
surroundings keep; a `Host` says how they answer. Nothing is assumed of a host beyond its types.
-/

set_option autoImplicit false

namespace AnsibleTooling

/-- The files, the working directory, and the state of the surroundings. -/
structure World (S : Type) where
  tree : Files.Tree
  workDir : Files.Location
  inner : S
  -- Milliseconds spent on programs that were run to their end.
  clock : Nat := 0
  -- What the surroundings have logged since that was last taken note of.
  records : List LogRecord := []

def World.workPath {S : Type} (world : World S) : Path :=
  Path.ofNames world.workDir

def World.hasWorkDir {S : Type} (world : World S) : Bool :=
  world.tree.isDirectory world.workDir

def World.log {S : Type} (record : LogRecord) (world : World S) : World S :=
  { world with records := world.records ++ [record] }

def commandLine (program : Path) (arguments : List Bytes) : String :=
  arguments.foldl (fun line argument => line ++ " " ++ Text.decode argument) program.display

structure ProcessOutput where
  success : Bool
  stdout : String
  stderr : String
  deriving DecidableEq, Repr, Inhabited

inductive Deed
  | ran (line : String)
  | logged (record : LogRecord)
  | passed (milliseconds : Nat)
  deriving DecidableEq, Repr

structure Attempt (S : Type) where
  result : Except Error Unit
  world : World S
  deeds : List Deed

/-- Starts programs. A program that ends in failure is an output; only one that cannot be started
is an error. -/
structure Runner (S : Type) where
  run : Path -> List Bytes -> World S -> Except Error ProcessOutput × World S
  which : String -> World S -> Option Path

abbrev Installer (S : Type) := InstallPlan -> World S -> Attempt S

structure Client (S : Type) where
  isRunning : World S -> Bool
  start : ServerLaunch -> World S -> Except Error Unit × World S
  stop : World S -> Except Error Unit × World S
  send : String -> Json.Value -> World S -> Except Error Unit × World S
  -- The next notification of a method, or none within so many milliseconds.
  await : String -> Nat -> World S -> Except Error (Option Json.Value) × World S

structure Showing where
  name : String
  program : Path
  arguments : List String
  deriving DecidableEq, Repr

structure Terminal (S : Type) where
  isOpen : World S -> Bool
  start : String -> Path -> List String -> World S -> Except Error Unit × World S
  dispose : World S -> Except Error Unit × World S
  -- Waits for the program in the terminal to end.
  wait : World S -> Except Error Unit × World S

structure Host (S : Type) where
  runner : Runner S
  confirm : String -> World S -> Except Error Bool × World S
  install : Installer S
  client : Client S
  terminal : Terminal S

structure Context where
  settings : Settings := {}
  storage : Path
  platform : Platform := .posix
  -- Milliseconds between two reports of a running installation.
  progressInterval : Nat := 2000
  deriving DecidableEq, Repr, Inhabited

end AnsibleTooling
