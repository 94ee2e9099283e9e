import AnsibleTooling.Files.Operations
import AnsibleTooling.Shell.Signal

set_option autoImplicit false

namespace AnsibleTooling.Shell

def lookup? {A : Type} (key : Chars) (entries : List (Chars × A)) : Option A :=
  (entries.find? fun entry => entry.1 == key).map Prod.snd

def setEntry {K A : Type} [BEq K] (key : K) (value : A) (entries : List (K × A)) :
    List (K × A) :=
  (key, value) :: entries.filter fun entry => !(entry.1 == key)

def numbered? {A : Type} (number : Nat) (entries : List (Nat × A)) : Option A :=
  (entries.find? fun entry => entry.1 == number).map Prod.snd

structure Pipe where
  -- What is to be read next.
  content : Bytes := []
  -- What was written after that, latest first.
  recent : List Bytes := []
  size : Nat := 0
  -- How often it was opened by its name, to be read and to be written.
  readers : Nat := 0
  writers : Nat := 0
  -- Whether something outside can still write.
  isFed : Bool := false
  -- Whether something outside reads, however much there is.
  isDrained : Bool := false
  deriving Inhabited

namespace Pipe

def ofContent (content : Bytes) : Pipe :=
  { content, size := content.length }

def all (pipe : Pipe) : Bytes :=
  if pipe.recent.isEmpty then pipe.content else pipe.content ++ pipe.recent.reverse.flatten

def write (bytes : Bytes) (pipe : Pipe) : Pipe :=
  { pipe with recent := bytes :: pipe.recent, size := pipe.size + bytes.length }

def leave (content : Bytes) (pipe : Pipe) : Pipe :=
  { pipe with content, recent := [], size := content.length }

def holdsByte (byte : UInt8) (pipe : Pipe) : Bool :=
  pipe.content.contains byte || pipe.recent.any fun bytes => bytes.contains byte

def isFull (pipe : Pipe) : Bool :=
  !pipe.isDrained && 65536 <= pipe.size

end Pipe

structure Opened where
  node : Nat
  reads : Bool
  writes : Bool
  isAppended : Bool := false
  offset : Nat := 0
  deriving DecidableEq, Repr

/-- What a descriptor stands for: an end of a pipe or both, or something opened, by numbers. -/
inductive Handle
  | source (pipe : Nat)
  | sink (pipe : Nat)
  | duplex (pipe : Nat)
  | opened (number : Nat)
  deriving DecidableEq, Repr

namespace Handle

def source? : Handle -> Option Nat
  | .source pipe => some pipe
  | .duplex pipe => some pipe
  | _ => none

def sink? : Handle -> Option Nat
  | .sink pipe => some pipe
  | .duplex pipe => some pipe
  | _ => none

def pipe? (handle : Handle) : Option Nat :=
  handle.source?.or handle.sink?

end Handle

structure Variable where
  value? : Option Chars
  exported : Bool := false
  fixed : Bool := false
  deriving Inhabited

inductive Ending
  | exited (status : Nat)
  | killed (signal : Nat)
  deriving DecidableEq, Repr

def Ending.status : Ending -> Nat
  | .exited status => status
  | .killed signal => signal + 128

def Ending.text : Ending -> String
  | .exited status => s!"exit status: {status}"
  | .killed signal =>
    s!"signal: {signal}" ++ ((Signal.label? signal).map fun label => s!" ({label})").getD ""

/-- How far arguments were read as options: the argument that comes next, counted from one, and how
many characters of the one before it were read, unless that is used up. -/
structure OptionPlace where
  next : Nat := 1
  inside? : Option Nat := none

structure Batch where
  number : Nat
  members : List (Nat × Option Ending)
  isWaited : Bool := false

namespace Batch

def hasEnded (batch : Batch) : Bool :=
  batch.members.all fun entry => entry.2.isSome

def ending? (batch : Batch) : Option Ending :=
  batch.members.getLast?.bind Prod.snd

def last? (batch : Batch) : Option Nat :=
  batch.members.getLast?.map Prod.fst

end Batch

/-- At which entry of the search path a program was found. That is looked at again after a change of
the working directory. -/
structure Remembered where
  name : Chars
  index : Nat
  isOutdated : Bool := false

structure Limit where
  letter : Char
  soft : Option Nat
  hard : Option Nat

structure Process where
  name : Chars := []
  arguments : List Chars := []
  bindings : List (Chars × Variable) := []
  functions : List (Chars × Command) := []
  -- Words that stand for other text where a command can begin.
  aliases : List (Chars × Chars) := []
  handles : List (Nat × Handle) := []
  -- What the commands around the present one keep open.
  kept : List Handle := []
  directory : Files.Location := []
  -- The working directory by the names that led to it.
  place : Chars := []
  status : Nat := 0
  -- The status of the latest command whose output was taken into the present one.
  outputStatus : Nat := 0
  options : Chars := []
  -- The permissions that new files do not get.
  mask : Nat := 18
  -- What is done on signals; an empty text stands for nothing.
  traps : List (Nat × Chars) := []
  -- Signals that came and have not been dealt with.
  signals : List Nat := []
  -- The number of the shell that the process is a part of, and of the process that started it.
  shell : Nat := 0
  parent : Nat := 0
  -- The status with which a shell ends that is told to end while it does what was asked for on a
  -- signal.
  heldStatus? : Option Nat := none
  -- The line of the present command, and its name if the shell does it by itself.
  line : Nat := 1
  -- The line up to which the script has been read.
  lineRead : Nat := 1
  builtin? : Option Chars := none
  -- What local variables hid, for each function that is being called, and how many loops run in
  -- the present one.
  frames : List (List (Chars × Option Variable)) := []
  loops : Nat := 0
  optionPlace : OptionPlace := {}
  -- What was started to go on beside the process, latest first.
  batches : List Batch := []
  latestChild? : Option Nat := none
  -- Programs that have been found.
  remembered : List Remembered := []
  -- Why output of the present program could not be written.
  lost? : Option Io.Failure := none
  -- Limits that have been changed.
  limits : List Limit := []
  ending? : Option Ending := none
  deriving Inhabited

namespace Process

def allHandles (process : Process) : List Handle :=
  process.handles.map Prod.snd ++ process.kept

def holds (process : Process) (handle : Handle) : Bool :=
  process.allHandles.contains handle

def handle? (process : Process) (descriptor : Nat) : Option Handle :=
  numbered? descriptor process.handles

def binding? (process : Process) (name : Chars) : Option Variable :=
  lookup? name process.bindings

def value? (process : Process) (name : Chars) : Option Chars :=
  (process.binding? name).bind Variable.value?

def trap? (process : Process) (signal : Nat) : Option Chars :=
  numbered? signal process.traps

def hasOption (process : Process) (letter : Char) : Bool :=
  process.options.contains letter

def fatalSignal? (process : Process) : Option Nat :=
  process.signals.find? fun signal =>
    signal == Signal.killNumber || (process.trap? signal).isNone

def receive (signal : Nat) (process : Process) : Process :=
  let ignores :=
    if signal == Signal.killNumber then false
    else
      match process.trap? signal with
      | none => Signal.isHarmless signal
      | some action => action.isEmpty
  if ignores || process.ending?.isSome then process
  else { process with signals := process.signals ++ [signal] }

def inherited (process : Process) : List (Chars × Variable) :=
  process.bindings.filterMap fun (name, held) =>
    if held.exported && held.value?.isSome then some (name, { held with fixed := false }) else none

def replaced (process : Process) : Process := { process with
  bindings := process.inherited
  functions := []
  aliases := []
  kept := []
  status := 0
  options := []
  traps := process.traps.filter fun entry => entry.2.isEmpty && entry.1 != Signal.exitNumber
  builtin? := none
  frames := []
  loops := 0
  batches := []
  latestChild? := none
  remembered := []
  lost? := none }

def child (parent : Nat) (process : Process) : Process := { process with
  parent
  traps := process.traps.filter fun entry => entry.2.isEmpty && entry.1 != Signal.exitNumber
  signals := []
  batches := [] }

def finish (ending : Ending) (process : Process) : Process :=
  { process with handles := [], kept := [], ending? := some ending }

end Process

structure Scene where
  tree : Files.Tree
  pipes : List (Nat × Pipe)
  opened : List (Nat × Opened) := []
  processes : List (Nat × Process)
  -- The number of the next pipe, process or opened file.
  fresh : Nat

namespace Scene

def pipe (number : Nat) (scene : Scene) : Pipe :=
  (numbered? number scene.pipes).getD {}

def setPipe (number : Nat) (pipe : Pipe) (scene : Scene) : Scene :=
  { scene with pipes := setEntry number pipe scene.pipes }

def modifyPipe (number : Nat) (change : Pipe -> Pipe) (scene : Scene) : Scene :=
  scene.setPipe number (change (scene.pipe number))

def opened? (number : Nat) (scene : Scene) : Option Opened :=
  numbered? number scene.opened

def setOpened (number : Nat) (opened : Opened) (scene : Scene) : Scene :=
  { scene with opened := setEntry number opened scene.opened }

def process (number : Nat) (scene : Scene) : Process :=
  (numbered? number scene.processes).getD {}

def setProcess (number : Nat) (process : Process) (scene : Scene) : Scene :=
  { scene with processes := setEntry number process scene.processes }

def modifyProcess (number : Nat) (change : Process -> Process) (scene : Scene) : Scene :=
  scene.setProcess number (change (scene.process number))

def removeProcess (number : Nat) (scene : Scene) : Scene :=
  { scene with processes := scene.processes.filter fun entry => entry.1 != number }

def ending? (number : Nat) (scene : Scene) : Option Ending :=
  (scene.process number).ending?

def holdsAny (holds : Handle -> Bool) (scene : Scene) : Bool :=
  scene.processes.any fun entry => entry.2.allHandles.any holds

def holds (handle : Handle) (scene : Scene) : Bool :=
  scene.holdsAny (· == handle)

def isWritten (number : Nat) (scene : Scene) : Bool :=
  (scene.pipe number).isFed || scene.holdsAny fun handle => handle.sink? == some number

def isRead (number : Nat) (scene : Scene) : Bool :=
  (scene.pipe number).isDrained || scene.holdsAny fun handle => handle.source? == some number

def sweep (scene : Scene) : Scene :=
  let handles := scene.processes.flatMap fun entry => entry.2.allHandles
  let isOpen (number : Nat) : Bool := handles.any fun handle => handle.pipe? == some number
  { scene with
    opened := scene.opened.filter fun entry => handles.contains (.opened entry.1)
    pipes := scene.pipes.filterMap fun (number, pipe) =>
      if pipe.isFed || pipe.isDrained || isOpen number then some (number, pipe)
      else if pipe.readers == 0 && pipe.writers == 0 then none
      else some (number, pipe.leave []) }

def setTime (now : Nat) (scene : Scene) : Scene :=
  { scene with tree := { scene.tree with now } }

end Scene

def descriptorDirectory : Files.Location :=
  ["proc", "self", "fd"].map Text.encode

def Scene.filesFor (process : Process) (scene : Scene) : Files.Tree :=
  let add (tree : Files.Tree) (entry : Nat × Handle) : Files.Tree :=
    let place := descriptorDirectory ++ [Text.encode (toString entry.1)]
    match entry.2, entry.2.pipe? with
    | .opened number, _ =>
      match scene.opened? number with
      | some opened => { tree with names := (place, opened.node) :: tree.names }
      | none => tree
    | _, some pipe => tree.insert place (.pipe pipe)
    | _, none => tree
  process.handles.foldl add scene.tree

def makesDescriptors (seen changed : Files.Tree) : Bool :=
  changed.names.any fun item =>
    descriptorDirectory.isPrefixOf item.1 && !(seen.number? item.1).isSome

/-- Files as they are for everyone, from what a process has made of those that it saw. -/
def withoutDescriptors (before seen changed : Files.Tree) : Files.Tree :=
  let isOwn (location : Files.Location) : Bool :=
    descriptorDirectory.isPrefixOf location && descriptorDirectory.length < location.length
  { changed with
    names := changed.names.filter fun item => !isOwn item.1
    nodes := changed.nodes.filter fun item => item.1 < before.fresh || seen.fresh <= item.1
    mask := before.mask }

end AnsibleTooling.Shell
