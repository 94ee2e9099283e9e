import AnsibleTooling.Shell.Job

set_option autoImplicit false

namespace AnsibleTooling.Shell.Job

inductive Overwriting
  | replaces
  | appends
  | keeps
  -- Only a file that was not there before may be written.
  | refuses
  deriving DecidableEq, Repr

def removeKept (handle : Handle) : Job Unit :=
  modifyProcess fun process => { process with kept := process.kept.erase handle }

def meet (handle : Handle) (isMet : Scene -> Bool) : Job Handle := do
  modifyProcess fun process => { process with kept := handle :: process.kept }
  waitFor isMet
  removeKept handle
  return handle

def openPipe (isNamed reads writes : Bool) (number : Nat) : Job Handle := do
  let before := (<- get).pipe number
  if isNamed then
    modify (Scene.modifyPipe number fun pipe => { pipe with
      readers := pipe.readers + (if reads then 1 else 0)
      writers := pipe.writers + (if writes then 1 else 0) })
  match reads, writes with
  | true, true => return .duplex number
  | true, false =>
    if isNamed then
      meet (.source number) fun scene =>
        scene.isWritten number || before.writers < (scene.pipe number).writers
    else return .source number
  | _, _ =>
    if isNamed then
      meet (.sink number) fun scene =>
        scene.isRead number || before.readers < (scene.pipe number).readers
    else return .sink number

def openFound (number : Nat) (entry : Files.Entry) (reads writes isAppended : Bool) :
    Job (Except Io.Failure Handle) := do
  match entry with
  | .pipe pipe =>
    let isNamed := ((<- get).tree.node? number).isSome
    return .ok (<- openPipe isNamed reads writes pipe)
  | .device .terminal => return .error Files.noDevice
  | _ => return .ok (<- openNode { node := number, reads, writes, isAppended })

def openToRead (name : Chars) : Job (Except Io.Failure Handle) := do
  match <- find true name with
  | .error failure => return .error failure
  | .ok found => openFound found.number found.entry true false false

def openToWrite (how : Overwriting) (reads : Bool) (name : Chars) :
    Job (Except Io.Failure Handle) := do
  let reached <- changeFiles fun tree directory => do
    let isThere := Files.exists? tree directory (path name)
    let (number, made) <- Files.reach tree directory (path name)
    let entry := ((made.node? number).map Files.Node.entry).getD .directory
    let isLink := (Files.find tree directory false (path name)).toOption.any fun found =>
      found.entry.isLink
    if how = .refuses && (isThere && entry.isRegular || !isThere && isLink) then
      .error .alreadyThere
    else
      let isCut := how = .replaces && entry.isRegular
      return ((number, entry), if isCut then made.setContent number [] else made)
  match reached with
  | .error failure => return .error failure
  | .ok (number, entry) => openFound number entry reads true (how = .appends)

def withOpened {A : Type} (name : Chars) (use : Handle -> Job (Except Io.Failure A)) :
    Job (Except Io.Failure A) := do
  match <- openToRead name with
  | .error failure => return .error failure
  | .ok handle =>
    modifyProcess fun process => { process with kept := handle :: process.kept }
    followedBy (use handle) (removeKept handle)

def contentOf (name : Chars) : Job (Except Io.Failure Bytes) :=
  withOpened name readAll

end AnsibleTooling.Shell.Job
