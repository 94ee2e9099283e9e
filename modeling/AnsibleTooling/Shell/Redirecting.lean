import AnsibleTooling.Shell.Expansion
import AnsibleTooling.Shell.Runner
import AnsibleTooling.Shell.Stream
import AnsibleTooling.Shell.Utility.Options

set_option autoImplicit false

namespace AnsibleTooling.Shell

open Job

variable (run : Runner)

def cannotCreate (name : Chars) (failure : Io.Failure) : Chars :=
  let reason :=
    match failure with
    | .notFound => "Directory nonexistent".toList
    | .notDirectory => "Directory nonexistent".toList
    | failure => Utility.reason failure
  "cannot create ".toList ++ name ++ ": ".toList ++ reason

def cannotOpen (name : Chars) (failure : Io.Failure) : Chars :=
  let reason :=
    match failure with
    | .notFound => "No such file".toList
    | .notDirectory => "No such file".toList
    | failure => Utility.reason failure
  "cannot open ".toList ++ name ++ ": ".toList ++ reason

def openFile (opening : Opening) (name : Chars) : Job Handle := do
  let create (how : Overwriting) (reads : Bool) : Job Handle := do
    match <- openToWrite how reads name with
    | .ok handle => return handle
    | .error failure =>
      let isThere := Files.exists? (<- files) (<- process).directory (path name)
      if how = .refuses && isThere && failure != .alreadyThere then fail (cannotOpen name failure)
      else fail (cannotCreate name failure)
  match opening with
  | .read =>
    match <- openToRead name with
    | .ok handle => return handle
    | .error failure => fail (cannotOpen name failure)
  | .replace => create (if (<- process).hasOption 'C' then .refuses else .replaces) false
  | .clobber => create .replaces false
  | .append => create .appends false
  | .both => create .keeps true

inductive Target
  | file (opening : Opening) (name : Chars)
  | copy (other : Nat)
  | close
  | text (word : Word)

def expandTarget : Redirection -> Job (Nat × Target)
  | .file descriptor opening word => do
    return (descriptor, .file opening (<- expandText (substitute run) word))
  | .copy descriptor word => do
    match <- expandText (substitute run) word with
    | ['-'] => return (descriptor, .close)
    | name =>
      match name.filter Char.isDigit, name with
      | [_], [digit] => return (descriptor, .copy (digit.toNat - 48))
      | _, _ => do
        modifyProcess fun process => { process with line := process.lineRead }
        fail "Syntax error: Bad fd number".toList
  | .text descriptor word => return (descriptor, .text word)

def redirect (descriptor : Nat) (handle? : Option Handle) : Job Unit := do
  modifyProcess fun process => { process with
    kept := (process.handle? descriptor).toList ++ process.kept }
  match handle? with
  | some handle => setHandle descriptor handle
  | none => closeHandle descriptor

def applyTarget (descriptor : Nat) : Target -> Job Unit
  | .file opening name => do redirect descriptor (some (<- openFile opening name))
  | .text word => do
    let content <- expandText (substitute run) word
    redirect descriptor (some (.source (<- newPipe (Pipe.ofContent (toBytes content)))))
  | .close => redirect descriptor none
  | .copy other => do
    match (<- process).handle? other with
    | some handle => redirect descriptor (some handle)
    | none => fail ((toString other).toList ++ ": Bad file descriptor".toList)

def applyTargets : List (Nat × Target) -> Job Bool
  | [] => return true
  | (descriptor, target) :: rest => do
    match <- outcome (applyTarget run descriptor target) with
    | .ok () => applyTargets rest
    | .error .failed =>
      setStatus failedStatus
      return false
    | .error leave => throw leave

def restoreHandles (saved : Process) (targets : List (Nat × Target)) : Job Unit := do
  for (descriptor, _) in targets do
    match saved.handle? descriptor with
    | some handle => setHandle descriptor handle
    | none => closeHandle descriptor
  modifyProcess fun process => { process with kept := saved.kept }
  modify Scene.sweep

def withRedirections (redirections : List Redirection) (job orElse : Job Unit) : Job Unit := do
  let targets <- redirections.mapM (expandTarget run)
  let saved <- process
  followedBy (do if <- applyTargets run targets then job else orElse)
    (restoreHandles saved targets)

end AnsibleTooling.Shell
