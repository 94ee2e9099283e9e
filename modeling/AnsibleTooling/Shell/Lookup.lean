import AnsibleTooling.Files.Search
import AnsibleTooling.Shell.Job
import AnsibleTooling.Shell.Utility.Options

set_option autoImplicit false

namespace AnsibleTooling.Shell

open Job

def standardPath : Chars :=
  "/usr/local/sbin:/usr/local/bin:/usr/sbin:/usr/bin:/sbin:/bin".toList

structure Search where
  path : Chars
  remembers : Bool := false

def ownSearch : Job Search := do
  return { path := (<- value? pathName).getD [], remembers := true }

def standardSearch : Search := { path := standardPath }

def inheritedPath : Job Chars := do
  return (<- value? pathName).getD "/bin:/usr/bin".toList

def given (name : Chars) (arguments : List Chars) : Job Files.Given := do
  let binding (entry : Chars × Variable) : Bytes :=
    toBytes (entry.1 ++ '=' :: entry.2.value?.getD [])
  return {
    name := toBytes name
    arguments := arguments.map toBytes
    environment := (<- process).inherited.map binding }

def whyNot (failure : Io.Failure) : Chars :=
  match failure with
  | .notFound => "not found".toList
  | .notDirectory => "not found".toList
  | failure => Utility.reason failure

def failureStatus : Io.Failure -> Nat
  | .notFound => 127
  | .notDirectory => 127
  | .linkLoop => 127
  | .nameTooLong => 127
  | _ => 126

def Search.places (search : Search) (name : Chars) : List Path :=
  Files.placesOf (toBytes search.path) (Job.path name)

def remembered? (name : Chars) : Job (Option Remembered) := do
  return (<- process).remembered.find? fun known => known.name == name

def remember (name : Chars) (index : Nat) : Job Unit := do
  let entry : Remembered := { name, index }
  let isKnown := (<- remembered? name).isSome
  modifyProcess fun process => { process with
    remembered :=
      if isKnown then
        process.remembered.map fun known => if known.name == name then entry else known
      else process.remembered ++ [entry] }

def disremember (name : Chars) : Job Unit :=
  modifyProcess fun process => { process with
    remembered := process.remembered.filter fun known => known.name != name }

/-- Finds the entry of the search path at which there is a program. One that is remembered is looked
for only if it is outdated, and then entries that are absolute paths are not looked at once more. -/
def lookUp (search : Search) (name : Chars) : Job (Except Io.Failure Nat) := do
  let known? <- if search.remembers then remembered? name else pure none
  match known?.filter fun known => !known.isOutdated with
  | some known => return .ok known.index
  | none =>
    let isNew (place : Path × Nat) : Bool :=
      !place.1.isAbsolute || !known?.any fun known => place.2 < known.index
    let places := (search.places name).zipIdx
    let isSure (index : Nat) : Bool :=
      known?.any (fun known => known.index == index) &&
        places.any fun place => place.2 == index && place.1.isAbsolute
    let found :=
      Files.firstExecutable (<- files) (<- process).directory isSure .notFound
        (places.filter isNew)
    if search.remembers then
      match found with
      | .ok index => remember name index
      | .error _ => disremember name
    return found

def placeAt (search : Search) (name : Chars) (index : Nat) : Chars :=
  ((search.places name)[index]?.map fun place => ofBytes place.bytes).getD name

end AnsibleTooling.Shell
