import AnsibleTooling.Text.Utf8
/-!
File paths: byte strings in which `/` separates names. Joining never normalizes, and only
`display` leaves the bytes.
-/

set_option autoImplicit false

namespace AnsibleTooling

structure Path where
  bytes : Bytes
  deriving DecidableEq, Repr, Inhabited

namespace Path

def separator : UInt8 := 47

def dot : UInt8 := 46

def here : Bytes := [dot]

def above : Bytes := [dot, dot]

def ofText (text : String) : Path :=
  { bytes := Text.encode text }

def display (path : Path) : String :=
  Text.decode path.bytes

def text? (path : Path) : Option String :=
  Text.decode? path.bytes

def isEmpty (path : Path) : Bool :=
  path.bytes.isEmpty

def isAbsolute (path : Path) : Bool :=
  path.bytes.head? == some separator

def split : Bytes -> List Bytes
  | [] => [[]]
  | byte :: rest =>
    match split rest with
    | [] => [[]]
    | part :: parts => if byte == separator then [] :: part :: parts else (byte :: part) :: parts

def parts (path : Path) : List Bytes :=
  split path.bytes

def names (path : Path) : List Bytes :=
  path.parts.filter fun part => !part.isEmpty && part != here

/-- An absolute part replaces the base; an empty base or one that ends in a separator gets no
further separator. -/
def join (base part : Path) : Path :=
  if part.isAbsolute then part
  else if base.bytes.isEmpty || base.bytes.getLast? == some separator then
    { bytes := base.bytes ++ part.bytes }
  else { bytes := base.bytes ++ separator :: part.bytes }

def joinText (base : Path) (part : String) : Path :=
  base.join (ofText part)

def fileName? (path : Path) : Option Bytes :=
  match path.names.getLast? with
  | some name => if name == above then none else some name
  | none => none

def extension? (path : Path) : Option Bytes := do
  let name <- path.fileName?
  let reversed := name.reverse
  let tail := reversed.takeWhile (· != dot)
  if tail.length + 1 < name.length then some tail.reverse else none

def absolute (directory path : Path) : Path :=
  directory.join path

def ofNames (names : List Bytes) : Path :=
  if names.isEmpty then { bytes := [separator] }
  else { bytes := names.flatMap (separator :: ·) }

end Path

end AnsibleTooling
