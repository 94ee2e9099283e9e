import AnsibleTooling.Files.Operations

set_option autoImplicit false

namespace AnsibleTooling.Files

def colon : UInt8 := 58

def splitAtByte (separator : UInt8) : Bytes -> List Bytes
  | [] => [[]]
  | byte :: rest =>
    match splitAtByte separator rest with
    | [] => [[]]
    | part :: parts => if byte == separator then [] :: part :: parts else (byte :: part) :: parts

def hasSeparator (program : Path) : Bool :=
  program.bytes.contains Path.separator

def directories (searchPath : Bytes) : List Path :=
  (splitAtByte colon searchPath).map fun entry => { bytes := entry }

def searchPathOf? (entries : List Path) : Option Bytes :=
  if entries.any fun entry => entry.bytes.contains colon then none
  else some ([colon].intercalate (entries.map Path.bytes))

def candidate (name : Path) (entry : Path) : Path :=
  if entry.isEmpty then name else { bytes := entry.bytes ++ Path.separator :: name.bytes }

def candidates (searchPath : Bytes) (name : Path) : List Path :=
  (directories searchPath).map (candidate name)

structure Image where
  command : String
  -- The name under which it is run.
  name : Bytes
  arguments : List Bytes
  deriving DecidableEq, Repr

def isBlankByte (byte : UInt8) : Bool :=
  byte == 32 || byte == 9

def headSize : Nat := 256

def headOf (content : Bytes) : Bytes :=
  (content ++ List.replicate (headSize - content.length) 0).take headSize

/-- The line of a head that names an interpreter, after its first two bytes. A line that does not
end in the head must at least show the end of a name there. -/
def interpreterText? (head : Bytes) : Option Bytes :=
  let line := head.takeWhile fun byte => byte != 10 && byte != 0
  let trim (text : Bytes) : Bytes := (text.reverse.dropWhile isBlankByte).reverse
  if head[line.length]? == some 10 then some (trim (line.drop 2))
  else
    let rest := (head.drop 2).dropWhile isBlankByte
    if rest.any fun byte => isBlankByte byte || byte == 0 then
      some (trim ((head.take (headSize - 1)).drop 2))
    else none

def interpreter? (content : Bytes) : Option (Bytes × Option Bytes) := do
  let text <- interpreterText? (headOf content)
  let text := text.dropWhile isBlankByte
  if text.isEmpty then none
  else
    let name := text.takeWhile fun byte => !isBlankByte byte && byte != 0
    let rest := text.drop name.length
    let argument :=
      if rest.head?.any isBlankByte then
        some ((rest.dropWhile isBlankByte).takeWhile fun byte => byte != 0)
      else none
    some (name, argument)

def interpreterLimit : Nat := 5

def shellName : String := "/bin/sh"

variable (tree : Tree) (directory : Location)

def executable (path : Path) : Except Io.Failure Entry := do
  if path.isEmpty then .error .accessDenied
  else
    let found <- find tree directory true path
    if found.node.isRegular && found.node.isExecutable then return found.entry
    else .error .accessDenied

structure Given where
  -- The name under which it is run.
  name : Bytes
  -- The arguments after the name.
  arguments : List Bytes
  -- Variables, each as its name, an equals sign and its value.
  environment : List Bytes

namespace Given

def texts (given : Given) : List Bytes :=
  given.name :: given.arguments ++ given.environment

def longestText : Nat := 131071

def room : Nat := 2097152

def size (path : Path) (given : Given) : Nat :=
  given.texts.foldl (fun sum text => sum + text.length + 9) (path.bytes.length + 1)

def fits (path : Path) (given : Given) : Bool :=
  given.texts.all (fun text => text.length <= longestText) && given.size path <= room

end Given

def imageOf : Nat -> Given -> Path -> Except Io.Failure Image
  | 0, _, path => do
    let _ <- executable tree directory path
    .error .linkLoop
  | depth + 1, given, path => do
    let entry <- executable tree directory path
    if !given.fits path then .error .tooManyArguments
    match entry with
    | .command command => return { command, name := given.name, arguments := given.arguments }
    | .file (35 :: 33 :: content) =>
      match interpreter? (35 :: 33 :: content) with
      | none => .error .badExecutable
      | some (name, argument) =>
        let arguments := argument.toList ++ path.bytes :: given.arguments
        imageOf depth { given with name, arguments } { bytes := name }
    | _ => .error .badExecutable

def image (given : Given) (path : Path) : Except Io.Failure Image :=
  if path.isEmpty then .error .notFound
  else imageOf tree directory (interpreterLimit + 1) given path

def isAbsence (failure : Io.Failure) : Bool :=
  failure = .notFound || failure = .notDirectory

/-- The first candidate that can be run. One that may not be run is passed over, but decides
the failure if no other is found. -/
def firstImage (denied : Bool) (given : Given) : List Path -> Except Io.Failure Image
  | [] => .error (if denied then .accessDenied else .notFound)
  | path :: rest =>
    match image tree directory given path with
    | .error .accessDenied => firstImage true given rest
    | .error failure =>
      if isAbsence failure then firstImage denied given rest else .error failure
    | result => result

def longestSearch : Nat := 4095

/-- The entries of a search path in which a program is looked for. One that is longer than the
path is thought to be is taken for the working directory, or left out at the end. -/
def searchEntries (searchPath : Bytes) : List Path :=
  let limit := min searchPath.length longestSearch
  let entries := directories searchPath
  let shortened := entries.map fun entry : Path =>
    if limit < entry.bytes.length then ({ bytes := [] } : Path) else entry
  if entries.getLast?.any fun entry => limit < entry.bytes.length then shortened.dropLast
  else shortened

def searchImage (searchPath : Bytes) (given : Given) : Except Io.Failure Image :=
  let program : Path := { bytes := given.name }
  if program.isEmpty then .error .notFound
  else if hasSeparator program then image tree directory given program
  else firstImage tree directory false given ((searchEntries searchPath).map (candidate program))

def shellImage (given : Given) (path : Path) : Image :=
  { command := "sh", name := Text.encode shellName, arguments := path.bytes :: given.arguments }

def scriptImage (given : Given) (path : Path) : Except Io.Failure Image :=
  match image tree directory given path with
  | .error .badExecutable => .ok (shellImage given path)
  | result => result

def searchScript (searchPath : Bytes) (given : Given) : Except Io.Failure Image :=
  match searchImage tree directory searchPath given with
  | .error .badExecutable =>
    let program : Path := { bytes := given.name }
    let places :=
      if hasSeparator program then [program]
      else (searchEntries searchPath).map (candidate program)
    match places.find? (isExecutable tree directory) with
    | some script => .ok (shellImage given script)
    | none => .error .badExecutable
  | result => result

def lastImage (failure : Io.Failure) (given : Given) : List Path -> Except Io.Failure Image
  | [] => .error failure
  | path :: rest =>
    match scriptImage tree directory given path with
    | .ok image => .ok image
    | .error other => lastImage (if isAbsence other then failure else other) given rest

/-- The number of the first candidate that is an executable file or is known to be right. Of the
failures of those before it the last decides, unless it is that there is no such file. -/
def firstExecutable (isSure : Nat -> Bool) (failure : Io.Failure) :
    List (Path × Nat) -> Except Io.Failure Nat
  | [] => .error failure
  | (path, index) :: rest =>
    if isSure index then .ok index
    else
      match find tree directory true path with
      | .error other =>
        firstExecutable isSure (if isAbsence other then failure else other) rest
      | .ok found =>
        if found.node.isRegular && found.node.isExecutable then .ok index
        else firstExecutable isSure .accessDenied rest

def placesOf (searchPath : Bytes) (program : Path) : List Path :=
  if hasSeparator program then [program] else candidates searchPath program

def expandHome (home : Path) (path : Path) : Path :=
  match lineage path with
  | name :: rest =>
    if !path.isAbsolute && name == Text.encode "~" then
      rest.foldl (fun path name => path.join { bytes := name }) home
    else path
  | [] => path

def fromRoot (path : Path) : Path :=
  if path.isAbsolute then path
  else (Path.ofNames directory).join (ofLineage false path.names)

def partCount (path : Path) : Nat :=
  (if path.isAbsolute then 1 else 0) + (lineage path).length

/-- The executable file that a name stands for, as an absolute path. A name of several parts is
taken from the working directory, any other from the search path, if there is one. -/
def which (home : Path) (searchPath : Option Bytes) (name : Path) : Option Path :=
  let places :=
    if 1 < partCount name then [name]
    else (directories <$> searchPath).getD [] |>.map fun entry => (expandHome home entry).join name
  (places.map (fromRoot directory)).find? (isExecutable tree directory)

end AnsibleTooling.Files
