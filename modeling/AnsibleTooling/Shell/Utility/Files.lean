import AnsibleTooling.Shell.Mode
import AnsibleTooling.Shell.Utility.Options

set_option autoImplicit false

namespace AnsibleTooling.Shell.Utility

def change (complaint : Chars)
    (how : Files.Tree -> Files.Location -> Except Io.Failure Files.Tree) : Job Bool := do
  match <- Job.changeTree how with
  | .ok () => return true
  | .error failure =>
    report (complaint ++ ": ".toList ++ reason failure)
    return false

def makeDirectories (words : List Chars) : Job Nat :=
  withOperands { flags := "pv", valued := "m" } words "operand" fun options =>
    forAll options.operands fun name =>
      change ("cannot create directory ".toList ++ quoted name) fun tree directory =>
        if options.has 'p' then
          let (result, made) := Files.makeDirectories tree directory (Job.path name)
          result.map fun _ => made
        else Files.makeDirectory tree directory (Job.path name)

def removeDirectories (words : List Chars) : Job Nat :=
  withOperands { flags := "v" } words "operand" fun options =>
    forAll options.operands fun name =>
      change ("failed to remove ".toList ++ quoted name) fun tree directory => do
        let found <- Files.find tree directory false (Job.path name)
        if !found.node.isDirectory then .error .notDirectory
        else if !(tree.below found.location).isEmpty then
          .error (.other .directoryNotEmpty "Directory not empty")
        else .ok (tree.erase found.location)

def destination (tree : Files.Tree) (directory : Files.Location) (source target : Path) : Path :=
  if Files.isDirectory tree directory target then
    target.join { bytes := (source.names.getLast?).getD [] }
  else target

def overlay (keepsMode : Bool) (tree : Files.Tree) (place : Files.Location)
    (node : Files.Node) : Files.Tree :=
  let fresh (tree : Files.Tree) : Files.Tree :=
    let number := tree.fresh
    let mode := if keepsMode then node.mode else Files.withhold tree.mask (node.mode &&& 0o777)
    (tree.insert place node.entry).modifyNode number fun made => { made with
      mode := if node.entry.isLink then made.mode else mode
      changed := if keepsMode then node.changed else made.changed }
  match tree.number? place, (tree.lookup place).map Files.Node.entry, node.entry with
  | some number, some (.file _), .file content =>
    let tree := tree.setContent number content
    if keepsMode then
      tree.modifyNode number fun old => { old with mode := node.mode, changed := node.changed }
    else tree
  | _, some (.device _), _ => tree
  | _, some .directory, .directory => tree
  | _, _, _ => fresh tree

def copyNodes (keepsMode : Bool) (tree : Files.Tree) (source target : Files.Location)
    (node : Files.Node) : Files.Tree :=
  (tree.below source).reverse.foldl
    (fun tree (names, _, node) => overlay keepsMode tree (target ++ names) node)
    (overlay keepsMode tree target node)

def rename (tree : Files.Tree) (source target : Files.Location) (number : Nat) : Files.Tree :=
  let below := tree.below source
  let moved := (tree.erase target).erase source
  below.foldl (fun tree (names, number, _) => tree.name (target ++ names) number)
    (moved.name target number)

def placeFor (tree : Files.Tree) (directory : Files.Location) (follow : Bool) (target : Path) :
    Except Io.Failure Files.Location := do
  match <- Files.locate tree directory follow target with
  | .taken place => return place
  | .free parent name =>
    if Files.endsInSeparator target then .error .notDirectory else return parent ++ [name]

def withTarget (known : Options.Known) (words : List Chars)
    (run : Options -> Chars -> Chars -> Job Bool) : Job Nat :=
  withOperands known words "file operand" fun options => do
    let target := options.operands.getLast?.getD []
    match options.operands.dropLast with
    | [] => misuse ("missing destination file operand after ".toList ++ quoted target)
    | sources =>
      let directory := (<- Job.process).directory
      let isDirectory := Files.isDirectory (<- get).tree directory (Job.path target)
      if 1 < sources.length && !isDirectory then
        report ("target ".toList ++ quoted target ++ ": No such file or directory".toList)
        return 1
      else forAll sources fun source => run options source target

def transfer (moves : Bool) (options : Options) (name target : Chars) : Job Bool := do
  let isDeep := moves || options.has 'r' || options.has 'R' || options.has 'a'
  match <- Job.find (!isDeep) name with
  | .error failure =>
    report ("cannot stat ".toList ++ quoted name ++ ": ".toList ++ reason failure)
    return false
  | .ok found =>
    if found.node.isDirectory && !isDeep then
      report ("-r not specified; omitting directory ".toList ++ quoted name)
      return false
    let tree <- Job.files
    let directory := (<- Job.process).directory
    let goal := destination tree directory (Job.path name) (Job.path target)
    let shown := ofBytes goal.bytes
    let verb := if moves then "cannot move ".toList else "cannot create regular file ".toList
    match placeFor tree directory (!moves) goal with
    | .error failure =>
      report (verb ++ quoted shown ++ ": ".toList ++ reason failure)
      return false
    | .ok place =>
      if tree.number? place == some found.number then
        report (quoted name ++ " and ".toList ++ quoted shown ++ " are the same file".toList)
        return false
      else
        let keepsMode := options.has 'p' || options.has 'a'
        change (verb ++ quoted shown) fun tree _ => .ok <|
          if moves then rename tree found.location place found.number
          else copyNodes keepsMode tree found.location place found.node

def copy (words : List Chars) : Job Nat :=
  withTarget { flags := "rRapfvPLdu" } words (transfer false)

def move (words : List Chars) : Job Nat :=
  withTarget { flags := "fvTn" } words (transfer true)

def remove (words : List Chars) : Job Nat :=
  withOptions { flags := "rRfvd" } words fun options => do
    let isForced := options.has 'f'
    if options.operands.isEmpty then
      if isForced then return 0 else misuse "missing operand".toList
    else
      forAll options.operands fun name => do
        let complaint := "cannot remove ".toList ++ quoted name
        match <- Job.find false name with
        | .error failure =>
          if isForced && (failure = .notFound || failure = .notDirectory) then return true
          else
            report (complaint ++ ": ".toList ++ reason failure)
            return false
        | .ok found =>
          if found.node.isDirectory && !options.has 'r' && !options.has 'R' then
            report (complaint ++ ": Is a directory".toList)
            return false
          else
            change complaint fun tree directory => Files.remove tree directory (Job.path name)

def touch (words : List Chars) : Job Nat :=
  withOperands { flags := "acm", valued := "dt" } words "file operand" fun options =>
    forAll options.operands fun name =>
      change ("cannot touch ".toList ++ quoted name) fun tree directory =>
        if Files.exists? tree directory (Job.path name) || options.has 'c' then .ok tree
        else Files.write tree directory true (Job.path name) []

def makeLink (isSymbolic : Bool) (target goal : Path) (tree : Files.Tree)
    (directory : Files.Location) : Except Io.Failure Files.Tree := do
  if isSymbolic then Files.makeLink tree directory target goal
  else
    let found <- Files.find tree directory false target
    Files.nameAlso tree directory found.number goal

def link (words : List Chars) : Job Nat :=
  withOperands { flags := "sfnvT" } words "file operand" fun options => do
    let isSymbolic := options.has 's'
    let (targets, name) :=
      match options.operands with
      | [only] => ([only], ['.'])
      | operands => (operands.dropLast, operands.getLast?.getD [])
    forAll targets fun target => do
      let directory := (<- Job.process).directory
      let goal := destination (<- Job.files) directory (Job.path target) (Job.path name)
      let kind := if isSymbolic then "symbolic" else "hard"
      match isSymbolic, <- Job.find false target with
      | false, .error failure =>
        report ("failed to access ".toList ++ quoted target ++ ": ".toList ++ reason failure)
        return false
      | _, _ =>
        if options.has 'f' then
          let _ <- Job.changeTree fun tree directory => Files.remove tree directory goal
        change (s!"failed to create {kind} link ".toList ++ quoted (ofBytes goal.bytes))
          (makeLink isSymbolic (Job.path target) goal)

def splitMode (words : List Chars) : List Chars :=
  words.filter fun word => !(["-R".toList, "-f".toList, "-v".toList, "--".toList].contains word)

def changeMode (words : List Chars) : Job Nat := do
  match splitMode words with
  | [] => misuse "missing operand".toList
  | [mode] => misuse ("missing operand after ".toList ++ quoted mode)
  | mode :: names =>
    match Mode.change? mode with
    | none => misuse ("invalid mode: ".toList ++ quoted mode)
    | some changed =>
      let mask := (<- Job.process).mask
      let modeOf (node : Files.Node) : Nat := changed mask node.isDirectory node.mode
      forAll names fun name =>
        change ("cannot access ".toList ++ quoted name) fun tree directory =>
          Files.setMode tree directory modeOf (Job.path name)

def sortNames (names : List Chars) : List Chars :=
  names.mergeSort fun first second => !(second < first)

def entryNames (options : Options) (tree : Files.Tree) (place : Files.Location) : List Chars :=
  let names := (tree.below place).filterMap fun entry =>
    match entry.1 with
    | [name] => some (ofBytes name)
    | _ => none
  let shown :=
    if options.has 'a' then ['.'] :: ['.', '.'] :: names
    else if options.has 'A' then names
    else names.filter fun name => name.head? != some '.'
  sortNames shown

def listFiles (words : List Chars) : Job Nat :=
  withOptions { flags := "1aAdr" } words fun options => do
    let operands := if options.operands.isEmpty then [['.']] else sortNames options.operands
    let found <- operands.mapM fun name => do
      match <- Job.find true name, <- Job.find false name with
      | .ok found, _ => return some (name, found)
      | .error _, .ok found => return some (name, found)
      | .error _, .error failure =>
        report ("cannot access ".toList ++ quoted name ++ ": ".toList ++ reason failure)
        return none
    let shown := found.filterMap id
    let isListed (node : Files.Node) : Bool := node.isDirectory && !options.has 'd'
    let (directories, files) := shown.partition fun (_, found) => isListed found.node
    let line (name : Chars) : Chars := name ++ ['\n']
    let tree <- Job.files
    let isTitled := 1 < operands.length
    let lists := directories.map fun (name, found) =>
      let names := (entryNames options tree found.location).flatMap line
      if isTitled then name ++ [':', '\n'] ++ names else names
    let fileList := (files.map Prod.fst).flatMap line
    let parts := (if files.isEmpty then [] else [fileList]) ++ lists
    let _ <- print (['\n'].intercalate parts)
    return if found.all Option.isSome then 0 else 2

def readLink (words : List Chars) : Job Nat :=
  withOperands { flags := "fen" } words "operand" fun options =>
    forAll options.operands fun name => do
      if options.has 'f' || options.has 'e' then
        match <- Job.find true name with
        | .ok found => return (<- printLine (ofBytes (Path.ofNames found.location).bytes)) == 0
        | .error _ => return false
      else
        match (<- Job.find false name).map Files.Found.entry with
        | .ok (.link target) => return (<- printLine (ofBytes target.bytes)) == 0
        | _ => return false

def baseNameOf (ending text : Chars) : Chars :=
  match (Job.path text).names.getLast? with
  | none => if text.isEmpty then [] else ['/']
  | some name =>
    let name := ofBytes name
    let kept := name.take (name.length - ending.length)
    if !kept.isEmpty && kept ++ ending == name then kept else name

def baseName (words : List Chars) : Job Nat :=
  withOperands { flags := "a", valued := "s" } words "operand" fun options =>
    match options.value? 's', options.has 'a', options.operands with
    | none, false, [name] => printLine (baseNameOf [] name)
    | none, false, [name, ending] => printLine (baseNameOf ending name)
    | none, false, operands =>
      misuse ("extra operand ".toList ++ quoted ((operands.drop 2).headD []))
    | ending, _, operands =>
      print (operands.flatMap fun name => baseNameOf (ending.getD []) name ++ ['\n'])

def directoryNameOf (text : Chars) : Chars :=
  let trimmed := (text.reverse.dropWhile (· == '/')).dropWhile (· != '/')
  let parent := (trimmed.dropWhile (· == '/')).reverse
  if !parent.isEmpty then parent else if text.head? == some '/' then ['/'] else ['.']

def directoryName (words : List Chars) : Job Nat :=
  withOperands {} words "operand" fun options =>
    print (options.operands.flatMap fun name => directoryNameOf name ++ ['\n'])

def printDirectory : Job Nat := do
  printLine (ofBytes (Path.ofNames (<- Job.process).directory).bytes)

def printVariables (words : List Chars) : Job Nat := do
  let bindings := (<- Job.process).inherited
  if words.isEmpty then
    print (bindings.flatMap fun (name, held) => name ++ '=' :: held.value?.getD [] ++ ['\n'])
  else
    forAll words fun name => do
      match lookup? name bindings with
      | some held => return (<- printLine (held.value?.getD [])) == 0
      | none => return false

def milliseconds? (text : Chars) : Option Nat :=
  let whole := text.takeWhile Char.isDigit
  let rest := text.drop whole.length
  let places := if rest.head? == some '.' then (rest.drop 1).takeWhile Char.isDigit else []
  let unit := if rest.head? == some '.' then rest.drop (places.length + 1) else rest
  let value :=
    Arithmetic.valueOfDigits 10 whole * 1000 +
      Arithmetic.valueOfDigits 10 ((places ++ ['0', '0', '0']).take 3)
  if whole.isEmpty && places.isEmpty then none
  else
    match unit with
    | [] => some value
    | ['s'] => some value
    | ['m'] => some (value * 60)
    | ['h'] => some (value * 3600)
    | ['d'] => some (value * 86400)
    | _ => none

def sleep (words : List Chars) : Job Nat :=
  withOperands {} words "operand" fun options => do
    match options.operands.find? fun word => (milliseconds? word).isNone with
    | some word => misuse ("invalid time interval ".toList ++ quoted word)
    | none =>
      Job.sleep ((options.operands.filterMap milliseconds?).foldl (· + ·) 0)
      return 0

end AnsibleTooling.Shell.Utility
