import AnsibleTooling.Shell.Pattern
import AnsibleTooling.Shell.Printing
import AnsibleTooling.Shell.Utility.Options

set_option autoImplicit false

namespace AnsibleTooling.Shell.Utility

def copyThrough (input : Handle) : Nat -> Job (Except Io.Failure Unit)
  | 0 => return .ok ()
  | fuel + 1 => do
    match <- Job.readSome input with
    | .error failure => return .error failure
    | .ok [] => return .ok ()
    | .ok bytes =>
      if let some failure := <- Job.write 1 bytes then
        report ("write error: ".toList ++ reason failure)
        throw (.exit 1)
      copyThrough input fuel

def withInput {A : Type} (name : Chars) (use : Handle -> Job (Except Io.Failure A)) :
    Job (Except Io.Failure A) :=
  if name == ['-'] then Job.withDescriptor 0 use else Job.withOpened name use

def contentOf (name : Chars) : Job (Except Io.Failure Bytes) :=
  withInput name Job.readAll

def inputContent : Job Bytes := do
  match <- contentOf ['-'] with
  | .ok content => return content
  | .error failure =>
    report ("read error: ".toList ++ reason failure)
    throw (.exit 1)

def closeInput (operands : List Chars) (title : String) : Job Bool := do
  if operands.contains ['-'] && ((<- Job.process).handle? 0).isNone then
    report (title.toList ++ ": ".toList ++ reason Job.badDescriptor)
    return false
  else return true

def isOwnOutput (input : Handle) : Job Bool := do
  let written? := ((<- Job.process).handle? 1)
  match <- Job.fileOf? input, <- written?.elim (pure none) Job.fileOf? with
  | some (_, read), some (_, written) =>
    let content := ((<- get).tree.node? written.node).map fun node => node.entry.content
    let size := ((content.bind Except.toOption).getD []).length
    let position := if written.isAppended then size else written.offset
    return read.node == written.node && read.offset < position
  | _, _ => return false

def inputNames (options : Options) : List Chars :=
  if options.operands.isEmpty then [['-']] else options.operands

def cat (words : List Chars) : Job Nat :=
  withOptions { flags := "u" } words fun options => do
    if ((<- Job.process).handle? 1).isNone then
      report ("standard output: ".toList ++ reason Job.badDescriptor)
      throw (.exit 1)
    let status <- forAll (inputNames options) fun name => do
      let result <- withInput name fun input => do
        if <- isOwnOutput input then
          return .error (.other .invalidInput "input file is output file")
        copyThrough input Job.passLimit
      match result with
      | .ok () => return true
      | .error failure =>
        report (name ++ ": ".toList ++ reason failure)
        return false
    return if <- closeInput (inputNames options) "closing standard input" then status else 1

def takeLines : Nat -> Bytes -> Bytes × Bytes × Nat
  | 0, bytes => ([], bytes, 0)
  | count + 1, bytes =>
    let line := bytes.takeWhile (· != 10)
    match bytes.drop line.length with
    | [] => (line, [], count + 1)
    | lineEnd :: rest =>
      let (taken, left, missing) := takeLines count rest
      (line ++ lineEnd :: taken, left, missing)

def blockSize : Nat := 8192

def copyLines (input : Handle) : Nat -> Nat -> Job (Except Io.Failure Unit)
  | 0, _ => return .ok ()
  | fuel + 1, count => do
    if count == 0 then return .ok ()
    match <- Job.readUpTo input blockSize with
    | .error failure => return .error failure
    | .ok [] => return .ok ()
    | .ok bytes =>
      let (taken, left, missing) := takeLines count bytes
      let _ <- printBytes taken
      if missing == 0 then
        Job.putBack input left.length
        return .ok ()
      else copyLines input fuel missing

def copyBytes (input : Handle) : Nat -> Nat -> Job (Except Io.Failure Unit)
  | 0, _ => return .ok ()
  | fuel + 1, count => do
    if count == 0 then return .ok ()
    match <- Job.readUpTo input (min count blockSize) with
    | .error failure => return .error failure
    | .ok [] => return .ok ()
    | .ok bytes =>
      let _ <- printBytes bytes
      copyBytes input fuel (count - bytes.length)

def linesOf : Nat -> Bytes -> List Bytes
  | 0, _ => []
  | _, [] => []
  | fuel + 1, bytes =>
    let line := bytes.takeWhile (· != 10)
    let rest := bytes.drop line.length
    (line ++ rest.take 1) :: linesOf fuel (rest.drop 1)

def splitLines (bytes : Bytes) : List Bytes :=
  linesOf (bytes.length + 1) bytes

structure Extent where
  isBytes : Bool
  -- Counted from the other end.
  isOpposite : Bool
  count : Nat

def extent? (opposite : Char) (isBytes : Bool) (text : Chars) : Option Extent :=
  let isOpposite := text.head? == some opposite
  let hasSign := isOpposite || text.head? == some '-' || text.head? == some '+'
  (number? (if hasSign then text.drop 1 else text)).map fun count =>
    { isBytes, isOpposite, count }

def Extent.ofOptions (opposite : Char) (options : Options) : Except Chars Extent :=
  let read (isBytes : Bool) (what : String) (text : Chars) : Except Chars Extent :=
    match extent? opposite isBytes text with
    | some extent => .ok extent
    | none => .error ("invalid number of ".toList ++ what.toList ++ ": ".toList ++ quoted text)
  match options.value? 'c', options.value? 'n' with
  | some text, _ => read true "bytes" text
  | none, some text => read false "lines" text
  | none, none => .ok { isBytes := false, isOpposite := false, count := 10 }

def Extent.first (extent : Extent) (content : Bytes) : Bytes :=
  let all := if extent.isBytes then content.map fun byte => [byte] else splitLines content
  (all.take (if extent.isOpposite then all.length - extent.count else extent.count)).flatten

def Extent.last (extent : Extent) (content : Bytes) : Bytes :=
  let all := if extent.isBytes then content.map fun byte => [byte] else splitLines content
  let skipped := if extent.isOpposite then extent.count - 1 else all.length - extent.count
  (all.drop skipped).flatten

def spelledOut : List Chars -> List Chars
  | ('-' :: digit :: rest) :: words =>
    if digit.isDigit then ['-', 'n'] :: (digit :: rest) :: words
    else ('-' :: digit :: rest) :: words
  | words => words

def shownName (name : Chars) : Chars :=
  if name == ['-'] then "standard input".toList else name

def showEach (options : Options) (verb : String)
    (copy : Handle -> Job (Except Io.Failure Unit)) : Job Nat := do
  let isTitled := (1 < (inputNames options).length || options.has 'v') && !options.has 'q'
  let results <- (inputNames options).zipIdx.mapM fun (name, index) => do
    let complain (verb : String) (failure : Io.Failure) : Job Bool := do
      report (verb.toList ++ ' ' :: quoted (shownName name) ++ ": ".toList ++ reason failure)
      return false
    let result <- withInput name fun input => do
      if isTitled then
        let title := "==> ".toList ++ shownName name ++ " <==\n".toList
        let _ <- print (if index == 0 then title else '\n' :: title)
      match <- copy input with
      | .ok () => return .ok true
      | .error failure => .ok <$> complain "error reading" failure
    match result with
    | .ok isShown => return isShown
    | .error failure =>
      if name == ['-'] then complain verb failure
      else
        report ("cannot open ".toList ++ quoted name ++ " for reading: ".toList ++ reason failure)
        return false
  let isClosed <- closeInput (inputNames options) "-"
  return if results.all id && isClosed then 0 else 1

def head (words : List Chars) : Job Nat :=
  withOptions { flags := "qv", valued := "nc" } (spelledOut words) fun options => do
    match Extent.ofOptions '-' options with
    | .error complaint =>
      report complaint
      return 1
    | .ok extent =>
      showEach options "error reading" fun input => do
        if extent.isOpposite then
          match <- Job.readAll input with
          | .error failure => return .error failure
          | .ok content =>
            let _ <- printBytes (extent.first content)
            return .ok ()
        else if extent.isBytes then copyBytes input Job.passLimit extent.count
        else copyLines input Job.passLimit extent.count

def tail (words : List Chars) : Job Nat :=
  withOptions { flags := "qv", valued := "nc" } (spelledOut words) fun options => do
    match Extent.ofOptions '+' options with
    | .error complaint =>
      report complaint
      return 1
    | .ok extent =>
      showEach options "cannot fstat" fun input => do
        match <- Job.readAll input with
        | .error failure => return .error failure
        | .ok content =>
          let _ <- printBytes (extent.last content)
          return .ok ()

structure Output where
  title : Chars
  handle : Handle

def writeEach (bytes : Bytes) (outputs : List Output) : Job (List Output) :=
  outputs.filterM fun output => do
    match <- Job.writeTo output.handle bytes with
    | none => return true
    | some failure =>
      report (output.title ++ ": ".toList ++ reason failure)
      return false

def copyToEach (input : Handle) : Nat -> List Output -> Job (Except Io.Failure (List Output))
  | 0, outputs => return .ok outputs
  | fuel + 1, outputs => do
    match <- Job.readSome input with
    | .error failure => return .error failure
    | .ok [] => return .ok outputs
    | .ok bytes =>
      let left <- writeEach bytes outputs
      if left.isEmpty then return .ok [] else copyToEach input fuel left

def tee (words : List Chars) : Job Nat :=
  withOptions { flags := "ai" } words fun options => do
    let how : Job.Overwriting := if options.has 'a' then .appends else .replaces
    let opened <- options.operands.mapM fun name => do
      match <- Job.openToWrite how false name with
      | .error failure =>
        report (name ++ ": ".toList ++ reason failure)
        return none
      | .ok handle =>
        Job.modifyProcess fun process => { process with kept := handle :: process.kept }
        return some ({ title := name, handle } : Output)
    let standard := (<- Job.process).handle? 1
    if standard.isNone then
      report ("'standard output': ".toList ++ reason Job.badDescriptor)
    let first := standard.toList.map fun handle =>
      ({ title := "'standard output'".toList, handle } : Output)
    let outputs := first ++ opened.filterMap id
    let result <- withInput ['-'] fun input => copyToEach input Job.passLimit outputs
    let isWhole <-
      match result with
      | .error failure =>
        report ("read error: ".toList ++ reason failure)
        pure false
      | .ok left => pure (left.length == options.operands.length + 1)
    let isClosed <- closeInput [['-']] "standard input"
    return if isWhole && isClosed then 0 else 1

structure Counts where
  lines : Nat := 0
  words : Nat := 0
  bytes : Nat := 0

def isSpaceByte (byte : UInt8) : Bool :=
  byte == 32 || (9 <= byte && byte <= 13)

def wordCount : Bool -> Bytes -> Nat
  | _, [] => 0
  | isInside, byte :: rest =>
    if isSpaceByte byte then wordCount false rest
    else if isInside then wordCount true rest
    else wordCount true rest + 1

def Counts.of (content : Bytes) : Counts :=
  { lines := content.count 10, words := wordCount false content, bytes := content.length }

def Counts.add (first second : Counts) : Counts :=
  { lines := first.lines + second.lines
    words := first.words + second.words
    bytes := first.bytes + second.bytes }

def Counts.chosen (options : Options) (counts : Counts) : List Nat :=
  let isAsked (letter : Char) : Bool :=
    options.flags.isEmpty || options.has letter || (letter == 'c' && options.has 'm')
  (if isAsked 'l' then [counts.lines] else []) ++ (if isAsked 'w' then [counts.words] else []) ++
    if isAsked 'c' then [counts.bytes] else []

def countLine (width : Nat) (numbers : List Nat) (name : Chars) : Chars :=
  let column (number : Nat) : Chars :=
    let digits := (toString number).toList
    List.replicate (width - digits.length) ' ' ++ digits
  let line := [' '].intercalate (numbers.map column)
  if name.isEmpty then line ++ ['\n'] else line ++ ' ' :: name ++ ['\n']

def sizeOf? (name : Chars) : Job (Except Io.Failure (Option Nat)) := do
  let sizeOf (node : Files.Node) : Option Nat :=
    if node.isRegular then node.entry.content.toOption.map List.length else none
  if name == ['-'] then
    Job.withDescriptor 0 fun input => do
      let tree := (<- get).tree
      let node? := (<- Job.fileOf? input).bind fun file => tree.node? file.2.node
      return .ok (node?.bind sizeOf)
  else return (<- Job.find true name).map fun found => sizeOf found.node

/-- How wide the columns of counts are: as the sum of the sizes, but at least so many characters
where something has no size. -/
def columnWidth (sizes : List (Except Io.Failure (Option Nat))) : Nat :=
  let known := sizes.filterMap Except.toOption
  let total := (known.filterMap id).foldl (· + ·) 0
  max (toString total).length (if known.any Option.isNone then 7 else 1)

def wc (words : List Chars) : Job Nat :=
  withOptions { flags := "clmw" } words fun options => do
    let operands := inputNames options
    let isAlone := operands.length == 1
    let isSingle := (({} : Counts).chosen options).length == 1
    let width <-
      if isAlone && isSingle then pure 1 else columnWidth <$> operands.mapM sizeOf?
    let counted <- operands.mapM fun name => do
      let complain (failure : Io.Failure) : Job Unit :=
        let title := if name == ['-'] then quoted (shownName name) else name
        report (title ++ ": ".toList ++ reason failure)
      let put (counts : Counts) : Job Unit := do
        let title := if options.operands.isEmpty then [] else name
        let _ <- print (countLine width (counts.chosen options) title)
      let result <- withInput name fun input => do
        match <- Job.readAll input with
        | .ok content => return .ok (true, Counts.of content)
        | .error failure =>
          complain failure
          return .ok (false, {})
      match result with
      | .ok (isRead, counts) =>
        put counts
        return (isRead, counts)
      | .error failure =>
        complain failure
        if name == ['-'] then put {}
        return (false, {})
    if !isAlone then
      let total : Counts := counted.foldl (fun total entry => total.add entry.2) {}
      let _ <- print (countLine width (total.chosen options) "total".toList)
    let isClosed <- closeInput operands "-"
    return if counted.all Prod.fst && isClosed then 0 else 1

def charsOf (name : Chars) : List Char :=
  match kinds.find? fun entry => entry.1.toList == name with
  | some (_, holds) => ((List.range 256).map Char.ofNat).filter holds
  | none => []

def setChars : Nat -> Chars -> List Char
  | 0, _ => []
  | _, [] => []
  | fuel + 1, '[' :: ':' :: rest =>
    let name := rest.takeWhile (· != ':')
    charsOf name ++ setChars fuel (rest.drop (name.length + 2))
  | fuel + 1, text =>
    let single (text : Chars) : Char × Chars :=
      match text with
      | '\\' :: rest => (Printing.escape? rest).getD (rest.headD '\\', rest.drop 1)
      | char :: rest => (char, rest)
      | [] => (Char.ofNat 0, [])
    let (first, rest) := single text
    match rest with
    | '-' :: next :: more =>
      let (last, rest) := single (next :: more)
      let range := (List.range (last.toNat + 1 - first.toNat)).map fun step =>
        Char.ofNat (first.toNat + step)
      range ++ setChars fuel rest
    | rest => first :: setChars fuel rest

def setOf (text : Chars) : List Char :=
  setChars (text.length + 1) text

def squeeze (set : List Char) : Option Char -> Chars -> Chars
  | _, [] => []
  | before, char :: rest =>
    if before == some char && set.contains char then squeeze set before rest
    else char :: squeeze set (some char) rest

def tr (words : List Chars) : Job Nat :=
  withOperands { flags := "cCdst" } words "operand" fun options => do
    let sets := options.operands.map setOf
    let first := sets.headD []
    let isComplement := options.has 'c' || options.has 'C'
    let isIn (char : Char) : Bool := first.contains char != isComplement
    let mapped (second : List Char) (char : Char) : Char :=
      let last := second.getLastD char
      if !isIn char then char
      else if isComplement then last
      else (second[first.idxOf char]?).getD last
    match sets with
    | [_] =>
      if !options.has 'd' && !options.has 's' then
        report ("missing operand after ".toList ++ quoted (options.operands.headD []))
        Job.warn "Two strings must be given when translating.\n".toList
        Job.warn "Try 'tr --help' for more information.\n".toList
        return 1
      let text := ofBytes (<- inputContent)
      print (if options.has 'd' then text.filter fun char => !isIn char
        else squeeze ((List.range 256).map Char.ofNat |>.filter isIn) none text)
    | [_, second] =>
      let text := ofBytes (<- inputContent)
      if options.has 'd' then
        print (squeeze second none (text.filter fun char => !isIn char))
      else
        let changed := text.map (mapped second)
        print (if options.has 's' then squeeze second none changed else changed)
    | _ => misuse ("extra operand ".toList ++ quoted ((options.operands.drop 2).headD []))

def leadingNumber (line : Bytes) : Int :=
  let text := (ofBytes line).dropWhile Arithmetic.isBlank
  let digits := if text.head? == some '-' then text.drop 1 else text
  let value : Int := Arithmetic.valueOfDigits 10 (digits.takeWhile Char.isDigit)
  if text.head? == some '-' then -value else value

def sort (words : List Chars) : Job Nat :=
  withOptions { flags := "nru" } words fun options => do
    let contents <- (inputNames options).mapM fun name => do
      match <- contentOf name with
      | .ok content => return content
      | .error failure =>
        let verb :=
          if failure = .isDirectory then "read failed: "
          else if name == ['-'] then "stat failed: "
          else "cannot read: "
        report (verb.toList ++ name ++ ": ".toList ++ reason failure)
        throw (.exit 2)
    let lines := contents.flatMap splitLines
    let lines := lines.map fun line => if line.getLast? == some 10 then line.dropLast else line
    let before (first second : Bytes) : Bool :=
      let byBytes := !(ofBytes second < ofBytes first)
      if options.has 'n' && leadingNumber first != leadingNumber second then
        leadingNumber first < leadingNumber second
      else byBytes
    let sorted := lines.mergeSort fun first second =>
      if options.has 'r' then before second first else before first second
    let kept := if options.has 'u' then sorted.eraseDups else sorted
    printBytes (kept.flatMap fun line => line ++ [10])

def steps (first step last : Int) : List Int :=
  if step == 0 || (last - first) * step < 0 then []
  else (List.range (((last - first).natAbs / step.natAbs) + 1)).map fun (index : Nat) =>
    first + step * (index : Nat)

def seq (words : List Chars) : Job Nat := do
  match words.find? fun word => (Arithmetic.integer? word).isNone with
  | some word => misuse ("invalid floating point argument: ".toList ++ quoted word)
  | none =>
    let shown (numbers : List Int) : Job Nat :=
      print (numbers.flatMap fun number => (toString number).toList ++ ['\n'])
    match words.filterMap Arithmetic.integer? with
    | [] => misuse "missing operand".toList
    | [last] => shown (steps 1 1 last)
    | [first, last] => shown (steps first 1 last)
    | [first, step, last] => shown (steps first step last)
    | _ => misuse ("extra operand ".toList ++ quoted ((words.drop 3).headD []))

def repeatLine (line : Chars) : Nat -> Job Nat
  | 0 => return 1
  | fuel + 1 => do
    match <- Job.writeChars 1 line with
    | none => repeatLine line fuel
    | some failure =>
      report ("standard output: ".toList ++ reason failure)
      return 1

def yes (words : List Chars) : Job Nat :=
  let text := if words.isEmpty then ['y'] else [' '].intercalate words
  repeatLine (text ++ ['\n']) Job.passLimit

def echo (words : List Chars) : Job Nat :=
  let isOption (word : Chars) : Bool :=
    match word with
    | '-' :: letter :: letters => (letter :: letters).all fun char => "neE".toList.contains char
    | _ => false
  let options := (words.takeWhile isOption).flatten
  let text := [' '].intercalate (words.dropWhile isOption)
  let lineEnd := if options.contains 'n' then [] else ['\n']
  let isReplaced := (options.filter fun char => char == 'e' || char == 'E').getLast? == some 'e'
  let (output, isCut) :=
    if isReplaced then Printing.unescape (text.length + 1) text else (text, false)
  print (if isCut then output else output ++ lineEnd)

def printf (print : Chars -> Job Nat) (complain : Chars -> Job Unit) (words : List Chars) :
    Job Nat := do
  match words with
  | [] =>
    complain "usage: printf format [arg ...]".toList
    return 2
  | format :: arguments =>
    let printed := Printing.format format arguments
    for complaint in printed.complaints do complain complaint
    let status <- print printed.output.reverse
    return if status == 0 then printed.status else status

end AnsibleTooling.Shell.Utility
