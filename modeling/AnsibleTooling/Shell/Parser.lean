import AnsibleTooling.Shell.Word

set_option autoImplicit false

namespace AnsibleTooling.Shell

open Reader

namespace Token

def taken (count : Nat) (token : Token) : Reader Token := do
  skip count
  return token

def orDouble (single double : Token) (char : Char) : Reader Token := do
  skip 1
  if <- accept char then return double else return single

end Token

def skipBlanks : Nat -> Reader Unit
  | 0 => pure ()
  | fuel + 1 => do
    match <- look? with
    | some ' ' => skip 1; skipBlanks fuel
    | some '\t' => skip 1; skipBlanks fuel
    | some '#' =>
      let _ <- takeWhile (· != '\n')
    | _ => pure ()

def arrow : Reader Arrow := do
  let sign <- look?
  skip 1
  if sign == some '>' then
    if <- accept '>' then return .opening .append
    else if <- accept '&' then return .copyTo
    else if <- accept '|' then return .opening .clobber
    else return .opening .replace
  else if <- accept '<' then return .text (<- accept '-')
  else if <- accept '&' then return .copyFrom
  else if <- accept '>' then return .opening .both
  else return .opening .read

def Arrow.standard : Arrow -> Nat
  | .opening .read => 0
  | .opening .both => 0
  | .copyFrom => 0
  | .text _ => 0
  | _ => 1

def isArrow (char : Option Char) : Bool :=
  char == some '<' || char == some '>'

def wordOrArrow (deeper : Deeper) (kind : WordKind) : Reader Token := do
  if isArrow (<- look?) then
    let arrow <- arrow
    return .redirection arrow.standard arrow
  let pieces <- word deeper kind
  match pieces, isArrow (<- look?) with
  | [.plain [digit] false], true =>
    if digit.isDigit then return .redirection (digit.toNat - 48) (<- arrow)
    else return .word pieces
  | _, _ => return .word pieces

def nextToken (deeper : Deeper) (kind : WordKind) : Reader Token := do
  modify fun script => { script with tokenStart := script.rest.length }
  skipBlanks ((<- get).rest.length + 1)
  let next? <- look?
  modify fun script => { script with wordStart := script.rest.length }
  match next? with
  | none => return .endOfScript
  | some '\n' => Token.newline.taken 1
  | some '&' => Token.orDouble .ampersand .both '&'
  | some '|' => Token.orDouble .pipe .either '|'
  | some ';' => Token.orDouble .semicolon .armEnd ';'
  | some '(' => Token.opened.taken 1
  | some ')' => Token.closed.taken 1
  | some _ => wordOrArrow deeper kind

structure Place where
  skipsLines : Bool := false
  reserves : Bool := false
  replaces : Bool := false

def Place.commandStart : Place := { reserves := true, replaces := true }

def Place.freeStart : Place := { skipsLines := true, reserves := true, replaces := true }

def Place.armStart : Place := { skipsLines := true, reserves := true }

def reserve : Token -> Token
  | .word [.plain text false] =>
    let spelling := String.ofList text
    if Token.reservedWords.contains spelling then .reserved spelling else .word [.plain text false]
  | token => token

def Token.replaceable? : Token -> Option Chars
  | .word [.plain text false] => some text
  | _ => none

def tokenAt (deeper : Deeper) (place : Place) : Nat -> Reader Token
  | 0 => return .endOfScript
  | fuel + 1 => do
    let returned? := (<- get).returned
    modify fun script => { script with returned := none }
    let found <- returned?.elim (nextToken deeper {}) pure
    let follows := returned?.isNone && (<- get).followsReplacement
    let token := if place.reserves then reserve found else found
    match token with
    | .newline => if place.skipsLines then tokenAt deeper place fuel else return token
    | token =>
      let word? := if place.replaces || follows then token.replaceable? else none
      let script <- get
      match word?, word?.bind fun word => script.replacement? word with
      | some word, some text =>
        set (script.replace word text)
        tokenAt deeper { place with replaces := true } fuel
      | _, _ => return token

def token (deeper : Deeper) (place : Place) : Reader Token := do
  tokenAt deeper place (<- Reader.fuel)

def putBack (token : Token) : Reader Unit :=
  modify fun script => { script with returned := some token }

def unexpected {A : Type} (token : Token) : Reader A :=
  fault (token.display ++ " unexpected")

def expected {A : Type} (token wanted : Token) : Reader A :=
  fault s!"{token.display} unexpected (expecting {wanted.display})"

def expectWordAt (deeper : Deeper) (place : Place) (spelling : String) : Reader Unit := do
  match <- token deeper place with
  | .reserved other =>
    if other != spelling then expected (.reserved other) (.reserved spelling)
  | other => expected other (.reserved spelling)

def expectWord (deeper : Deeper) (spelling : String) : Reader Unit :=
  expectWordAt deeper .commandStart spelling

def wholeLine (joins : Bool) : Chars -> Chars × Chars
  | [] => ([], [])
  | '\n' :: rest => (['\n'], rest)
  | '\\' :: char :: rest =>
    if joins then
      let (line, rest) := wholeLine joins rest
      ('\\' :: char :: line, rest)
    else
      let (line, rest) := wholeLine joins (char :: rest)
      ('\\' :: line, rest)
  | char :: rest =>
    let (line, rest) := wholeLine joins rest
    (char :: line, rest)

/-- Lines up to one that is a mark alone: their text, the lines after it, and how many lines that
takes. A line that goes on in the next one hides a mark there, unless there is nothing else in it. -/
def linesBefore (stripsTabs joins : Bool) (mark : Chars) : Nat -> Chars -> Chars × Chars × Nat
  | 0, text => (text, [], 0)
  | fuel + 1, text =>
    let joint := if joins then Script.joinCount text else 0
    let (line, rest) := wholeLine joins (text.drop joint)
    let taken := joint / 2 + line.count '\n'
    let shown := if stripsTabs then line.dropWhile (· == '\t') else line
    if text.isEmpty then ([], [], 0)
    else if shown.takeWhile (· != '\n') == mark then ([], rest, taken)
    else
      let (lines, rest, count) := linesBefore stripsTabs joins mark fuel rest
      (shown ++ lines, rest, count + taken)

def textBelow (deeper : Deeper) (stripsTabs : Bool) (mark : Word) : Reader Word := do
  let script <- get
  let line := script.rest.takeWhile (· != '\n')
  let below := (script.rest.drop line.length).drop 1
  let spelling := mark.flatMap fun piece =>
    match piece with
    | .plain text _ => text
    | _ => []
  let (text, rest, count) :=
    linesBefore stripsTabs (!isQuoted mark) spelling (below.length + 1) below
  if line.length < script.rest.length then
    set { script with
      rest := line ++ '\n' :: rest
      linesTaken := script.linesTaken + count }
  if isQuoted mark then return [.plain text true]
  else within text script.line (quotedPieces deeper (text.length + 2) .lines [])

def redirectionEnd (deeper : Deeper) (descriptor : Nat) (arrow : Arrow) : Reader Redirection := do
  let isMark :=
    match arrow with
    | .text _ => true
    | _ => false
  match <- nextToken deeper { isMark } with
  | .word target =>
    match arrow with
    | .opening opening => return .file descriptor opening target
    | .copyTo => return .copy descriptor target
    | .copyFrom => return .copy descriptor target
    | .text stripsTabs => return .text descriptor (<- textBelow deeper stripsTabs target)
  | other => unexpected other

def redirections (deeper : Deeper) (place : Place) :
    Nat -> List Redirection -> Reader (List Redirection)
  | 0, taken => return taken.reverse
  | fuel + 1, taken => do
    match <- token deeper place with
    | .redirection descriptor arrow =>
      redirections deeper {} fuel ((<- redirectionEnd deeper descriptor arrow) :: taken)
    | other =>
      putBack other
      return taken.reverse

def assignment? : Word -> Option (Chars × Word)
  | .plain text false :: pieces =>
    let name := text.takeWhile isNameChar
    match text.drop name.length with
    | '=' :: value =>
      if isName name then
        some (name, if value.isEmpty then pieces else .plain value false :: pieces)
      else none
    | _ => none
  | _ => none

structure SimpleParts where
  assignments : List (Chars × Word) := []
  words : List Word := []
  redirections : List Redirection := []

def specialNames : List String := [
  ".", ":", "break", "continue", "eval", "exec", "exit", "export", "readonly", "return", "set",
  "shift", "times", "trap", "unset"]

def SimpleParts.functionName? (parts : SimpleParts) : Option Word :=
  match parts.assignments, parts.words, parts.redirections with
  | [], [word], [] => some word
  | _, _, _ => none

def functionName (word : Word) : Reader Chars :=
  match word with
  | [.plain text false] =>
    if isName text && !specialNames.contains (String.ofList text) then return text
    else fault "Bad function name"
  | _ => fault "Bad function name"

def simpleCommand (deeper : Deeper) (body : Reader Command) (line : Nat) :
    Nat -> SimpleParts -> Reader Command
  | 0, _ => unexpected .endOfScript
  | fuel + 1, parts => do
    match <- token deeper { replaces := parts.words.isEmpty } with
    | .word word =>
      match (if parts.words.isEmpty then assignment? word else none) with
      | some assignment =>
        simpleCommand deeper body line fuel
          { parts with assignments := parts.assignments ++ [assignment] }
      | none => simpleCommand deeper body line fuel { parts with words := parts.words ++ [word] }
    | .redirection descriptor arrow =>
      let redirection <- redirectionEnd deeper descriptor arrow
      simpleCommand deeper body line fuel
        { parts with redirections := parts.redirections ++ [redirection] }
    | other =>
      match other, parts.functionName? with
      | .opened, some word =>
        match <- token deeper {} with
        | .closed =>
          let name <- functionName word
          return .define (<- get).line name (<- body)
        | other => expected other .closed
      | other, _ =>
        putBack other
        return .simple line parts.assignments parts.words parts.redirections

structure Inner where
  -- Commands up to a closing word; at least one unless they may be missing.
  list : Bool -> Reader (Option Command)
  command : Place -> Reader Command

def Inner.some (inner : Inner) : Reader Command := do
  return (<- inner.list false).getD default

def branchRest (deeper : Deeper) (inner : Inner) : Nat -> Reader (Option Command)
  | 0 => return none
  | fuel + 1 => do
    match <- token deeper .commandStart with
    | .reserved "elif" =>
      let condition <- inner.some
      expectWord deeper "then"
      let body <- inner.some
      return some (.branch condition body (<- branchRest deeper inner fuel))
    | .reserved "else" => return some (<- inner.some)
    | other =>
      putBack other
      return none

def ifCommand (deeper : Deeper) (inner : Inner) : Reader Command := do
  let condition <- inner.some
  expectWord deeper "then"
  let body <- inner.some
  let otherwise <- branchRest deeper inner (<- Reader.fuel)
  expectWord deeper "fi"
  return .branch condition body otherwise

def loopCommand (deeper : Deeper) (inner : Inner) (untilTrue : Bool) : Reader Command := do
  let condition <- inner.some
  expectWord deeper "do"
  let body <- inner.some
  expectWord deeper "done"
  return .loop untilTrue condition body

def wordList (deeper : Deeper) : Nat -> List Word -> Reader (List Word)
  | 0, taken => return taken.reverse
  | fuel + 1, taken => do
    match <- token deeper {} with
    | .word word => wordList deeper fuel (word :: taken)
    | .newline => return taken.reverse
    | .semicolon => return taken.reverse
    | other => unexpected other

def forCommand (deeper : Deeper) (inner : Inner) (line : Nat) : Reader Command := do
  let name <-
    match <- token deeper {} with
    | .word [.plain text false] =>
      if isName text then pure text else fault "Bad for loop variable"
    | _ => fault "Bad for loop variable"
  let words <-
    match <- token deeper .freeStart with
    | .reserved "in" =>
      let words <- wordList deeper (<- Reader.fuel) []
      pure (some words)
    | .semicolon => pure none
    | other =>
      putBack other
      pure none
  expectWordAt deeper .freeStart "do"
  let body <- inner.some
  expectWord deeper "done"
  return .each line name words body

def patterns (deeper : Deeper) : Nat -> Token -> List Word -> Reader (List Word)
  | 0, token, _ => unexpected token
  | fuel + 1, token, taken => do
    match token with
    | .word word =>
      match <- Shell.token deeper {} with
      | .pipe => patterns deeper fuel (<- Shell.token deeper {}) (word :: taken)
      | .closed => return (word :: taken).reverse
      | other => expected other .closed
    | other => expected other .closed

def arms (deeper : Deeper) (inner : Inner) :
    Nat -> List (List Word × Option Command) -> Reader (List (List Word × Option Command))
  | 0, taken => return taken.reverse
  | fuel + 1, taken => do
    match <- token deeper .armStart with
    | .reserved "esac" => return taken.reverse
    | first =>
      let first <-
        match first with
        | .opened => token deeper {}
        | .reserved spelling => pure (.word [.plain spelling.toList false])
        | other => pure other
      let patterns <- patterns deeper (<- Reader.fuel) first []
      let taken := (patterns, <- inner.list true) :: taken
      match <- token deeper .armStart with
      | .armEnd => arms deeper inner fuel taken
      | .reserved "esac" => return taken.reverse
      | other => expected other .armEnd

def caseCommand (deeper : Deeper) (inner : Inner) (line : Nat) : Reader Command := do
  match <- token deeper {} with
  | .word word =>
    expectWordAt deeper .freeStart "in"
    return .choose line word (<- arms deeper inner (<- Reader.fuel) [])
  | other => expected other (.word [])

/-- A compound command with redirections after it. A subshell has only one set of them, and braces
around nothing but a subshell make no command of their own. -/
def redirectedBy (line : Nat) (redirections : List Redirection) (found : Command) : Command :=
  if redirections.isEmpty then found
  else
    match found with
    | .redirected line (.subshell inner body) _ =>
      .redirected line (.subshell inner body) redirections
    | found => .redirected line found redirections

def commandAt (deeper : Deeper) (inner : Inner) (place : Place) : Reader Command := do
  let line := (<- get).line
  let first <- token deeper place
  let simple : Reader Command := do
    putBack first
    simpleCommand deeper (inner.command .freeStart) (<- get).line (<- Reader.fuel) {}
  let compound (command : Reader Command) : Reader Command := do
    let found <- command
    return redirectedBy line (<- redirections deeper .commandStart (<- Reader.fuel) []) found
  match first with
  | .word _ => simple
  | .redirection .. => simple
  | .opened => compound do
    let body <- inner.some
    match <- token deeper .commandStart with
    | .closed => return .subshell line body
    | other => expected other .closed
  | .reserved "if" => compound (ifCommand deeper inner)
  | .reserved "while" => compound (loopCommand deeper inner false)
  | .reserved "until" => compound (loopCommand deeper inner true)
  | .reserved "for" => compound (forCommand deeper inner line)
  | .reserved "case" => compound (caseCommand deeper inner line)
  | .reserved "\x7b" => compound do
    let body <- inner.some
    expectWord deeper "\x7d"
    return body
  | other => unexpected other

def pipelineRest (deeper : Deeper) (inner : Inner) :
    Nat -> List Command -> Reader (List Command)
  | 0, taken => return taken.reverse
  | fuel + 1, taken => do
    match <- token deeper {} with
    | .pipe => pipelineRest deeper inner fuel ((<- inner.command .freeStart) :: taken)
    | other =>
      putBack other
      return taken.reverse

def pipeline (deeper : Deeper) (inner : Inner) (place : Place) : Reader Command := do
  let first <- token deeper place
  let isNegated :=
    match first with
    | .reserved "!" => true
    | _ => false
  if !isNegated then putBack first
  let command <- inner.command (if isNegated then .commandStart else {})
  let found <-
    match <- pipelineRest deeper inner (<- Reader.fuel) [command] with
    | [only] => pure only
    | commands => pure (.pipeline commands)
  return if isNegated then .negated found else found

def chainRest (deeper : Deeper) (inner : Inner) : Nat -> Command -> Reader Command
  | 0, left => return left
  | fuel + 1, left => do
    match <- token deeper {} with
    | .both => chainRest deeper inner fuel (.both left (<- pipeline deeper inner .freeStart))
    | .either => chainRest deeper inner fuel (.either left (<- pipeline deeper inner .freeStart))
    | other =>
      putBack other
      return left

def chain (deeper : Deeper) (inner : Inner) : Reader Command := do
  let first <- pipeline deeper inner {}
  chainRest deeper inner (<- Reader.fuel) first

inductive ListKind
  | line
  | nested (mayBeMissing : Bool)
  deriving DecidableEq, Repr

def ListKind.place : ListKind -> Place
  | .line => .commandStart
  | .nested _ => .freeStart

def joined (before : Option Command) (next : Command) : Command :=
  before.elim next (Command.sequence · next)

def commandList (deeper : Deeper) (inner : Inner) (kind : ListKind) :
    Nat -> Bool -> Option Command -> Reader (Option Command)
  | 0, _, taken => return taken
  | fuel + 1, mayEnd, taken => do
    let first <- token deeper kind.place
    match first with
    | .newline => return taken
    | .endOfScript =>
      putBack first
      return taken
    | first =>
      putBack first
      if mayEnd && first.endsList then return taken
      let next <- chain deeper inner
      let again (next : Command) :=
        commandList deeper inner kind fuel (kind != .line) (some (joined taken next))
      match <- token deeper {} with
      | .ampersand => again (.background next)
      | .semicolon => again next
      | .newline =>
        putBack .newline
        again next
      | other =>
        if kind = .line && !(other matches .endOfScript) then unexpected other
        putBack other
        return some (joined taken next)

mutual

def deeper : Nat -> Deeper
  | 0 => {
      commands := return none
      closing := pure ()
      braceWord := fun _ => return []
      expression := return [] }
  | depth + 1 => {
      commands := list depth (.nested true)
      closing := do
        match <- token (deeper depth) .commandStart with
        | .closed => pure ()
        | other => expected other .closed
      braceWord := fun quoted => do
        let count := (<- get).rest.length + 2
        if quoted then quotedPieces (deeper depth) count .braces []
        else word (deeper depth) { inBraces := true }
      expression := do
        quotedPieces (deeper depth) (<- Reader.fuel) (.expression 0) [] }

def inner : Nat -> Inner
  | 0 => { list := fun _ => return none, command := fun _ => unexpected .endOfScript }
  | depth + 1 => {
      list := fun mayBeMissing => list depth (.nested mayBeMissing)
      command := fun place => commandAt (deeper depth) (inner depth) place }

def list : Nat -> ListKind -> Reader (Option Command)
  | 0, _ => return none
  | depth + 1, kind => do
    let mayEnd := kind = .nested true
    commandList (deeper depth) (inner depth) kind (<- Reader.fuel) mayEnd none

end

def depthLimit : Nat := 300

def nextLine (script : Script) : Except SyntaxFault (Option (Option Command × Script)) := do
  let (command, script) <- (list depthLimit .line).run script
  match command, script.returned with
  | none, some .endOfScript => return none
  | command, _ => return some (command, script)

end AnsibleTooling.Shell
