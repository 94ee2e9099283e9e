import AnsibleTooling.Regex.Basic
import AnsibleTooling.Text.Alphanumeric
import AnsibleTooling.Text.Blank

set_option autoImplicit false

namespace AnsibleTooling.Regex

structure Scan where
  rest : List Char
  spaced : Bool := false
  names : List (List Char) := []

abbrev Reader := StateT Scan Option

namespace Reader

def fail {A : Type} : Reader A :=
  fun _ => none

def peek? : Reader (Option Char) := do
  return (<- get).rest.head?

def skip (count : Nat) : Reader Unit :=
  modify fun scan => { scan with rest := scan.rest.drop count }

def peek : Reader Char := do
  match <- peek? with
  | some char => return char
  | none => fail

def next : Reader Char := do
  let char <- peek
  skip 1
  return char

def accept (text : String) : Reader Bool := do
  let found := text.toList.isPrefixOf (<- get).rest
  if found then skip text.length
  return found

def skipSpace : Nat -> Reader Unit
  | 0 => pure ()
  | fuel + 1 => do
    let scan <- get
    if scan.spaced then
      match scan.rest with
      | char :: rest =>
        if Text.isBlank char then
          set { scan with rest }
          skipSpace fuel
        else if char == '#' then
          set { scan with rest := (rest.dropWhile (· != '\n')).drop 1 }
          skipSpace fuel
      | [] => pure ()

def space : Reader Unit := do
  skipSpace ((<- get).rest.length + 1)

def advance : Reader Unit := do
  skip 1
  space
  if (<- peek?).isNone then fail

def following? : Reader (Option Char) := do
  let scan <- get
  let rest := scan.rest.drop 1
  if !scan.spaced then return rest.head?
  else
    match rest.dropWhile Text.isBlank with
    | '#' :: rest => return (rest.dropWhile Text.isBlank).head?
    | rest => return rest.head?

end Reader

open Reader

def isMeta (char : Char) : Bool :=
  "\\.+*?()|[]\x7b\x7d^$#&-~".toList.contains char

def isEscapable (char : Char) : Bool :=
  isMeta char || (char.toNat < 128 && !char.isAlphanum && char != '<' && char != '>')

def hexValue? (char : Char) : Option Nat :=
  if char.isDigit then some (char.toNat - 48)
  else if 'a' <= char.toLower && char.toLower <= 'f' then some (char.toLower.toNat - 87)
  else none

def hexDigits : Nat -> Nat -> Reader Nat
  | 0, value => return value
  | count + 1, value => do
    match hexValue? (<- peek) with
    | some digit =>
      if count == 0 then
        skip 1
        space
      else advance
      hexDigits count (value * 16 + digit)
    | none => fail

def hexLiteral (count : Nat) : Reader Node := do
  space
  let code <- hexDigits count 0
  if code < 0xD800 || (0xE000 <= code && code < 0x110000) then
    return .literal { char := Char.ofNat code, isByte := count == 2 }
  else fail

def escape : Reader Node := do
  let char <- next
  if isEscapable char then return .literal { char }
  else
    match char with
    | 'x' => hexLiteral 2
    | 'u' => hexLiteral 4
    | 'U' => hexLiteral 8
    | 'p' => return .property
    | 'P' => return .property
    | 'd' => return .letterClass false
    | 's' => return .letterClass false
    | 'w' => return .letterClass false
    | 'D' => return .letterClass true
    | 'S' => return .letterClass true
    | 'W' => return .letterClass true
    | 'a' => return .literal { char := Char.ofNat 7 }
    | 'f' => return .literal { char := Char.ofNat 12 }
    | 't' => return .literal { char := '\t' }
    | 'n' => return .literal { char := '\n' }
    | 'r' => return .literal { char := '\r' }
    | 'v' => return .literal { char := Char.ofNat 11 }
    | 'A' => return .boundary false
    | 'z' => return .boundary false
    | 'b' => return .boundary true
    | 'B' => return .boundary true
    | '<' => return .boundary true
    | '>' => return .boundary true
    | _ => fail

def classNames : List String := [
  "alnum", "alpha", "ascii", "blank", "cntrl", "digit", "graph", "lower", "print", "punct",
  "space", "upper", "word", "xdigit"]

def namedClass : Reader (Option Item) := do
  let rest := (<- get).rest
  match rest with
  | '[' :: ':' :: inner =>
    let negated := inner.head? == some '^'
    let inner := if negated then inner.drop 1 else inner
    let name := inner.takeWhile (· != ':')
    if classNames.contains (String.ofList name) &&
        [':', ']'].isPrefixOf (inner.drop name.length) then
      skip (name.length + (if negated then 5 else 4))
      return some (.named negated)
    else return none
  | _ => return none

def setMember : Reader Node := do
  match <- next with
  | '\\' => escape
  | char => return .literal { char }

def itemOf : Node -> Reader Item
  | .literal literal => return .literal literal
  | .letterClass negated => return .letterClass negated
  | .property => return .property
  | _ => fail

def literalOf : Node -> Reader Literal
  | .literal literal => return literal
  | _ => fail

def setRange : Reader Item := do
  let first <- setMember
  space
  if (<- peek) != '-' then itemOf first
  else
    let after <- following?
    if after == some ']' || after == some '-' then itemOf first
    else
      advance
      let last <- setMember
      let first <- literalOf first
      let last <- literalOf last
      if first.char <= last.char then return .range first last else fail

def hyphens : Nat -> List Item -> Reader (List Item)
  | 0, items => return items
  | fuel + 1, items => do
    if (<- peek) == '-' then
      advance
      hyphens fuel (.literal { char := '-' } :: items)
    else return items

def setOpening : Reader (Bool × List Item) := do
  advance
  let negated := (<- peek) == '^'
  if negated then advance
  let items <- hyphens (<- get).rest.length []
  if items.isEmpty && (<- peek) == ']' then
    advance
    return (negated, [.literal { char := ']' }])
  else return (negated, items)

def setOperators : List String := ["&&", "--", "~~"]

def setOperator : Reader Bool :=
  setOperators.anyM accept

def joined (left : Option Item) (items : List Item) : Item :=
  let right := Item.ofList items.reverse
  left.elim right (Item.operation · right)

def setContent : Nat -> Option Item -> List Item -> Reader Item
  | 0, _, _ => fail
  | fuel + 1, left, items => do
    space
    match <- peek with
    | '[' =>
      match <- namedClass with
      | some item => setContent fuel left (item :: items)
      | none =>
        let (negated, first) <- setOpening
        let inner <- setContent fuel none first
        setContent fuel left (.set negated inner :: items)
    | ']' =>
      skip 1
      return joined left items
    | _ =>
      if <- setOperator then setContent fuel (some (joined left items)) []
      else setContent fuel left ((<- setRange) :: items)

def set : Reader Node := do
  let (negated, first) <- setOpening
  return .set negated (<- setContent ((<- get).rest.length + 1) none first)

def flagLetters : List Char := ['i', 'm', 's', 'U', 'u', 'R', 'x']

def flags : Nat -> Bool -> FlagChanges -> Reader FlagChanges
  | 0, _, _ => fail
  | fuel + 1, on, changes => do
    match <- peek with
    | ':' => if !on && changes.all Prod.snd then fail else return changes
    | ')' => if !on && changes.all Prod.snd then fail else return changes
    | '-' =>
      if !on then fail
      skip 1
      flags fuel false changes
    | letter =>
      if !flagLetters.contains letter || (changes.find? letter).isSome then fail
      skip 1
      flags fuel on (changes ++ [(letter, on)])

def isNameChar (isFirst : Bool) (char : Char) : Bool :=
  char == '_' ||
    (if isFirst then Text.isAlphabetic char
    else ['.', '[', ']'].contains char || Text.isAlphanumeric char)

def groupName : Reader Unit := do
  let scan <- get
  let name := scan.rest.takeWhile (· != '>')
  match name with
  | first :: others =>
    if isNameChar true first && others.all (isNameChar false) && !scan.names.contains name then
      StateT.set { scan with names := name :: scan.names }
      skip name.length
      if (<- next) != '>' then fail
    else fail
  | [] => fail

inductive Opening
  | flags (changes : FlagChanges)
  | group (changes : FlagChanges)

def opening : Reader Opening := do
  space
  if <- ["?=", "?!", "?<=", "?<!"].anyM fun text => do
      return text.toList.isPrefixOf (<- get).rest then fail
  else if <- ["?P<", "?<"].anyM accept then
    groupName
    return .group []
  else if <- accept "?" then
    let changes <- flags ((<- get).rest.length + 1) true []
    if (<- next) == ')' then
      if changes.isEmpty then fail else return .flags changes
    else return .group changes
  else return .group []

def setSpaced (changes : FlagChanges) : Reader Unit :=
  modify fun scan => { scan with spaced := (changes.find? 'x').getD scan.spaced }

def isRepeatable : Node -> Bool
  | .empty => false
  | .flags _ => false
  | _ => true

def sequenceOf : List Node -> Node
  | [] => .empty
  | [node] => node
  | nodes => .sequence nodes.reverse

def alternativesOf : List Node -> Node
  | [node] => node
  | nodes => .alternatives nodes.reverse

def nodes : Nat -> List Node -> List Node -> Reader Node
  | 0, _, _ => fail
  | fuel + 1, branches, taken => do
    space
    match <- peek? with
    | none => return alternativesOf (sequenceOf taken :: branches)
    | some ')' => return alternativesOf (sequenceOf taken :: branches)
    | some '|' =>
      skip 1
      nodes fuel (sequenceOf taken :: branches) []
    | some '(' =>
      skip 1
      match <- opening with
      | .flags changes =>
        setSpaced changes
        nodes fuel branches (.flags changes :: taken)
      | .group changes =>
        let spaced := (<- get).spaced
        setSpaced changes
        let inner <- nodes fuel [] []
        if (<- next) != ')' then fail
        modify fun scan => { scan with spaced }
        nodes fuel branches (.group changes inner :: taken)
    | some '[' => nodes fuel branches ((<- set) :: taken)
    | some '\\' =>
      skip 1
      nodes fuel branches ((<- escape) :: taken)
    | some '.' =>
      skip 1
      nodes fuel branches (.anyChar :: taken)
    | some '\x7b' => fail
    | some char =>
      skip 1
      if ['?', '*', '+'].contains char then
        match taken with
        | node :: others =>
          if !isRepeatable node then fail
          let _ <- accept "?"
          nodes fuel branches (.repeated node :: others)
        | [] => fail
      else if char == '^' || char == '$' then nodes fuel branches (.boundary false :: taken)
      else nodes fuel branches (.literal { char } :: taken)

def parse? (text : List Char) : Option Node := do
  let (node, scan) <- (nodes (text.length + 1) [] []).run { rest := text }
  if scan.rest.isEmpty then some node else none

def isValid (text : List Char) : Bool :=
  match parse? text with
  | some node => node.isPermitted
  | none => false

end AnsibleTooling.Regex
