import AnsibleTooling.Shell.Script

set_option autoImplicit false

namespace AnsibleTooling.Shell

open Reader

def isNameStart (char : Char) : Bool :=
  char.isAlpha || char == '_'

def isNameChar (char : Char) : Bool :=
  char.isAlphanum || char == '_'

def isName : Chars -> Bool
  | first :: rest => isNameStart first && rest.all isNameChar
  | [] => false

def isSpecialName (char : Char) : Bool :=
  char.isDigit || "?$#*@!-".toList.contains char

def endsWord (char : Char) : Bool :=
  [' ', '\t', '\n', ';', '&', '|', '<', '>', '(', ')'].contains char

structure Deeper where
  -- Commands up to what ends a list of them.
  commands : Reader (Option Command)
  -- The closing parenthesis of commands.
  closing : Reader Unit
  -- A word up to a closing brace.
  braceWord : Bool -> Reader Word
  -- An expression up to its closing parentheses.
  expression : Reader Word

def addPlain (text : Chars) (taken : Word) : Word :=
  match taken with
  | .plain before false :: others => .plain (before ++ text) false :: others
  | _ => .plain text false :: taken

def isQuoted (word : Word) : Bool :=
  word.any fun piece =>
    match piece with
    | .plain _ quoted => quoted
    | _ => false

def backquoted (protects : Char -> Bool) : Nat -> Chars -> Reader Chars
  | 0, _ => fault "EOF in backquote substitution"
  | fuel + 1, taken => do
    match <- look? with
    | none => fault "EOF in backquote substitution"
    | some '`' =>
      skip 1
      return taken.reverse
    | some '\\' =>
      skip 1
      match <- peek? with
      | none => backquoted protects fuel ('\\' :: taken)
      | some char =>
        skip 1
        backquoted protects fuel (if protects char then char :: taken else char :: '\\' :: taken)
    | some char =>
      skip 1
      backquoted protects fuel (char :: taken)

def backquote (deeper : Deeper) (quoted : Bool) : Reader Piece := do
  let protects (char : Char) : Bool :=
    ['$', '`', '\\'].contains char || (quoted && char == '"')
  let text <- backquoted protects ((<- get).rest.length + 1) []
  return .output (<- within text 1 deeper.commands) quoted

def fallback? : Char -> Option Fallback
  | '-' => some .useInstead
  | '=' => some .assign
  | '+' => some .useIfPresent
  | '?' => some .complain
  | _ => none

def braceOperation (deeper : Deeper) (quoted : Bool) : Reader Operation := do
  match <- look? with
  | some '\x7d' =>
    skip 1
    return .value
  | some '%' =>
    skip 1
    let longest <- accept '%'
    return .trim true longest (<- deeper.braceWord false)
  | some '#' =>
    skip 1
    let longest <- accept '#'
    return .trim false longest (<- deeper.braceWord false)
  | none =>
    let _ <- deeper.braceWord quoted
    return .bad
  | _ =>
    let orEmpty <- accept ':'
    let mark? <- look?
    pass
    let word <- deeper.braceWord quoted
    match mark? with
    | some '\x7d' => return .last word
    | mark? =>
      match mark?.bind fallback? with
      | none => return .bad
      | some kind => return .fallback kind orEmpty word

def longName (first : Char) : Reader Chars := do
  let keep := if isNameStart first then isNameChar else Char.isDigit
  takeWhile keep

def measured (deeper : Deeper) (quoted : Bool) : Reader Piece := do
  let number : Reader Piece := do
    return .parameter ['#'] (<- braceOperation deeper quoted) quoted
  let length (name : Chars) : Reader Piece := do
    if <- accept '\x7d' then return .parameter name .length quoted
    else
      let _ <- deeper.braceWord quoted
      return .parameter name .bad quoted
  match <- look? with
  | some first =>
    if isNameStart first || first.isDigit then length (<- longName first)
    else if first != '\x7d' && ((<- get).rest.drop 1).head? == some '\x7d' then
      skip 1
      if isSpecialName first then length [first]
      else
        skip 1
        return .parameter ['#'] .bad quoted
    else number
  | none => number

def braceParameter (deeper : Deeper) (quoted : Bool) : Reader Piece := do
  match <- look? with
  | some '#' =>
    skip 1
    measured deeper quoted
  | some first =>
    if isNameStart first || first.isDigit then
      let name <- longName first
      return .parameter name (<- braceOperation deeper quoted) quoted
    else if isSpecialName first then
      skip 1
      return .parameter [first] (<- braceOperation deeper quoted) quoted
    else
      if first != '\x7d' then pass
      let _ <- deeper.braceWord quoted
      return .parameter [] .bad quoted
  | none =>
    let _ <- deeper.braceWord quoted
    return .parameter [] .bad quoted

def dollar (deeper : Deeper) (quoted : Bool) : Reader Piece := do
  match <- look? with
  | some '(' =>
    skip 1
    if <- accept '(' then return .arithmetic (<- deeper.expression) quoted
    else
      let commands <- deeper.commands
      deeper.closing
      return .output commands quoted
  | some '\x7b' =>
    skip 1
    braceParameter deeper quoted
  | some char =>
    if isNameStart char then return .parameter (<- takeWhile isNameChar) .value quoted
    else if isSpecialName char then
      skip 1
      return .parameter [char] .value quoted
    else return .plain ['$'] quoted
  | none => return .plain ['$'] quoted

inductive Surrounding
  | quotes
  | braces
  -- A text in lines of its own, which ends with them.
  | lines
  -- Parentheses, of which so many are open inside.
  | expression (depth : Nat)
  deriving DecidableEq, Repr

namespace Surrounding

def protects (surrounding : Surrounding) (char : Char) : Bool :=
  ['$', '`', '\\'].contains char || (char == '"' && surrounding != .lines) ||
    (char == '\x7d' && surrounding = .braces)

def after (surrounding : Surrounding) (char next : Option Char) : Option Surrounding :=
  match surrounding, char with
  | .quotes, some '"' => none
  | .braces, some '\x7d' => none
  | .expression depth, some '(' => some (.expression (depth + 1))
  | .expression 0, some ')' => if next == some ')' then none else some (.expression 0)
  | .expression (depth + 1), some ')' => some (.expression depth)
  | .lines, none => none
  | surrounding, _ => some surrounding

def endLength : Surrounding -> Nat
  | .expression _ => 2
  | _ => 1

def unended : Surrounding -> String
  | .expression _ => "Missing '))'"
  | _ => "Unterminated quoted string"

end Surrounding

def isInert (char : Char) : Bool :=
  !(['$', '`', '\\', '"', '(', ')', '\x7d'].contains char)

def quotedUnit (pieces : Word) : Word :=
  match pieces with
  | [.parameter ['@'] .value true] => pieces
  | _ => .plain [] true :: pieces

def quotedPieces (deeper : Deeper) : Nat -> Surrounding -> Word -> Reader Word
  | 0, surrounding, _ => fault surrounding.unended
  | fuel + 1, surrounding, taken => do
    let again (piece : Piece) := quotedPieces deeper fuel surrounding (piece :: taken)
    let rest := (<- get).rest
    match surrounding.after rest.head? (rest.drop 1).head? with
    | none =>
      skip surrounding.endLength
      return taken.reverse
    | some surrounding =>
      match rest with
      | [] => fault surrounding.unended
      | '$' :: _ =>
        skip 1
        again (<- dollar deeper true)
      | '`' :: _ =>
        skip 1
        again (<- backquote deeper true)
      | '\\' :: '\n' :: _ =>
        skip 2
        quotedPieces deeper fuel surrounding taken
      | '\\' :: char :: _ =>
        if surrounding.protects char then
          skip 2
          again (.plain [char] true)
        else
          skip 1
          again (.plain ['\\'] true)
      | '"' :: _ =>
        skip 1
        if surrounding = .braces then
          let inner <- quotedPieces deeper fuel .quotes []
          quotedPieces deeper fuel surrounding ((quotedUnit inner).reverse ++ taken)
        else again (.plain ['"'] true)
      | char :: _ =>
        skip 1
        let more <- takeWhile isInert
        quotedPieces deeper fuel surrounding (.plain (char :: more) true :: taken)

structure WordKind where
  inBraces : Bool := false
  isMark : Bool := false

def wordPieces (deeper : Deeper) (kind : WordKind) : Nat -> Word -> Reader Word
  | 0, _ => fault "Missing '\x7d'"
  | fuel + 1, taken => do
    let again (piece : Piece) := wordPieces deeper kind fuel (piece :: taken)
    match <- look? with
    | none => if kind.inBraces then fault "Missing '\x7d'" else return taken.reverse
    | some '\'' =>
      skip 1
      let text <- takeWhile (· != '\'')
      if (<- peek?).isNone then fault "Unterminated quoted string"
      skip 1
      again (.plain text true)
    | some '"' =>
      skip 1
      let pieces <-
        if kind.isMark then
          let text <- takeWhile (· != '"')
          if (<- peek?).isNone then fault "Unterminated quoted string"
          skip 1
          pure [.plain text true]
        else quotedPieces deeper ((<- get).rest.length + 2) .quotes []
      wordPieces deeper kind fuel ((quotedUnit pieces).reverse ++ taken)
    | some '\\' =>
      skip 1
      match <- peek? with
      | none => again (.plain ['\\'] true)
      | some char =>
        skip 1
        again (.plain [char] true)
    | some char =>
      if char == '\x7d' && kind.inBraces then
        skip 1
        return taken.reverse
      else if endsWord char && !kind.inBraces then return taken.reverse
      else
        skip 1
        if char == '$' && !kind.isMark then
          match <- dollar deeper false with
          | .plain text _ => wordPieces deeper kind fuel (addPlain text taken)
          | piece => again piece
        else if char == '`' && !kind.isMark then again (<- backquote deeper false)
        else wordPieces deeper kind fuel (addPlain [char] taken)

def word (deeper : Deeper) (kind : WordKind) : Reader Word := do
  wordPieces deeper kind ((<- get).rest.length + 2) []

end AnsibleTooling.Shell
