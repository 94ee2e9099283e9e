import AnsibleTooling.Toml.Cursor

set_option autoImplicit false

namespace AnsibleTooling.Toml

open Reader

def depthLimit : Nat := 80

def isBlank (char : Char) : Bool :=
  char == ' ' || char == '\t'

def isBeyondAscii (char : Char) : Bool :=
  0x80 <= char.toNat

def skipBlanks : Reader Unit := do
  let _ <- takeWhile isBlank

def newline : Reader Unit := do
  if !(<- accept "\n") then expect "\r\n"

def isCommentChar (char : Char) : Bool :=
  char == '\t' || (' ' <= char && char <= '~') || isBeyondAscii char

def comment : Reader Unit := do
  expect "#"
  let _ <- takeWhile isCommentChar

def lineEnd : Reader Unit := do
  if !(<- rest).isEmpty then newline

def lineTail : Reader Unit := do
  skipBlanks
  if <- startsWith "#" then comment
  lineEnd

def skipLoose : Nat -> Reader Unit
  | 0 => pure ()
  | fuel + 1 => do
    skipBlanks
    match <- peek? with
    | some '#' => comment; newline; skipLoose fuel
    | some '\n' => newline; skipLoose fuel
    | some '\r' => newline; skipLoose fuel
    | _ => pure ()

def hexValue (digits : List Char) : Nat :=
  digits.foldl (fun value digit =>
    value * 16 + (if digit.isDigit then digit.toNat - 48 else digit.toLower.toNat - 87)) 0

def isHexDigit (char : Char) : Bool :=
  char.isDigit || ('a' <= char.toLower && char.toLower <= 'f')

def codePoint (count : Nat) : Reader Char := do
  let code := hexValue (<- exactly isHexDigit count)
  if code < 0xD800 || (0xE000 <= code && code < 0x110000) then return Char.ofNat code else fail

def escapeSequence : Reader Char := do
  match <- next with
  | 'b' => return Char.ofNat 8
  | 't' => return '\t'
  | 'n' => return '\n'
  | 'f' => return Char.ofNat 12
  | 'r' => return '\r'
  | '"' => return '"'
  | '\\' => return '\\'
  | 'u' => codePoint 4
  | 'U' => codePoint 8
  | _ => fail

def isBasicChar (char : Char) : Bool :=
  char == '\t' || char == ' ' || char == '!' || ('#' <= char && char <= '[') ||
    (']' <= char && char <= '~') || isBeyondAscii char

def isLiteralChar (char : Char) : Bool :=
  char == '\t' || (' ' <= char && char <= '&') || ('(' <= char && char <= '~') ||
    isBeyondAscii char

def basicBody : Nat -> List Char -> Reader (List Char)
  | 0, _ => fail
  | fuel + 1, taken => do
    match <- next with
    | '"' => return taken.reverse
    | '\\' => basicBody fuel ((<- escapeSequence) :: taken)
    | char => if isBasicChar char then basicBody fuel (char :: taken) else fail

def basicString : Reader (List Char) := do
  expect "\""
  basicBody ((<- rest).length + 1) []

def literalString : Reader (List Char) := do
  expect "'"
  let body <- takeWhile isLiteralChar
  expect "'"
  return body

/-- A run of quotes inside a multi-line string: up to two belong to the text, and three close it
after at most two more. -/
def quoteRun (quote : Char) : Reader (Nat × Bool) := do
  let run := (<- takeWhile (· == quote)).length
  if run < 3 then return (run, false)
  else if run <= 5 then return (run - 3, true)
  else fail

def skipLines : Nat -> Reader Unit
  | 0 => pure ()
  | fuel + 1 => do
    skipBlanks
    if (<- attempt newline).isSome then skipLines fuel

def lineJoin : Reader Unit := do
  skipLines ((<- rest).length + 1)

def joinsLine : Reader Bool := do
  let after := (<- rest).dropWhile isBlank
  return after.head? == some '\n' || "\r\n".toList.isPrefixOf after

def basicLines : Nat -> List Char -> Reader (List Char)
  | 0, _ => fail
  | fuel + 1, taken => do
    match <- peek? with
    | none => fail
    | some '"' =>
      let (count, closed) <- quoteRun '"'
      let taken := List.replicate count '"' ++ taken
      if closed then return taken.reverse else basicLines fuel taken
    | some '\\' =>
      skip 1
      if <- joinsLine then
        lineJoin
        basicLines fuel taken
      else basicLines fuel ((<- escapeSequence) :: taken)
    | some '\n' => newline; basicLines fuel ('\n' :: taken)
    | some '\r' => newline; basicLines fuel ('\n' :: taken)
    | some char =>
      skip 1
      if isBasicChar char then basicLines fuel (char :: taken) else fail

def literalLines : Nat -> List Char -> Reader (List Char)
  | 0, _ => fail
  | fuel + 1, taken => do
    match <- peek? with
    | none => fail
    | some '\'' =>
      let (count, closed) <- quoteRun '\''
      let taken := List.replicate count '\'' ++ taken
      if closed then return taken.reverse else literalLines fuel taken
    | some '\n' => newline; literalLines fuel ('\n' :: taken)
    | some '\r' => newline; literalLines fuel ('\n' :: taken)
    | some char =>
      skip 1
      if isLiteralChar char then literalLines fuel (char :: taken) else fail

def skipFirstNewline : Reader Unit := do
  let _ <- attempt newline

def stringValue : Reader String := do
  let chars <-
    if <- accept "\"\"\"" then
      skipFirstNewline
      basicLines ((<- rest).length + 1) []
    else if <- accept "'''" then
      skipFirstNewline
      literalLines ((<- rest).length + 1) []
    else if <- startsWith "\"" then basicString
    else literalString
  return String.ofList chars

def isBareKeyChar (char : Char) : Bool :=
  char.isAlphanum || char == '-' || char == '_'

def simpleKey : Reader Key := do
  let (chars, span) <- withSpan do
    match <- peek? with
    | some '"' => basicString
    | some '\'' => literalString
    | _ => takeSome isBareKeyChar
  return { name := String.ofList chars, span }

def dottedRest : Nat -> List Key -> Reader (List Key)
  | 0, _ => fail
  | fuel + 1, taken => do
    skipBlanks
    let key <- simpleKey
    skipBlanks
    let taken := key :: taken
    if <- accept "." then dottedRest fuel taken else return taken.reverse

def dottedKey : Reader (List Key) :=
  dottedRest (depthLimit - 1) []

end AnsibleTooling.Toml
