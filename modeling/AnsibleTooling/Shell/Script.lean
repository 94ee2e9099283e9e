import AnsibleTooling.Shell.Command

set_option autoImplicit false

namespace AnsibleTooling.Shell

inductive Arrow
  | opening (opening : Opening)
  | copyTo
  | copyFrom
  -- A text below in the script, possibly without the tabs before its lines.
  | text (stripsTabs : Bool)
  deriving DecidableEq, Repr

inductive Token
  | word (word : Word)
  | redirection (descriptor : Nat) (arrow : Arrow)
  | newline
  | endOfScript
  | semicolon
  | ampersand
  | both
  | either
  | pipe
  | opened
  | closed
  | armEnd
  -- A word that is reserved where a command can begin.
  | reserved (word : String)

structure SyntaxFault where
  line : Nat
  text : String
  deriving Repr

/-- A word that was replaced by other text, which ends where so many characters are left. If it ends
in a blank, the word after it can be replaced too. -/
structure Replacement where
  word : Chars
  left : Nat
  goesOn : Bool

structure Script where
  rest : Chars
  line : Nat := 1
  -- How many of the next lines have been taken already.
  linesTaken : Nat := 0
  -- A token that was put back.
  returned : Option Token := none
  -- Words that stand for other text where a command can begin.
  aliases : List (Chars × Chars) := []
  replacements : List Replacement := []
  -- How many characters were left where the latest token began, with the blanks before it and
  -- without them.
  tokenStart : Nat := 0
  wordStart : Nat := 0

abbrev Reader := StateT Script (Except SyntaxFault)

namespace Script

def drop (count : Nat) (script : Script) : Script :=
  let ends := (script.rest.take count).count '\n'
  if ends == 0 then { script with rest := script.rest.drop count }
  else { script with
    rest := script.rest.drop count
    line := script.line + ends + script.linesTaken
    linesTaken := 0 }

def replacement? (word : Chars) (script : Script) : Option Chars :=
  let isOwn := script.replacements.any fun other =>
    other.word == word && other.left < script.wordStart
  if isOwn then none
  else (script.aliases.find? fun entry => entry.1 == word).map Prod.snd

def followsReplacement (script : Script) : Bool :=
  script.replacements.any fun other =>
    other.goesOn && other.left < script.tokenStart && script.wordStart <= other.left

def replace (word text : Chars) (script : Script) : Script :=
  let replacement : Replacement := {
    word
    left := script.rest.length
    goesOn := text.getLast? == some ' ' || text.getLast? == some '\t' }
  { script with
    rest := text ++ script.rest
    replacements := replacement :: script.replacements }

def joinCount : Chars -> Nat
  | '\\' :: '\n' :: rest => joinCount rest + 2
  | _ => 0

end Script

namespace Reader

def fault {A : Type} (text : String) : Reader A :=
  fun script => .error { line := script.line, text }

def skip (count : Nat) : Reader Unit :=
  modify (Script.drop count)

def pass : Reader Unit :=
  modify fun script => { script with rest := script.rest.drop 1 }

def peek? : Reader (Option Char) := do
  return (<- get).rest.head?

def look? : Reader (Option Char) := do
  modify fun script => script.drop (Script.joinCount script.rest)
  peek?

def takeWhile (keep : Char -> Bool) : Reader Chars := do
  let taken := (<- get).rest.takeWhile keep
  skip taken.length
  return taken

def accept (char : Char) : Reader Bool := do
  if (<- look?) == some char then
    skip 1
    return true
  else return false

def fuel : Reader Nat := do
  let script <- get
  let replacing := script.aliases.foldl (fun sum entry => sum + entry.2.length + 1) 0
  return (script.rest.length + 2) * (replacing + 1)

def within {A : Type} (text : Chars) (line : Nat) (reader : Reader A) : Reader A := do
  let script <- get
  set { rest := text, line, aliases := script.aliases : Script }
  let value <- reader
  set script
  return value

end Reader

namespace Token

def reservedWords : List String := [
  "!", "case", "do", "done", "elif", "else", "esac", "fi", "for", "if", "in", "then", "until",
  "while", "\x7b", "\x7d"]

def closingWords : List String :=
  ["do", "done", "elif", "else", "esac", "fi", "then", "\x7d"]

def display : Token -> String
  | .word _ => "word"
  | .redirection .. => "redirection"
  | .newline => "newline"
  | .endOfScript => "end of file"
  | .semicolon => "\";\""
  | .ampersand => "\"&\""
  | .both => "\"&&\""
  | .either => "\"||\""
  | .pipe => "\"|\""
  | .opened => "\"(\""
  | .closed => "\")\""
  | .armEnd => "\";;\""
  | .reserved spelling => "\"" ++ spelling ++ "\""

def endsList : Token -> Bool
  | .endOfScript => true
  | .closed => true
  | .armEnd => true
  | .reserved spelling => closingWords.contains spelling
  | _ => false

end Token

end AnsibleTooling.Shell
