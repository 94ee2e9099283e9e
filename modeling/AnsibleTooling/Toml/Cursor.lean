import AnsibleTooling.Toml.Basic

set_option autoImplicit false

namespace AnsibleTooling.Toml

structure Cursor where
  place : Nat
  rest : List Char
  deriving Repr

abbrev Reader := StateT Cursor Option

namespace Reader

def fail {A : Type} : Reader A :=
  fun _ => none

def place : Reader Nat := do
  return (<- get).place

def rest : Reader (List Char) := do
  return (<- get).rest

def peek? : Reader (Option Char) := do
  return (<- get).rest.head?

def skip (count : Nat) : Reader Unit :=
  modify fun cursor => { place := cursor.place + count, rest := cursor.rest.drop count }

def takeWhile (keep : Char -> Bool) : Reader (List Char) := do
  let taken := (<- rest).takeWhile keep
  skip taken.length
  return taken

def takeSome (keep : Char -> Bool) : Reader (List Char) := do
  let taken <- takeWhile keep
  if taken.isEmpty then fail else return taken

def next : Reader Char := do
  match <- peek? with
  | some char => skip 1; return char
  | none => fail

def satisfy (keep : Char -> Bool) : Reader Char := do
  let char <- next
  if keep char then return char else fail

def startsWith (text : String) : Reader Bool := do
  return text.toList.isPrefixOf (<- rest)

def accept (text : String) : Reader Bool := do
  let found <- startsWith text
  if found then skip text.length
  return found

def expect (text : String) : Reader Unit := do
  if !(<- accept text) then fail

def attempt {A : Type} (reader : Reader A) : Reader (Option A) :=
  fun cursor =>
    match reader cursor with
    | some (value, next) => some (some value, next)
    | none => some (none, cursor)

def firstOf {A : Type} : List (Reader A) -> Reader A
  | [] => fail
  | reader :: readers => fun cursor =>
    match reader cursor with
    | some result => some result
    | none => firstOf readers cursor

def withSpan {A : Type} (reader : Reader A) : Reader (A × Span) := do
  let start <- place
  let value <- reader
  return (value, { start, stop := <- place })

def exactly (keep : Char -> Bool) (count : Nat) : Reader (List Char) := do
  let taken := (<- rest).take count
  if taken.length == count && taken.all keep then
    skip count
    return taken
  else fail

end Reader

end AnsibleTooling.Toml
