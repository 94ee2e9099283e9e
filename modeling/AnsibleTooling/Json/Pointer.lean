import AnsibleTooling.Json.Basic

set_option autoImplicit false

namespace AnsibleTooling.Json

namespace Pointer

def splitAtChar (separator : Char) : List Char -> List (List Char)
  | [] => [[]]
  | char :: rest =>
    match splitAtChar separator rest with
    | [] => [[]]
    | part :: parts =>
      if char == separator then [] :: part :: parts else (char :: part) :: parts

def replacePair (code : Char) (char : Char) : List Char -> List Char
  | '~' :: next :: rest =>
    if next == code then char :: replacePair code char rest
    else '~' :: replacePair code char (next :: rest)
  | other :: rest => other :: replacePair code char rest
  | [] => []

def unescape (token : List Char) : String :=
  String.ofList (replacePair '0' '~' (replacePair '1' '/' token))

def index? (token : String) : Option Nat :=
  let digits := token.toList
  if digits.isEmpty || !digits.all Char.isDigit then none
  else if 1 < digits.length && digits.head? == some '0' then none
  else token.toNat?

def step (value : Value) (token : String) : Option Value :=
  match value with
  | .object _ => value.get? token
  | .array items => (index? token).bind (items[·]?)
  | _ => none

end Pointer

def Value.pointer? (value : Value) (pointer : String) : Option Value :=
  match Pointer.splitAtChar '/' pointer.toList with
  | [] :: tokens => (tokens.map Pointer.unescape).foldlM Pointer.step value
  | _ => none

end AnsibleTooling.Json
