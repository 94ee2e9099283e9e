import AnsibleTooling.Decimal.Binary64
/-!
JSON values. Members of an object are kept in the byte order of their keys, one per key;
`insertMember` is how they get there, and a key given twice keeps its last value. An object as it
is written may have its members in any order and repeat keys; `Value.settled` puts that right.
-/

set_option autoImplicit false

namespace AnsibleTooling.Json

open Decimal (Binary64)

inductive Value
  | null
  | bool (value : Bool)
  | integer (value : Int)
  | float (value : Binary64)
  | text (value : String)
  | array (items : List Value)
  | object (members : List (String × Value))
  deriving Inhabited

abbrev Member := String × Value

def insertMember (key : String) (value : Value) : List Member -> List Member
  | [] => [(key, value)]
  | (other, held) :: rest =>
    if key < other then (key, value) :: (other, held) :: rest
    else if key = other then (key, value) :: rest
    else (other, held) :: insertMember key value rest

def Value.ofMembers (members : List Member) : Value :=
  .object (members.foldl (fun sorted (key, value) => insertMember key value sorted) [])

namespace Value

mutual

def settled : Value -> Value
  | .array items => .array (settledItems items)
  | .object members => .ofMembers (settledMembers members)
  | value => value

def settledItems : List Value -> List Value
  | [] => []
  | item :: items => item.settled :: settledItems items

def settledMembers : List (String × Value) -> List (String × Value)
  | [] => []
  | (key, value) :: members => (key, value.settled) :: settledMembers members

end

def ofText? : Option String -> Value
  | some value => .text value
  | none => .null

def texts (items : List String) : Value :=
  .array (items.map .text)

def get? (key : String) : Value -> Option Value
  | .object members => (members.find? fun member => member.1 == key).map Prod.snd
  | _ => none

def text? : Value -> Option String
  | .text value => some value
  | _ => none

def bool? : Value -> Option Bool
  | .bool value => some value
  | _ => none

def integer? : Value -> Option Int
  | .integer value => some value
  | _ => none

def items? : Value -> Option (List Value)
  | .array items => some items
  | _ => none

def members? : Value -> Option (List Member)
  | .object members => some members
  | _ => none

def isNull : Value -> Bool
  | .null => true
  | _ => false

end Value

end AnsibleTooling.Json
