import AnsibleTooling.Json.Basic
/-!
Messages between a client and a server. `toJson` writes the members in a fixed order and leaves
out what is absent; `ofJson?` reads records given as objects or as lists of their members. It
takes a value as it is written, because a record may not repeat a member that it knows.
-/

set_option autoImplicit false

namespace AnsibleTooling.Rpc

open Json (Value)

inductive RequestId
  | number (value : Int)
  | text (value : String)
  deriving DecidableEq, Repr

structure Request where
  id : RequestId
  method : String
  parameters : Value

structure Failure where
  code : Int
  message : String
  data : Option Value

structure Response where
  id : RequestId
  result : Option Value
  failure : Option Failure

structure Notification where
  method : String
  parameters : Value

inductive Message
  | request (request : Request)
  | response (response : Response)
  | notification (notification : Notification)

def RequestId.toJson : RequestId -> Value
  | .number value => .integer value
  | .text value => .text value

def present (members : List (String × Option Value)) : List Json.Member :=
  members.filterMap fun (name, value) => value.map fun value => (name, value)

def unlessNull (value : Value) : Option Value :=
  if value.isNull then none else some value

def Failure.toJson (failure : Failure) : Value :=
  .object <| present [
    ("code", some (.integer failure.code)), ("message", some (.text failure.message)),
    ("data", failure.data)]

def Message.members : Message -> List Json.Member
  | .request asked => present [
    ("id", some asked.id.toJson), ("method", some (.text asked.method)),
    ("params", unlessNull asked.parameters)]
  | .response given => present [
    ("id", some given.id.toJson), ("result", given.result),
    ("error", given.failure.map Failure.toJson)]
  | .notification told => present [
    ("method", some (.text told.method)), ("params", unlessNull told.parameters)]

def Message.toJson (message : Message) : Value :=
  .object (("jsonrpc", .text "2.0") :: message.members)

/-- The members of a record: those of an object by their names, none of them given twice, or the
items of a list in the order of the names, of which the last may be missing. -/
def record? (names : List String) (required : Nat) : Value -> Option (String -> Option Value)
  | .object members =>
    if names.all fun name => (members.countP fun member => member.1 == name) <= 1 then
      some fun name => Value.get? name (.object members)
    else none
  | .array items =>
    if required <= items.length && items.length <= names.length then
      some fun name => items[names.idxOf name]?
    else none
  | _ => none

def number? (value : Value) : Option Int :=
  value.integer?.filter fun value => -2147483648 <= value && value <= 2147483647

def RequestId.ofJson? (value : Value) : Option RequestId :=
  match value with
  | .text value => some (.text value)
  | value => (number? value).map .number

def Request.ofJson? (value : Value) : Option Request := do
  let member <- record? ["id", "method", "params"] 2 value
  let id <- RequestId.ofJson? (<- member "id")
  let method <- (<- member "method").text?
  return { id, method, parameters := ((member "params").getD .null).settled }

def Failure.ofJson? (value : Value) : Option Failure := do
  let member <- record? ["code", "message", "data"] 2 value
  let code <- number? (<- member "code")
  let message <- (<- member "message").text?
  return { code, message, data := ((member "data").bind unlessNull).map Value.settled }

def optionalFailure? (value : Option Value) : Option (Option Failure) :=
  match value.bind unlessNull with
  | none => some none
  | some value => (Failure.ofJson? value).map some

def Response.ofJson? (value : Value) : Option Response := do
  let member <- record? ["id", "result", "error"] 1 value
  let id <- RequestId.ofJson? (<- member "id")
  let failure <- optionalFailure? (member "error")
  return { id, result := ((member "result").bind unlessNull).map Value.settled, failure }

def Notification.ofJson? (value : Value) : Option Notification := do
  let member <- record? ["method", "params"] 1 value
  let method <- (<- member "method").text?
  return { method, parameters := ((member "params").getD .null).settled }

/-- A value is taken for the first kind of message that it fits. -/
def Message.ofJson? (value : Value) : Option Message :=
  (Request.ofJson? value).map .request <|>
    (Response.ofJson? value).map .response <|>
    (Notification.ofJson? value).map .notification

end AnsibleTooling.Rpc
