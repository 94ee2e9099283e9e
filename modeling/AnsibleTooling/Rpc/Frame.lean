import AnsibleTooling.Json.Parser
import AnsibleTooling.Json.Printer
import AnsibleTooling.Rpc.Message
/-!
Messages on a byte stream: header lines that end in a carriage return and a line feed, an empty
line, and a body of as many bytes as the header says. A stream that breaks these rules has no
further messages.
-/

set_option autoImplicit false

namespace AnsibleTooling.Rpc.Frame

def lineFeed : UInt8 := 10

def carriageReturn : UInt8 := 13

def write (message : Message) : Bytes :=
  let body := Text.encode message.toJson.compact
  Text.encode s!"Content-Length: {body.length}\x0d\n\x0d\n" ++ body

def lowerChar (char : Char) : Char :=
  if 'A' <= char && char <= 'Z' then Char.ofNat (char.toNat + 32) else char

def splitField : List Char -> Option (List Char × List Char)
  | ':' :: ' ' :: rest => some ([], rest)
  | char :: rest => (splitField rest).map fun (name, value) => (char :: name, value)
  | [] => none

def size? (value : List Char) : Option Nat :=
  let digits := if value.head? == some '+' then value.drop 1 else value
  if digits.isEmpty || !digits.all Char.isDigit then none
  else
    let size := digits.foldl (fun size digit => size * 10 + (digit.toNat - 48)) 0
    if size < Nat.pow 2 64 then some size else none

def sizeBound : Nat := Nat.pow 2 63

def isLengthName (name : List Char) : Bool :=
  name.map lowerChar == "content-length".toList

inductive HeaderLine
  | blank
  | length (size : Nat)
  | other
  | malformed

def HeaderLine.ofBytes (line : Bytes) : HeaderLine :=
  if line.getLast? != some carriageReturn then .malformed
  else if line.dropLast.isEmpty then .blank
  else
    match (Text.decode? line.dropLast).bind fun text => splitField text.toList with
    | none => .malformed
    | some (name, value) =>
      if isLengthName name then (size? value).elim .malformed .length else .other

inductive Header
  | incomplete
  | broken
  | complete (size : Nat) (rest : Bytes)

/-- Reads header lines; `line` holds the bytes of the present one backwards. The last length
given counts. -/
def header (size : Option Nat) (line : Bytes) : Bytes -> Header
  | [] => .incomplete
  | byte :: rest =>
    if byte != lineFeed then header size (byte :: line) rest
    else
      match HeaderLine.ofBytes line.reverse with
      | .malformed => .broken
      | .blank =>
        match size with
        | none => .broken
        | some size => if size < sizeBound then .complete size rest else .broken
      | .length size => header (some size) [] rest
      | .other => header size [] rest

inductive Reading
  | incomplete
  | broken
  | complete (text : String) (rest : Bytes)

def read (bytes : Bytes) : Reading :=
  match header none [] bytes with
  | .incomplete => .incomplete
  | .broken => .broken
  | .complete size rest =>
    if rest.length < size then .incomplete
    else
      (Text.decode? (rest.take size)).elim .broken fun text => .complete text (rest.drop size)

def message? (text : String) : Option Message := do
  Message.ofJson? (<- (Json.parseWritten (Text.encode text)).toOption)

/-- What has been read of a stream: the bodies, and the message each is unless it is none, with
which the stream breaks. -/
structure Contents where
  bodies : List (String × Option Message)
  rest : Bytes
  isBroken : Bool

def readSome : Nat -> Bytes -> Contents
  | 0, bytes => { bodies := [], rest := bytes, isBroken := false }
  | fuel + 1, bytes =>
    match read bytes with
    | .incomplete => { bodies := [], rest := bytes, isBroken := false }
    | .broken => { bodies := [], rest := [], isBroken := true }
    | .complete text rest =>
      match message? text with
      | none => { bodies := [(text, none)], rest := [], isBroken := true }
      | some message =>
        let contents := readSome fuel rest
        { contents with bodies := (text, some message) :: contents.bodies }

def readAll (bytes : Bytes) : Contents :=
  readSome (bytes.length + 1) bytes

end AnsibleTooling.Rpc.Frame
