/-!
Text as bytes. `encode` writes UTF-8; `scan` reads any byte string one unit at a time, where a
unit is a character or one ill-formed sequence, and `decode` and `decode?` are its two uses.
-/

set_option autoImplicit false

namespace AnsibleTooling

abbrev Bytes := List UInt8

namespace Text

def encode (text : String) : Bytes :=
  text.toList.flatMap String.utf8EncodeChar

def encodeChars (chars : List Char) : Bytes :=
  chars.flatMap String.utf8EncodeChar

def replacement : Char := Char.ofNat 0xFFFD

namespace Utf8

/-- Where a reader stands between two bytes: at a boundary, or inside a character of which
`remaining` bytes are missing and whose next byte has to lie between `low` and `high`. -/
inductive Reader
  | boundary
  | inside (value remaining : Nat) (low high : UInt8)

abbrev Unit := Option Char

/-- A byte at a boundary. The second byte is bounded more tightly after `E0`, `ED`, `F0` and
`F4`, which excludes overlong forms, surrogates and values past the last code point. -/
def start (byte : UInt8) : List Unit × Reader :=
  if byte < 0x80 then ([some (Char.ofNat byte.toNat)], .boundary)
  else if byte < 0xC2 then ([none], .boundary)
  else if byte < 0xE0 then ([], .inside (byte.toNat - 0xC0) 1 0x80 0xBF)
  else if byte < 0xF0 then
    let low := if byte == 0xE0 then 0xA0 else 0x80
    let high := if byte == 0xED then 0x9F else 0xBF
    ([], .inside (byte.toNat - 0xE0) 2 low high)
  else if byte < 0xF5 then
    let low := if byte == 0xF0 then 0x90 else 0x80
    let high := if byte == 0xF4 then 0x8F else 0xBF
    ([], .inside (byte.toNat - 0xF0) 3 low high)
  else ([none], .boundary)

/-- A byte that cannot continue a character ends it as one ill-formed unit and is read again at
the boundary. -/
def Reader.step : Reader -> UInt8 -> List Unit × Reader
  | .boundary, byte => start byte
  | .inside value remaining low high, byte =>
    if low <= byte && byte <= high then
      let next := value * 64 + (byte.toNat - 0x80)
      if remaining <= 1 then ([some (Char.ofNat next)], .boundary)
      else ([], .inside next (remaining - 1) 0x80 0xBF)
    else
      let (units, reader) := start byte
      (none :: units, reader)

def Reader.finish : Reader -> List Unit
  | .boundary => []
  | .inside .. => [none]

def Reader.scan : Reader -> Bytes -> List Unit
  | reader, [] => reader.finish
  | reader, byte :: rest =>
    let (units, next) := reader.step byte
    units ++ next.scan rest

end Utf8

def scan (bytes : Bytes) : List Utf8.Unit :=
  Utf8.Reader.boundary.scan bytes

def decode (bytes : Bytes) : String :=
  String.ofList ((scan bytes).map (·.getD replacement))

def decode? (bytes : Bytes) : Option String :=
  ((scan bytes).mapM id).map String.ofList

def isAscii (byte : UInt8) : Bool :=
  byte < 0x80

end Text

end AnsibleTooling
