import AnsibleTooling.Json.Number

set_option autoImplicit false

namespace AnsibleTooling.Json

namespace Parser

def isSpace (byte : UInt8) : Bool :=
  byte == 32 || byte == 10 || byte == 9 || byte == 13

def skipSpace (bytes : Bytes) : Bytes :=
  bytes.dropWhile isSpace

def hexDigit? (byte : UInt8) : Option Nat :=
  if 48 <= byte && byte <= 57 then some (byte.toNat - 48)
  else if 65 <= byte && byte <= 70 then some (byte.toNat - 55)
  else if 97 <= byte && byte <= 102 then some (byte.toNat - 87)
  else none

def codeUnit (bytes : Bytes) : Reading (Nat × Bytes) :=
  match bytes with
  | a :: b :: c :: d :: rest =>
    match [a, b, c, d].mapM hexDigit? with
    | some digits => .ok (digits.foldl (fun value digit => value * 16 + digit) 0, rest)
    | none => failHere .invalidEscape rest
  | _ => failHere .unclosedText []

def expectByte (byte : UInt8) (bytes : Bytes) : Reading Bytes :=
  match bytes with
  | [] => failHere .unclosedText []
  | next :: rest => if next == byte then .ok rest else failHere .cutEscape rest

def unicodeEscape (bytes : Bytes) : Reading (Char × Bytes) := do
  let (unit, rest) <- codeUnit bytes
  if 0xDC00 <= unit && unit <= 0xDFFF then failHere .loneSurrogate rest
  else if 0xD800 <= unit && unit <= 0xDBFF then
    let rest <- expectByte 92 rest
    let rest <- expectByte 117 rest
    let (low, rest) <- codeUnit rest
    if 0xDC00 <= low && low <= 0xDFFF then
      .ok (Char.ofNat ((unit - 0xD800) * 0x400 + (low - 0xDC00) + 0x10000), rest)
    else failHere .loneSurrogate rest
  else .ok (Char.ofNat unit, rest)

def escape (bytes : Bytes) : Reading (Char × Bytes) :=
  match bytes with
  | [] => failHere .unclosedText []
  | byte :: rest =>
    match Char.ofNat byte.toNat with
    | '"' => .ok ('"', rest)
    | '\\' => .ok ('\\', rest)
    | '/' => .ok ('/', rest)
    | 'b' => .ok (Char.ofNat 8, rest)
    | 'f' => .ok (Char.ofNat 12, rest)
    | 'n' => .ok ('\n', rest)
    | 'r' => .ok ('\r', rest)
    | 't' => .ok ('\t', rest)
    | 'u' => unicodeEscape rest
    | _ => failHere .invalidEscape rest

def textEnd : Nat -> Bytes -> Bytes -> Reading (String × Bytes)
  | 0, _, bytes => failHere .unclosedText bytes
  | _, _, [] => failHere .unclosedText []
  | fuel + 1, taken, byte :: rest =>
    if byte == 34 then .ok (Text.decode taken.reverse, rest)
    else if byte == 92 then do
      let (char, rest) <- escape rest
      textEnd fuel ((String.utf8EncodeChar char).reverse ++ taken) rest
    else if byte < 32 then failHere .controlCharacter rest
    else textEnd fuel (byte :: taken) rest

def textAfterQuote (bytes : Bytes) : Reading (String × Bytes) :=
  textEnd (bytes.length + 1) [] bytes

def word (value : Value) : List Char -> Bytes -> Reading (Value × Bytes)
  | [], bytes => .ok (value, bytes)
  | _ :: _, [] => failHere .missingValue []
  | char :: chars, byte :: rest =>
    if byte.toNat == char.toNat then word value chars rest else failHere .expectedIdent rest

abbrev ItemReader := Bytes -> Reading (Value × Bytes)

def items (item : ItemReader) : Nat -> Bool -> List Value -> Bytes -> Reading (Value × Bytes)
  | 0, _, _, bytes => failNext .unclosedList bytes
  | fuel + 1, first, taken, bytes =>
    let next (rest : Bytes) : Reading (Value × Bytes) := do
      let (value, rest) <- item rest
      items item fuel false (value :: taken) rest
    match skipSpace bytes with
    | [] => failNext .unclosedList []
    | byte :: rest =>
      if byte == 93 then .ok (.array taken.reverse, rest)
      else if first then next (byte :: rest)
      else if byte == 44 then
        match skipSpace rest with
        | [] => failNext .missingValue []
        | after :: more =>
          if after == 93 then failNext .trailingComma (after :: more) else next (after :: more)
      else failNext .expectedListEnd (byte :: rest)

def member (item : ItemReader) (bytes : Bytes) : Reading (Member × Bytes) :=
  match bytes with
  | [] => failNext .missingValue []
  | byte :: rest =>
    if byte == 34 then do
      let (key, rest) <- textAfterQuote rest
      match skipSpace rest with
      | [] => failNext .unclosedObject []
      | colon :: after =>
        if colon == 58 then do
          let (value, rest) <- item after
          .ok ((key, value), rest)
        else failNext .expectedColon (colon :: after)
    else if byte == 125 then failNext .trailingComma bytes
    else failNext .keyNotText bytes

def members (item : ItemReader) : Nat -> Bool -> List Member -> Bytes -> Reading (Value × Bytes)
  | 0, _, _, bytes => failNext .unclosedObject bytes
  | fuel + 1, first, taken, bytes =>
    let next (rest : Bytes) : Reading (Value × Bytes) := do
      let (value, rest) <- member item rest
      members item fuel false (value :: taken) rest
    match skipSpace bytes with
    | [] => failNext .unclosedObject []
    | byte :: rest =>
      if byte == 125 then .ok (.object taken.reverse, rest)
      else if first then next (byte :: rest)
      else if byte == 44 then next (skipSpace rest)
      else failNext .expectedObjectEnd (byte :: rest)

def value : Nat -> ItemReader
  | depth, bytes =>
    match skipSpace bytes with
    | [] => failNext .missingValue []
    | byte :: rest =>
      match Char.ofNat byte.toNat, depth with
      | 'n', _ => word .null "ull".toList rest
      | 't', _ => word (.bool true) "rue".toList rest
      | 'f', _ => word (.bool false) "alse".toList rest
      | '-', _ => Number.unsigned true rest
      | '"', _ => do
        let (text, rest) <- textAfterQuote rest
        .ok (.text text, rest)
      | '[', inner + 2 => items (value (inner + 1)) (rest.length + 1) true [] rest
      | '\x7b', inner + 2 => members (value (inner + 1)) (rest.length + 1) true [] rest
      | '[', _ => failNext .tooDeep (byte :: rest)
      | '\x7b', _ => failNext .tooDeep (byte :: rest)
      | _, _ =>
        if (Number.digit? byte).isSome then Number.unsigned false (byte :: rest)
        else failNext .expectedValue (byte :: rest)

end Parser

def depthLimit : Nat := 128

def parseWritten (document : Bytes) : Reading Value := do
  let (value, rest) <- Parser.value depthLimit document
  let rest := Parser.skipSpace rest
  if rest.isEmpty then .ok value else failNext .trailingCharacters rest

def parseBytes (document : Bytes) : Reading Value :=
  (parseWritten document).map Value.settled

def parse (document : String) : Reading Value :=
  parseBytes (Text.encode document)

def parse? (document : String) : Option Value :=
  (parse document).toOption

end AnsibleTooling.Json
