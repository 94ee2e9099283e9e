import AnsibleTooling.Json.Basic
import AnsibleTooling.Json.Problem
/-!
JSON numbers. An integer of 64 bits is kept as such. Any other number is the significand, cut
where it no longer fits 64 bits and rounded once, times or over one rounded power of ten, rounded
again; so the result can be a neighbour of the nearest float.
-/

set_option autoImplicit false

namespace AnsibleTooling.Json

open Decimal (Binary64 Magnitude nearest?)

namespace Number

def digit? (byte : UInt8) : Option Nat :=
  if 48 <= byte && byte <= 57 then some (byte.toNat - 48) else none

def startsWithDigit : Bytes -> Bool
  | byte :: _ => (digit? byte).isSome
  | [] => false

def dropDigits (bytes : Bytes) : Bytes :=
  bytes.dropWhile fun byte => (digit? byte).isSome

def significandLimit : Nat := Nat.pow 2 64

def exponentLimit : Nat := Nat.pow 2 31

def greatestPower : Nat := 308

def takeDigits (limit : Nat) : Nat -> Nat -> Bytes -> Nat × Nat × Bytes
  | value, count, [] => (value, count, [])
  | value, count, byte :: rest =>
    match digit? byte with
    | none => (value, count, byte :: rest)
    | some digit =>
      let next := value * 10 + digit
      if next < limit then takeDigits limit next (count + 1) rest
      else (value, count, byte :: rest)

def power? (exponent : Nat) : Option Magnitude :=
  nearest? (Nat.pow 10 exponent) 1

def divideByPower : Nat -> Magnitude -> Nat -> Option Magnitude
  | 0, value, _ => some value
  | steps + 1, value, exponent =>
    if exponent <= greatestPower then do value.over? (<- power? exponent)
    else if value.mantissa == 0 then some value
    else do
      divideByPower steps (<- value.over? (<- power? greatestPower)) (exponent - greatestPower)

def scaled? (significand : Nat) (exponent : Int) : Option Magnitude := do
  let value <- nearest? significand 1
  if 0 <= exponent then
    if exponent.toNat <= greatestPower then value.times? (<- power? exponent.toNat)
    else if value.mantissa == 0 then some value
    else none
  else divideByPower 4 value (-exponent).toNat

def ofParts (negative : Bool) (significand : Nat) (exponent : Int) (rest : Bytes) :
    Reading (Value × Bytes) :=
  match scaled? significand exponent with
  | some magnitude => .ok (.float (.finite negative magnitude), rest)
  | none => failHere .numberOutOfRange rest

/-- The part after `e`. An exponent past 31 bits is out of range if it is positive and the
significand is not zero, and gives a zero otherwise. -/
def exponentPart (negative : Bool) (significand : Nat) (start : Int) (bytes : Bytes) :
    Reading (Value × Bytes) :=
  let (down, bytes) :=
    match bytes with
    | 43 :: rest => (false, rest)
    | 45 :: rest => (true, rest)
    | _ => (false, bytes)
  match bytes with
  | [] => failHere .missingValue []
  | byte :: after =>
    if (digit? byte).isNone then failHere .invalidNumber after
    else
      let (value, _, rest) := takeDigits exponentLimit 0 0 bytes
      if startsWithDigit rest then
        if significand != 0 && !down then failHere .numberOutOfRange (rest.drop 1)
        else .ok (.float (.finite negative .zero), dropDigits rest)
      else ofParts negative significand (if down then start - value else start + value) rest

def afterDigits (negative : Bool) (significand : Nat) (exponent : Int) (bytes : Bytes) :
    Reading (Value × Bytes) :=
  match bytes with
  | 101 :: rest => exponentPart negative significand exponent rest
  | 69 :: rest => exponentPart negative significand exponent rest
  | _ => ofParts negative significand exponent bytes

def fractionPart (negative : Bool) (significand : Nat) (start : Int) (bytes : Bytes) :
    Reading (Value × Bytes) :=
  let (value, count, rest) := takeDigits significandLimit significand 0 bytes
  let exponent := start - count
  if startsWithDigit rest then afterDigits negative value exponent (dropDigits rest)
  else if count == 0 then
    if rest.isEmpty then failNext .missingValue rest else failNext .invalidNumber rest
  else afterDigits negative value exponent rest

def longInteger (negative : Bool) (significand : Nat) (bytes : Bytes) : Reading (Value × Bytes) :=
  let rest := dropDigits bytes
  let exponent : Int := bytes.length - rest.length
  match rest with
  | 46 :: after => fractionPart negative significand exponent after
  | _ => afterDigits negative significand exponent rest

def wholeNumber (negative : Bool) (significand : Nat) : Value :=
  if !negative then .integer significand
  else if significand == 0 || Nat.pow 2 63 < significand then
    .float (match nearest? significand 1 with
      | some magnitude => .finite true magnitude
      | none => .infinite true)
  else .integer (-(significand : Int))

def unsigned (negative : Bool) (bytes : Bytes) : Reading (Value × Bytes) :=
  match bytes with
  | [] => failHere .missingValue []
  | byte :: after =>
    match digit? byte with
    | none => failHere .invalidNumber after
    | some first =>
      if first == 0 && startsWithDigit after then failNext .invalidNumber after
      else
        let (significand, _, rest) :=
          if first == 0 then (0, 0, after) else takeDigits significandLimit first 1 after
        if startsWithDigit rest then longInteger negative significand rest
        else
          match rest with
          | 46 :: more => fractionPart negative significand 0 more
          | 101 :: more => exponentPart negative significand 0 more
          | 69 :: more => exponentPart negative significand 0 more
          | _ => .ok (wholeNumber negative significand, rest)

end Number

end AnsibleTooling.Json
