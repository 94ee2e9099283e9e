import AnsibleTooling.Toml.Cursor

set_option autoImplicit false

namespace AnsibleTooling.Toml

open Reader
open Decimal (Binary64 nearestDecimal?)

def separatedDigits (keep : Char -> Bool) : Nat -> List Char -> Reader (List Char)
  | 0, taken => return taken
  | fuel + 1, taken => do
    let taken := taken ++ (<- takeSome keep)
    if <- accept "_" then separatedDigits keep fuel taken else return taken

def digitRun (keep : Char -> Bool) : Reader (List Char) := do
  separatedDigits keep ((<- rest).length + 1) []

def sign : Reader Bool := do
  if <- accept "-" then return true
  else
    let _ <- accept "+"
    return false

def wholeDigits : Reader (List Char) := do
  if <- accept "0" then return ['0'] else digitRun Char.isDigit

def decimalValue (digits : List Char) : Nat :=
  digits.foldl (fun value digit => value * 10 + (digit.toNat - 48)) 0

def digitValue (char : Char) : Nat :=
  if char.isDigit then char.toNat - 48 else char.toLower.toNat - 87

def radixValue (radix : Nat) (digits : List Char) : Nat :=
  digits.foldl (fun value digit => value * radix + digitValue digit) 0

def withinInteger (value : Int) : Reader Scalar :=
  if -9223372036854775808 <= value && value <= 9223372036854775807 then return .integer value
  else fail

def radixInteger (mark : String) (radix : Nat) : Reader Scalar := do
  expect mark
  let digits <- digitRun fun char =>
    (char.isDigit || ('a' <= char.toLower && char.toLower <= 'f')) && digitValue char < radix
  withinInteger (radixValue radix digits)

def decimalInteger : Reader Scalar := do
  let negative <- sign
  let value : Int := decimalValue (<- wholeDigits)
  withinInteger (if negative then -value else value)

def integer : Reader Scalar := do
  if <- startsWith "0x" then radixInteger "0x" 16
  else if <- startsWith "0o" then radixInteger "0o" 8
  else if <- startsWith "0b" then radixInteger "0b" 2
  else decimalInteger

def exponentPart : Reader Int := do
  let _ <- satisfy fun char => char == 'e' || char == 'E'
  let negative <- sign
  let value : Int := decimalValue (<- digitRun Char.isDigit)
  return if negative then -value else value

def fractionPart : Reader (List Char) := do
  expect "."
  digitRun Char.isDigit

def floatOf (negative : Bool) (digits : List Char) (exponent : Int) : Reader Scalar :=
  match nearestDecimal? (decimalValue digits) exponent with
  | some magnitude => return .float (.finite negative magnitude)
  | none => if negative then return .float (.infinite true) else fail

def decimalFloat : Reader Scalar := do
  let negative <- sign
  let whole <- wholeDigits
  match <- attempt fractionPart with
  | some fraction =>
    let exponent := (<- attempt exponentPart).getD 0
    floatOf negative (whole ++ fraction) (exponent - fraction.length)
  | none => floatOf negative whole (<- exponentPart)

def specialFloat : Reader Scalar := do
  let negative <- sign
  if <- accept "inf" then return .float (.infinite negative)
  else
    expect "nan"
    return .float .nan

def fixedNumber (count low high : Nat) : Reader Nat := do
  let value := decimalValue (<- exactly Char.isDigit count)
  if low <= value && value <= high then return value else fail

def isLeapYear (year : Nat) : Bool :=
  year % 4 == 0 && (year % 100 != 0 || year % 400 == 0)

def daysInMonth (year month : Nat) : Nat :=
  if month == 2 then (if isLeapYear year then 29 else 28)
  else if [4, 6, 9, 11].contains month then 30
  else 31

def date : Reader Unit := do
  let year <- fixedNumber 4 0 9999
  expect "-"
  let month <- fixedNumber 2 1 12
  expect "-"
  let _ <- fixedNumber 2 1 (daysInMonth year month)

def time : Reader Unit := do
  let _ <- fixedNumber 2 0 23
  expect ":"
  let _ <- fixedNumber 2 0 59
  expect ":"
  let _ <- fixedNumber 2 0 60
  if <- accept "." then
    let _ <- takeSome Char.isDigit

def offset : Reader Unit := do
  if <- accept "Z" then pure ()
  else if <- accept "z" then pure ()
  else
    let _ <- satisfy fun char => char == '+' || char == '-'
    let _ <- fixedNumber 2 0 23
    expect ":"
    let _ <- fixedNumber 2 0 59

def moment : Reader Scalar := do
  match <- attempt date with
  | some _ =>
    let _ <- attempt do
      let _ <- satisfy fun char => char == 'T' || char == 't' || char == ' '
      time
      let _ <- attempt offset
  | none => time
  return .moment

def number : Reader Scalar :=
  firstOf [moment, decimalFloat, specialFloat, integer]

end AnsibleTooling.Toml
