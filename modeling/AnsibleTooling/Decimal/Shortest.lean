import AnsibleTooling.Decimal.Binary64
/-!
The shortest decimal that reads back as a given magnitude, and its layouts. For each count of
digits the two neighbours of the value on that decimal grid are tried; the first grid with a
neighbour inside the interval of numbers that round to the value wins.
-/

set_option autoImplicit false

namespace AnsibleTooling.Decimal

structure Digits where
  digits : Nat
  exponent : Int
  deriving DecidableEq, Repr

def decimalExponent (numerator denominator : Nat) : Nat -> Int -> Int
  | 0, exponent => exponent
  | fuel + 1, exponent =>
    let below := exponent - 1
    let fits :=
      if 0 <= below then denominator * Nat.pow 10 below.toNat <= numerator
      else denominator <= numerator * Nat.pow 10 (-below).toNat
    if fits then exponent else decimalExponent numerator denominator fuel below

structure Interval where
  low : Nat
  high : Nat
  exponent : Int
  closed : Bool

def Magnitude.interval (value : Magnitude) : Interval :=
  let narrow := value.mantissa == mantissaLimit / 2 && leastExponent < value.exponent
  { low := 4 * value.mantissa - (if narrow then 1 else 2)
    high := 4 * value.mantissa + 2
    exponent := value.exponent - 2
    closed := value.mantissa % 2 == 0 }

def compareScaled (count : Nat) (tens : Int) (quarters : Nat) (twos : Int) : Ordering :=
  let left := count * Nat.pow 10 tens.toNat * Nat.pow 2 (-twos).toNat
  let right := quarters * Nat.pow 2 twos.toNat * Nat.pow 10 (-tens).toNat
  compare left right

def Interval.holds (interval : Interval) (count : Nat) (tens : Int) : Bool :=
  let low := compareScaled count tens interval.low interval.exponent
  let high := compareScaled count tens interval.high interval.exponent
  if interval.closed then low != .lt && high != .gt else low == .gt && high == .lt

inductive Tie
  | toEven
  | upward
  deriving DecidableEq, Repr

def Tie.round (tie : Tie) (numerator denominator : Nat) : Nat :=
  match tie with
  | .toEven => roundQuotient numerator denominator
  | .upward => (2 * numerator + denominator) / (2 * denominator)

def gridNeighbour? (tie : Tie) (value : Magnitude) (tens : Int) : Option Digits :=
  let (numerator, denominator) := value.fraction
  let top := numerator * Nat.pow 10 (-tens).toNat
  let bottom := denominator * Nat.pow 10 tens.toNat
  let below := top / bottom
  let above := below + 1
  let lowFits := 0 < below && value.interval.holds below tens
  let highFits := value.interval.holds above tens
  if lowFits && highFits then
    some { digits := tie.round top bottom, exponent := tens }
  else if lowFits then some { digits := below, exponent := tens }
  else if highFits then some { digits := above, exponent := tens }
  else none

def searchGrid (tie : Tie) (value : Magnitude) : Nat -> Int -> Digits
  | 0, tens => { digits := value.fraction.1 / value.fraction.2, exponent := max tens 0 }
  | fuel + 1, tens =>
    match gridNeighbour? tie value tens with
    | some digits => digits
    | none => searchGrid tie value fuel (tens - 1)

def dropTrailingZeros : Nat -> Digits -> Digits
  | 0, value => value
  | fuel + 1, value =>
    if value.digits != 0 && value.digits % 10 == 0 then
      dropTrailingZeros fuel { digits := value.digits / 10, exponent := value.exponent + 1 }
    else value

def shortest (tie : Tie) (value : Magnitude) : Digits :=
  if value.mantissa == 0 then { digits := 0, exponent := 0 }
  else
    let (numerator, denominator) := value.fraction
    let exponent := decimalExponent numerator denominator 640 310
    dropTrailingZeros 20 (searchGrid tie value 18 (exponent - 1))

def Digits.positional (value : Digits) : String :=
  let digits := Nat.toDigits 10 value.digits
  if 0 <= value.exponent then
    String.ofList (digits ++ List.replicate value.exponent.toNat '0') ++ ".0"
  else
    let places := (-value.exponent).toNat
    let padded := List.replicate (places + 1 - digits.length) '0' ++ digits
    let whole := padded.length - places
    String.ofList (padded.take whole ++ ['.'] ++ padded.drop whole)

def Digits.scientific (value : Digits) : String :=
  let digits := Nat.toDigits 10 value.digits
  let power := value.exponent + digits.length - 1
  let fraction := digits.drop 1
  String.ofList (digits.take 1 ++ (if fraction.isEmpty then [] else '.' :: fraction)) ++ "e" ++
    (if 0 <= power then "+" else "-") ++ toString power.natAbs

def Digits.point (value : Digits) : Int :=
  value.exponent + (Nat.toDigits 10 value.digits).length

def signed (negative : Bool) (text : String) : String :=
  if negative then "-" ++ text else text

end AnsibleTooling.Decimal
