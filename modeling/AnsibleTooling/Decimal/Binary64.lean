/-!
Binary floating point with 53 bits, in exact arithmetic: a magnitude is `mantissa * 2 ^ exponent`,
and every operation is the exact rational result followed by `nearest?`.
-/

set_option autoImplicit false

namespace AnsibleTooling.Decimal

structure Magnitude where
  mantissa : Nat
  exponent : Int
  deriving DecidableEq, Repr, Inhabited

inductive Binary64
  | finite (negative : Bool) (magnitude : Magnitude)
  | infinite (negative : Bool)
  | nan
  deriving DecidableEq, Repr, Inhabited

def leastExponent : Int := -1074

def mantissaLimit : Nat := Nat.pow 2 53

def greatestExponent : Int := 971

def scale (numerator denominator : Nat) (exponent : Int) : Nat × Nat :=
  if 0 <= exponent then (numerator * Nat.pow 2 exponent.toNat, denominator)
  else (numerator, denominator * Nat.pow 2 (-exponent).toNat)

def roundQuotient (numerator denominator : Nat) : Nat :=
  let quotient := numerator / denominator
  let twice := 2 * (numerator % denominator)
  if twice < denominator then quotient
  else if denominator < twice then quotient + 1
  else quotient + quotient % 2

def binaryExponent (numerator denominator : Nat) : Int :=
  let guess : Int := (numerator.log2 : Int) - (denominator.log2 : Int)
  let (low, high) := scale numerator denominator (-guess)
  if low < high then guess - 1 else guess

def Magnitude.zero : Magnitude := { mantissa := 0, exponent := leastExponent }

def nearest? (numerator denominator : Nat) : Option Magnitude :=
  if numerator == 0 then some .zero
  else
    let exponent := max leastExponent (binaryExponent numerator denominator - 52)
    let (top, bottom) := scale numerator denominator (-exponent)
    let rounded := roundQuotient top bottom
    let magnitude : Magnitude :=
      if rounded == mantissaLimit then { mantissa := rounded / 2, exponent := exponent + 1 }
      else { mantissa := rounded, exponent }
    if greatestExponent < magnitude.exponent then none else some magnitude

namespace Magnitude

def fraction (value : Magnitude) : Nat × Nat :=
  scale value.mantissa 1 value.exponent

def times? (left right : Magnitude) : Option Magnitude :=
  let (top, bottom) := scale (left.mantissa * right.mantissa) 1 (left.exponent + right.exponent)
  nearest? top bottom

def over? (left right : Magnitude) : Option Magnitude :=
  let (top, bottom) := scale left.mantissa right.mantissa (left.exponent - right.exponent)
  nearest? top bottom

end Magnitude

/-- The magnitude nearest to `digits * 10 ^ exponent`. A value whose order of magnitude settles
the answer is not expanded. -/
def nearestDecimal? (digits : Nat) (exponent : Int) : Option Magnitude :=
  let order := exponent + (Nat.toDigits 10 digits).length
  if digits == 0 then some .zero
  else if 310 < order then none
  else if order < -330 then some .zero
  else if 0 <= exponent then nearest? (digits * Nat.pow 10 exponent.toNat) 1
  else nearest? digits (Nat.pow 10 (-exponent).toNat)

end AnsibleTooling.Decimal
