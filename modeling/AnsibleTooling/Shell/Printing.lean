import AnsibleTooling.Decimal.Shortest
import AnsibleTooling.Shell.Arithmetic

set_option autoImplicit false

namespace AnsibleTooling.Shell.Printing

open Arithmetic (isOctalDigit isHexDigit isBlank numeral valueOfDigits)

def simpleEscape? : Char -> Option Char
  | 'n' => some '\n'
  | 't' => some '\t'
  | 'r' => some '\r'
  | 'a' => some (Char.ofNat 7)
  | 'b' => some (Char.ofNat 8)
  | 'e' => some (Char.ofNat 27)
  | 'f' => some (Char.ofNat 12)
  | 'v' => some (Char.ofNat 11)
  | '\\' => some '\\'
  | _ => none

def escape? (text : Chars) : Option (Char × Chars) :=
  match text with
  | [] => none
  | char :: rest =>
    match simpleEscape? char with
    | some escaped => some (escaped, rest)
    | none =>
      let digits := (text.take 3).takeWhile isOctalDigit
      if digits.isEmpty then none
      else some (Char.ofNat (valueOfDigits 8 digits % 256), text.drop digits.length)

def unescape : Nat -> Chars -> Chars × Bool
  | 0, _ => ([], false)
  | _, [] => ([], false)
  | fuel + 1, '\\' :: rest =>
    let prepend (char : Char) (rest : Chars) : Chars × Bool :=
      let (text, isCut) := unescape fuel rest
      (char :: text, isCut)
    match rest with
    | 'c' :: _ => ([], true)
    | '0' :: digit :: more =>
      let digits := if isOctalDigit digit then digit :: more else '0' :: digit :: more
      match escape? digits with
      | some (char, rest) => prepend char rest
      | none => prepend '\\' rest
    | rest =>
      match escape? rest with
      | some (char, rest) => prepend char rest
      | none => prepend '\\' rest
  | fuel + 1, char :: rest =>
    let (text, isCut) := unescape fuel rest
    (char :: text, isCut)

def echo (arguments : List Chars) : Chars :=
  let isBare := arguments.head? == some "-n".toList
  let text := [' '].intercalate (if isBare then arguments.drop 1 else arguments)
  let (output, isCut) := unescape (text.length + 1) text
  if isBare || isCut then output else output ++ ['\n']

structure Directive where
  flags : Chars
  width : Nat
  precision? : Option Nat

namespace Directive

def pad (directive : Directive) (text : Chars) : Chars :=
  let padding := List.replicate (directive.width - text.length) ' '
  if directive.flags.contains '-' then text ++ padding else padding ++ text

def padNumber (directive : Directive) (leading digits : Chars) : Chars :=
  let fillsUp :=
    directive.flags.contains '0' && !directive.flags.contains '-' && directive.precision?.isNone
  let missing := if fillsUp then directive.width - leading.length - digits.length else 0
  directive.pad (leading ++ List.replicate missing '0' ++ digits)

def sign (directive : Directive) (isNegative : Bool) : Chars :=
  if isNegative then ['-']
  else if directive.flags.contains '+' then ['+']
  else if directive.flags.contains ' ' then [' ']
  else []

def digits (directive : Directive) (base value : Nat) : Chars :=
  if value == 0 && directive.precision? == some 0 then []
  else
    let digits := Nat.toDigits base value
    List.replicate (directive.precision?.getD 0 - digits.length) '0' ++ digits

def signedInteger (directive : Directive) (value : Int) : Chars :=
  directive.padNumber (directive.sign (value < 0)) (directive.digits 10 value.natAbs)

def unsignedInteger (directive : Directive) (kind : Char) (value : Int) : Chars :=
  let bits := Arithmetic.bits value
  let isMarked := directive.flags.contains '#' && bits != 0
  let text :=
    match kind with
    | 'o' =>
      let digits := directive.digits 8 bits
      let lacksZero := isMarked && digits.head? != some '0'
      directive.padNumber [] (if lacksZero then '0' :: digits else digits)
    | 'u' => directive.padNumber [] (directive.digits 10 bits)
    | _ => directive.padNumber (if isMarked then ['0', 'x'] else []) (directive.digits 16 bits)
  if kind == 'X' then text.map Char.toUpper else text

def pointBefore (places : Nat) (digits : Chars) : Chars :=
  if places == 0 then digits
  else digits.take (digits.length - places) ++ '.' :: digits.drop (digits.length - places)

def roundedDigits (numerator denominator : Nat) (places : Int) : Nat :=
  if 0 <= places then
    Decimal.roundQuotient (numerator * Nat.pow 10 places.toNat) denominator
  else Decimal.roundQuotient numerator (denominator * Nat.pow 10 (-places).toNat)

def fixedPoint (value : Decimal.Magnitude) (places : Nat) : Chars :=
  let (numerator, denominator) := value.fraction
  let digits := Nat.toDigits 10 (roundedDigits numerator denominator places)
  pointBefore places (List.replicate (places + 1 - digits.length) '0' ++ digits)

def significant (value : Decimal.Magnitude) (places : Nat) : Chars × Int :=
  let (numerator, denominator) := value.fraction
  if numerator == 0 then (List.replicate (places + 1) '0', 0)
  else
    let exponent := Decimal.decimalExponent numerator denominator 700 320 - 1
    let digits := Nat.toDigits 10 (roundedDigits numerator denominator (places - exponent))
    if places + 1 < digits.length then (digits.take (places + 1), exponent + 1)
    else (digits, exponent)

def withExponent (digits : Chars) (places : Nat) (exponent : Int) : Chars :=
  let size := Nat.toDigits 10 exponent.natAbs
  pointBefore places digits ++ ['e', if exponent < 0 then '-' else '+'] ++
    List.replicate (2 - size.length) '0' ++ size

def dropZeros (text : Chars) : Chars :=
  if text.contains '.' then
    ((text.reverse.dropWhile (· == '0')).dropWhile (· == '.')).reverse
  else text

def fractionText (directive : Directive) (kind : Char) (value : Decimal.Magnitude) : Chars :=
  let places := directive.precision?.getD 6
  let shortest : Chars :=
    let count := max places 1
    let (digits, exponent) := significant value (count - 1)
    if -4 <= exponent && exponent < count then
      dropZeros (fixedPoint value ((count : Int) - 1 - exponent).toNat)
    else
      let digits := dropZeros (pointBefore (count - 1) digits)
      withExponent (digits.filter (· != '.')) (digits.length - 2) exponent
  match kind.toLower with
  | 'f' => fixedPoint value places
  | 'e' =>
    let (digits, exponent) := significant value places
    withExponent digits places exponent
  | _ => shortest

def fraction (directive : Directive) (kind : Char) (isNegative : Bool)
    (value? : Option Decimal.Magnitude) : Chars :=
  let sign := directive.sign isNegative
  let text :=
    match value? with
    | none => directive.pad (sign ++ "inf".toList)
    | some value =>
      ({ directive with precision? := none } : Directive).padNumber sign
        (directive.fractionText kind value)
  if kind.isUpper then text.map Char.toUpper else text

end Directive

structure Progress where
  output : Chars := []
  complaints : List Chars := []
  status : Nat := 0
  arguments : List Chars

abbrev Printer := StateM Progress

namespace Printer

def put (text : Chars) : Printer Unit :=
  modify fun progress => { progress with output := text.reverse ++ progress.output }

def complain (status : Nat) (text : Chars) : Printer Unit :=
  modify fun progress => { progress with
    status, complaints := progress.complaints ++ [text] }

def argument? : Printer (Option Chars) :=
  modifyGet fun progress =>
    (progress.arguments.head?, { progress with arguments := progress.arguments.drop 1 })

def splitSign (text : Chars) : Bool × Chars :=
  match text with
  | '-' :: digits => (true, digits)
  | '+' :: digits => (false, digits)
  | digits => (false, digits)

def checkEnd (text rest : Chars) (isNumber : Bool) : Printer Unit := do
  if !isNumber && !text.isEmpty then complain 1 (text ++ ": expected numeric value".toList)
  else if !rest.isEmpty then complain 1 (text ++ ": not completely converted".toList)

def integer (isSigned : Bool) : Printer Int := do
  match <- argument? with
  | none => return 0
  | some ('"' :: rest) => return ((rest.headD (Char.ofNat 0)).toNat : Int)
  | some ('\'' :: rest) => return ((rest.headD (Char.ofNat 0)).toNat : Int)
  | some text =>
    let (isNegative, digits) := splitSign (text.dropWhile isBlank)
    let (value, rest) := numeral digits
    let isNumber := digits.head?.any Char.isDigit
    let limit :=
      if !isSigned then Nat.pow 2 64 - 1
      else if isNegative then Arithmetic.largest + 1
      else Arithmetic.largest
    if isNumber && rest.isEmpty && limit < value then
      complain 1 (text ++ ": Numerical result out of range".toList)
    else checkEnd text rest isNumber
    let value := min value limit
    return if isNumber && isNegative then -(value : Int) else if isNumber then value else 0

def exponent (text : Chars) : Int × Chars :=
  match text with
  | 'e' :: rest => after rest
  | 'E' :: rest => after rest
  | _ => (0, text)
where
  after (rest : Chars) : Int × Chars :=
    let (isNegative, rest) := splitSign rest
    let digits := rest.takeWhile Char.isDigit
    if digits.isEmpty then (0, text)
    else
      let value : Int := valueOfDigits 10 digits
      (if isNegative then -value else value, rest.drop digits.length)

def infinities : List Chars :=
  ["inf".toList, "infinity".toList]

def fraction : Printer (Bool × Option Decimal.Magnitude) := do
  match <- argument? with
  | none => return (false, some .zero)
  | some text =>
    let (isNegative, rest) := splitSign (text.dropWhile isBlank)
    if infinities.contains (rest.map Char.toLower) then return (isNegative, none)
    let whole := rest.takeWhile Char.isDigit
    let rest := rest.drop whole.length
    let places := if rest.head? == some '.' then (rest.drop 1).takeWhile Char.isDigit else []
    let isNumber := !(whole ++ places).isEmpty
    let rest := if rest.head? == some '.' then rest.drop (places.length + 1) else rest
    let (shift, rest) := if isNumber then exponent rest else (0, rest)
    let value? := Decimal.nearestDecimal? (valueOfDigits 10 (whole ++ places))
      (shift - (places.length : Int))
    if value?.isNone then complain 1 (text ++ ": Numerical result out of range".toList)
    else checkEnd text rest isNumber
    return (isNegative, value?)

def measure (text : Chars) : Printer (Option Int × Chars) := do
  match text with
  | '*' :: rest => return (some (<- integer true), rest)
  | _ =>
    let digits := text.takeWhile Char.isDigit
    return (if digits.isEmpty then none else some (valueOfDigits 10 digits : Nat),
      text.drop digits.length)

def directive (text : Chars) : Printer (Directive × Chars) := do
  let flags := text.takeWhile fun char => "#-+ 0".toList.contains char
  let (width?, rest) <- measure (text.drop flags.length)
  let width := width?.getD 0
  let (precision?, rest) <-
    match rest with
    | '.' :: rest => do
      let (precision?, rest) <- measure rest
      let precision := precision?.getD 0
      pure (if precision < 0 then none else some precision.toNat, rest)
    | rest => pure (none, rest)
  return ({ flags := if width < 0 then '-' :: flags else flags, width := width.natAbs, precision? },
    rest)

def convert (directive : Directive) (kind : Char) (spelling : Chars) : Printer Bool := do
  let shorten (text : Chars) : Chars := (directive.precision?.map text.take).getD text
  match kind with
  | 's' =>
    put (directive.pad (shorten ((<- argument?).getD [])))
    return true
  | 'b' =>
    let text := (<- argument?).getD []
    let (text, isCut) := unescape (text.length + 1) text
    put (directive.pad (shorten text))
    return !isCut
  | 'c' =>
    put (directive.pad [((<- argument?).getD []).headD (Char.ofNat 0)])
    return true
  | kind =>
    if ['e', 'E', 'f', 'F', 'g', 'G'].contains kind then
      let (isNegative, value) <- fraction
      put (directive.fraction kind isNegative value)
      return true
    else if ['d', 'i'].contains kind then
      put (directive.signedInteger (<- integer true))
      return true
    else if ['o', 'u', 'x', 'X'].contains kind then
      put (directive.unsignedInteger kind (<- integer false))
      return true
    else
      complain 2 (spelling ++ ": invalid directive".toList)
      return false

def pass : Nat -> Chars -> Printer Bool
  | 0, _ => return false
  | _, [] => return true
  | fuel + 1, '\\' :: rest => do
    match escape? rest with
    | some (char, rest) =>
      put [char]
      pass fuel rest
    | none =>
      put ['\\']
      pass fuel rest
  | fuel + 1, '%' :: '%' :: rest => do
    put ['%']
    pass fuel rest
  | fuel + 1, '%' :: rest => do
    let (directive, after) <- directive rest
    match after with
    | [] =>
      complain 2 "missing format character".toList
      return false
    | kind :: after =>
      let spelling := '%' :: rest.take (rest.length - after.length)
      if <- convert directive kind spelling then pass fuel after else return false
  | fuel + 1, char :: rest => do
    put [char]
    pass fuel rest

def passes (format : Chars) : Nat -> Printer Unit
  | 0 => pure ()
  | fuel + 1 => do
    let before := (<- get).arguments.length
    let goesOn <- pass (format.length + 1) format
    let left := (<- get).arguments.length
    if goesOn && left != 0 && left != before then passes format fuel

end Printer

def format (format : Chars) (arguments : List Chars) : Progress :=
  ((Printer.passes format (arguments.length + 1)).run { arguments }).2

end AnsibleTooling.Shell.Printing
