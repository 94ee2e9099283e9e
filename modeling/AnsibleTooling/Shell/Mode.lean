import AnsibleTooling.Files.Tree
import AnsibleTooling.Shell.Arithmetic

set_option autoImplicit false

namespace AnsibleTooling.Shell.Mode

def allBits : Nat := 0o7777

structure Step where
  people : Nat := 0
  sign : Char
  bits : Nat := 0
  executesIfAny : Bool := false
  copied : Nat := 0

def peopleBits? : Char -> Option Nat
  | 'u' => some 0o4700
  | 'g' => some 0o2070
  | 'o' => some 0o1007
  | 'a' => some allBits
  | _ => none

def Step.add (step : Step) (letter : Char) : Step :=
  match letter with
  | 'r' => { step with bits := step.bits ||| 0o444 }
  | 'w' => { step with bits := step.bits ||| 0o222 }
  | 'x' => { step with bits := step.bits ||| 0o111 }
  | 's' => { step with bits := step.bits ||| 0o6000 }
  | 't' => { step with bits := step.bits ||| 0o1000 }
  | 'X' => { step with executesIfAny := true }
  | letter => { step with copied := step.copied ||| ((peopleBits? letter).getD 0 &&& 0o777) }

def spread (bits : Nat) : Nat :=
  let part (mask : Nat) : Nat := if bits &&& mask == 0 then 0 else mask
  part 0o444 ||| part 0o222 ||| part 0o111

def Step.apply (mask : Nat) (isDirectory : Bool) (mode : Nat) (step : Step) : Nat :=
  let executes := step.executesIfAny && (isDirectory || mode &&& 0o111 != 0)
  let meant := step.bits ||| (if executes then 0o111 else 0) ||| spread (mode &&& step.copied)
  let value :=
    if step.people == 0 then Files.withhold mask meant else meant &&& step.people
  match step.sign with
  | '+' => mode ||| value
  | '-' => Files.withhold value mode
  | _ => (if step.people == 0 then 0 else Files.withhold step.people mode) ||| value

inductive Spelling
  | mixed
  | strict
  deriving DecidableEq, Repr

def Spelling.letters (spelling : Spelling) (text : Chars) : Chars :=
  match spelling, text with
  | .mixed, text => text.takeWhile fun char => "rwxXsugo".toList.contains char
  | .strict, first :: rest =>
    if "ugo".toList.contains first then [first]
    else (first :: rest).takeWhile fun char => "rwxXst".toList.contains char
  | .strict, [] => []

def steps? (spelling : Spelling) : Nat -> Nat -> Chars -> Option (List Step)
  | 0, _, _ => none
  | fuel + 1, people, text =>
    match text with
    | [] => some []
    | ',' :: rest =>
      let named := rest.takeWhile fun char => (peopleBits? char).isSome
      let after := rest.drop named.length
      let people := (named.filterMap peopleBits?).foldl (· ||| ·) 0
      match after with
      | [] => if spelling = .mixed && named.isEmpty then some [] else none
      | ',' :: _ => none
      | _ => steps? spelling fuel people after
    | sign :: rest =>
      if !(['+', '-', '='].contains sign) then none
      else
        let digits := rest.takeWhile Arithmetic.isOctalDigit
        if spelling = .strict && people == 0 && !digits.isEmpty then
          let bits := Arithmetic.valueOfDigits 8 digits
          if bits <= allBits then
            (steps? spelling fuel people (rest.drop digits.length)).map
              ({ people := allBits, sign, bits } :: ·)
          else none
        else
          let letters := spelling.letters rest
          let step := letters.foldl Step.add { people, sign }
          (steps? spelling fuel people (rest.drop letters.length)).map (step :: ·)

def stepsOf? (spelling : Spelling) (text : Chars) : Option (List Step) :=
  if text.isEmpty then none else steps? spelling (text.length + 2) 0 (',' :: text)

def change? (text : Chars) : Option (Nat -> Bool -> Nat -> Nat) :=
  if !text.isEmpty && text.all Char.isDigit then
    let mode := Arithmetic.valueOfDigits 8 text
    if text.all Arithmetic.isOctalDigit && mode <= allBits then some fun _ _ _ => mode else none
  else
    (stepsOf? .strict text).map fun steps mask isDirectory mode =>
      steps.foldl (Step.apply mask isDirectory) mode

def triple (mode : Nat) (special : Bool) (letter : Char) : Chars :=
  let executes := mode % 2 == 1
  let last :=
    if special then (if executes then letter else letter.toUpper)
    else if executes then 'x' else '-'
  [if mode / 4 % 2 == 1 then 'r' else '-', if mode / 2 % 2 == 1 then 'w' else '-', last]

def shown (mode : Nat) : Chars :=
  triple (mode / 64) (mode / 2048 % 2 == 1) 's' ++ triple (mode / 8) (mode / 1024 % 2 == 1) 's' ++
    triple mode (mode / 512 % 2 == 1) 't'

def octal (least mode : Nat) : Chars :=
  let digits := Nat.toDigits 8 mode
  List.replicate (least - digits.length) '0' ++ digits

def symbolic (mode : Nat) : Chars :=
  let letters (mode : Nat) : Chars :=
    (if mode / 4 % 2 == 1 then ['r'] else []) ++ (if mode / 2 % 2 == 1 then ['w'] else []) ++
      if mode % 2 == 1 then ['x'] else []
  "u=".toList ++ letters (mode / 64) ++ ",g=".toList ++ letters (mode / 8) ++ ",o=".toList ++
    letters mode

end AnsibleTooling.Shell.Mode
