import AnsibleTooling.Shell.Command

set_option autoImplicit false

namespace AnsibleTooling.Shell

abbrev Mark := Char × Bool

def kinds : List (String × (Char -> Bool)) :=
  let isGraphic (char : Char) : Bool := 33 <= char.toNat && char.toNat < 127
  [("alnum", Char.isAlphanum), ("alpha", Char.isAlpha), ("digit", Char.isDigit),
    ("lower", Char.isLower), ("upper", Char.isUpper),
    ("blank", fun char => char == ' ' || char == '\t'),
    ("space", fun char => char == ' ' || (9 <= char.toNat && char.toNat < 14)),
    ("cntrl", fun char => char.toNat < 32 || char.toNat == 127),
    ("graph", isGraphic), ("print", fun char => char == ' ' || isGraphic char),
    ("punct", fun char => isGraphic char && !char.isAlphanum),
    ("xdigit", fun char => char.isDigit || "abcdefABCDEF".toList.contains char)]

def kind? (marks : List Mark) : Option ((Char -> Bool) × Nat) :=
  kinds.findSome? fun (name, holds) =>
    let spelling := ':' :: name.toList ++ ":]".toList
    if (spelling.map fun char => (char, false)).isPrefixOf marks then some (holds, spelling.length)
    else none

/-- Whether a class holds a character, and what follows its closing bracket. A bracket that comes
first in a class does not close it. The number bounds the steps. -/
def scanClass (char : Char) : Nat -> Bool -> Bool -> List Mark -> Option (Bool × List Mark)
  | 0, _, _, _ => none
  | _, _, _, [] => none
  | fuel + 1, found, isFirst, (one, quoted) :: rest =>
    let goOn (isHeld : Bool) (rest : List Mark) := scanClass char fuel (found || isHeld) false rest
    if one == ']' && !quoted && !isFirst then some (found, rest)
    else
      match if one == '[' && !quoted then kind? rest else none, rest with
      | some (holds, count), _ => goOn (holds char) (rest.drop count)
      | none, ('-', false) :: (last, quotedLast) :: after =>
        if last == ']' && !quotedLast then goOn (one == char) rest
        else goOn (one <= char && char <= last) after
      | none, _ => goOn (one == char) rest

def matchClass (char : Char) : List Mark -> Option (Bool × List Mark)
  | ('!', false) :: inside =>
    (scanClass char (inside.length + 1) false true inside).map fun (found, rest) => (!found, rest)
  | inside => scanClass char (inside.length + 1) false true inside

def matchSteps : Nat -> List Mark -> Chars -> Bool
  | 0, _, _ => false
  | _, [], text => text.isEmpty
  | fuel + 1, ('*', false) :: pattern, text =>
    matchSteps fuel pattern text ||
      (match text with
        | [] => false
        | _ :: rest => matchSteps fuel (('*', false) :: pattern) rest)
  | fuel + 1, (one, quoted) :: pattern, char :: rest =>
    if one == '?' && !quoted then matchSteps fuel pattern rest
    else if one == '[' && !quoted then
      match matchClass char pattern with
      | some (found, pattern) => found && matchSteps fuel pattern rest
      | none => char == '[' && matchSteps fuel pattern rest
    else one == char && matchSteps fuel pattern rest
  | _, _ :: _, [] => false

def matchesPattern (pattern : List Mark) (text : Chars) : Bool :=
  matchSteps (pattern.length + text.length + 1) pattern text

end AnsibleTooling.Shell
