import AnsibleTooling.Decimal.Shortest
import AnsibleTooling.Json.Basic

set_option autoImplicit false

namespace AnsibleTooling.Json

open Decimal (Binary64)

def byteDigits (code : Nat) : List Char :=
  [Nat.digitChar (code / 16), Nat.digitChar (code % 16)]

def escapeChar (char : Char) : List Char :=
  if char == '"' then ['\\', '"']
  else if char == '\\' then ['\\', '\\']
  else if char == '\n' then ['\\', 'n']
  else if char == '\r' then ['\\', 'r']
  else if char == '\t' then ['\\', 't']
  else if char.toNat == 8 then ['\\', 'b']
  else if char.toNat == 12 then ['\\', 'f']
  else if char.toNat < 32 then ['\\', 'u', '0', '0'] ++ byteDigits char.toNat
  else [char]

def renderText (text : String) : String :=
  String.ofList (['"'] ++ text.toList.flatMap escapeChar ++ ['"'])

/-- The fewest digits that read back, a tie going to the even one: positional while the point lies
at most four places before the first digit and at most sixteen after it, with a power of ten
otherwise. -/
def renderFloat : Binary64 -> String
  | .finite negative magnitude =>
    let digits := Decimal.shortest .toEven magnitude
    let point := digits.point
    Decimal.signed negative <|
      if magnitude.mantissa == 0 then "0.0"
      else if -5 < point && point <= 16 then digits.positional
      else digits.scientific
  | .infinite _ => "null"
  | .nan => "null"

def spaces (count : Nat) : String :=
  String.ofList (List.replicate count ' ')

structure Layout where
  opened : Nat -> String
  between : Nat -> String
  closed : Nat -> String
  colon : String

def Layout.compact : Layout :=
  { opened := fun _ => "", between := fun _ => ",", closed := fun _ => "", colon := ":" }

def Layout.pretty : Layout :=
  { opened := fun depth => "\n" ++ spaces (2 * depth + 2)
    between := fun depth => ",\n" ++ spaces (2 * depth + 2)
    closed := fun depth => "\n" ++ spaces (2 * depth)
    colon := ": " }

mutual

def render (layout : Layout) (depth : Nat) : Value -> String
  | .null => "null"
  | .bool value => if value then "true" else "false"
  | .integer value => toString value
  | .float value => renderFloat value
  | .text value => renderText value
  | .array [] => "[]"
  | .array (item :: items) =>
    "[" ++ layout.opened depth ++ render layout (depth + 1) item ++
      renderItems layout depth items ++ layout.closed depth ++ "]"
  | .object [] => "\x7b\x7d"
  | .object ((key, value) :: members) =>
    "\x7b" ++ layout.opened depth ++ renderText key ++ layout.colon ++
      render layout (depth + 1) value ++ renderMembers layout depth members ++
      layout.closed depth ++ "\x7d"

def renderItems (layout : Layout) (depth : Nat) : List Value -> String
  | [] => ""
  | item :: items =>
    layout.between depth ++ render layout (depth + 1) item ++ renderItems layout depth items

def renderMembers (layout : Layout) (depth : Nat) : List Member -> String
  | [] => ""
  | (key, value) :: members =>
    layout.between depth ++ renderText key ++ layout.colon ++ render layout (depth + 1) value ++
      renderMembers layout depth members

end

def Value.compact (value : Value) : String :=
  render .compact 0 value

def Value.pretty (value : Value) : String :=
  render .pretty 0 value

end AnsibleTooling.Json
