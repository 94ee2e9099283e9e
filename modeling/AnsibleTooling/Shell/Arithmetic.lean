import AnsibleTooling.Shell.Word

set_option autoImplicit false

namespace AnsibleTooling.Shell.Arithmetic

inductive Token
  | number (value : Int)
  | name (name : Chars)
  | operator (spelling : String)
  | other
  deriving DecidableEq, Repr

inductive Fault
  | malformed (what : String)
  -- The value of a variable is no number.
  | noNumber (text : Chars)
  deriving DecidableEq, Repr

def wrap (value : Int) : Int :=
  Int.bmod value (Nat.pow 2 64)

def largest : Nat := Nat.pow 2 63 - 1

def isHexDigit (char : Char) : Bool :=
  char.isDigit || ('a' <= char && char <= 'f') || ('A' <= char && char <= 'F')

def isOctalDigit (char : Char) : Bool :=
  '0' <= char && char <= '7'

def digitValue (char : Char) : Nat :=
  if char.isDigit then char.toNat - 48 else char.toLower.toNat - 87

def valueOfDigits (base : Nat) (digits : Chars) : Nat :=
  digits.foldl (fun value digit => value * base + digitValue digit) 0

def numeral (text : Chars) : Nat × Chars :=
  let split (base : Nat) (isDigit : Char -> Bool) (text : Chars) : Nat × Chars :=
    (valueOfDigits base (text.takeWhile isDigit), text.dropWhile isDigit)
  match text with
  | '0' :: sign :: digit :: rest =>
    if (sign == 'x' || sign == 'X') && isHexDigit digit then split 16 isHexDigit (digit :: rest)
    else split 8 isOctalDigit text
  | '0' :: _ => split 8 isOctalDigit text
  | _ => split 10 Char.isDigit text

def isBlank (char : Char) : Bool :=
  char == ' ' || (9 <= char.toNat && char.toNat <= 13)

def integer? (text : Chars) : Option Int :=
  let text := text.dropWhile isBlank
  let (isNegative, digits) :=
    match text with
    | '-' :: digits => (true, digits)
    | '+' :: digits => (false, digits)
    | digits => (false, digits)
  let (value, rest) := numeral digits
  if !(digits.head?.any Char.isDigit) || !(rest.dropWhile isBlank).isEmpty then none
  else if isNegative then some (-((min value (largest + 1) : Nat) : Int))
  else some ((min value largest : Nat) : Int)

def operators : List String := [
  "<<=", ">>=", "<<", ">>", "<=", ">=", "==", "!=", "&&", "||", "*=", "/=", "%=", "+=", "-=", "&=",
  "|=", "\x5e=", "<", ">", "=", "!", "&", "|", "\x5e", "*", "/", "%", "+", "-", "~", "?", ":", "(",
  ")"]

def tokens : Nat -> Chars -> List Token
  | 0, _ => []
  | _, [] => []
  | fuel + 1, char :: rest =>
    let text := char :: rest
    if isBlank char then tokens fuel rest
    else if char.isDigit then
      let (value, rest) := numeral text
      .number (min value largest : Nat) :: tokens fuel rest
    else if isNameStart char then
      .name (text.takeWhile isNameChar) :: tokens fuel (text.dropWhile isNameChar)
    else
      match operators.find? fun spelling => spelling.toList.isPrefixOf text with
      | some spelling => .operator spelling :: tokens fuel (text.drop spelling.length)
      | none => .other :: tokens fuel rest

structure Calculation where
  rest : List Token
  assigned : List (Chars × Int) := []

abbrev Reader := StateT Calculation (Except Fault)

def malformed {A : Type} (what : String) : Reader A :=
  fun _ => .error (.malformed what)

def operator? (spellings : List String) : Reader (Option String) := do
  match (<- get).rest with
  | .operator spelling :: rest =>
    if spellings.contains spelling then
      modify fun calculation => { calculation with rest }
      return some spelling
    else return none
  | _ => return none

def ofBool (value : Bool) : Int :=
  if value then 1 else 0

def bits (value : Int) : Nat :=
  (value % ((Nat.pow 2 64 : Nat) : Int)).toNat

def onBits (combine : Nat -> Nat -> Nat) (left right : Int) : Int :=
  (combine (bits left) (bits right) : Nat)

def shiftLeft (left right : Int) : Int :=
  left * ((Nat.pow 2 (bits right % 64) : Nat) : Int)

def shiftRight (left right : Int) : Int :=
  left.fdiv ((Nat.pow 2 (bits right % 64) : Nat) : Int)

def apply (operator : String) (left right : Int) : Except Fault Int :=
  match operator with
  | "==" => .ok (ofBool (left == right))
  | "!=" => .ok (ofBool (left != right))
  | "<=" => .ok (ofBool (left <= right))
  | ">=" => .ok (ofBool (left >= right))
  | "<" => .ok (ofBool (left < right))
  | ">" => .ok (ofBool (left > right))
  | "|" => .ok (wrap (onBits Nat.lor left right))
  | "\x5e" => .ok (wrap (onBits Nat.xor left right))
  | "&" => .ok (wrap (onBits Nat.land left right))
  | "<<" => .ok (wrap (shiftLeft left right))
  | ">>" => .ok (shiftRight left right)
  | "+" => .ok (wrap (left + right))
  | "-" => .ok (wrap (left - right))
  | "*" => .ok (wrap (left * right))
  | operator =>
    if right == 0 then .error (.malformed "division by zero")
    else if operator == "/" then .ok (wrap (left.tdiv right))
    else .ok (left.tmod right)

def levels : List (List String) := [
  ["|"], ["\x5e"], ["&"], ["==", "!="], ["<=", ">=", "<", ">"], ["<<", ">>"], ["+", "-"],
  ["*", "/", "%"]]

def assignmentOperators : List String :=
  ["=", "*=", "/=", "%=", "+=", "-=", "<<=", ">>=", "&=", "\x5e=", "|="]

variable (held : Chars -> Chars)

def lookUp (name : Chars) : Reader Int := do
  match lookupName name (<- get).assigned with
  | some value => return value
  | none =>
    let text := held name
    if text.isEmpty then return 0
    match integer? text with
    | some value => return value
    | none => fun _ => .error (.noNumber text)
where
  lookupName (name : Chars) (assigned : List (Chars × Int)) : Option Int :=
    (assigned.find? fun entry => entry.1 == name).map Prod.snd

def levelRest (active : Bool) (operators : List String) (operand : Reader Int) :
    Nat -> Int -> Reader Int
  | 0, left => return left
  | fuel + 1, left => do
    match <- operator? operators with
    | none => return left
    | some operator =>
      let right <- operand
      if active then levelRest active operators operand fuel (<- liftM (apply operator left right))
      else levelRest active operators operand fuel right

def levelsFrom (active : Bool) (atom : Reader Int) : List (List String) -> Reader Int
  | [] => atom
  | operators :: stronger => do
    let left <- levelsFrom active atom stronger
    levelRest active operators (levelsFrom active atom stronger) ((<- get).rest.length + 1) left

def primary (active : Bool) (inner : Reader Int) : Nat -> Reader Int
  | 0 => malformed "expecting primary"
  | fuel + 1 => do
    let token := (<- get).rest.head?
    modify fun calculation => { calculation with rest := calculation.rest.drop 1 }
    match token with
    | some (.number value) => return value
    | some (.name name) => if active then lookUp held name else return 0
    | some (.operator "(") =>
      let value <- inner
      match <- operator? [")"] with
      | some _ => return value
      | none => malformed "expecting ')'"
    | some (.operator "+") => primary active inner fuel
    | some (.operator "-") => return wrap (-(<- primary active inner fuel))
    | some (.operator "!") => return ofBool ((<- primary active inner fuel) == 0)
    | some (.operator "~") => return -1 - (<- primary active inner fuel)
    | _ => malformed "expecting primary"

/-- Readers of an expression, by the number of levels it may be nested in; the truth value says
whether its value counts. -/
def conjunction (operand : Bool -> Reader Int) : Nat -> Bool -> Reader Int
  | 0, active => operand active
  | fuel + 1, active => do
    let left <- operand active
    match <- operator? ["&&"] with
    | none => return left
    | some _ =>
      let right <- conjunction operand fuel (active && left != 0)
      return ofBool (left != 0 && right != 0)

def disjunction (operand : Bool -> Reader Int) : Nat -> Bool -> Reader Int
  | 0, active => operand active
  | fuel + 1, active => do
    let left <- operand active
    match <- operator? ["||"] with
    | none => return left
    | some _ =>
      let right <- disjunction operand fuel (active && left == 0)
      return ofBool (left != 0 || right != 0)

def assignTo (name : Chars) (operator : String) (value : Int) : Reader Int := do
  let result <-
    if operator == "=" then pure value
    else
      let before <- lookUp held name
      liftM (apply (String.ofList (operator.toList.dropLast)) before value)
  modify fun calculation => { calculation with assigned := (name, result) :: calculation.assigned }
  return result

def conditional (whole operand : Bool -> Reader Int) : Nat -> Bool -> Reader Int
  | 0, active => operand active
  | fuel + 1, active => do
    let condition <- operand active
    match <- operator? ["?"] with
    | none => return condition
    | some _ =>
      let first <- whole (active && condition != 0)
      match <- operator? [":"] with
      | none => malformed "expecting ':'"
      | some _ =>
        let second <- conditional whole operand fuel (active && condition == 0)
        return if condition != 0 then first else second

def expression : Nat -> Bool -> Reader Int
  | 0, _ => malformed "expecting primary"
  | depth + 1, active => do
    let whole := expression depth
    let count := (<- get).rest.length + 1
    let strong (active : Bool) :=
      levelsFrom active (primary held active (whole active) count) levels
    let operand := disjunction (conjunction strong count) count
    match (<- get).rest with
    | .name name :: .operator spelling :: rest =>
      if assignmentOperators.contains spelling then
        modify fun calculation => { calculation with rest }
        let value <- whole active
        if active then assignTo held name spelling value else return value
      else conditional whole operand count active
    | _ => conditional whole operand count active

def evaluate (text : Chars) : Except Fault (Int × List (Chars × Int)) := do
  let (value, calculation) <-
    (expression held 300 true).run { rest := tokens (text.length + 1) text }
  if calculation.rest.isEmpty then return (value, calculation.assigned)
  else throw (.malformed "expecting EOF")

end AnsibleTooling.Shell.Arithmetic
