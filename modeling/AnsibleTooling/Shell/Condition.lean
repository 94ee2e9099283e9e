import AnsibleTooling.Shell.Arithmetic
import AnsibleTooling.Shell.Job

set_option autoImplicit false

namespace AnsibleTooling.Shell.Condition

structure Surroundings where
  tree : Files.Tree
  directory : Files.Location

inductive Sign
  | unary (operator : String)
  | binary (operator : String)
  | conjunction
  | disjunction
  | negation
  | opening
  | closing
  | operand
  | ending
  deriving DecidableEq, Repr

def unaryOperators : List String := [
  "-r", "-w", "-x", "-e", "-f", "-d", "-c", "-b", "-p", "-u", "-g", "-k", "-s", "-t", "-z", "-n",
  "-h", "-L", "-O", "-G", "-S"]

def binaryOperators : List String := [
  "=", "!=", "<", ">", "-eq", "-ne", "-ge", "-gt", "-le", "-lt", "-nt", "-ot", "-ef"]

def Sign.ofWord? (word : Chars) : Option Sign :=
  match String.ofList word with
  | "!" => some .negation
  | "-a" => some .conjunction
  | "-o" => some .disjunction
  | "(" => some .opening
  | ")" => some .closing
  | spelling =>
    if unaryOperators.contains spelling then some (.unary spelling)
    else if binaryOperators.contains spelling then some (.binary spelling)
    else none

def isBinary (sign : Option Sign) : Bool :=
  match sign with
  | some (.binary _) => true
  | _ => false

def standsAlone : List Chars -> Bool
  | [] => true
  | [_] => false
  | next :: _ => isBinary (Sign.ofWord? next)

def signOf : List Chars -> Sign
  | [] => .ending
  | word :: rest =>
    match Sign.ofWord? word with
    | some (.unary operator) => if standsAlone rest then .operand else .unary operator
    | some .opening => if rest.isEmpty then .operand else .opening
    | some sign => sign
    | none => .operand

abbrev Reader := StateT (List Chars) (Except Chars)

def fault {A : Type} (text : Chars) : Reader A :=
  fun _ => .error text

def skip (count : Nat) : Reader Unit :=
  modify (List.drop count)

def integer (text : Chars) : Reader Int := do
  let trimmed := text.dropWhile Arithmetic.isBlank
  let isSigned := ["-".toList, "+".toList].contains (trimmed.take 1)
  let digits := if isSigned then trimmed.drop 1 else trimmed
  let value := Arithmetic.valueOfDigits 10 (digits.takeWhile Char.isDigit)
  let rest := digits.dropWhile Char.isDigit
  let isNumber := (digits.head?.any Char.isDigit) && (rest.dropWhile Arithmetic.isBlank).isEmpty
  if !isNumber || Arithmetic.largest < value then fault ("Illegal number: ".toList ++ text)
  return if trimmed.head? == some '-' then -(value : Int) else value

variable (surroundings : Surroundings)

def find? (follow : Bool) (operand : Chars) : Option Files.Found :=
  (Files.find surroundings.tree surroundings.directory follow (Job.path operand)).toOption

def fileHas (holds : Files.Node -> Bool) (operand : Chars) : Bool :=
  (find? surroundings true operand).any fun found => holds found.node

def isDevice (node : Files.Node) : Bool :=
  match node.entry with
  | .device _ => true
  | _ => false

def isPipe (node : Files.Node) : Bool :=
  match node.entry with
  | .pipe _ => true
  | _ => false

def holdsSomething (node : Files.Node) : Bool :=
  match node.entry with
  | .file content => !content.isEmpty
  | .command _ => true
  | .directory => true
  | _ => false

def hasBit (bit : Nat) (node : Files.Node) : Bool :=
  node.mode &&& bit != 0

def unary (operator : String) (operand : Chars) : Reader Bool := do
  match operator with
  | "-n" => return !operand.isEmpty
  | "-z" => return operand.isEmpty
  | "-t" =>
    let _ <- integer operand
    return false
  | "-e" => return fileHas surroundings (fun _ => true) operand
  | "-r" => return fileHas surroundings (fun _ => true) operand
  | "-w" => return fileHas surroundings (fun _ => true) operand
  | "-O" => return fileHas surroundings (fun _ => true) operand
  | "-G" => return fileHas surroundings (fun _ => true) operand
  | "-f" => return fileHas surroundings Files.Node.isRegular operand
  | "-d" => return fileHas surroundings Files.Node.isDirectory operand
  | "-c" => return fileHas surroundings isDevice operand
  | "-p" => return fileHas surroundings isPipe operand
  | "-u" => return fileHas surroundings (hasBit 0o4000) operand
  | "-g" => return fileHas surroundings (hasBit 0o2000) operand
  | "-k" => return fileHas surroundings (hasBit 0o1000) operand
  | "-x" =>
    return fileHas surroundings (fun node => node.isExecutable || node.isDirectory) operand
  | "-s" => return fileHas surroundings holdsSomething operand
  | "-L" => return (find? surroundings false operand).any fun found => found.entry.isLink
  | "-h" => return (find? surroundings false operand).any fun found => found.entry.isLink
  | _ => return false

def related (holds : Files.Found -> Files.Found -> Bool) (left right : Chars) : Bool :=
  match find? surroundings true left, find? surroundings true right with
  | some first, some second => holds first second
  | _, _ => false

def isNewer (first second : Files.Found) : Bool :=
  second.node.changed < first.node.changed

def binary (left : Chars) (operator : String) (right : Chars) : Reader Bool := do
  match operator with
  | "=" => return left == right
  | "!=" => return left != right
  | "<" => return left < right
  | ">" => return right < left
  | "-nt" => return related surroundings isNewer left right
  | "-ot" => return related surroundings isNewer right left
  | "-ef" =>
    return related surroundings (fun first second => first.number == second.number) left right
  | operator =>
    let first <- integer left
    let second <- integer right
    match operator with
    | "-eq" => return first == second
    | "-ne" => return first != second
    | "-lt" => return first < second
    | "-le" => return first <= second
    | "-gt" => return second < first
    | _ => return second <= first

def primary (inner : Sign -> Reader Bool) (sign : Sign) : Reader Bool := do
  match sign with
  | .ending => return false
  | .opening =>
    skip 1
    let next := signOf (<- get)
    if next = .closing then return false
    let value <- inner next
    skip 1
    if signOf (<- get) = .closing then return value else fault "closing paren expected".toList
  | .unary operator =>
    skip 1
    match <- get with
    | operand :: _ => unary surroundings operator operand
    | [] => fault (operator.toList ++ ": argument expected".toList)
  | _ =>
    match <- get with
    | [] => return false
    | first :: rest =>
      match signOf rest with
      | .binary operator =>
        skip 2
        match <- get with
        | second :: _ => binary surroundings first operator second
        | [] => fault (operator.toList ++ ": argument expected".toList)
      | _ => return !first.isEmpty

def negated (inner : Sign -> Reader Bool) : Nat -> Sign -> Reader Bool
  | 0, sign => primary surroundings inner sign
  | fuel + 1, sign => do
    if sign = .negation then
      let next := signOf ((<- get).drop 1)
      if next != .ending then skip 1
      return !(<- negated inner fuel next)
    else primary surroundings inner sign

def joinedBy (joint : Sign) (join : Bool -> Bool -> Bool) (operand : Sign -> Reader Bool) :
    Nat -> Sign -> Reader Bool
  | 0, sign => operand sign
  | fuel + 1, sign => do
    let first <- operand sign
    if signOf ((<- get).drop 1) = joint then
      skip 2
      let second <- joinedBy joint join operand fuel (signOf (<- get))
      return join first second
    else return first

def expression : Nat -> Sign -> Reader Bool
  | 0, _ => return false
  | depth + 1, sign => do
    let count := (<- get).length + 1
    let operand := negated surroundings (expression depth) count
    joinedBy .disjunction or (joinedBy .conjunction and operand count) count sign

def whole (isText : Bool) (words : List Chars) : Except Chars Bool := do
  let sign := if isText then .operand else signOf words
  let (value, rest) <- (expression surroundings (words.length + 1) sign).run words
  match rest with
  | word :: _ :: _ =>
    throw ((if word.isEmpty then [] else word ++ ": ".toList) ++ "unexpected operator".toList)
  | _ => return value

/-- The truth of a condition, or the opposite. Three words with an operator in the middle are taken
by it; three or four can be negated, which counts once, or put in parentheses as a whole. -/
def holdsAs (isNegated : Bool) : Nat -> List Chars -> Except Chars Bool
  | 0, _ => .ok isNegated
  | fuel + 1, words =>
    let plain (isText : Bool) := (whole surroundings isText words).map (· != isNegated)
    let middle := (words.drop 1).head?.bind Sign.ofWord?
    if words.isEmpty then .ok isNegated
    else if words.length = 3 && isBinary middle then plain true
    else if words.length = 3 || words.length = 4 then
      if words.head? == some ['('] && words.getLast? == some [')'] then
        holdsAs isNegated fuel (words.drop 1).dropLast
      else if words.head? == some ['!'] then holdsAs true fuel (words.drop 1)
      else plain false
    else plain false

def holds (words : List Chars) : Except Chars Bool :=
  holdsAs surroundings false (words.length + 1) words

end AnsibleTooling.Shell.Condition
