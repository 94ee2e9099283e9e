import AnsibleTooling.CommandLine.Grammar

set_option autoImplicit false

namespace AnsibleTooling.CommandLine

inductive NumberFault
  | empty
  | invalidDigit
  | tooLarge
  deriving DecidableEq, Repr

def NumberFault.display : NumberFault -> String
  | empty => "cannot parse integer from empty string"
  | invalidDigit => "invalid digit found in string"
  | tooLarge => "number too large to fit in target type"

inductive Refusal
  | unknownCommand (word : String)
  | unexpectedArgument (word : String)
  | argumentsMissing
  | commandMissing (group : String)
  | repeated (slot : Slot)
  | valueMissing (slot : Slot)
  | surplusValue (value : String) (slot : Slot)
  | invalidValue (value : String) (slot : Slot) (fault : NumberFault)
  | notText
  deriving DecidableEq, Repr

def Refusal.message : Refusal -> String
  | unknownCommand word => s!"unrecognized subcommand '{word}'"
  | unexpectedArgument word => s!"unexpected argument '{word}' found"
  | argumentsMissing => "the following required arguments were not provided:"
  | commandMissing group => s!"'{group}' requires a subcommand but one was not provided"
  | repeated slot => s!"the argument '{slot.display}' cannot be used multiple times"
  | valueMissing slot => s!"a value is required for '{slot.display}' but none was supplied"
  | surplusValue value slot =>
    s!"unexpected value '{value}' for '{slot.display}' found; no more were expected"
  | invalidValue value slot fault =>
    s!"invalid value '{value}' for '{slot.display}': {fault.display}"
  | notText => "invalid UTF-8 was detected in one or more arguments"

inductive Departure
  | version
  | help
  | nothingGiven
  | refused (refusal : Refusal)
  deriving DecidableEq, Repr

def refuse {A : Type} (refusal : Refusal) : Except Departure A :=
  .error (.refused refusal)

def digits (value : Nat) : List Char -> Except NumberFault Nat
  | [] => .ok value
  | char :: rest =>
    if !char.isDigit then .error .invalidDigit
    else
      let next := value * 10 + (char.toNat - 48)
      if next < Nat.pow 2 64 then digits next rest else .error .tooLarge

def number (text : String) : Except NumberFault Nat :=
  match text.toList with
  | [] => .error .empty
  | ['+'] => .error .invalidDigit
  | '+' :: rest => digits 0 rest
  | chars => digits 0 chars

structure Given where
  slot : Slot
  value : Bytes
  deriving DecidableEq, Repr

structure Scan where
  given : List Given := []
  -- The slot given last, with its value if that has been read.
  pending : Option (Slot × Option Bytes) := none
  -- Whether the next word is the value of the pending option, unless it looks like an option.
  awaiting : Bool := false
  position : Nat := 0
  -- Whether all further words are arguments.
  trailing : Bool := false
  deriving Repr

def checkText (value : Bytes) : Except Departure String :=
  match Text.decode? value with
  | some text => .ok text
  | none => refuse .notText

def checkPath (slot : Slot) (value : Bytes) : Except Departure Unit :=
  if value.isEmpty then refuse (.valueMissing slot) else .ok ()

def checkNumber (slot : Slot) (value : Bytes) : Except Departure Unit := do
  let text <- checkText value
  match number text with
  | .ok _ => return
  | .error fault => refuse (.invalidValue text slot fault)

def checkValue (slot : Slot) (value : Bytes) : Except Departure Unit :=
  match slot with
  | .switch .config => checkPath slot value
  | .switch .storage => checkPath slot value
  | .switch .timeout => checkNumber slot value
  | .switch _ => .ok ()
  | .positional .document => checkPath slot value
  | .positional _ => (checkText value).map fun _ => ()

namespace Scan

def add (slot : Slot) (value : Bytes) (scan : Scan) : Scan :=
  { scan with given := scan.given ++ [{ slot, value }] }

def accept (slot : Slot) (value : Bytes) (scan : Scan) : Except Departure Scan := do
  if scan.given.any fun given => given.slot = slot then refuse (.repeated slot)
  checkValue slot value
  return scan.add slot value

def settle (scan : Scan) : Except Departure Scan :=
  match scan.pending with
  | none => .ok scan
  | some (slot, none) => refuse (.valueMissing slot)
  | some (slot, some value) => accept slot value { scan with pending := none }

def raise (switch : Switch) (scan : Scan) : Except Departure Scan := do
  let scan <- scan.settle
  match switch with
  | .version => throw .version
  | .help => throw .help
  | .verbose => return { scan.add (.switch switch) [] with awaiting := false }
  | _ => return { <- scan.accept (.switch switch) [] with awaiting := false }

def option (switch : Switch) (attached : Option Bytes) (scan : Scan) : Except Departure Scan := do
  let scan <- scan.settle
  match attached with
  | some value => return { <- scan.accept (.switch switch) value with awaiting := false }
  | none => return { scan with pending := some (.switch switch, none), awaiting := true }

end Scan

def dash : UInt8 := 45

def equalsSign : UInt8 := 61

def longWord (level : Level) (word : Bytes) (scan : Scan) : Except Departure Scan :=
  let name := word.takeWhile (· != equalsSign)
  let rest := word.dropWhile (· != equalsSign)
  let attached := if rest.isEmpty then none else some (rest.drop 1)
  match level.named? name with
  | none => refuse (.unexpectedArgument ("--" ++ Text.decode name))
  | some switch =>
    if switch.takesValue then scan.option switch attached
    else
      match attached with
      | some value => refuse (.surplusValue (Text.decode value) (.switch switch))
      | none => scan.raise switch

def leadingText (word : Bytes) : String :=
  match Text.scan word with
  | some char :: _ => String.ofList [char]
  | _ => Text.decode word

def letters (level : Level) : Bytes -> Scan -> Except Departure Scan
  | [], scan => .ok scan
  | letter :: rest, scan =>
    match level.lettered? letter with
    | none => refuse (.unexpectedArgument ("-" ++ leadingText (letter :: rest)))
    | some switch =>
      if switch.takesValue then
        let value := if rest.head? == some equalsSign then rest.drop 1 else rest
        scan.option switch (if rest.isEmpty then none else some value)
      else do
        letters level rest (<- scan.raise switch)

def isHelpCommand (level : Level) (word : Bytes) : Bool :=
  level.isGroup && word == Text.encode "help"

def misplaced (level : Level) (trailing : Bool) (word : Bytes) : Refusal :=
  let isCommand := isHelpCommand level word || (level.child? word).isSome
  if level.isGroup && !(trailing && isCommand) then .unknownCommand (Text.decode word)
  else .unexpectedArgument (Text.decode word)

def argument (level : Level) (word : Bytes) (scan : Scan) : Except Departure Scan := do
  match level.positionals[scan.position]? with
  | none => refuse (misplaced level scan.trailing word)
  | some positional =>
    let scan <- scan.settle
    return { scan with
      pending := some (.positional positional, some word)
      position := scan.position + 1
      awaiting := false }

inductive Step
  | stay (scan : Scan)
  | descend (child : Level)
  | explain

def plainWord (level : Level) (word : Bytes) (scan : Scan) : Except Departure Scan :=
  match word with
  | [45, 45] => .ok { scan with trailing := true }
  | 45 :: 45 :: rest => longWord level rest scan
  | 45 :: letter :: rest => letters level (letter :: rest) scan
  | word =>
    match scan.awaiting, scan.pending with
    | true, some (slot, _) =>
      .ok { scan with pending := some (slot, some word), awaiting := false }
    | _, _ => argument level word scan

def takeWord (level : Level) (word : Bytes) (scan : Scan) : Except Departure Step :=
  if scan.trailing then (argument level word scan).map .stay
  else if scan.awaiting then (plainWord level word scan).map .stay
  else if isHelpCommand level word then .ok .explain
  else
    match level.child? word with
    | some child => .ok (.descend child)
    | none => (plainWord level word scan).map .stay

def finish (level : Level) (descended : Bool) (scan : Scan) : Except Departure (List Given) := do
  let scan <- scan.settle
  if level.isGroup && !descended then
    if scan.given.isEmpty then throw .nothingGiven
    refuse (.commandMissing level.words)
  if scan.position < level.positionals.length then refuse .argumentsMissing
  return scan.given

def explain (level : Level) : List Bytes -> Departure
  | [] => .help
  | word :: rest =>
    let unknown (word : Bytes) : Departure := .refused (.unknownCommand (Text.decode word))
    if isHelpCommand level word then rest.head?.elim .help unknown
    else
      match level.child? word with
      | some child => explain child rest
      | none => unknown word

def readFrom (level : Level) (scan : Scan) :
    List Bytes -> Except Departure (List (Level × List Given))
  | [] => do
    return [(level, <- finish level false scan)]
  | word :: rest => do
    match <- takeWord level word scan with
    | .stay scan => readFrom level scan rest
    | .explain => throw (explain level rest)
    | .descend child =>
      let below <- readFrom child {} rest
      return (level, <- finish level true scan) :: below

def read (words : List Bytes) : Except Departure (List (Level × List Given)) :=
  readFrom .root {} words

end AnsibleTooling.CommandLine
